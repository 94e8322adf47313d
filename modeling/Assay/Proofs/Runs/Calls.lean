import Assay.Run

/-!
# The calls of a check

Carrying out a check is a chain of calls, and what the check finds is put together from what the
callbacks give. So a check is known from two lists: the calls that it makes if none of them fails
(`Check.calls`), and what it then finds (`Check.findings`). `Traced.follow` makes the calls of a list
until one fails. The main statement is that this is all a check does (`Check.carryOut_eq_follow`);
what fails and with which fault is then a matter of single calls.

The providers of a fix run are called for diagnostics that are known only once the analyzers have
returned. The list of calls is written with what the analyzers give in any case; where one of them
fails, its further calls are not reached.
-/

namespace Assay

/-! ## Laws of computations -/

instance : LawfulMonad Outcome := LawfulMonad.mk' Outcome
  (by rintro α (a | f | _) <;> rfl)
  (by intros; rfl)
  (by rintro α β γ (a | f | _) _ _ <;> rfl)

theorem Outcome.done_bind {α β : Type} (a : α) (next : α → Outcome β) :
    ((.done a : Outcome α) >>= next) = next a := rfl

theorem Outcome.raised_bind {α β : Type} (f : Fault) (next : α → Outcome β) :
    ((.raised f : Outcome α) >>= next) = .raised f := rfl

theorem Outcome.stalled_bind {α β : Type} (next : α → Outcome β) :
    ((.stalled : Outcome α) >>= next) = .stalled := rfl

namespace Traced

variable {α β : Type}

theorem done_bind (calls : List Call) (a : α) (next : α → Traced β) :
    ((⟨calls, .done a⟩ : Traced α) >>= next) = ⟨calls ++ (next a).calls, (next a).outcome⟩ := rfl

theorem raised_bind (calls : List Call) (f : Fault) (next : α → Traced β) :
    ((⟨calls, .raised f⟩ : Traced α) >>= next) = ⟨calls, .raised f⟩ := rfl

theorem stalled_bind (calls : List Call) (next : α → Traced β) :
    ((⟨calls, .stalled⟩ : Traced α) >>= next) = ⟨calls, .stalled⟩ := rfl

instance : LawfulMonad Traced := LawfulMonad.mk' Traced
  (by
    rintro α ⟨calls, a | f | _⟩
    · exact congrArg (Traced.mk · _) (List.append_nil calls)
    · rfl
    · rfl)
  (by intros; rfl)
  (by
    rintro α β γ ⟨calls, a | f | _⟩ g h
    · rw [done_bind]
      rcases hg : g a with ⟨more, b | f | _⟩
      · simp only [done_bind, hg, List.append_assoc]
      · simp only [done_bind, raised_bind, hg]
      · simp only [done_bind, stalled_bind, hg]
    · rfl
    · rfl)

end Traced

/-! ## Single calls -/

namespace Call

def component : Call → String
  | .analysis a _ => a.name
  | .fix p _ => p.name
  | .refactoring p _ => p.name
  | .completion p _ => p.name

def mode : Call → Mode
  | .analysis a _ => a.mode
  | .fix p _ => p.mode
  | .refactoring p _ => p.mode
  | .completion p _ => p.mode

/-- How the callback ends. -/
def ending : Call → Ending
  | .analysis a context => (a.callback context).ending
  | .fix p context => (p.callback context).ending
  | .refactoring p context => (p.callback context).ending
  | .completion p context => (p.callback context).ending

/-- The first id that an analyzer reports and does not declare. -/
inductive ReportsUndeclared : Call → String → Prop
  | intro {a : Analyzer} {context : AnalysisContext} {before after : List Diagnostic}
      {d : Diagnostic} (given : (a.callback context).given = before ++ d :: after)
      (declared : ∀ b ∈ before, a.declares b.id = true) (undeclared : a.declares d.id = false) :
      ReportsUndeclared (.analysis a context) d.id

/-- The callback returns, and what it has reported is declared. -/
def Succeeds (c : Call) : Prop := c.ending = .returned ∧ ∀ id, ¬ c.ReportsUndeclared id

/-- What comes of a call for the run that makes it. -/
def answer : Call → Outcome Unit
  | .analysis a context => do Compilation.checkDeclared a (← a.invoke context)
  | .fix p context => do let _ ← p.invoke context; return ()
  | .refactoring p context => do let _ ← p.invoke context; return ()
  | .completion p context => do let _ ← p.invoke context; return ()

end Call

/-! ## Following calls -/

namespace Traced

variable {α β : Type}

/-- Makes the calls one after the other until one fails, and comes to a value if none does. -/
def follow (calls : List Call) (a : α) : Traced α :=
  match calls with
  | [] => pure a
  | c :: rest => do
    (⟨[c], c.answer⟩ : Traced Unit)
    follow rest a

/-- Following some calls and then more of them is following them all. -/
theorem follow_bind {calls more : List Call} {a : α} {b : β} {next : α → Traced β}
    (h : next a = follow more b) : (follow calls a >>= next) = follow (calls ++ more) b := by
  induction calls with
  | nil => rw [follow, pure_bind, h, List.nil_append]
  | cons c rest ih => rw [follow, bind_assoc, ih, List.cons_append, follow]

theorem follow_map (calls : List Call) (a : α) (put : α → β) :
    (follow calls a >>= fun a => pure (put a)) = follow calls (put a) := by
  calc (follow calls a >>= fun a => pure (put a))
      = follow (calls ++ []) (put a) := follow_bind rfl
    _ = follow calls (put a) := by rw [List.append_nil]

end Traced

/-! ## Calling components -/

/-- What comes of a call that returns is what the callback has given. -/
theorem Component.eq_given_of_invoke {κ α : Type} {c : Component κ α} {context : κ}
    {items : List α} (h : c.invoke context = .done items) :
    items = (c.callback context).given := by
  simp only [Component.invoke] at h
  split at h
  · exact (Outcome.done.inj h).symm
  · cases h
  · cases h

/-- Calling a component is following the call, whose answer is all that it may fail with. -/
theorem Traced.follow_invoke {κ α : Type} {c : Component κ α} {context : κ} {call : Call}
    (h : call.answer = (do let _ ← c.invoke context; return ())) :
    (⟨[call], c.invoke context⟩ : Traced (List α)) = .follow [call] (c.callback context).given := by
  rw [follow, follow, h]
  cases hi : c.invoke context with
  | done items =>
    rw [Component.eq_given_of_invoke hi]
    rfl
  | raised f => rfl
  | stalled => rfl

namespace Compilation

variable (c : Compilation)

theorem runAnalyzer_eq_follow (options : Options) (a : Analyzer) :
    c.runAnalyzer options a = .follow [.analysis a ⟨c.document, c.tokens, options⟩]
      (a.callback ⟨c.document, c.tokens, options⟩).given := by
  rw [runAnalyzer, Analyzer.call, Traced.follow, Traced.follow, Call.answer]
  cases hi : a.invoke ⟨c.document, c.tokens, options⟩ with
  | done items =>
    -- undeclared ids are complained about as part of the call that reports them
    rw [Component.eq_given_of_invoke hi, Outcome.done_bind, Traced.done_bind, Traced.lift]
    cases checkDeclared a (a.callback ⟨c.document, c.tokens, options⟩).given <;> rfl
  | raised f => rfl
  | stalled => rfl

/-- **Analyzers are called in their order, and what they report is put together in that order.** -/
theorem runEach_eq_follow (options : Options) (analyzers : List Analyzer) :
    c.runEach options analyzers
      = .follow (analyzers.map fun a => .analysis a ⟨c.document, c.tokens, options⟩)
          (analyzers.flatMap fun a => (a.callback ⟨c.document, c.tokens, options⟩).given) := by
  induction analyzers with
  | nil => rfl
  | cons a rest ih =>
    rw [runEach, runAnalyzer_eq_follow, ih, List.map_cons, List.flatMap_cons]
    exact Traced.follow_bind (Traced.follow_map _ _ _)

/-- What is reported in the end, if no analyzer fails. -/
def reported (analyzers : List Analyzer) (options : Options) : List Diagnostic :=
  ((analyzers.flatMap fun a =>
      (a.callback ⟨c.document, c.tokens, c.mergedOptions options⟩).given)
    ++ c.extraDiagnostics).filter fun d => analyzers.any fun a => a.declares d.id

def analyses (analyzers : List Analyzer) (options : Options) : List Call :=
  analyzers.map fun a => .analysis a ⟨c.document, c.tokens, c.mergedOptions options⟩

theorem analyze_eq_follow (analyzers : List Analyzer) (options : Options) :
    c.analyze analyzers options
      = .follow (c.analyses analyzers options) (c.reported analyzers options) := by
  rw [analyze, runEach_eq_follow]
  exact Traced.follow_map _ _ _

/-- The calls that ask a provider about diagnostics. -/
def fixCalls (p : FixProvider) (ds : List Diagnostic) : List Call :=
  ds.map fun d => .fix p ⟨c.document, c.tokens, d⟩

/-- The actions that a provider offers for diagnostics. -/
def fixesGiven (p : FixProvider) (ds : List Diagnostic) : List Action :=
  ds.flatMap fun d => (p.callback ⟨c.document, c.tokens, d⟩).given

theorem fixesForAll_eq_follow (p : FixProvider) (ds : List Diagnostic)
    (h : ∀ d ∈ ds, d.id ∈ p.fixable) :
    c.fixesForAll p ds = .follow (c.fixCalls p ds) (c.fixesGiven p ds) := by
  induction ds with
  | nil => rfl
  | cons d rest ih =>
    have hd : c.fixesFor p d = .follow [.fix p ⟨c.document, c.tokens, d⟩]
        (p.callback ⟨c.document, c.tokens, d⟩).given := by
      rw [fixesFor, if_pos (h d List.mem_cons_self), FixProvider.call]
      exact Traced.follow_invoke rfl
    rw [fixesForAll, hd, ih fun d hd => h d (List.mem_cons_of_mem _ hd)]
    exact Traced.follow_bind (Traced.follow_map _ _ _)

/-- A provider is not called for diagnostics that it cannot fix. -/
theorem fixesForAll_of_not_fixable (p : FixProvider) (ds : List Diagnostic)
    (h : ∀ d ∈ ds, d.id ∉ p.fixable) : c.fixesForAll p ds = pure [] := by
  induction ds with
  | nil => rfl
  | cons d rest ih =>
    rw [fixesForAll, fixesFor, if_neg (h d List.mem_cons_self),
      ih fun d hd => h d (List.mem_cons_of_mem _ hd)]
    rfl

end Compilation

/-! ## Checks -/

namespace Check

/-- The calls that a check makes on a compilation if none of them fails: the analyzers in their
order, and then the provider. A fix run asks it about one diagnostic after the other, as they were
reported, if it can fix their id. -/
def calls (check : Check) (c : Compilation) (options : Options) : List Call :=
  match check with
  | .diagnostics analyzers => c.analyses analyzers options
  | .fixes p analyzers id locator =>
    let targets := (c.reported analyzers options).filter (isTarget id locator c.document.body)
    c.analyses analyzers options ++ if id ∈ p.fixable then c.fixCalls p targets else []
  | .refactorings p span => [.refactoring p ⟨c.document, c.tokens, span⟩]
  | .completions p position => [.completion p ⟨c.document, c.tokens, position⟩]

/-- What a check finds on a compilation if no call fails. -/
def findings (check : Check) (c : Compilation) (options : Options) : Findings :=
  match check with
  | .diagnostics analyzers => ⟨c.document.body, c.reported analyzers options, [], [], []⟩
  | .fixes p analyzers id locator =>
    let reported := c.reported analyzers options
    let targets := reported.filter (isTarget id locator c.document.body)
    ⟨c.document.body, reported, targets, if id ∈ p.fixable then c.fixesGiven p targets else [], []⟩
  | .refactorings p span =>
    ⟨c.document.body, [], [], (p.callback ⟨c.document, c.tokens, span⟩).given, []⟩
  | .completions p position =>
    ⟨c.document.body, [], [], [], (p.callback ⟨c.document, c.tokens, position⟩).given⟩

/-- All targets of a fix run have the id that is asked for. -/
theorem id_of_isTarget {id : String} {locator : Option Locator} {t : Text} {d : Diagnostic}
    (h : isTarget id locator t d = true) : d.id = id := by
  rw [isTarget, Bool.and_eq_true, decide_eq_true_eq] at h
  exact h.1

/-- **Carrying out a check is making its calls.** It stops at the first that fails, and comes to its
findings if none does. -/
theorem carryOut_eq_follow (check : Check) (c : Compilation) (options : Options) :
    check.carryOut c options = .follow (check.calls c options) (check.findings c options) := by
  cases check with
  | diagnostics analyzers =>
    rw [carryOut, Compilation.analyze_eq_follow]
    exact Traced.follow_map _ _ _
  | fixes p analyzers id locator =>
    have htargets : ∀ d ∈ (c.reported analyzers options).filter
        (isTarget id locator c.document.body), d.id = id :=
      fun d hd => id_of_isTarget (List.mem_filter.mp hd).2
    rw [carryOut, Compilation.analyze_eq_follow, calls, findings]
    -- the analyzers' calls come first; whether more follow is up to the id alone, which all targets
    -- have in common
    refine Traced.follow_bind ?_
    simp only []
    by_cases hid : id ∈ p.fixable
    · rw [Compilation.fixesForAll_eq_follow c p _ fun d hd => by rw [htargets d hd]; exact hid,
        if_pos hid, if_pos hid]
      exact Traced.follow_map _ _ _
    · rw [Compilation.fixesForAll_of_not_fixable c p _ fun d hd => by rw [htargets d hd]; exact hid,
        if_neg hid, if_neg hid]
      rfl
  | refactorings p span =>
    rw [carryOut, Compilation.refactoringsFor, RefactoringProvider.call, Traced.follow_invoke rfl]
    exact Traced.follow_map _ _ _
  | completions p position =>
    rw [carryOut, Compilation.completionsAt, CompletionProvider.call, Traced.follow_invoke rfl]
    exact Traced.follow_map _ _ _

end Check

end Assay
