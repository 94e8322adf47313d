import Assay.Proofs.Runs.Faults
import Assay.Script
import Mathlib.Data.List.Forall2

/-!
# Ways of making a callback

Whether a callback is a plain function, a coroutine, or a plain function that hands out a coroutine
should make no difference to a run. It makes none as long as no plain function ends with a fault that
gets lost where it ends a thread (`run_independent_of_modes`). If one does, the run waits for its
limit, or for ever, although the callback has long finished (`run_depends_on_modes`).
-/

namespace Assay

/-! ## The same components in other modes -/

/-- The component with its callback made in another way. -/
def Component.inMode {κ α : Type} (c : Component κ α) (mode : Mode) : Component κ α :=
  { c with mode := mode }

def Analyzer.inMode (a : Analyzer) (mode : Mode) : Analyzer := { a with mode := mode }

def FixProvider.inMode (p : FixProvider) (mode : Mode) : FixProvider := { p with mode := mode }

/-- Two calls that differ at most in how the callback is made. -/
inductive Call.SameButMode : Call → Call → Prop
  | analysis (a : Analyzer) (context : AnalysisContext) (mode : Mode) :
      SameButMode (.analysis a context) (.analysis (a.inMode mode) context)
  | fix (p : FixProvider) (context : FixContext) (mode : Mode) :
      SameButMode (.fix p context) (.fix (p.inMode mode) context)
  | refactoring (p : RefactoringProvider) (context : RefactoringContext) (mode : Mode) :
      SameButMode (.refactoring p context) (.refactoring (p.inMode mode) context)
  | completion (p : CompletionProvider) (context : CompletionContext) (mode : Mode) :
      SameButMode (.completion p context) (.completion (p.inMode mode) context)

abbrev Analyzer.SameButModes : List Analyzer → List Analyzer → Prop :=
  List.Forall₂ fun a b => ∃ mode, b = a.inMode mode

/-- Two checks that differ at most in how callbacks are made. -/
inductive Check.SameButModes : Check → Check → Prop
  | diagnostics {as bs : List Analyzer} (h : Analyzer.SameButModes as bs) :
      SameButModes (.diagnostics as) (.diagnostics bs)
  | fixes (p : FixProvider) (mode : Mode) {as bs : List Analyzer}
      (h : Analyzer.SameButModes as bs) (id : String) (l : Option Locator) :
      SameButModes (.fixes p as id l) (.fixes (p.inMode mode) bs id l)
  | refactorings (p : RefactoringProvider) (mode : Mode) (s : Span) :
      SameButModes (.refactorings p s) (.refactorings (p.inMode mode) s)
  | completions (p : CompletionProvider) (mode : Mode) (position : Int) :
      SameButModes (.completions p position) (.completions (p.inMode mode) position)

namespace Analyzer

variable {as bs : List Analyzer}

theorem flatMap_given_of_sameButModes (h : SameButModes as bs) (context : AnalysisContext) :
    (bs.flatMap fun b => (b.callback context).given)
      = as.flatMap fun a => (a.callback context).given := by
  induction h with
  | nil => rfl
  | cons hab _ ih =>
    obtain ⟨mode, rfl⟩ := hab
    rw [List.flatMap_cons, List.flatMap_cons, ih]
    rfl

theorem any_declares_of_sameButModes (h : SameButModes as bs) (id : String) :
    (bs.any fun b => b.declares id) = as.any fun a => a.declares id := by
  induction h with
  | nil => rfl
  | cons hab _ ih =>
    obtain ⟨mode, rfl⟩ := hab
    rw [List.any_cons, List.any_cons, ih]
    rfl

end Analyzer

namespace Compilation

variable {c : Compilation} {options : Options} {as bs : List Analyzer}

theorem analyses_sameButMode (h : Analyzer.SameButModes as bs) :
    List.Forall₂ Call.SameButMode (c.analyses as options) (c.analyses bs options) := by
  rw [analyses, analyses, List.forall₂_map_left_iff, List.forall₂_map_right_iff]
  refine h.imp fun a b hab => ?_
  obtain ⟨mode, rfl⟩ := hab
  exact .analysis a _ mode

theorem reported_eq_of_sameButModes (h : Analyzer.SameButModes as bs) :
    c.reported bs options = c.reported as options := by
  rw [reported, reported, Analyzer.flatMap_given_of_sameButModes h]
  simp only [Analyzer.any_declares_of_sameButModes h]

end Compilation

namespace Check

variable {check other : Check} {c : Compilation} {options : Options}

theorem kind_eq_of_sameButModes (h : check.SameButModes other) : other.kind = check.kind := by
  cases h <;> rfl

theorem findings_eq_of_sameButModes (h : check.SameButModes other) :
    other.findings c options = check.findings c options := by
  cases h with
  | diagnostics h => rw [findings, findings, Compilation.reported_eq_of_sameButModes h]
  | fixes p mode h id l =>
    rw [findings, findings, Compilation.reported_eq_of_sameButModes h]
    rfl
  | refactorings p mode s => rfl
  | completions p mode position => rfl

theorem calls_sameButMode (h : check.SameButModes other) :
    List.Forall₂ Call.SameButMode (check.calls c options) (other.calls c options) := by
  cases h with
  | diagnostics h => exact Compilation.analyses_sameButMode h
  | fixes p mode h id l =>
    rw [calls, calls, Compilation.reported_eq_of_sameButModes h]
    refine List.rel_append (Compilation.analyses_sameButMode h) ?_
    rw [show (p.inMode mode).fixable = p.fixable from rfl]
    split_ifs
    · rw [Compilation.fixCalls, Compilation.fixCalls, List.forall₂_map_left_iff,
        List.forall₂_map_right_iff]
      exact List.forall₂_same.mpr fun d _ => .fix p _ mode
    · exact .nil
  | refactorings p mode s => exact .cons (.refactoring p _ mode) .nil
  | completions p mode position => exact .cons (.completion p _ mode) .nil

end Check

/-! ## The same answers -/

namespace Call

variable {c other : Call}

theorem component_eq_of_sameButMode (h : c.SameButMode other) : other.component = c.component := by
  cases h <;> rfl

theorem ending_eq_of_sameButMode (h : c.SameButMode other) : other.ending = c.ending := by
  cases h <;> rfl

theorem review_eq_of_sameButMode (h : c.SameButMode other) : other.review = c.review := by
  cases h <;> rfl

/-- A fault that is not lost arrives as if it had left a coroutine. -/
theorem arrival_of_not_losesFault (h : ¬ c.LosesFault) :
    c.mode.arrival c.ending = Mode.coroutine.arrival c.ending := by
  cases hending : c.ending with
  | returned => rfl
  | endless => rfl
  | raised f =>
    by_cases hplain : c.mode = .plain
    · have hkeeps := endsThread_of_not_losesFault h hplain hending
      simp only [Mode.arrival, hplain, hkeeps, Fault.leaveCoroutine_of_endsThread hkeeps,
        Bool.false_eq_true, if_true, if_false, reduceCtorEq]
    · simp only [Mode.arrival, if_neg hplain, reduceCtorEq, if_false]

theorem answer_eq_of_sameButMode (h : c.SameButMode other) (hc : ¬ c.LosesFault)
    (hother : ¬ other.LosesFault) : other.answer = c.answer := by
  rw [answer_eq, answer_eq, arrival_of_not_losesFault hc, arrival_of_not_losesFault hother,
    component_eq_of_sameButMode h, ending_eq_of_sameButMode h, review_eq_of_sameButMode h]

end Call

theorem Traced.mem_calls_follow {α : Type} {a : α} (c : Call) (rest : List Call) :
    c ∈ (follow (c :: rest) a).calls := by
  rw [follow]
  cases c.answer <;> exact List.mem_cons_self

/-- If no fault is lost, following calls comes to the same in all modes. -/
theorem Traced.outcome_follow_of_sameButMode {α : Type} {a : α} {calls others : List Call}
    (h : List.Forall₂ Call.SameButMode calls others)
    (hcalls : ∀ c ∈ (follow calls a).calls, ¬ c.LosesFault)
    (hothers : ∀ c ∈ (follow others a).calls, ¬ c.LosesFault) :
    (follow others a).outcome = (follow calls a).outcome := by
  induction h with
  | nil => rfl
  | @cons c other calls others hc _ ih =>
    -- the first call is made in any case, and so loses no fault on either side
    have hanswer : other.answer = c.answer :=
      Call.answer_eq_of_sameButMode hc (hcalls c (mem_calls_follow c calls))
        (hothers other (mem_calls_follow other others))
    by_cases hsucceeds : c.Succeeds
    · have hother : other.Succeeds := by
        rwa [← Call.answer_eq_done_iff, hanswer, Call.answer_eq_done_iff]
      rw [follow_cons_of_succeeds hsucceeds] at hcalls
      rw [follow_cons_of_succeeds hother] at hothers
      rw [follow_cons_of_succeeds hsucceeds, follow_cons_of_succeeds hother]
      exact ih (fun b hb => hcalls b (List.mem_cons_of_mem c hb))
        fun b hb => hothers b (List.mem_cons_of_mem other hb)
    · rw [follow, follow, hanswer]
      cases h : c.answer with
      | done u => exact absurd (Call.answer_eq_done_iff.mp h) hsucceeds
      | raised f => rfl
      | stalled => rfl

/-! ## Timeouts -/

theorem Fault.eq_timedOut_of_pinOn_leaveCoroutine {f : Fault} {name : String} {l : TimeLimit}
    {kind : RunKind} (h : f.leaveCoroutine.pinOn name = .timedOut l kind) :
    f = .timedOut l kind := by
  rw [pinOn] at h
  split_ifs at h
  rw [leaveCoroutine] at h
  split_ifs at h
  exact h

/-- A call comes to a timeout of the bench only if its callback has raised that very fault. -/
theorem Call.ending_of_answer_timedOut {c : Call} {l : TimeLimit} {kind : RunKind}
    (h : c.answer = .raised (.timedOut l kind)) : c.ending = .raised (.timedOut l kind) := by
  obtain ⟨-, hfaults⟩ := answer_eq_raised_iff.mp h
  generalize hf : Fault.timedOut l kind = f at hfaults
  cases hfaults with
  | raised hending =>
    rw [← hf, hending, Fault.eq_timedOut_of_pinOn_leaveCoroutine hf.symm]
  | undeclared => cases hf

namespace Runner

variable {r : Runner} {next : Nat} {t : Text} {limit : Option TimeLimit} {c : Compilation}
  {check other : Check}

/-- The runner with a limit that never passes. -/
def patient (r : Runner) : Runner := { r with config := { r.config with timeout := none } }

theorem Starts.patient (h : r.Starts next t limit c) : r.patient.Starts next t none c :=
  ⟨h.projectNamed, h.documentNamed, h.compiled, nofun, h.accepted⟩

theorem refusal_patient (h : ∀ l, limit.or r.config.timeout = some l → l.isUsable = true)
    (kind : RunKind) (t : Text) : r.patient.refusal kind t none = r.refusal kind t limit := by
  simp only [refusal, TimeLimit.bind_fault?_eq_none_iff.mpr h]
  rfl

theorem refusal_ne_timedOut (h : ∀ l, limit.or r.config.timeout = some l → l.isUsable = true)
    {kind kind' : RunKind} {l : TimeLimit} : r.refusal kind t limit ≠ some (.timedOut l kind') := by
  simp only [refusal, TimeLimit.bind_fault?_eq_none_iff.mpr h]
  intro hrefusal
  split_ifs at hrefusal <;> cases hrefusal

theorem outcome_eq_of_sameButModes (h : r.Starts next t limit c)
    (hmodes : check.SameButModes other)
    (hcheck : ∀ call ∈ (r.run next check t limit).calls, ¬ call.LosesFault)
    (hother : ∀ call ∈ (r.run next other t limit).calls, ¬ call.LosesFault) :
    (r.run next other t limit).outcome = (r.run next check t limit).outcome := by
  obtain ⟨hcalls, houtcome⟩ := run_of_starts h check
  obtain ⟨hcalls', houtcome'⟩ := run_of_starts h other
  have hfindings : other.findings c r.config.compilerOptions
      = check.findings c r.config.compilerOptions := Check.findings_eq_of_sameButModes hmodes
  rw [followed, hfindings] at hcalls' houtcome'
  rw [followed] at hcalls houtcome
  rw [hcalls] at hcheck
  rw [hcalls'] at hother
  rw [houtcome, houtcome', Check.kind_eq_of_sameButModes hmodes,
    Traced.outcome_follow_of_sameButMode (Check.calls_sameButMode hmodes) hcheck hother]

/-- If all calls arrive, a run that gets to its check does not wait for its limit. -/
theorem outcome_of_arrives (h : r.Starts next t limit c)
    (harrives : ∀ call ∈ (r.run next check t limit).calls, call.Arrives) :
    (r.run next check t limit).outcome = (r.patient.run next check t none).outcome ∧
      (r.run next check t limit).outcome ≠ .stalled ∧
      ∀ l kind, (r.run next check t limit).outcome = .raised (.timedOut l kind) →
        ∃ call ∈ (r.run next check t limit).calls, call.ending = .raised (.timedOut l kind) := by
  rcases Traced.succeed_or_exists_first (check.calls c r.config.compilerOptions) with
    hall | ⟨before, call, after, hsplit, hbefore, hcall⟩
  · rw [(run_of_succeeds h hall).2, (run_of_succeeds h.patient hall).2]
    exact ⟨rfl, nofun, nofun⟩
  · obtain ⟨hcalls, -⟩ := run_of_not_succeeds h hsplit hbefore hcall
    rw [hcalls] at harrives ⊢
    have hmem : call ∈ before ++ [call] := List.mem_append_right _ List.mem_cons_self
    cases hanswer : call.answer with
    | done u => exact absurd (Call.answer_eq_done_iff.mp hanswer) hcall
    | stalled => exact absurd (harrives call hmem) (Call.answer_eq_stalled_iff.mp hanswer)
    | raised f =>
      rw [(run_of_raised h hsplit hbefore hanswer).2,
        (run_of_raised h.patient hsplit hbefore hanswer).2]
      refine ⟨rfl, nofun, fun l kind hf => ⟨call, hmem, ?_⟩⟩
      cases hf
      exact Call.ending_of_answer_timedOut hanswer

/-- **It does not matter to a run how callbacks are made**, as long as no call that is made loses a
fault. A run in which all calls arrive comes to what it would come to without a limit: it neither
waits for its limit nor times out, unless a callback itself raises such a timeout. -/
theorem run_independent_of_modes (h : r.engine = .inProcess) (hmodes : check.SameButModes other)
    (next : Nat) (t : Text) (limit : Option TimeLimit) :
    let record := r.run next check t limit
    ((∀ call ∈ record.calls ++ (r.run next other t limit).calls, ¬ call.LosesFault) →
      (r.run next other t limit).outcome = record.outcome) ∧
    ((∀ l, limit.or r.config.timeout = some l → l.isUsable = true) →
      (∀ call ∈ record.calls, call.Arrives) →
      record.outcome = (r.patient.run next check t none).outcome ∧
        record.outcome ≠ .stalled ∧
        ∀ l kind, record.outcome = .raised (.timedOut l kind) →
          ∃ call ∈ record.calls, call.ending = .raised (.timedOut l kind)) := by
  intro record
  cases hrefusal : r.refusal check.kind t limit with
  | none =>
    have hstarts := starts_of_refusal_eq_none h next check.kind hrefusal
    refine ⟨fun hkeeps => ?_, fun _ harrives => outcome_of_arrives hstarts harrives⟩
    rw [List.forall_mem_append] at hkeeps
    exact outcome_eq_of_sameButModes hstarts hmodes hkeeps.1 hkeeps.2
  | some f =>
    -- nothing is called, and the refusal does not depend on a limit that is not over
    have hrecord : record.outcome = .raised f := (run_of_refusal h hrefusal).2
    refine ⟨fun _ => ?_, fun htime _ => ⟨?_, ?_, fun l kind hf => ?_⟩⟩
    · rw [← Check.kind_eq_of_sameButModes hmodes] at hrefusal
      rw [hrecord, (run_of_refusal h hrefusal).2]
    · have hpatient : r.patient.refusal check.kind t none = some f := by
        rw [refusal_patient htime, hrefusal]
      have hengine : r.patient.engine = .inProcess := h
      rw [hrecord, (run_of_refusal hengine hpatient).2]
    · rw [hrecord]
      nofun
    · rw [hrecord] at hf
      cases hf
      exact absurd hrefusal (refusal_ne_timedOut htime)

section SingleCall

variable {call : Call}

theorem run_of_single_raised (h : r.Starts next t limit c) (check : Check)
    (hsingle : check.calls c r.config.compilerOptions = [call]) {f : Fault}
    (hanswer : call.answer = .raised f) :
    (r.run next check t limit).calls = [call] ∧ (r.run next check t limit).outcome = .raised f := by
  rw [← List.nil_append [call]] at hsingle ⊢
  exact run_of_raised h hsingle (List.forall_mem_nil _) hanswer

theorem run_of_single_stalled (h : r.Starts next t limit c) (check : Check)
    (hsingle : check.calls c r.config.compilerOptions = [call]) (hanswer : call.answer = .stalled) :
    (r.run next check t limit).calls = [call] ∧
      (r.run next check t limit).outcome
        = Outcome.stalled.awaited (limit.or r.config.timeout) check.kind := by
  rw [← List.nil_append [call]] at hsingle ⊢
  exact run_of_stalled h hsingle (List.forall_mem_nil _) hanswer

end SingleCall

/-- An ordinary fault reaches the run from a plain function as it does from a coroutine. -/
theorem run_independent_of_modes_ordinary :
    let r : Runner := ⟨.inProcess, .standard⟩
    let fault : Fault := .foreign "RuntimeError" "boom"
    let a (mode : Mode) : Analyzer := Script.analyzer "A" mode [] [.ends (.raised fault)]
    Check.SameButModes (.diagnostics [a .coroutine]) (.diagnostics [a .plain]) ∧
      (r.run 0 (.diagnostics [a .coroutine]) ['x'] none).outcome = .raised (.component "A" fault) ∧
      (r.run 0 (.diagnostics [a .plain]) ['x'] none).outcome
        = (r.run 0 (.diagnostics [a .coroutine]) ['x'] none).outcome := by
  intro r fault a
  have hstarts : r.Starts 0 ['x'] none (r.compilation 0 ['x']) :=
    starts_of_refusal_eq_none rfl 0 .diagnostics (by decide +kernel)
  have hmodes : Check.SameButModes (.diagnostics [a .coroutine]) (.diagnostics [a .plain]) :=
    .diagnostics (.cons ⟨.plain, rfl⟩ .nil)
  have hrun (mode : Mode) := run_of_single_raised hstarts (.diagnostics [a mode]) rfl
    (Call.answer_of_raised rfl rfl)
  refine ⟨hmodes, (hrun .coroutine).2, (run_independent_of_modes rfl hmodes 0 ['x'] none).1 ?_⟩
  rw [(hrun .coroutine).1, (hrun .plain).1]
  rintro call hcall ⟨-, f, hf, hends⟩
  rcases List.mem_append.mp hcall with hmem | hmem
  all_goals
    rw [List.mem_singleton.mp hmem] at hf
    cases hf
    cases hends

/-- A cancellation that ends a plain function is lost: the callback has finished, and the run waits
for its limit all the same, or for ever. From a coroutine the cancellation reaches the run. -/
theorem run_depends_on_modes :
    let r : Runner := ⟨.inProcess, .standard⟩
    let limit : Option TimeLimit := some (.whole 1)
    let a (mode : Mode) : Analyzer := Script.analyzer "A" mode [] [.ends (.raised .cancelled)]
    Check.SameButModes (.diagnostics [a .plain]) (.diagnostics [a .coroutine]) ∧
      (∀ call ∈ (r.run 0 (.diagnostics [a .plain]) ['x'] limit).calls, call.ending ≠ .endless) ∧
      (r.run 0 (.diagnostics [a .plain]) ['x'] limit).outcome
        = .raised (.timedOut (.whole 1) .diagnostics) ∧
      (r.patient.run 0 (.diagnostics [a .plain]) ['x'] none).outcome = .stalled ∧
      (r.run 0 (.diagnostics [a .coroutine]) ['x'] limit).outcome = .raised .cancelled := by
  intro r limit a
  have hstarts : r.Starts 0 ['x'] limit (r.compilation 0 ['x']) :=
    starts_of_refusal_eq_none rfl 0 .diagnostics (by decide +kernel)
  obtain ⟨hcalls, hplain⟩ := run_of_single_stalled hstarts (.diagnostics [a .plain]) rfl rfl
  refine ⟨.diagnostics (.cons ⟨.coroutine, rfl⟩ .nil), ?_, hplain, ?_, ?_⟩
  · rw [hcalls, List.forall_mem_singleton]
    nofun
  · exact (run_of_single_stalled hstarts.patient _ rfl rfl).2
  · exact (run_of_single_raised hstarts _ rfl rfl).2

end Runner

end Assay
