import Assay.Proofs.Fixtures.Selection
import Assay.Proofs.Fixtures.Session
import Assay.Proofs.Markup.Delimiters
import Assay.Proofs.Runs.Faults
import Assay.Script

/-!
# Cases about fixes

A case about a fix goes through stages: the marked text is read, the document is looked at, the
components are called, a diagnostic at the mark is looked for, and an action is picked, applied and
compared. Several of these can be wrong at once. The case passes if none is (`FixFixture.Passes`),
and else it fails as the first one that is (`FixFixture.Fails`).
-/

namespace Assay

/-! ## The only mark -/

namespace Markup

theorem MarkedText.singleSpan_eq_ok_iff {m : MarkedText} {s : MarkedSpan} :
    m.singleSpan = .ok s ↔ m.spans = [s] := by
  unfold singleSpan
  split
  · next s' hs => rw [hs, Except.ok.injEq, List.cons.injEq, and_iff_left rfl]
  · next hs => exact ⟨nofun, fun h => absurd h (hs s)⟩

theorem MarkedText.singleSpan_of_length_ne_one {m : MarkedText} (h : m.spans.length ≠ 1) :
    m.singleSpan = .error (.notOneSpan m.spans.length) := by
  unfold singleSpan
  split
  · next s hs => exact absurd (by rw [hs]; rfl) h
  · rfl

theorem isOwn_of_singleSpan {m : MarkedText} {e : Error} (h : m.singleSpan = .error e) :
    (Fault.markup e).isOwn = true := by
  unfold MarkedText.singleSpan at h
  split at h
  · cases h
  · cases h
    rfl

end Markup

/-- An assertion at the only mark of a text goes on with the clean text and the mark. -/
theorem Bench.bind_parse_single {α : Type} {b : Bench} {marked : Text} {m : Markup.MarkedText}
    {s : Markup.MarkedSpan}
    (hparsed : Markup.parseCodes b.config.openMarker b.config.closeMarker marked = .ok m)
    (hsingle : m.spans = [s]) (next : Markup.MarkedText → Markup.MarkedSpan → Session α) :
    (do let m ← b.parse marked; let s ← Bench.single m; next m s) = next m s := by
  unfold parse single
  rw [hparsed]
  show (Session.lift (.ofExcept .markup m.singleSpan) >>= next m) = next m s
  rw [Markup.MarkedText.singleSpan_eq_ok_iff.mpr hsingle]
  rfl

namespace Locator

/-- There is a diagnostic with an id at a place. -/
def Finds (l : Locator) (t : Text) (id : String) (ds : List Diagnostic) : Prop :=
  ∃ d ∈ ds, d.id = id ∧ l.matchesSpan d.span t = true

/-- A fix run at a place is without targets exactly if nothing is found there. -/
theorem filter_isTarget_eq_nil_iff {l : Locator} {t : Text} {id : String} {ds : List Diagnostic} :
    ds.filter (isTarget id (some l) t) = [] ↔ ¬ l.Finds t id ds := by
  simp [Finds, isTarget]

end Locator

namespace FixFixture

/-! ## Stages -/

/-- What a case with a mark on a span runs. -/
def check (f : FixFixture) (id : String) (s : Span) : Check :=
  .fixes f.provider f.analyzers id (some (.span s))

/-- The calls of a case, if none of them fails. -/
def calls (f : FixFixture) (next : Nat) (t : Text) (id : String) (s : Span) : List Call :=
  (f.check id s).calls (f.runner.compilation next t) f.config.compilerOptions

/-- What a case finds, if no call fails. -/
def found (f : FixFixture) (next : Nat) (t : Text) (id : String) (s : Span) : Findings :=
  (f.check id s).findings (f.runner.compilation next t) f.config.compilerOptions

/-- The document is accepted. -/
def Accepts (f : FixFixture) (t : Text) : Prop :=
  f.config.failOnInputErrors = true → lexicalErrors t = []

/-- A marked text has the clean text and the one marked span of `m`. -/
structure Reads (f : FixFixture) (marked : Text) (m : Markup.MarkedText) (s : Markup.MarkedSpan) :
    Prop where
  parsed : Markup.parseCodes f.config.openMarker f.config.closeMarker marked = .ok m
  single : m.spans = [s]

/-- All components of a case return what they should. -/
structure Completes (f : FixFixture) (next : Nat) (marked : Text) (id : String)
    (m : Markup.MarkedText) (s : Markup.MarkedSpan) : Prop extends f.Reads marked m s where
  accepted : f.Accepts m.text
  succeed : ∀ call ∈ f.calls next m.text id s.span, call.Succeeds

/-- A diagnostic with the id is reported on exactly the span. -/
def HasTarget (found : Findings) (id : String) (s : Span) : Prop :=
  ∃ d ∈ found.diagnostics, d.id = id ∧ d.span = s

section Stages

variable (f : FixFixture) (next : Nat) (marked expected : Text) (id : String)
  (selector : Option Selector)

/-- What it takes for a case to pass. -/
inductive Passes : Prop
  | intro {m : Markup.MarkedText} {s : Markup.MarkedSpan} {a : Action}
      (completes : f.Completes next marked id m s)
      (target : HasTarget (f.found next m.text id s.span) id s.span)
      (picked : Picked (f.found next m.text id s.span).actions selector a)
      (applied : a.result = .ok expected)

/-- What a case fails with: the fault of its first stage that goes wrong. -/
inductive Fails : Fault → Prop
  | markup {e : Markup.Error}
      (malformed : Markup.parseCodes f.config.openMarker f.config.closeMarker marked = .error e) :
      Fails (.markup e)
  | marks {m : Markup.MarkedText}
      (parsed : Markup.parseCodes f.config.openMarker f.config.closeMarker marked = .ok m)
      (number : m.spans.length ≠ 1) : Fails (.markup (.notOneSpan m.spans.length))
  | input {m : Markup.MarkedText} {s : Markup.MarkedSpan} (reads : f.Reads marked m s)
      (refused : ¬ f.Accepts m.text) : Fails (.inputErrors (lexicalErrors m.text))
  | call {m : Markup.MarkedText} {s : Markup.MarkedSpan} {before after : List Call} {call : Call}
      {fault : Fault} (reads : f.Reads marked m s) (accepted : f.Accepts m.text)
      (split : f.calls next m.text id s.span = before ++ call :: after)
      (succeed : ∀ b ∈ before, b.Succeeds) (faults : call.Faults fault) : Fails fault
  | absent {m : Markup.MarkedText} {s : Markup.MarkedSpan}
      (completes : f.Completes next marked id m s)
      (absent : ¬ HasTarget (f.found next m.text id s.span) id s.span) :
      Fails (.unmet
        ["Expected diagnostic " ++ id ++ " at " ++ f.place m.text s.span
          ++ " to apply the fix to, but none was reported",
          f.listing m.text (f.found next m.text id s.span).diagnostics])
  | action {m : Markup.MarkedText} {s : Markup.MarkedSpan} {fault : Fault}
      (completes : f.Completes next marked id m s)
      (target : HasTarget (f.found next m.text id s.span) id s.span)
      (fails : VerifyFails (f.found next m.text id s.span).actions selector f.provider.name expected
        fault) : Fails fault

end Stages

/-- The settings under which cases can be run: the delimiters can be told apart, project and document
have names, and the time limit can be waited for. -/
structure Usable (f : FixFixture) : Prop where
  inProcess : f.engine = .inProcess
  opening_ne_nil : f.config.openMarker ≠ []
  closing_ne_nil : f.config.closeMarker ≠ []
  distinct : f.config.openMarker ≠ f.config.closeMarker
  projectNamed : f.config.projectName ≠ []
  documentNamed : f.config.documentName ≠ []
  inTime : ∀ l, f.config.timeout = some l → l.isUsable = true

namespace Usable

variable {f : FixFixture} {t : Text}

theorem refusal (h : f.Usable) (kind : RunKind) (t : Text) :
    f.runner.refusal kind t none
      = if f.config.failOnInputErrors = true ∧ lexicalErrors t ≠ [] then
          some (.inputErrors (lexicalErrors t))
        else none := by
  have hnever : (Option.or none f.runner.config.timeout).bind (·.fault? kind) = none := by
    rw [Option.none_or]
    exact TimeLimit.bind_fault?_eq_none_iff.mpr h.inTime
  have hproject : ¬ f.runner.config.projectName = "" :=
    mt CodeText.toText_eq_empty_iff.mp h.projectNamed
  have hdocument : ¬ f.runner.config.documentName = "" :=
    mt CodeText.toText_eq_empty_iff.mp h.documentNamed
  rw [Runner.refusal, if_neg hproject, if_neg hdocument, hnever]
  rfl

theorem starts (h : f.Usable) (next : Nat) (haccepts : f.Accepts t) :
    f.runner.Starts next t none (f.runner.compilation next t) := by
  refine Runner.starts_of_refusal_eq_none h.inProcess next .codeFix ?_
  rw [h.refusal, if_neg fun hbad => hbad.2 (haccepts hbad.1)]

theorem outcome_of_not_accepts (h : f.Usable) (next : Nat) {check : Check}
    (hrefused : ¬ f.Accepts t) :
    (f.runner.run next check t none).outcome = .raised (.inputErrors (lexicalErrors t)) := by
  have hbad : f.config.failOnInputErrors = true ∧ lexicalErrors t ≠ [] := by
    rwa [Accepts, Classical.not_imp] at hrefused
  refine (Runner.run_of_refusal h.inProcess ?_).2
  rw [h.refusal, if_pos hbad]

end Usable

/-! ## Every stage in turn -/

section Turns

variable {f : FixFixture} {next : Nat} {marked expected : Text} {id : String}
  {selector : Option Selector} {m : Markup.MarkedText} {s : Markup.MarkedSpan} {fault : Fault}

/-- The first call that fails is made. -/
theorem arrives_of_first (h : f.Usable) (haccepted : f.Accepts m.text) {before after : List Call}
    {call : Call} (hsplit : f.calls next m.text id s.span = before ++ call :: after)
    (hbefore : ∀ b ∈ before, b.Succeeds) (hcall : ¬ call.Succeeds)
    (harrives : ∀ call ∈ (f.runner.run next (f.check id s.span) m.text none).calls,
      call.Arrives) : call.Arrives := by
  refine harrives call ?_
  rw [(Runner.run_of_not_succeeds (h.starts next haccepted) hsplit hbefore hcall).1]
  exact List.mem_append_right _ List.mem_cons_self

/-- Every case passes or fails in one of its stages, if its calls arrive. -/
theorem passes_or_fails (h : f.Usable) (expected : Text) (selector : Option Selector)
    (harrives : ∀ m s, f.Reads marked m s →
      ∀ call ∈ (f.runner.run next (f.check id s.span) m.text none).calls, call.Arrives) :
    f.Passes next marked expected id selector ∨
      ∃ fault, f.Fails next marked expected id selector fault := by
  -- the stages are gone through in their order, and each one is left only for the next
  cases hparse : Markup.parseCodes f.config.openMarker f.config.closeMarker marked with
  | error e => exact Or.inr ⟨_, .markup hparse⟩
  | ok m =>
    by_cases hnumber : m.spans.length = 1
    swap
    · exact Or.inr ⟨_, .marks hparse hnumber⟩
    obtain ⟨s, hs⟩ := List.length_eq_one_iff.mp hnumber
    have hreads : f.Reads marked m s := ⟨hparse, hs⟩
    by_cases haccepts : f.Accepts m.text
    swap
    · exact Or.inr ⟨_, .input hreads haccepts⟩
    rcases Traced.succeed_or_exists_first (f.calls next m.text id s.span) with
      hall | ⟨before, call, after, hsplit, hbefore, hcall⟩
    swap
    · have harrived := arrives_of_first h haccepts hsplit hbefore hcall (harrives m s hreads)
      obtain ⟨fault, hfault⟩ := Call.exists_faults harrived hcall
      exact Or.inr ⟨fault, .call hreads haccepts hsplit hbefore hfault⟩
    have hcompletes : f.Completes next marked id m s := ⟨hreads, haccepts, hall⟩
    by_cases htarget : HasTarget (f.found next m.text id s.span) id s.span
    swap
    · exact Or.inr ⟨_, .absent hcompletes htarget⟩
    rcases exists_picked_or_verifyFails (f.found next m.text id s.span).actions selector
      f.provider.name expected with ⟨a, hpicked, happlied⟩ | ⟨fault, hfails⟩
    · exact Or.inl (.intro hcompletes htarget hpicked happlied)
    · exact Or.inr ⟨fault, .action hcompletes htarget hfails⟩

theorem testCodeFix_of_parsed
    (h : Markup.parseCodes f.config.openMarker f.config.closeMarker marked = .ok m) :
    f.testCodeFix marked expected id selector
      = (Bench.single m >>= fun s => f.requireFix m.text expected id (.span s.span) selector) := by
  rw [testCodeFix, Bench.parse, h]
  rfl

theorem testCodeFix_of_reads (h : f.Reads marked m s) :
    f.testCodeFix marked expected id selector
      = f.requireFix m.text expected id (.span s.span) selector :=
  Bench.bind_parse_single h.parsed h.single fun m s =>
    f.requireFix m.text expected id (.span s.span) selector

/-- A marked text that cannot be read, or has another number of marks, fails before anything is
run: no id is taken. -/
theorem testCodeFix_of_error {e : Markup.Error}
    (h : Markup.parseCodes f.config.openMarker f.config.closeMarker marked = .error e ∨
      ∃ m, Markup.parseCodes f.config.openMarker f.config.closeMarker marked = .ok m ∧
        m.singleSpan = .error e) :
    f.testCodeFix marked expected id selector next = (.raised (.markup e), next) := by
  rcases h with hparse | ⟨m, hparse, hsingle⟩
  · rw [testCodeFix, Bench.parse, hparse]
    rfl
  · rw [testCodeFix_of_parsed hparse, Bench.single, hsingle]
    rfl

theorem fixed_eq_nil_iff {t : Text} {s : Span} :
    (f.found next t id s).fixed = [] ↔ ¬ HasTarget (f.found next t id s) id s := by
  have hfinds : (Locator.span s).Finds t id (f.found next t id s).diagnostics ↔
      HasTarget (f.found next t id s) id s := by
    simp only [Locator.Finds, HasTarget, Locator.matchesSpan, decide_eq_true_eq]
  rw [← hfinds, ← Locator.filter_isTarget_eq_nil_iff]
  rfl

theorem fst_requireFix_of_raised {t : Text} {s : Span}
    (h : (f.runner.run next (f.check id s) t none).outcome = .raised fault) :
    (f.requireFix t expected id (.span s) selector next).1 = .raised fault :=
  Session.fst_bind_of_raised h _

/-- Behind a run a case is about what the run has found. -/
theorem fst_requireFix_of_found {t : Text} {l : Locator} {found : Findings}
    (h : (f.findFixes t id l next).1 = .done found) :
    (f.requireFix t expected id l selector next).1
      = if found.fixed = [] then
          .raised (.unmet
            ["Expected diagnostic " ++ id ++ " at " ++ l.describe t f.file
              ++ " to apply the fix to, but none was reported", f.listing t found.diagnostics])
        else verifyAction found.actions selector f.provider.name expected := by
  rw [requireFix, Session.fst_bind_of_done h]
  by_cases hnone : found.fixed = []
  · rw [if_pos (List.isEmpty_iff.mpr hnone), if_pos hnone]
    rfl
  · rw [if_neg (mt List.isEmpty_iff.mp hnone), if_neg hnone]
    rfl

theorem fst_requireFix_of_completes (h : f.Usable) (hcompletes : f.Completes next marked id m s) :
    (f.requireFix m.text expected id (.span s.span) selector next).1
      = if (f.found next m.text id s.span).fixed = [] then
          .raised (.unmet
            ["Expected diagnostic " ++ id ++ " at " ++ f.place m.text s.span
              ++ " to apply the fix to, but none was reported",
              f.listing m.text (f.found next m.text id s.span).diagnostics])
        else
          verifyAction (f.found next m.text id s.span).actions selector f.provider.name expected := by
  have houtcome : (f.findFixes m.text id (.span s.span) next).1
      = .done (f.found next m.text id s.span) :=
    (Runner.run_of_succeeds (h.starts next hcompletes.accepted) hcompletes.succeed).2
  exact fst_requireFix_of_found houtcome

theorem fst_testCodeFix_of_passes (h : f.Usable) (hpasses : f.Passes next marked expected id selector) :
    (f.testCodeFix marked expected id selector next).1 = .done () := by
  obtain ⟨hcompletes, htarget, hpicked, happlied⟩ := hpasses
  rw [testCodeFix_of_reads hcompletes.toReads, fst_requireFix_of_completes h hcompletes,
    if_neg fun hnil => fixed_eq_nil_iff.mp hnil htarget]
  exact verifyAction_of_picked hpicked happlied

theorem fst_testCodeFix_of_fails (h : f.Usable)
    (harrives : ∀ m s, f.Reads marked m s →
      ∀ call ∈ (f.runner.run next (f.check id s.span) m.text none).calls, call.Arrives)
    (hfails : f.Fails next marked expected id selector fault) :
    (f.testCodeFix marked expected id selector next).1 = .raised fault := by
  cases hfails with
  | markup hmalformed => rw [testCodeFix_of_error (Or.inl hmalformed)]
  | marks hparsed hnumber =>
    rw [testCodeFix_of_error
      (Or.inr ⟨_, hparsed, Markup.MarkedText.singleSpan_of_length_ne_one hnumber⟩)]
  | input hreads hrefused =>
    rw [testCodeFix_of_reads hreads]
    exact fst_requireFix_of_raised (h.outcome_of_not_accepts next hrefused)
  | @call m s before after call fault hreads haccepted hsplit hbefore hfaults =>
    have harrived :=
      arrives_of_first h haccepted hsplit hbefore hfaults.not_succeeds (harrives m s hreads)
    have hanswer := Call.answer_of_faults hfaults harrived
    rw [testCodeFix_of_reads hreads]
    exact fst_requireFix_of_raised
      (Runner.run_of_raised (h.starts next haccepted) hsplit hbefore hanswer).2
  | absent hcompletes habsent =>
    rw [testCodeFix_of_reads hcompletes.toReads, fst_requireFix_of_completes h hcompletes,
      if_pos (fixed_eq_nil_iff.mpr habsent)]
  | action hcompletes htarget hverify =>
    rw [testCodeFix_of_reads hcompletes.toReads, fst_requireFix_of_completes h hcompletes,
      if_neg fun hnil => fixed_eq_nil_iff.mp hnil htarget]
    exact verifyAction_of_verifyFails hverify

/-- **A case about a fix passes if all its stages go well, and fails as the first one that does
not.** A marked text that is wrong is complained about in the bench's own way, before any id is taken
for a run. The calls that are made must arrive; this alone is not up to the stages. -/
theorem testCodeFix_first_failing_stage (h : f.Usable) (next : Nat) (marked expected : Text)
    (id : String) (selector : Option Selector)
    (harrives : ∀ m s, f.Reads marked m s →
      ∀ call ∈ (f.runner.run next (f.check id s.span) m.text none).calls, call.Arrives) :
    let case := f.testCodeFix marked expected id selector next
    (case.1 = .done () ↔ f.Passes next marked expected id selector) ∧
      (∀ fault, case.1 = .raised fault ↔ f.Fails next marked expected id selector fault) ∧
      case.1 ≠ .stalled ∧
      ∀ e, (Markup.parseCodes f.config.openMarker f.config.closeMarker marked = .error e ∨
          ∃ m, Markup.parseCodes f.config.openMarker f.config.closeMarker marked = .ok m ∧
            m.singleSpan = .error e) →
        case = (.raised (.markup e), next) ∧ (Fault.markup e).isOwn = true := by
  intro case
  have hpass (hpasses : f.Passes next marked expected id selector) : case.1 = .done () :=
    fst_testCodeFix_of_passes h hpasses
  have hfail {fault : Fault} (hfails : f.Fails next marked expected id selector fault) :
      case.1 = .raised fault := fst_testCodeFix_of_fails h harrives hfails
  have hstages := passes_or_fails h expected selector harrives
  refine ⟨⟨fun hdone => ?_, hpass⟩, fun fault => ⟨fun hraised => ?_, hfail⟩, ?_, fun e he => ?_⟩
  · rcases hstages with hpasses | ⟨fault, hfails⟩
    · exact hpasses
    · rw [hfail hfails] at hdone
      cases hdone
  -- a fault that is raised is that of the stage which fails, since a case raises only one
  · rcases hstages with hpasses | ⟨fault', hfails⟩
    · rw [hpass hpasses] at hraised
      cases hraised
    · have hsame := hfail hfails
      rw [hraised] at hsame
      cases hsame
      exact hfails
  · rcases hstages with hpasses | ⟨fault, hfails⟩
    · rw [hpass hpasses]
      nofun
    · rw [hfail hfails]
      nofun
  · refine ⟨testCodeFix_of_error he, ?_⟩
    rcases he with hparse | ⟨m, -, hsingle⟩
    · exact Markup.isOwn_of_parseCodes h.opening_ne_nil h.closing_ne_nil h.distinct hparse
    · exact Markup.isOwn_of_singleSpan hsingle

end Turns

/-! ## A call that arrives and one that does not -/

theorem Reads.unique {f : FixFixture} {marked : Text} {m m' : Markup.MarkedText}
    {s s' : Markup.MarkedSpan} (h : f.Reads marked m s) (h' : f.Reads marked m' s') :
    m' = m ∧ s' = s := by
  have hm : m' = m := Except.ok.inj (h'.parsed.symm.trans h.parsed)
  have hs := h'.single
  rw [hm, h.single] at hs
  exact ⟨hm, (List.cons.inj hs).1.symm⟩

/-- An analyzer reports the mark of a text, and a provider does one step about it. -/
def sample (mode : Mode) (step : Script.ActionStep) : FixFixture where
  engine := .inProcess
  config := ({ Config.standard with timeout := some (.whole 1) } : Config)
  provider := Script.fixProvider "P" mode ["X"] [step]
  analyzers := [Script.analyzer "A" .plain [⟨"X", "", "", .warning⟩] [.report "X" "" 0 1 none]]

section Sample

variable (mode : Mode) (step : Script.ActionStep)

theorem usable_sample : (sample mode step).Usable where
  inProcess := rfl
  opening_ne_nil := (by decide : Config.standard.coded.openMarker ≠ [])
  closing_ne_nil := (by decide : Config.standard.coded.closeMarker ≠ [])
  distinct := (by decide : Config.standard.coded.openMarker ≠ Config.standard.coded.closeMarker)
  projectNamed := (by decide : Config.standard.coded.projectName ≠ [])
  documentNamed := (by decide : Config.standard.coded.documentName ≠ [])
  inTime := by
    intro l hl
    cases hl
    rfl

theorem reads_sample :
    (sample mode step).Reads "[|a|]".toList ⟨['a'], [⟨0, 1, 0⟩]⟩ ⟨0, 1, 0⟩ where
  parsed := (Markup.parseCodes_ofString Markup.standardOpening Markup.standardClosing _).trans
    (by decide +kernel)
  single := rfl

theorem accepts_sample : (sample mode step).Accepts ['a'] := by
  intro _
  decide +kernel

theorem hasTarget_sample :
    HasTarget ((sample mode step).found 0 ['a'] "X" ⟨0, 1⟩) "X" ⟨0, 1⟩ :=
  ⟨⟨"X", ⟨0, 1⟩, "", .warning⟩, List.mem_cons_self, rfl, rfl⟩

end Sample

/-- A provider fixes the mark with the text `b`. -/
theorem testCodeFix_first_failing_stage_fixed :
    let f := sample .coroutine (.fixed "Fix".toList ['b'] none)
    f.Usable ∧ f.Passes 0 "[|a|]".toList ['b'] "X" none ∧
      (f.testCodeFix "[|a|]".toList ['b'] "X" none 0).1 = .done () := by
  intro f
  have husable := usable_sample .coroutine (.fixed "Fix".toList ['b'] none)
  have hreads := reads_sample .coroutine (.fixed "Fix".toList ['b'] none)
  have haccepts := accepts_sample .coroutine (.fixed "Fix".toList ['b'] none)
  have hsucceed : ∀ call ∈ f.calls 0 ['a'] "X" ⟨0, 1⟩, call.Succeeds :=
    List.forall_mem_cons.mpr ⟨Call.answer_eq_done_iff.mp rfl,
      List.forall_mem_singleton.mpr (Call.answer_eq_done_iff.mp rfl)⟩
  have hpasses : f.Passes 0 "[|a|]".toList ['b'] "X" none :=
    .intro ⟨hreads, haccepts, hsucceed⟩ (hasTarget_sample _ _)
      (show (f.found 0 ['a'] "X" ⟨0, 1⟩).actions = [_] from rfl) rfl
  refine ⟨husable, hpasses, ((testCodeFix_first_failing_stage husable 0 _ ['b'] "X" none ?_).1).mpr
    hpasses⟩
  intro m s h
  obtain ⟨rfl, rfl⟩ := hreads.unique h
  intro call hcall
  have hmade := (Runner.run_of_succeeds (husable.starts 0 haccepts) hsucceed).1
  rw [show (f.runner.run 0 (f.check "X" (⟨0, 1, 0⟩ : Markup.MarkedSpan).span) ['a'] none).calls
    = f.calls 0 ['a'] "X" ⟨0, 1⟩ from hmade] at hcall
  exact (hsucceed call hcall).arrives

/-- A provider that is a plain function ends with a cancellation. This is what the case should fail
with, and all callbacks have ended; but the case waits for its limit and fails with that. -/
theorem testCodeFix_loses_cancellation :
    let f := sample .plain (.ends (.raised .cancelled))
    f.Usable ∧ f.Reads "[|a|]".toList ⟨['a'], [⟨0, 1, 0⟩]⟩ ⟨0, 1, 0⟩ ∧
      (∀ call ∈ (f.runner.run 0 (f.check "X" ⟨0, 1⟩) ['a'] none).calls,
        call.ending ≠ .endless) ∧
      f.Fails 0 "[|a|]".toList ['b'] "X" none .cancelled ∧
      (f.testCodeFix "[|a|]".toList ['b'] "X" none 0).1
        = .raised (.timedOut (.whole 1) .codeFix) := by
  intro f
  have hreads := reads_sample .plain (.ends (.raised .cancelled))
  have haccepts := accepts_sample .plain (.ends (.raised .cancelled))
  have hstarts := (usable_sample .plain (.ends (.raised .cancelled))).starts 0 haccepts
  obtain ⟨analysis, fix, hsplit, hsucceeds, hending, hanswer⟩ :
      ∃ analysis fix : Call, f.calls 0 ['a'] "X" ⟨0, 1⟩ = [analysis] ++ fix :: [] ∧
        analysis.answer = .done () ∧ fix.ending = .raised .cancelled ∧ fix.answer = .stalled :=
    ⟨_, _, rfl, rfl, rfl, rfl⟩
  have hbefore : ∀ b ∈ [analysis], b.Succeeds :=
    List.forall_mem_singleton.mpr (Call.answer_eq_done_iff.mp hsucceeds)
  have hfaults : fix.Faults .cancelled := Call.Faults.raised (f := .cancelled) hending
  obtain ⟨hcalls, houtcome⟩ := Runner.run_of_stalled hstarts hsplit hbefore hanswer
  refine ⟨usable_sample _ _, hreads, ?_, .call hreads haccepts hsplit hbefore hfaults, ?_⟩
  · rw [hcalls, List.forall_mem_append, List.forall_mem_singleton, List.forall_mem_singleton,
      (hbefore analysis List.mem_cons_self).1, hending]
    exact ⟨nofun, nofun⟩
  · rw [testCodeFix_of_reads hreads]
    exact fst_requireFix_of_raised houtcome

end FixFixture

end Assay
