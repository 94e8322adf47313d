import Assay.Proofs.Runs.Calls
import Mathlib.Data.List.Basic

/-!
# What comes of a call

A run goes on behind a call that succeeds. Otherwise it gets a fault, or it gets no answer at all:
from a callback that does not end, and from one whose fault is lost on the way. What a fault is
pinned on is settled where the call is made; the handlers further on pin a fault only if it is
pinned on nobody yet, so they leave that of a call alone (`pinOn_of_answer`).

Calls that are followed stop at the first one that fails, and come to what comes of that one.
-/

namespace Assay

/-! ## Pinning faults -/

namespace Fault

theorem pinOn_of_isOwn {name : String} {f : Fault} (h : f.isOwn = true) : f.pinOn name = f := by
  rw [pinOn, h, Bool.or_true, if_pos rfl]

theorem pinOn_of_isAbrupt {name : String} {f : Fault} (h : f.isAbrupt = true) :
    f.pinOn name = f := by
  rw [pinOn, h, Bool.true_or, if_pos rfl]

theorem pinOn_of_ordinary {name : String} {f : Fault} (habrupt : f.isAbrupt = false)
    (hown : f.isOwn = false) : f.pinOn name = .component name f := by
  rw [pinOn, habrupt, hown, Bool.or_false, if_neg Bool.false_ne_true]

/-- What is pinned on one component is not pinned on another one. -/
theorem pinOn_pinOn (first second : String) (f : Fault) :
    (f.pinOn first).pinOn second = f.pinOn first := by
  by_cases h : (f.isAbrupt || f.isOwn) = true
  · have hkeeps (name : String) : f.pinOn name = f := by rw [pinOn, if_pos h]
    rw [hkeeps, hkeeps]
  · have hfirst : f.pinOn first = .component first f := by rw [pinOn, if_neg h]
    rw [hfirst]
    exact pinOn_of_isOwn rfl

theorem leaveCoroutine_of_endsThread {f : Fault} (h : f.endsThread = false) :
    f.leaveCoroutine = f := by
  rw [endsThread, Bool.or_eq_false_iff] at h
  rw [leaveCoroutine, if_neg (by rw [h.2]; exact Bool.false_ne_true)]

theorem leaveCoroutine_of_isAbrupt {f : Fault} (h : f.isAbrupt = true) : f.leaveCoroutine = f := by
  rw [leaveCoroutine, if_neg]
  intro hends
  cases f with
  | foreign typeName text =>
    -- the end of an iteration is no request to leave the program
    have hname : typeName = endOfIteration := of_decide_eq_true hends
    have hmem : typeName ∈ abruptTypes := of_decide_eq_true h
    rw [hname] at hmem
    exact absurd hmem (by decide)
  | cancelled => cases hends
  | _ => cases h

theorem endsThread_of_isOwn {f : Fault} (h : f.isOwn = true) : f.endsThread = false := by
  cases f <;> first | rfl | cases h

end Fault

/-! ## Callbacks that return -/

theorem Component.invoke_of_give {κ α : Type} {c : Component κ α} {context : κ} {items : List α}
    (h : c.callback context = .give items) : c.invoke context = .done items := by
  rw [invoke, h]
  rfl

namespace Compilation

theorem outcome_fixesFor_of_give {c : Compilation} {p : FixProvider} {d : Diagnostic}
    {actions : List Action} (hid : d.id ∈ p.fixable)
    (h : p.callback ⟨c.document, c.tokens, d⟩ = .give actions) :
    (c.fixesFor p d).outcome = .done actions := by
  rw [fixesFor, if_pos hid]
  exact Component.invoke_of_give h

theorem analyzerDiagnostics_of_give {c : Compilation} {a : Analyzer} {options : Options}
    {reported : List Diagnostic}
    (h : a.callback ⟨c.document, c.tokens, c.mergedOptions options⟩ = .give reported)
    (hdeclared : ∀ d ∈ reported, a.declares d.id = true) :
    c.analyzerDiagnostics [a] options
      = .done (reported ++ c.extraDiagnostics.filter fun d => a.declares d.id) := by
  have hinvoke := Component.invoke_of_give h
  have hchecked : checkDeclared a reported = .done () := by
    rw [checkDeclared, List.find?_eq_none.mpr fun d hd => by simp [hdeclared d hd]]
  have hfilter : reported.filter (fun d => a.declares d.id) = reported :=
    List.filter_eq_self.mpr hdeclared
  simp only [analyzerDiagnostics, analyze, runEach, runAnalyzer, Analyzer.call, bind, Traced.bind,
    hinvoke, Traced.lift, hchecked, pure, List.append_nil, List.any_cons, List.any_nil,
    Bool.or_false, List.filter_append, hfilter]

end Compilation

/-! ## What comes of a call -/

namespace Call

/-- What the run makes of a call that has returned. -/
def review : Call → Outcome Unit
  | .analysis a context => Compilation.checkDeclared a (a.callback context).given
  | _ => .done ()

theorem answer_eq (c : Call) :
    c.answer = match c.mode.arrival c.ending with
      | .returned => c.review
      | .raised f => .raised (f.pinOn c.component)
      | .endless => .stalled := by
  cases c with
  | analysis a context =>
    simp only [answer, Component.invoke, mode, ending, component, review]
    cases a.mode.arrival (a.callback context).ending <;> rfl
  | fix p context =>
    simp only [answer, Component.invoke, mode, ending, component, review]
    cases p.mode.arrival (p.callback context).ending <;> rfl
  | refactoring p context =>
    simp only [answer, Component.invoke, mode, ending, component, review]
    cases p.mode.arrival (p.callback context).ending <;> rfl
  | completion p context =>
    simp only [answer, Component.invoke, mode, ending, component, review]
    cases p.mode.arrival (p.callback context).ending <;> rfl

theorem review_of_reportsUndeclared {c : Call} {id : String} (h : c.ReportsUndeclared id) :
    c.review = .raised (.undeclared c.component id) := by
  obtain ⟨hgiven, hdeclared, hundeclared⟩ := h
  rename_i a context before after d
  -- what is reported before has an id that is declared, so the search stops here
  have hfind : (a.callback context).given.find? (fun d => !a.declares d.id) = some d := by
    rw [hgiven, List.find?_append, List.find?_eq_none.mpr (by simpa using hdeclared)]
    simp [hundeclared]
  rw [review, Compilation.checkDeclared, hfind]
  rfl

/-- A review finds fault with the first id that is not declared, and with nothing else. -/
theorem review_eq_done_or (c : Call) :
    (c.review = .done () ∧ ∀ id, ¬ c.ReportsUndeclared id) ∨ ∃ id, c.ReportsUndeclared id := by
  cases c with
  | analysis a context =>
    cases hfind : (a.callback context).given.find? (fun d => !a.declares d.id) with
    | none =>
      have hreview : (Call.analysis a context).review = .done () := by
        rw [review, Compilation.checkDeclared, hfind]
      refine Or.inl ⟨hreview, fun id h => ?_⟩
      rw [review_of_reportsUndeclared h] at hreview
      cases hreview
    | some d =>
      obtain ⟨hd, before, after, hgiven, hbefore⟩ := List.find?_eq_some_iff_append.mp hfind
      refine Or.inr ⟨d.id, .intro hgiven (fun b hb => ?_) ?_⟩
      · simpa using hbefore b hb
      · simpa using hd
  | fix p context => exact Or.inl ⟨rfl, fun id h => by cases h⟩
  | refactoring p context => exact Or.inl ⟨rfl, fun id h => by cases h⟩
  | completion p context => exact Or.inl ⟨rfl, fun id h => by cases h⟩

/-- The fault that ends the callback gets lost on the way to the run. -/
def LosesFault (c : Call) : Prop :=
  c.mode = .plain ∧ ∃ f, c.ending = .raised f ∧ f.endsThread = true

/-- The end of the callback reaches the run. -/
def Arrives (c : Call) : Prop := c.ending ≠ .endless ∧ ¬ c.LosesFault

theorem endsThread_of_not_losesFault {c : Call} {f : Fault} (h : ¬ c.LosesFault)
    (hplain : c.mode = .plain) (hending : c.ending = .raised f) : f.endsThread = false := by
  by_contra hends
  exact h ⟨hplain, f, hending, by simpa using hends⟩

theorem answer_of_returned {c : Call} (h : c.ending = .returned) : c.answer = c.review := by
  rw [answer_eq, h, Mode.arrival]

theorem answer_of_raised {c : Call} {f : Fault} (h : c.ending = .raised f)
    (hkeeps : f.endsThread = false) : c.answer = .raised (f.pinOn c.component) := by
  have hleaves := Fault.leaveCoroutine_of_endsThread hkeeps
  have harrival : c.mode.arrival (.raised f) = .raised f := by
    simp only [Mode.arrival, hleaves, hkeeps, Bool.false_eq_true, if_false, ite_self]
  rw [answer_eq, h, harrival]

theorem answer_of_raised_of_ne_plain {c : Call} {f : Fault} (h : c.ending = .raised f)
    (hmode : c.mode ≠ .plain) : c.answer = .raised (f.leaveCoroutine.pinOn c.component) := by
  simp only [answer_eq, h, Mode.arrival, if_neg hmode]

theorem review_ne_stalled (c : Call) : c.review ≠ .stalled := by
  rcases c.review_eq_done_or with ⟨h, _⟩ | ⟨id, h⟩
  · rw [h]
    nofun
  · rw [review_of_reportsUndeclared h]
    nofun

/-- The run gets no answer exactly from the calls that do not arrive. -/
theorem answer_eq_stalled_iff {c : Call} : c.answer = .stalled ↔ ¬ c.Arrives := by
  cases h : c.ending with
  | returned =>
    rw [answer_of_returned h]
    refine ⟨fun hs => absurd hs c.review_ne_stalled, fun hn => absurd ?_ hn⟩
    refine ⟨by rw [h]; nofun, fun ⟨_, f, hf, _⟩ => ?_⟩
    rw [h] at hf
    cases hf
  | endless =>
    have hanswer : c.answer = .stalled := by rw [answer_eq, h, Mode.arrival]
    exact ⟨fun _ ha => ha.1 h, fun _ => hanswer⟩
  | raised f =>
    by_cases hlost : c.mode = .plain ∧ f.endsThread = true
    · have hanswer : c.answer = .stalled := by
        rw [answer_eq, h, Mode.arrival, if_pos hlost.1, if_pos hlost.2]
      exact ⟨fun _ ha => ha.2 ⟨hlost.1, f, h, hlost.2⟩, fun _ => hanswer⟩
    · have hanswer : c.answer ≠ .stalled := by
        rw [answer_eq, h, Mode.arrival]
        split_ifs with hmode hends
        · exact absurd ⟨hmode, hends⟩ hlost
        · nofun
        · nofun
      refine ⟨fun hs => absurd hs hanswer, fun hn => absurd ?_ hn⟩
      refine ⟨by rw [h]; nofun, fun ⟨hmode, g, hg, hends⟩ => hlost ⟨hmode, ?_⟩⟩
      rw [h] at hg
      cases hg
      exact hends

/-- The run goes on exactly behind the calls that succeed. -/
theorem answer_eq_done_iff {c : Call} : c.answer = .done () ↔ c.Succeeds := by
  constructor
  · intro hdone
    cases h : c.ending with
    | returned =>
      rw [answer_of_returned h] at hdone
      rcases c.review_eq_done_or with hreview | ⟨id, hid⟩
      · exact ⟨h, hreview.2⟩
      · rw [review_of_reportsUndeclared hid] at hdone
        cases hdone
    | endless =>
      rw [answer_eq, h, Mode.arrival] at hdone
      cases hdone
    | raised f =>
      -- lost or not, a fault is nothing to go on with
      rw [answer_eq, h, Mode.arrival] at hdone
      split_ifs at hdone
  · rintro ⟨h, hnone⟩
    rw [answer_of_returned h]
    rcases c.review_eq_done_or with hreview | ⟨id, hid⟩
    · exact hreview.1
    · exact absurd hid (hnone id)

/-- What a call fails with where nothing is lost: the fault that its callback raises, pinned on the
component unless it is pinned on nobody, or the first id that it does not declare. -/
inductive Faults : Call → Fault → Prop
  | raised {c : Call} {f : Fault} (ending : c.ending = .raised f) :
      Faults c (f.leaveCoroutine.pinOn c.component)
  | undeclared {c : Call} {id : String} (ending : c.ending = .returned)
      (reports : c.ReportsUndeclared id) : Faults c (.undeclared c.component id)

theorem Faults.not_succeeds {c : Call} {f : Fault} (h : c.Faults f) : ¬ c.Succeeds := by
  rintro ⟨hreturned, hnone⟩
  cases h with
  | raised hraised =>
    rw [hreturned] at hraised
    cases hraised
  | undeclared _ hreports => exact hnone _ hreports

theorem Succeeds.arrives {c : Call} (h : c.Succeeds) : c.Arrives := by
  by_contra hlost
  have hdone := answer_eq_done_iff.mpr h
  rw [answer_eq_stalled_iff.mpr hlost] at hdone
  cases hdone

theorem answer_of_faults {c : Call} {f : Fault} (h : c.Faults f) (harrives : c.Arrives) :
    c.answer = .raised f := by
  cases h with
  | @raised g hending =>
    by_cases hplain : c.mode = .plain
    · have hkeeps := endsThread_of_not_losesFault harrives.2 hplain hending
      rw [answer_of_raised hending hkeeps, Fault.leaveCoroutine_of_endsThread hkeeps]
    · exact answer_of_raised_of_ne_plain hending hplain
  | undeclared hending hreports =>
    rw [answer_of_returned hending, review_of_reportsUndeclared hreports]

/-- A call that arrives succeeds or fails with a fault. -/
theorem exists_faults {c : Call} (harrives : c.Arrives) (h : ¬ c.Succeeds) : ∃ f, c.Faults f := by
  cases hending : c.ending with
  | returned =>
    rcases c.review_eq_done_or with ⟨-, hnone⟩ | ⟨id, hid⟩
    · exact absurd ⟨hending, hnone⟩ h
    · exact ⟨_, .undeclared hending hid⟩
  | raised f => exact ⟨_, .raised hending⟩
  | endless => exact absurd hending harrives.1

/-- A fault of a call is what the call fails with, and has arrived. -/
theorem answer_eq_raised_iff {c : Call} {f : Fault} :
    c.answer = .raised f ↔ c.Arrives ∧ c.Faults f := by
  refine ⟨fun hanswer => ?_, fun ⟨harrives, hf⟩ => answer_of_faults hf harrives⟩
  have harrives : c.Arrives := by
    by_contra hlost
    rw [answer_eq_stalled_iff.mpr hlost] at hanswer
    cases hanswer
  have hfails : ¬ c.Succeeds := by
    intro hsucceeds
    rw [answer_eq_done_iff.mpr hsucceeds] at hanswer
    cases hanswer
  -- the call fails with some fault, and that is the one it has come to
  obtain ⟨g, hg⟩ := exists_faults harrives hfails
  have hsame := answer_of_faults hg harrives
  rw [hanswer] at hsame
  cases hsame
  exact ⟨harrives, hg⟩

/-- **The fault of a call is pinned already**, or it is one that is pinned on nobody. -/
theorem pinOn_of_answer {c : Call} {f : Fault} (h : c.answer = .raised f) (name : String) :
    f.pinOn name = f := by
  cases (answer_eq_raised_iff.mp h).2 with
  | raised => exact Fault.pinOn_pinOn _ _ _
  | undeclared => exact Fault.pinOn_of_isOwn rfl

end Call

/-! ## Following calls to the first failure -/

namespace Traced

variable {α : Type} {a : α} {before after calls : List Call} {c : Call}

theorem follow_cons_of_succeeds (h : c.Succeeds) (rest : List Call) :
    follow (c :: rest) a = ⟨c :: (follow rest a).calls, (follow rest a).outcome⟩ := by
  rw [follow, Call.answer_eq_done_iff.mpr h]
  rfl

theorem follow_append_of_succeeds (h : ∀ b ∈ before, b.Succeeds) (rest : List Call) :
    follow (before ++ rest) a = ⟨before ++ (follow rest a).calls, (follow rest a).outcome⟩ := by
  induction before with
  | nil => rfl
  | cons b before ih =>
    rw [List.cons_append, follow_cons_of_succeeds (h b List.mem_cons_self),
      ih fun b hb => h b (List.mem_cons_of_mem _ hb)]
    rfl

theorem follow_of_succeeds (h : ∀ b ∈ calls, b.Succeeds) : follow calls a = ⟨calls, .done a⟩ := by
  rw [← List.append_nil calls, follow_append_of_succeeds h]
  rfl

/-- The first call that raises a fault is the last one, and the fault is what it all comes to. -/
theorem follow_of_raised (hbefore : ∀ b ∈ before, b.Succeeds) {f : Fault}
    (h : c.answer = .raised f) : follow (before ++ c :: after) a = ⟨before ++ [c], .raised f⟩ := by
  rw [follow_append_of_succeeds hbefore, follow, h]
  rfl

theorem follow_of_stalled (hbefore : ∀ b ∈ before, b.Succeeds) (h : c.answer = .stalled) :
    follow (before ++ c :: after) a = ⟨before ++ [c], .stalled⟩ := by
  rw [follow_append_of_succeeds hbefore, follow, h]
  rfl

/-- Either all calls succeed or one is the first that does not. -/
theorem succeed_or_exists_first (calls : List Call) :
    (∀ b ∈ calls, b.Succeeds) ∨ ∃ before c after, calls = before ++ c :: after ∧
      (∀ b ∈ before, b.Succeeds) ∧ ¬ c.Succeeds := by
  induction calls with
  | nil => exact Or.inl fun b hb => absurd hb List.not_mem_nil
  | cons c rest ih =>
    by_cases hc : c.Succeeds
    · rcases ih with hall | ⟨before, d, after, rfl, hbefore, hd⟩
      · exact Or.inl (List.forall_mem_cons.mpr ⟨hc, hall⟩)
      · exact Or.inr ⟨c :: before, d, after, rfl, List.forall_mem_cons.mpr ⟨hc, hbefore⟩, hd⟩
    · exact Or.inr ⟨[], c, rest, rfl, fun b hb => absurd hb List.not_mem_nil, hc⟩

/-- What is raised while calls are followed is pinned already. -/
theorem mapFault_follow (calls : List Call) (a : α) (name : String) :
    (follow calls a).mapOutcome (.mapFault (Fault.pinOn name)) = follow calls a := by
  rcases succeed_or_exists_first calls with hall | ⟨before, c, after, rfl, hbefore, hc⟩
  · rw [follow_of_succeeds hall]
    rfl
  · cases hanswer : c.answer with
    | done u => exact absurd (Call.answer_eq_done_iff.mp hanswer) hc
    | raised f =>
      rw [follow_of_raised hbefore hanswer, mapOutcome, Outcome.mapFault,
        Call.pinOn_of_answer hanswer]
    | stalled =>
      rw [follow_of_stalled hbefore hanswer]
      rfl

end Traced

end Assay
