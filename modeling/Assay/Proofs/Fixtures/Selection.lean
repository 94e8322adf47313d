import Assay.Proofs.Fixtures.Session
import Assay.Proofs.Indices
import Mathlib.Data.List.Basic
import Mathlib.Data.Nat.Find

/-!
# Picking and verifying an action

What a selector picks from a list of actions, said without a search: the first action that it
accepts, or without a selector the only action there is (`Picked`). A case about an action passes if
the action that is picked gives the expected text, and fails otherwise with the fault of the first
step that goes wrong: picking, applying, comparing (`VerifyFails`).
-/

namespace Assay

theorem Text.includes_iff {t part : Text} : Text.includes t part = true ↔ part <:+: t := by
  induction t with
  | nil => rw [Text.includes, List.isEmpty_iff, List.infix_nil]
  | cons c t ih =>
    rw [Text.includes, Bool.or_eq_true, ih, List.isPrefixOf_iff_prefix, List.infix_cons_iff]

/-! ## Selectors -/

/-- Whether a selector accepts an action that stands at an index. -/
def Selector.Accepts (s : Selector) (i : Nat) (a : Action) : Prop :=
  match s with
  | .index wanted => (i : Int) = wanted
  | .title wanted => some a.title = wanted
  | .titleContaining part => part.toList <:+: a.title.toList
  | .key wanted => a.key = wanted
  | .custom _ => False

namespace Selector

variable {s : Selector} {actions : List Action} {i : Nat}

theorem findIndex?_eq_some_iff : s.findIndex? actions = some i ↔
    ∃ a, actions[i]? = some a ∧ s.Accepts i a ∧
      ∀ j b, j < i → actions[j]? = some b → ¬ s.Accepts j b := by
  cases s with
  | index wanted =>
    simp only [findIndex?, Accepts]
    constructor
    · intro h
      split_ifs at h with hin
      cases h
      have hlt : wanted.toNat < actions.length := by omega
      refine ⟨_, List.getElem?_eq_getElem hlt, by omega, fun j b hj _ => by omega⟩
    · rintro ⟨a, ha, hi, -⟩
      obtain ⟨hlt, -⟩ := List.getElem?_eq_some_iff.mp ha
      rw [if_pos (by omega)]
      exact congrArg some (by omega)
  | title wanted =>
    simp only [findIndex?, Accepts, findIdx?_eq_some_iff_getElem?, decide_eq_true_eq]
  | titleContaining part =>
    simp only [findIndex?, Accepts, findIdx?_eq_some_iff_getElem?, Text.includes_iff]
  | key wanted =>
    simp only [findIndex?, Accepts, findIdx?_eq_some_iff_getElem?, decide_eq_true_eq]
  | custom name => simp [findIndex?, Accepts]

/-- A selector that picks nothing accepts nothing. -/
theorem findIndex?_eq_none_iff : s.findIndex? actions = none ↔
    ∀ j b, actions[j]? = some b → ¬ s.Accepts j b := by
  constructor
  · intro hnone j b hb haccepts
    classical
    -- the least index of an action that is accepted would have been found
    have hexists : ∃ i a, actions[i]? = some a ∧ s.Accepts i a := ⟨j, b, hb, haccepts⟩
    obtain ⟨a, ha, hfirst⟩ := Nat.find_spec hexists
    have hfound : s.findIndex? actions = some (Nat.find hexists) :=
      findIndex?_eq_some_iff.mpr ⟨a, ha, hfirst, fun i c hi hc hac =>
        Nat.find_min hexists hi ⟨c, hc, hac⟩⟩
    rw [hnone] at hfound
    cases hfound
  · intro hall
    rw [Option.eq_none_iff_forall_ne_some]
    intro i hi
    obtain ⟨a, ha, haccepts, -⟩ := findIndex?_eq_some_iff.mp hi
    exact hall i a ha haccepts

end Selector

/-- The action that is picked: the first one that the selector accepts, or without a selector the
only one. -/
def Picked (actions : List Action) (selector : Option Selector) (a : Action) : Prop :=
  match selector with
  | none => actions = [a]
  | some s => ∃ before after, actions = before ++ a :: after ∧ s.Accepts before.length a ∧
      ∀ i b, before[i]? = some b → ¬ s.Accepts i b

/-- Why no action is picked. -/
inductive SelectionFails (actions : List Action) : Option Selector → SelectionError → Prop
  | nothing (none : actions = []) :
      SelectionFails actions .none (.noneApplicable [] .none)
  | several (several : 1 < actions.length) :
      SelectionFails actions .none (.ambiguous (actions.map Action.title))
  | unmatched {s : Selector} (none : ∀ i b, actions[i]? = some b → ¬ s.Accepts i b) :
      SelectionFails actions (some s)
        (.noneApplicable (actions.map Action.title) (some s.describe))

section Selection

variable {actions : List Action} {selector : Option Selector} {a : Action} {e : SelectionError}

theorem selectAction_of_selectIndex {i : Nat} (h : selectIndex actions selector = .ok i)
    (ha : actions[i]? = some a) : selectAction actions selector = .ok a := by
  simp only [selectAction, h, bind, Except.bind, ha]
  rfl

theorem selectAction_of_selectIndex_error (h : selectIndex actions selector = .error e) :
    selectAction actions selector = .error e := by
  rw [selectAction, h]
  rfl

theorem selectAction_of_picked (h : Picked actions selector a) :
    selectAction actions selector = .ok a := by
  cases selector with
  | none =>
    rw [Picked] at h
    rw [h]
    rfl
  | some s =>
    obtain ⟨before, after, hsplit, haccepts, hbefore⟩ := h
    have hat : actions[before.length]? = some a := by
      rw [hsplit, List.getElem?_append_right (Nat.le_refl _), Nat.sub_self]
      rfl
    have hfound : s.findIndex? actions = some before.length := by
      refine Selector.findIndex?_eq_some_iff.mpr ⟨a, hat, haccepts, fun j b hj hb => ?_⟩
      rw [hsplit, List.getElem?_append_left hj] at hb
      exact hbefore j b hb
    refine selectAction_of_selectIndex ?_ hat
    simp only [selectIndex, hfound]

theorem selectAction_of_selectionFails (h : SelectionFails actions selector e) :
    selectAction actions selector = .error e := by
  refine selectAction_of_selectIndex_error ?_
  cases h with
  | nothing hnone =>
    rw [hnone]
    rfl
  | several hseveral =>
    match actions, hseveral with
    | _ :: _ :: _, _ => rfl
  | @unmatched s hnone =>
    simp only [selectIndex, Selector.findIndex?_eq_none_iff.mpr hnone]

/-- Either an action is picked or there is a reason why none is. -/
theorem exists_picked_or_selectionFails (actions : List Action) (selector : Option Selector) :
    (∃ a, Picked actions selector a) ∨ ∃ e, SelectionFails actions selector e := by
  cases selector with
  | none =>
    match actions with
    | [] => exact Or.inr ⟨_, .nothing rfl⟩
    | [a] => exact Or.inl ⟨a, rfl⟩
    | a :: b :: rest =>
      exact Or.inr ⟨_, .several (by rw [List.length_cons, List.length_cons]; omega)⟩
  | some s =>
    cases hfound : s.findIndex? actions with
    | none => exact Or.inr ⟨_, .unmatched (Selector.findIndex?_eq_none_iff.mp hfound)⟩
    | some i =>
      obtain ⟨a, ha, haccepts, hbefore⟩ := Selector.findIndex?_eq_some_iff.mp hfound
      obtain ⟨hi, rfl⟩ := List.getElem?_eq_some_iff.mp ha
      have hlength : (actions.take i).length = i := List.length_take_of_le (Nat.le_of_lt hi)
      refine Or.inl ⟨actions[i], actions.take i, actions.drop (i + 1), ?_, ?_, ?_⟩
      · rw [List.getElem_cons_drop, List.take_append_drop]
      · rwa [hlength]
      · intro j b hb
        have hj : j < i := by
          rw [← hlength]
          exact (List.getElem?_eq_some_iff.mp hb).1
        rw [List.getElem?_take_of_lt hj] at hb
        exact hbefore j b hj hb

end Selection

/-! ## Verifying what an action gives -/

/-- Why a case about an action fails: none is picked, the one that is picked fails, or it gives
another text than the expected one. What an action raises is pinned on the component and the title
of the action. -/
inductive VerifyFails (actions : List Action) (selector : Option Selector) (component : String)
    (expected : Text) : Fault → Prop
  | selection {e : SelectionError} (h : SelectionFails actions selector e) :
      VerifyFails actions selector component expected (.selection e)
  | application {a : Action} {f : Fault} (picked : Picked actions selector a)
      (failed : a.result = .error f) :
      VerifyFails actions selector component expected
        (f.pinOn (component ++ " (" ++ quoted a.title ++ ")"))
  | mismatch {a : Action} {t : Text} (picked : Picked actions selector a)
      (applied : a.result = .ok t) (different : t ≠ expected) :
      VerifyFails actions selector component expected (.mismatch t expected)

section Verification

variable {actions : List Action} {selector : Option Selector} {component : String}
  {expected : Text}

theorem verifyAction_of_picked {a : Action} (h : Picked actions selector a)
    (hresult : a.result = .ok expected) :
    verifyAction actions selector component expected = .done () := by
  rw [verifyAction, selectAction_of_picked h, Outcome.ofExcept, Outcome.done_bind, applyAction,
    hresult, Outcome.done_bind, verifyTransformation, if_pos rfl, Outcome.ofExcept]

theorem verifyAction_of_verifyFails {f : Fault}
    (h : VerifyFails actions selector component expected f) :
    verifyAction actions selector component expected = .raised f := by
  cases h with
  | selection he =>
    rw [verifyAction, selectAction_of_selectionFails he, Outcome.ofExcept, Outcome.raised_bind]
  | application hpicked hfailed =>
    rw [verifyAction, selectAction_of_picked hpicked, Outcome.ofExcept, Outcome.done_bind,
      applyAction, hfailed, Outcome.raised_bind]
  | mismatch hpicked happlied hdifferent =>
    rw [verifyAction, selectAction_of_picked hpicked, Outcome.ofExcept, Outcome.done_bind,
      applyAction, happlied, Outcome.done_bind, verifyTransformation, if_neg hdifferent,
      Outcome.ofExcept, id]

theorem exists_picked_or_verifyFails (actions : List Action) (selector : Option Selector)
    (component : String) (expected : Text) :
    (∃ a, Picked actions selector a ∧ a.result = .ok expected) ∨
      ∃ f, VerifyFails actions selector component expected f := by
  rcases exists_picked_or_selectionFails actions selector with ⟨a, ha⟩ | ⟨e, he⟩
  · cases hresult : a.result with
    | error f => exact Or.inr ⟨_, .application ha hresult⟩
    | ok t =>
      by_cases hsame : t = expected
      · exact Or.inl ⟨a, ha, by rw [hresult, hsame]⟩
      · exact Or.inr ⟨_, .mismatch ha hresult hsame⟩
  · exact Or.inr ⟨_, .selection he⟩

end Verification

end Assay
