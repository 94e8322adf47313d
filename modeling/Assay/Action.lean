import Assay.Fault

/-!
# Actions

A component offers actions, each with a title and possibly a key that actions of one meaning share.
Applying an action gives the transformed text, or fails. A selector picks one of the actions that
are on offer; without a selector there must be exactly one.
-/

namespace Assay

/-- An action on offer. -/
structure Action where
  title : String
  key : Option String
  /-- What applying the action comes to. -/
  result : Except Fault Text

namespace Action

/-- The action that applies edits to a text. -/
def ofEdits (title : String) (t : Text) (edits : List Edit) (key : Option String) : Action :=
  ⟨title, key, (applyEdits t edits).mapError .edit⟩

/-- Whether two actions are the same to a selector. -/
def same (a b : Action) : Bool := a.title = b.title && a.key = b.key

end Action

/-! ## Selectors -/

/-- How an action is picked. -/
inductive Selector where
  | index (i : Int)
  | title (title : Option String)
  | titleContaining (part : String)
  | key (key : Option String)
  /-- A selector of another make that finds nothing. -/
  | custom (name : String)
  deriving DecidableEq, Repr

namespace Selector

/-- A text of a selector, if it has one, in quotes. -/
def shown (t : Option String) : String := (t.map quoted).getD "None"

/-- The index of the action that a selector picks. Without a text no action has it. -/
def findIndex? (s : Selector) (actions : List Action) : Option Nat :=
  match s with
  | .index i => if 0 ≤ i ∧ i < actions.length then some i.toNat else none
  | .title wanted => actions.findIdx? fun a => some a.title = wanted
  | .titleContaining part => actions.findIdx? fun a => Text.includes a.title.toList part.toList
  | .key wanted => actions.findIdx? fun a => a.key = wanted
  | .custom _ => none

/-- The criteria of a selector in words. -/
def describe : Selector → String
  | .index i => "index " ++ toString i
  | .title wanted => "title " ++ shown wanted
  | .titleContaining part => "title containing " ++ quoted part
  | .key wanted => "equivalence key " ++ shown wanted
  | .custom name => name

end Selector

/-- The index of the action to apply. -/
def selectIndex (actions : List Action) (selector : Option Selector) :
    Except SelectionError Nat :=
  let titles := actions.map Action.title
  match selector with
  | none =>
    match actions with
    | [] => .error (.noneApplicable titles none)
    | [_] => .ok 0
    | _ => .error (.ambiguous titles)
  | some s =>
    match s.findIndex? actions with
    | some i => .ok i
    | none => .error (.noneApplicable titles (some s.describe))

/-- The action to apply. -/
def selectAction (actions : List Action) (selector : Option Selector) :
    Except SelectionError Action := do
  let i ← selectIndex actions selector
  match actions[i]? with
  | some a => return a
  | none => throw (.noneApplicable (actions.map Action.title) none)

/-- The demand that a transformed text is the expected one, character for character. -/
def verifyTransformation (actual expected : Text) : Except Fault Unit :=
  if actual = expected then .ok () else .error (.mismatch actual expected)

/-! ## Completions -/

/-- An entry of a completion list. -/
structure CompletionItem where
  label : String
  kind : String
  detail : Option String
  deriving DecidableEq, Repr, Inhabited

end Assay
