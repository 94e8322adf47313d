/-!
# Assignments along edges

Seekers take items, each at most one item and each item at most one seeker. A seeker takes an item
that is free, or one whose owner can be moved to another item, and so on along an alternating path.
`augment` searches for such a path; `assignAll` tries it once for every seeker in turn.

Seekers and items are numbers, and `edges` lists the items that a seeker can take, the preferred
ones first.

## Termination

Every step of the search marks an item as seen, and items are never unmarked. So a search that may
go as deep as there are items goes as deep as it needs.
-/

namespace Assay.Matching

/-- Who owns which item: the items that are owned, each with its owner. -/
structure Owners where
  pairs : List (Nat × Nat)
  deriving DecidableEq, Repr, Inhabited

namespace Owners

/-- Nobody owns anything. -/
def empty : Owners := ⟨[]⟩

/-- The owner of an item. -/
def owner? (owners : Owners) (item : Nat) : Option Nat := owners.pairs.lookup item

/-- The owners after a seeker has taken an item. -/
def give (owners : Owners) (item seeker : Nat) : Owners :=
  ⟨(item, seeker) :: owners.pairs.filter fun pair => pair.1 != item⟩

@[simp] theorem owner?_empty (item : Nat) : empty.owner? item = none := rfl

@[simp] theorem owner?_give_same (owners : Owners) (item seeker : Nat) :
    (owners.give item seeker).owner? item = some seeker := by
  simp [give, owner?]

theorem lookup_filter_ne {item other : Nat} (h : other ≠ item) (pairs : List (Nat × Nat)) :
    (pairs.filter fun pair => pair.1 != item).lookup other = pairs.lookup other := by
  induction pairs with
  | nil => rfl
  | cons pair pairs ih =>
    obtain ⟨i, s⟩ := pair
    by_cases hi : i = item
    · subst hi
      simp [ih, List.lookup_cons, beq_false_of_ne h]
    · by_cases ho : other = i
      · simp [hi, ho]
      · simp [hi, ih, List.lookup_cons, beq_false_of_ne ho]

theorem owner?_give_other (owners : Owners) {item other : Nat} (seeker : Nat) (h : other ≠ item) :
    (owners.give item seeker).owner? other = owners.owner? other := by
  simp [give, owner?, List.lookup_cons, beq_false_of_ne h, lookup_filter_ne h]

/-- The item that a seeker owns, among the first `items` items. -/
def itemOf? (owners : Owners) (items seeker : Nat) : Option Nat :=
  (List.range items).find? fun i => owners.owner? i == some seeker

end Owners

/-- The first of the choices that the seeker can have, taken for it; `move` tries to move the owner
of an item elsewhere. Also the items seen so far. -/
def firstChoice (owners : Owners) (seeker : Nat)
    (move : Nat → List Nat → Option Owners × List Nat) :
    List Nat → List Nat → Option Owners × List Nat
  | [], seen => (none, seen)
  | item :: choices, seen =>
    if item ∈ seen then firstChoice owners seeker move choices seen
    else match owners.owner? item with
      | none => (some (owners.give item seeker), item :: seen)
      | some owner =>
        match move owner (item :: seen) with
        | (some moved, seen) => (some (moved.give item seeker), seen)
        | (none, seen) => firstChoice owners seeker move choices seen

/-- The owners after the seeker has got an item along an alternating path of at most `depth` items
that are not seen yet, if there is one, and the items seen in the search. -/
def augment (edges : Nat → List Nat) (owners : Owners) :
    Nat → Nat → List Nat → Option Owners × List Nat
  | 0, _, seen => (none, seen)
  | depth + 1, seeker, seen =>
    firstChoice owners seeker (augment edges owners depth) (edges seeker) seen

/-- The owners after one seeker has tried to get one of `items` items. -/
def assignOne (edges : Nat → List Nat) (items : Nat) (owners : Owners) (seeker : Nat) : Owners :=
  (augment edges owners items seeker []).1.getD owners

/-- The owners after each of the seekers has tried in turn. -/
def assignAll (edges : Nat → List Nat) (items : Nat) (owners : Owners) (seekers : List Nat) :
    Owners :=
  seekers.foldl (assignOne edges items) owners

end Assay.Matching
