import Assay.Text.Basic

/-!
# Alignment

An edit script turns one list into another by keeping, deleting and inserting items. `align` gives
a script that keeps a longest common subsequence. Items that the lists share at their ends are kept
at once; for what is between, a table holds the length of a longest common subsequence of every two
suffixes, and a walk through it deletes where that loses nothing and inserts elsewhere.
-/

namespace Assay

/-- A step of an edit script. Items are named by their index in their list. -/
inductive EditStep where
  | keep (left right : Nat)
  | delete (left : Nat)
  | insert (right : Nat)
  deriving DecidableEq, Repr

namespace Alignment

variable {α : Type} [DecidableEq α]

/-! ## The table -/

/-- The row of the table for `x` in front of a list whose row is `below`: entry `j` belongs to the
list and the suffix of `right` from `j` on. -/
def row (x : α) : List α → List Nat → List Nat
  | [], _ => [0]
  | y :: right, below =>
    let later := row x right below.tail
    let here := if x = y then below.tail.headD 0 + 1 else max (below.headD 0) (later.headD 0)
    here :: later

/-- The rows of the table: row `i` belongs to the suffix of `left` from `i` on. -/
def table (left right : List α) : List (List Nat) :=
  match left with
  | [] => [List.replicate (right.length + 1) 0]
  | x :: rest =>
    let rows := table rest right
    row x right (rows.headD []) :: rows

/-- The entry of the table for two suffixes. -/
def entry (rows : List (List Nat)) (i j : Nat) : Nat := (rows.getD i []).getD j 0

/-! ## The walk -/

/-- The script for the suffixes `left` from `i` on and `right` from `j` on. The offset `shared`
counts the items that the whole lists share before them. -/
def walk (rows : List (List Nat)) (shared i j : Nat) : List α → List α → List EditStep
  | [], right => (List.range right.length).map fun k => .insert (shared + j + k)
  | left, [] => (List.range left.length).map fun k => .delete (shared + i + k)
  | x :: left, y :: right =>
    if x = y then .keep (shared + i) (shared + j) :: walk rows shared (i + 1) (j + 1) left right
    else if entry rows i (j + 1) ≤ entry rows (i + 1) j then
      .delete (shared + i) :: walk rows shared (i + 1) j left (y :: right)
    else .insert (shared + j) :: walk rows shared i (j + 1) (x :: left) right
termination_by left right => left.length + right.length

/-- How many items two lists share at their fronts. -/
def sharedFront : List α → List α → Nat
  | x :: left, y :: right => if x = y then sharedFront left right + 1 else 0
  | _, _ => 0

theorem sharedFront_le_left (left right : List α) : sharedFront left right ≤ left.length := by
  fun_induction sharedFront left right with
  | case1 left y right ih => exact Nat.succ_le_succ ih
  | case2 => exact Nat.zero_le _
  | case3 => exact Nat.zero_le _

theorem sharedFront_le_right (left right : List α) : sharedFront left right ≤ right.length := by
  fun_induction sharedFront left right with
  | case1 left y right ih => exact Nat.succ_le_succ ih
  | case2 => exact Nat.zero_le _
  | case3 => exact Nat.zero_le _

end Alignment

/-- A script that turns `left` into `right` and keeps a longest common subsequence. -/
def align {α : Type} [DecidableEq α] (left right : List α) : List EditStep :=
  let front := Alignment.sharedFront left right
  let back := Alignment.sharedFront (left.drop front).reverse (right.drop front).reverse
  let leftCore := (left.drop front).take (left.length - front - back)
  let rightCore := (right.drop front).take (right.length - front - back)
  (List.range front).map (fun k => .keep k k)
    ++ Alignment.walk (Alignment.table leftCore rightCore) front 0 0 leftCore rightCore
    ++ (List.range back).map fun k => .keep (left.length - back + k) (right.length - back + k)

end Assay
