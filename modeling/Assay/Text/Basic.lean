/-!
# Text

A text is its list of code points. Every offset and length of the library counts code points, so a
cut, a search or a position is a statement about lists, and no encoding is in sight.

Character classes that go beyond ASCII are given by tables of closed ranges; `inRanges` is the only
way in which a table is read.
-/

namespace Assay

/-- A text as its code points. -/
abbrev Text := List Char

/-! ## Range tables -/

/-- Closed ranges of code points, in ascending order. -/
abbrev RangeTable := List (Nat × Nat)

/-- Whether a code point lies in one of the ranges. -/
def inRanges (table : RangeTable) (n : Nat) : Bool :=
  table.any fun range => range.1 ≤ n && n ≤ range.2

namespace Text

/-! ## Order -/

/-- Whether one text comes before another one or is the same, by their code points. -/
def comesBefore : Text → Text → Bool
  | [], _ => true
  | _ :: _, [] => false
  | c :: t, d :: u => c.toNat < d.toNat || c == d && comesBefore t u

/-! ## Searching and cutting -/

/-- The stretch of `t` that starts at `start` and has `length` characters. -/
def slice (t : Text) (start length : Nat) : Text := (t.drop start).take length

/-- Whether `part` occurs somewhere in the text. -/
def includes (t part : Text) : Bool :=
  match t with
  | [] => part.isEmpty
  | c :: rest => part.isPrefixOf (c :: rest) || includes rest part

variable {α : Type} [DecidableEq α]

/-- The pieces between the occurrences of `sep`; a text without it is one piece. -/
def splitAt (sep : α) : List α → List (List α)
  | [] => [[]]
  | c :: rest =>
    if c = sep then [] :: splitAt sep rest
    else match splitAt sep rest with
      | [] => [[c]]
      | piece :: pieces => (c :: piece) :: pieces

/-- The pieces put together again, with `sep` between them. -/
def join (sep : List α) : List (List α) → List α
  | [] => []
  | [piece] => piece
  | piece :: pieces => piece ++ sep ++ join sep pieces

/-- The text without the characters of a class at its two ends. -/
def trim (drops : Char → Bool) (t : Text) : Text :=
  ((t.dropWhile drops).reverse.dropWhile drops).reverse

end Text

end Assay
