import Assay.Line

/-!
# Locations

Reports name a place by file, line and column, both counted from one. The line of an offset is the
last line that starts at or before it; an offset before the text is on line zero.
-/

namespace Assay

/-- A line and a column, counted from one. -/
structure Position where
  line : Nat
  column : Nat
  deriving DecidableEq, Repr

namespace Position

/-- The position of an offset among line starts in ascending order. -/
def ofOffset (starts : List Nat) (offset : Nat) : Position :=
  let passed := starts.filter fun start => start ≤ offset
  ⟨passed.length, offset - passed.getLastD 0 + 1⟩

end Position

/-- The number of the line that an offset is on. -/
def lineOf (t : Text) (offset : Int) : Nat :=
  ((lineStarts t).filter fun (start : Nat) => (start : Int) ≤ offset).length

/-- The file name of a text that has none. -/
def anonymousFile : String := "<test>"

/-- A place in a file: where a span starts and, if known, where it stops. -/
structure Location where
  file : String
  start : Position
  stop : Option Position
  deriving DecidableEq, Repr

namespace Location

/-- The place of a span in a text. -/
def ofSpan (t : Text) (s : Span) (file : String) : Location :=
  let starts := lineStarts t
  ⟨file, Position.ofOffset starts s.start, some (Position.ofOffset starts s.stop)⟩

/-- The place as reports show it: with both ends in parentheses, or the start alone between
colons. -/
def toText (l : Location) : String :=
  match l.stop with
  | none => l.file ++ ":" ++ toString l.start.line ++ ":" ++ toString l.start.column
  | some stop =>
    l.file ++ "(" ++ toString l.start.line ++ "," ++ toString l.start.column ++ ")-("
      ++ toString stop.line ++ "," ++ toString stop.column ++ ")"

/-- The place without its end. -/
def short (l : Location) : Location := { l with stop := none }

end Location

end Assay
