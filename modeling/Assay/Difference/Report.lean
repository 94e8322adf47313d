import Assay.Difference.Alignment
import Assay.Line

/-!
# Reports of differences

What differs between an expected and an actual text is shown line by line. Changed lines without an
unchanged line between them form a block, which lists the expected lines that are missing and then
the actual lines that are too many. Blanks and line endings are shown by signs, so that lines that
differ look different.
-/

namespace Assay

/-! ## Visible text -/

/-- The sign that a character is shown by. -/
def visibleChar : Char → Char
  | ' ' => '·'
  | '\t' => '→'
  | '\r' => '␍'
  | '\n' => '␊'
  | c => c

/-- The text with signs for blanks and line ends. -/
def visible (t : Text) : Text := t.map visibleChar

/-- The line with its ending, with signs for blanks and line ends. -/
def Line.visible (line : Line) : Text := Assay.visible line.toText

namespace Difference

/-! ## Blocks -/

/-- The side that a differing line is on. -/
inductive Change where
  /-- Expected and missing. -/
  | removed
  /-- Not expected. -/
  | added
  deriving DecidableEq, Repr

/-- The sign of a side. -/
def Change.sign : Change → String
  | .removed => "-"
  | .added => "+"

/-- A differing line, with its number in its own text. -/
structure Entry where
  number : Nat
  change : Change
  shown : Text
  deriving DecidableEq, Repr

/-- The line as a report shows it: sign, number, text. -/
def Entry.toText (e : Entry) : String :=
  let number := toString e.number
  e.change.sign ++ String.ofList (List.replicate (5 - number.length) ' ') ++ number ++ ": "
    ++ String.ofList e.shown

/-- Differing lines without an unchanged line between them. -/
structure Block where
  removed : List Entry
  added : List Entry
  deriving DecidableEq, Repr

namespace Block

/-- The lines of a block, the missing ones first. -/
def entries (b : Block) : List Entry := b.removed ++ b.added

/-- Whether a block has no line. -/
def isEmpty (b : Block) : Bool := b.removed.isEmpty && b.added.isEmpty

/-- The number of the first line of a block, in the expected text if it has one there. -/
def firstLine (b : Block) : Nat := (b.entries.head?.map Entry.number).getD 0

/-- The block with its headline. -/
def toText (b : Block) : String :=
  "Line " ++ toString b.firstLine ++ ":\n" ++ "\n".intercalate (b.entries.map Entry.toText)

/-- The block with a missing line more in front. -/
def consRemoved (e : Entry) (b : Block) : Block := ⟨e :: b.removed, b.added⟩

/-- The block with an unexpected line more in front. -/
def consAdded (e : Entry) (b : Block) : Block := ⟨b.removed, e :: b.added⟩

end Block

/-- The expected line with an index, as missing. -/
def removedEntry (expected : List Line) (i : Nat) : Entry :=
  ⟨i + 1, .removed, (expected.getD i default).visible⟩

/-- The actual line with an index, as not expected. -/
def addedEntry (actual : List Line) (j : Nat) : Entry :=
  ⟨j + 1, .added, (actual.getD j default).visible⟩

/-- The block that a script starts with, which is empty if the script starts with a kept line, and
the blocks behind it. -/
def group (expected actual : List Line) : List EditStep → Block × List Block
  | [] => (⟨[], []⟩, [])
  | step :: rest =>
    let (block, blocks) := group expected actual rest
    match step with
    | .keep _ _ => (⟨[], []⟩, if block.isEmpty then blocks else block :: blocks)
    | .delete i => (block.consRemoved (removedEntry expected i), blocks)
    | .insert j => (block.consAdded (addedEntry actual j), blocks)

/-- The blocks of a script. -/
def blocksOf (expected actual : List Line) (script : List EditStep) : List Block :=
  let (block, blocks) := group expected actual script
  if block.isEmpty then blocks else block :: blocks

/-- The blocks of lines that differ between two texts. -/
def blocks (actual expected : Text) : List Block :=
  let expectedLines := Line.split expected
  let actualLines := Line.split actual
  blocksOf expectedLines actualLines (align expectedLines actualLines)

/-! ## The report -/

/-- What the signs mean. -/
def legend : String := "(- expected, + actual; · space, → tab, ␍ CR, ␊ LF)"

/-- The line between blocks. -/
def separator : String := String.ofList (List.replicate 40 '=')

/-- The report about blocks; there is none without blocks. -/
def report (blocks : List Block) : String :=
  if blocks.isEmpty then ""
  else "\n".intercalate
    (legend :: blocks.flatMap (fun b => [separator, b.toText]) ++ [separator])

end Difference

/-- The report about what differs between two texts; empty if nothing does. -/
def differenceReport (actual expected : Text) : String :=
  Difference.report (Difference.blocks actual expected)

end Assay
