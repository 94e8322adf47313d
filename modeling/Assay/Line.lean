import Assay.Span

/-!
# Lines

A line ends with a carriage return and a line feed, with a line feed, or with a lone carriage
return. `Line.split` cuts a text into lines that keep their endings, so that the lines put together
are the text; a text that ends with an ending has no empty line behind it. `lineStarts` lists the
offsets at which lines begin, that empty line included.

## Termination

Both scans go through the characters once, and a carriage return with a line feed is one step of
two characters.
-/

namespace Assay

/-! ## Endings -/

/-- What ends a line. -/
inductive LineEnding where
  | crlf
  | lf
  | cr
  /-- The last line of a text need not end. -/
  | none
  deriving DecidableEq, Repr, Inhabited

/-- The characters of an ending. -/
def LineEnding.toText : LineEnding → Text
  | .crlf => ['\r', '\n']
  | .lf => ['\n']
  | .cr => ['\r']
  | .none => []

/-- Whether a character belongs to an ending. -/
def isLineBreak (c : Char) : Bool := c == '\n' || c == '\r'

/-! ## Lines -/

/-- A line: its text and what ends it. -/
structure Line where
  text : Text
  ending : LineEnding
  deriving DecidableEq, Repr, Inhabited

namespace Line

/-- All characters of a line. -/
def toText (line : Line) : Text := line.text ++ line.ending.toText

/-- The line with a character more in front. -/
def cons (c : Char) (line : Line) : Line := ⟨c :: line.text, line.ending⟩

/-- The lines with a character more in front of the first; a character alone is an unended line. -/
def consFirst (c : Char) : List Line → List Line
  | [] => [⟨[c], .none⟩]
  | line :: lines => line.cons c :: lines

/-- The lines of a text. -/
def split : Text → List Line
  | [] => []
  | '\r' :: '\n' :: rest => ⟨[], .crlf⟩ :: split rest
  | '\r' :: rest => ⟨[], .cr⟩ :: split rest
  | '\n' :: rest => ⟨[], .lf⟩ :: split rest
  | c :: rest => consFirst c (split rest)

/-- The text that lines make up. -/
def unsplit (lines : List Line) : Text := lines.flatMap toText

@[simp] theorem unsplit_nil : unsplit [] = [] := rfl

@[simp] theorem unsplit_cons (line : Line) (lines : List Line) :
    unsplit (line :: lines) = line.toText ++ unsplit lines := rfl

theorem unsplit_consFirst (c : Char) (lines : List Line) :
    unsplit (consFirst c lines) = c :: unsplit lines := by
  cases lines <;> simp [consFirst, cons, toText, LineEnding.toText]

/-- Nothing is lost by splitting. -/
theorem unsplit_split (t : Text) : unsplit (split t) = t := by
  fun_induction split t <;> simp_all [toText, LineEnding.toText, unsplit_consFirst]

end Line

/-! ## Where lines start -/

/-- The offsets behind the endings of a text whose first character is at `offset`. -/
def startsAfter (offset : Nat) : Text → List Nat
  | [] => []
  | '\r' :: '\n' :: rest => (offset + 2) :: startsAfter (offset + 2) rest
  | '\r' :: rest => (offset + 1) :: startsAfter (offset + 1) rest
  | '\n' :: rest => (offset + 1) :: startsAfter (offset + 1) rest
  | _ :: rest => startsAfter (offset + 1) rest

/-- The offsets at which the lines of a text start. -/
def lineStarts (t : Text) : List Nat := 0 :: startsAfter 0 t

/-- All later lines start behind the offset that the scan is at. -/
theorem lt_of_mem_startsAfter {offset : Nat} {t : Text} {s : Nat} (h : s ∈ startsAfter offset t) :
    offset < s := by
  fun_induction startsAfter offset t with
  | case1 => simp at h
  | case2 _ _ ih | case3 _ _ _ ih | case4 _ _ ih =>
    rcases List.mem_cons.1 h with rfl | h
    · omega
    · have := ih h
      omega
  | case5 _ _ _ _ _ _ ih =>
    have := ih h
    omega

end Assay
