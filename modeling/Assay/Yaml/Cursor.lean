import Assay.Text.Basic

/-!
# Places in a YAML text

A cursor is a place in a text: what is left of it, and the index, the line and the column of the
place. Moving on never leaves more text than before, which is why the readers of tokens end.
-/

namespace Assay.Yaml

/-! ## Characters -/

/-- The characters that a document may hold. -/
def isPrintable (c : Char) : Bool :=
  c == '\t' || c == '\n' || c == '\r' || c == '\u0085' ||
    inRanges [(0x20, 0x7E), (0xA0, 0xD7FF), (0xE000, 0xFFFD), (0x10000, 0x10FFFF)] c.toNat

/-- The characters that end a line. -/
def isBreak (c : Char) : Bool :=
  c == '\n' || c == '\r' || c == '\u0085' || c == '\u2028' || c == '\u2029'

/-- Spaces and tabs. -/
def isSpacing (c : Char) : Bool := c == ' ' || c == '\t'

/-- Whether what comes next ends a word: a blank, a line break or the end of the text. -/
def endsWord : Option Char → Bool
  | none => true
  | some c => isSpacing c || isBreak c

/-- Whether what comes next ends a word, where a tab does not. -/
def endsWordButTab : Option Char → Bool
  | none => true
  | some c => c == ' ' || isBreak c

/-- The characters of anchors and of the names of directives and handles. -/
def isNameCharacter (c : Char) : Bool :=
  ('0' ≤ c && c ≤ '9') || ('A' ≤ c && c ≤ 'Z') || ('a' ≤ c && c ≤ 'z') || c == '-' || c == '_'

/-! ## Cursors -/

/-- A place in a text. -/
structure Cursor where
  rest : Text
  index : Nat
  line : Nat
  column : Nat
  deriving Repr

namespace Cursor

/-- The start of a text. -/
def start (t : Text) : Cursor := ⟨t, 0, 0, 0⟩

/-- The next character. -/
def next? (c : Cursor) : Option Char := c.rest.head?

/-- The character after the next one. -/
def afterNext? (c : Cursor) : Option Char := c.rest.tail.head?

/-- The place after the next character. A carriage return before a line feed does not end the line
yet, and a byte order mark takes no column. -/
def advance (c : Cursor) : Cursor :=
  match c.rest with
  | [] => c
  | ch :: rest =>
    if isBreak ch && !(ch == '\r' && rest.head? == some '\n') then ⟨rest, c.index + 1, c.line + 1, 0⟩
    else ⟨rest, c.index + 1, c.line, if ch = '\ufeff' then c.column else c.column + 1⟩

@[simp] theorem advance_rest (c : Cursor) : c.advance.rest = c.rest.tail := by
  unfold advance
  split
  · simp_all
  · split <;> simp_all

/-- The place after some characters. -/
def advanceBy : Nat → Cursor → Cursor
  | 0, c => c
  | n + 1, c => advanceBy n c.advance

@[simp] theorem advanceBy_rest (n : Nat) (c : Cursor) : (advanceBy n c).rest = c.rest.drop n := by
  induction n generalizing c with
  | zero => rfl
  | succ n ih => simp [advanceBy, ih]

/-- The characters of a class from here on, and the place after them. -/
def takeWhile (p : Char → Bool) (c : Cursor) : Text × Cursor :=
  let taken := c.rest.takeWhile p
  (taken, advanceBy taken.length c)

/-- The place after the characters of a class. -/
def skipWhile (p : Char → Bool) (c : Cursor) : Cursor := (c.takeWhile p).2

theorem takeWhile_length_le (p : Char → Bool) (c : Cursor) :
    (c.takeWhile p).2.rest.length ≤ c.rest.length := by
  simp [takeWhile]

/-- Moving on by a character or more leaves less text, if there is any. -/
theorem advanceBy_length_lt {n : Nat} {c : Cursor} {ch : Char} {rest : Text}
    (hn : 0 < n) (hr : c.rest = ch :: rest) : (advanceBy n c).rest.length < c.rest.length := by
  have hc : 0 < c.rest.length := by
    rw [hr]
    exact Nat.succ_pos _
  rw [advanceBy_rest, List.length_drop]
  exact Nat.sub_lt hc hn

theorem takeWhile_length_lt {p : Char → Bool} {c : Cursor} {ch : Char} {rest : Text}
    (hr : c.rest = ch :: rest) (h : p ch = true) :
    (c.takeWhile p).2.rest.length < c.rest.length := by
  refine advanceBy_length_lt ?_ hr
  rw [hr, List.takeWhile_cons_of_pos h]
  exact Nat.succ_pos _

theorem skipWhile_length_le (p : Char → Bool) (c : Cursor) :
    (c.skipWhile p).rest.length ≤ c.rest.length := takeWhile_length_le p c

/-- The line break that comes next, as one character, and the place after it. A carriage return
with or without a line feed and a next-line character count as line feeds. -/
def lineBreak? (c : Cursor) : Option (Char × Cursor) :=
  match c.rest with
  | '\r' :: '\n' :: _ => some ('\n', advanceBy 2 c)
  | ch :: _ =>
    if ch == '\n' || ch == '\r' || ch == '\u0085' then some ('\n', c.advance)
    else if ch == '\u2028' || ch == '\u2029' then some (ch, c.advance)
    else none
  | [] => none

theorem lineBreak?_length {c next : Cursor} {b : Char} (h : c.lineBreak? = some (b, next)) :
    next.rest.length < c.rest.length := by
  unfold lineBreak? at h
  split at h
  · rename_i hr
    cases h
    exact advanceBy_length_lt (by decide) hr
  · rename_i ch rest _ hr
    split at h
    · cases h; simp [hr]
    · split at h
      · cases h; simp [hr]
      · cases h
  · cases h

theorem lineBreak?_isSome {c : Cursor} {ch : Char} {rest : Text} (hr : c.rest = ch :: rest)
    (h : isBreak ch = true) : c.lineBreak?.isSome := by
  unfold lineBreak?
  rw [hr]
  split
  · rfl
  · rename_i heq
    cases heq
    simp only [isBreak, Bool.or_eq_true, beq_iff_eq] at h
    split
    · rfl
    · split
      · rfl
      · simp_all
  · rename_i heq
    cases heq

/-- The place after spaces, comments and line breaks; also whether a line has ended. -/
def toToken (c : Cursor) : Bool × Cursor :=
  let blank := c.skipWhile (· == ' ')
  let plain := if blank.next? == some '#' then blank.skipWhile fun ch => !isBreak ch else blank
  match _h : plain.lineBreak? with
  | some (_, next) => (true, (toToken next).2)
  | none => (false, plain)
termination_by c.rest.length
decreasing_by
  have h1 := lineBreak?_length _h
  have h2 : plain.rest.length ≤ blank.rest.length := by
    unfold plain
    split
    · exact skipWhile_length_le _ _
    · exact Nat.le_refl _
  have h3 : blank.rest.length ≤ c.rest.length := skipWhile_length_le _ _
  omega

/-- Whether three equal characters that mark the start or the end of a document come next. -/
def atMark (mark : Char) (c : Cursor) : Bool :=
  match c.rest with
  | a :: b :: d :: rest => a == mark && b == mark && d == mark && endsWord rest.head?
  | _ => false

/-- Whether a document starts or ends here, given that a line starts here. -/
def atDocumentMark (c : Cursor) : Bool := c.atMark '-' || c.atMark '.'

/-- The rest of the line, its line break, if it has one, and the place after both. -/
def takeLine (c : Cursor) : Text × Text × Cursor :=
  let (line, c) := c.takeWhile fun ch => !isBreak ch
  match c.lineBreak? with
  | some (b, next) => (line, [b], next)
  | none => (line, [], c)

theorem takeLine_length {c : Cursor} (h : c.rest ≠ []) :
    c.takeLine.2.2.rest.length < c.rest.length := by
  obtain ⟨ch, rest, hr⟩ := List.exists_cons_of_ne_nil h
  unfold takeLine
  by_cases hb : isBreak ch = true
  · have ht : c.rest.takeWhile (fun ch => !isBreak ch) = [] := by simp [hr, hb]
    have hc : (c.takeWhile fun ch => !isBreak ch) = ([], c) := by
      simp [takeWhile, ht, advanceBy]
    have hs := lineBreak?_isSome hr hb
    obtain ⟨⟨b, next⟩, hn⟩ := Option.isSome_iff_exists.1 hs
    simp only [hc, hn]
    exact lineBreak?_length hn
  · have hlt : (c.takeWhile fun ch => !isBreak ch).2.rest.length < c.rest.length :=
      takeWhile_length_lt hr (by simp [hb])
    simp only
    split
    · rename_i b next hn
      have := lineBreak?_length hn
      simp only
      omega
    · exact hlt

/-- What follows spaces, a possible comment and a line break, or nothing if anything else is there
before the line ends. -/
def endLine? (c : Cursor) : Option Cursor :=
  let c := c.skipWhile (· == ' ')
  let c := if c.next? == some '#' then c.skipWhile fun ch => !isBreak ch else c
  match c.lineBreak? with
  | some (_, next) => some next
  | none => if c.rest.isEmpty then some c else none

end Cursor

end Assay.Yaml
