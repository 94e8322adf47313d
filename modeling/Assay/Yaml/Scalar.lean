import Assay.Yaml.Cursor
import Assay.Yaml.Error

/-!
# Scalars as they are written

A scalar stands in quotes, or plainly, or as a block of lines. In all three a single line break
between two words counts as a space, and of several line breaks the first does not count.
-/

namespace Assay.Yaml

/-- What a line break and the empty lines after it stand for: nothing else following, a line feed
is a space. -/
def fold (b : Char) (breaks : Text) : Text :=
  (if b ≠ '\n' then [b] else if breaks.isEmpty then [' '] else []) ++ breaks

namespace Scalar

/-! ## Quoted scalars -/

/-- The line breaks of the empty lines from here on, where a document must not end. -/
def quotedBreaks (c : Cursor) : Except Error (Text × Cursor) :=
  if c.atDocumentMark then .error .markInQuote
  else
    let words := c.skipWhile isSpacing
    match _h : words.lineBreak? with
    | none => .ok ([], words)
    | some (b, next) => do
      let (breaks, c) ← quotedBreaks next
      return (b :: breaks, c)
termination_by c.rest.length
decreasing_by
  have h1 := Cursor.lineBreak?_length _h
  have h2 : words.rest.length ≤ c.rest.length := Cursor.skipWhile_length_le _ _
  omega

theorem quotedBreaks_length_le {c last : Cursor} {breaks : Text}
    (h : quotedBreaks c = .ok (breaks, last)) : last.rest.length ≤ c.rest.length := by
  fun_induction quotedBreaks c generalizing breaks last with
  | case1 => cases h
  | case2 c _ words =>
    cases h
    exact Cursor.skipWhile_length_le _ _
  | case3 c _ words b next hb =>
    rename_i ih
    have h1 := Cursor.lineBreak?_length hb
    have h2 : words.rest.length ≤ c.rest.length := Cursor.skipWhile_length_le _ _
    cases hq : quotedBreaks next with
    | error e => simp [hq, bind, Except.bind] at h
    | ok pair =>
      obtain ⟨more, place⟩ := pair
      have h3 := ih hq
      simp only [hq, bind, Except.bind, pure, Except.pure, Except.ok.injEq, Prod.mk.injEq] at h
      obtain ⟨-, rfl⟩ := h
      omega

/-- What the letter after a backslash stands for. -/
def escapes : List (Char × Char) :=
  [('0', '\x00'), ('a', '\x07'), ('b', '\x08'), ('t', '\t'), ('\t', '\t'), ('n', '\n'),
    ('v', '\x0b'), ('f', '\x0c'), ('r', '\r'), ('e', '\x1b'), (' ', ' '), ('"', '"'),
    ('\\', '\\'), ('/', '/'), ('N', '\u0085'), ('_', '\u00a0'), ('L', '\u2028'),
    ('P', '\u2029')]

/-- How many hexadecimal digits follow a letter after a backslash. -/
def hexLength? : Char → Option Nat
  | 'x' => some 2
  | 'u' => some 4
  | 'U' => some 8
  | _ => none

/-- The value of a hexadecimal digit. -/
def hexValue? (ch : Char) : Option Nat :=
  if '0' ≤ ch ∧ ch ≤ '9' then some (ch.toNat - 0x30)
  else if 'a' ≤ ch ∧ ch ≤ 'f' then some (ch.toNat - 0x61 + 10)
  else if 'A' ≤ ch ∧ ch ≤ 'F' then some (ch.toNat - 0x41 + 10)
  else none

/-- The number that hexadecimal digits write. -/
def hexNumber? (t : Text) : Option Nat :=
  (t.mapM hexValue?).map fun ds => ds.foldl (fun n d => n * 16 + d) 0

/-- The greatest number that is taken for a code point at all. -/
def greatestCode : Nat := 0x7FFFFFFF

/-- The code point with a number. -/
def ofCode (n : Nat) : Except Error CodePoint :=
  if greatestCode < n then .error .tooGreat
  else if 0x10FFFF < n then .error (.codePoint n)
  else .ok (.ofCode n)

/-- What stands behind a backslash at `c`, and the place after it. -/
def escaped (c : Cursor) : Except Error (CodeText × Cursor) :=
  match c.next? with
  | none => .error .escape
  | some ch =>
    match escapes.lookup ch, hexLength? ch with
    | some meant, _ => .ok ([.char meant], c.advance)
    | none, some n =>
      let digits := c.rest.tail.take n
      match if digits.length = n then hexNumber? digits else none with
      | none => .error .escape
      | some code => (ofCode code).map fun meant => ([meant], Cursor.advanceBy (n + 1) c)
    | none, none =>
      match c.lineBreak? with
      | some (_, next) => (quotedBreaks next).map fun (breaks, c) => (CodeText.ofText breaks, c)
      | none => .error .escape

theorem escaped_length_le {c last : Cursor} {meant : CodeText} (h : escaped c = .ok (meant, last)) :
    last.rest.length ≤ c.rest.length := by
  unfold escaped at h
  split at h
  · cases h
  · split at h
    · cases h
      simp
    · simp only at h
      split at h
      · cases h
      · rename_i code _
        cases hc : ofCode code with
        | error e => simp [hc, Except.map] at h
        | ok ch =>
          simp only [hc, Except.map, Except.ok.injEq, Prod.mk.injEq] at h
          obtain ⟨-, rfl⟩ := h
          simp
    · split at h
      · rename_i b next hb
        have h1 := Cursor.lineBreak?_length hb
        cases hq : quotedBreaks next with
        | error e => simp [hq, Except.map] at h
        | ok pair =>
          have h2 := quotedBreaks_length_le hq
          simp only [hq, Except.map, Except.ok.injEq, Prod.mk.injEq] at h
          obtain ⟨-, rfl⟩ := h
          omega
      · cases h

/-- The next part of a quoted scalar: what it stands for and the place after it, or nothing where
the scalar ends. -/
def quotedPart (quote : Char) (c : Cursor) : Except Error (Option (CodeText × Cursor)) :=
  match c.next? with
  | none => .error .unclosedQuote
  | some ch =>
    if isSpacing ch || isBreak ch then do
      let (blanks, words) := c.takeWhile isSpacing
      match words.lineBreak? with
      | some (b, next) =>
        let (breaks, c) ← quotedBreaks next
        return some (CodeText.ofText (fold b breaks), c)
      | none => return some (CodeText.ofText blanks, words)
    else if ch = quote then
      if quote = '\'' ∧ c.afterNext? = some quote then
        .ok (some ([.char quote], Cursor.advanceBy 2 c))
      else .ok none
    else if quote = '"' ∧ ch = '\\' then (escaped c.advance).map some
    else .ok (some ([.char ch], c.advance))

theorem quotedPart_length {quote : Char} {c next : Cursor} {part : CodeText}
    (h : quotedPart quote c = .ok (some (part, next))) : next.rest.length < c.rest.length := by
  unfold quotedPart at h
  split at h
  · cases h
  · rename_i ch hn
    obtain ⟨rest, hr⟩ : ∃ rest, c.rest = ch :: rest := by
      cases hc : c.rest with
      | nil => simp [Cursor.next?, hc] at hn
      | cons a rest => simp_all [Cursor.next?]
    split at h
    · rename_i hblank
      simp only at h
      have hle := Cursor.takeWhile_length_le isSpacing c
      split at h
      · rename_i b after hb
        have h1 := Cursor.lineBreak?_length hb
        cases hq : quotedBreaks after with
        | error e => simp [hq, bind, Except.bind] at h
        | ok pair =>
          obtain ⟨more, place⟩ := pair
          have h2 := quotedBreaks_length_le hq
          simp only [hq, bind, Except.bind, pure, Except.pure, Except.ok.injEq,
            Option.some.injEq, Prod.mk.injEq] at h
          obtain ⟨-, rfl⟩ := h
          omega
      · rename_i hb
        simp only [pure, Except.pure, Except.ok.injEq, Option.some.injEq, Prod.mk.injEq] at h
        obtain ⟨-, rfl⟩ := h
        by_cases hs : isSpacing ch = true
        · exact Cursor.takeWhile_length_lt hr hs
        · have ht : (c.takeWhile isSpacing).2 = c := by
            simp [Cursor.takeWhile, hr, hs, Cursor.advanceBy]
          have hbreak : isBreak ch = true := by simp_all
          have := Cursor.lineBreak?_isSome hr hbreak
          rw [ht] at hb
          simp [hb] at this
    · split at h
      · split at h
        · cases h
          exact Cursor.advanceBy_length_lt (by decide) hr
        · cases h
      · split at h
        · cases he : escaped c.advance with
          | error e => simp [he, Except.map] at h
          | ok pair =>
            obtain ⟨meant, place⟩ := pair
            have h1 := escaped_length_le he
            simp only [he, Except.map, Except.ok.injEq, Option.some.injEq, Prod.mk.injEq] at h
            obtain ⟨-, rfl⟩ := h
            rw [Cursor.advance_rest, List.length_tail] at h1
            have hc : 0 < c.rest.length := by
              rw [hr]
              exact Nat.succ_pos _
            omega
        · cases h
          simp [hr]

/-- The text of a quoted scalar from a place inside it on, and the place after its closing quote. -/
def quotedRest (quote : Char) (c : Cursor) : Except Error (CodeText × Cursor) :=
  match _h : quotedPart quote c with
  | .error e => .error e
  | .ok none => .ok ([], c.advance)
  | .ok (some (part, next)) => do
    let (text, c) ← quotedRest quote next
    return (part ++ text, c)
termination_by c.rest.length
decreasing_by exact quotedPart_length _h

/-- The text of the quoted scalar at `c`, and the place after it. -/
def quoted (quote : Char) (c : Cursor) : Except Error (CodeText × Cursor) :=
  quotedRest quote c.advance

/-! ## Plain scalars -/

/-- Whether a plain scalar ends before `ch`, which `next` follows. A colon belongs to it inside a
word; in brackets the marks of collections do not. -/
def endsPlain (inBrackets : Bool) (ch : Char) (next : Option Char) : Bool :=
  endsWord (some ch)
    || ch == ':' && (endsWord next || inBrackets && next.any ",[]\x7b\x7d".toList.contains)
    || inBrackets && ",?[]\x7b\x7d".toList.contains ch

/-- The characters of a plain scalar up to the next blank. -/
def plainWord (inBrackets : Bool) : Text → Text
  | [] => []
  | ch :: rest =>
    if endsPlain inBrackets ch rest.head? then [] else ch :: plainWord inBrackets rest

/-- The breaks of the empty lines between two words and the place after them; nothing instead of
the breaks where a document ends. -/
def plainBreaks (c : Cursor) : Option Text × Cursor :=
  let words := c.skipWhile (· == ' ')
  match _h : words.lineBreak? with
  | none => (some [], words)
  | some (b, next) =>
    if next.atDocumentMark then (none, next)
    else
      let (breaks, c) := plainBreaks next
      (breaks.map (b :: ·), c)
termination_by c.rest.length
decreasing_by
  have h1 := Cursor.lineBreak?_length _h
  have h2 : words.rest.length ≤ c.rest.length := Cursor.skipWhile_length_le _ _
  omega

theorem plainBreaks_length_le (c : Cursor) :
    (plainBreaks c).2.rest.length ≤ c.rest.length := by
  fun_induction plainBreaks c with
  | case1 c words _ => exact Cursor.skipWhile_length_le _ _
  | case2 c words b next h _ =>
    have h1 := Cursor.lineBreak?_length h
    have h2 : words.rest.length ≤ c.rest.length := Cursor.skipWhile_length_le _ _
    simp only
    omega
  | case3 c words b next h _ breaks last heq ih =>
    have h1 := Cursor.lineBreak?_length h
    have h2 : words.rest.length ≤ c.rest.length := Cursor.skipWhile_length_le _ _
    rw [heq] at ih
    simp only at ih ⊢
    omega

/-- What stands between two words of a plain scalar: the text that it counts as, the place after
it, and whether a line has ended. -/
def plainGap (c : Cursor) : Text × Cursor × Bool :=
  let (spaces, words) := c.takeWhile (· == ' ')
  match words.lineBreak? with
  | none => (spaces, words, false)
  | some (b, next) =>
    if next.atDocumentMark then ([], next, true)
    else match plainBreaks next with
      | (some breaks, c) => (fold b breaks, c, true)
      | (none, c) => ([], c, true)

theorem plainGap_length_le (c : Cursor) : (plainGap c).2.1.rest.length ≤ c.rest.length := by
  unfold plainGap
  have hle := Cursor.takeWhile_length_le (· == ' ') c
  simp only
  split
  · exact hle
  · rename_i b next h
    have h1 := Cursor.lineBreak?_length h
    have h2 := plainBreaks_length_le next
    split
    · simp only
      omega
    · split <;> rename_i heq <;> rw [heq] at h2 <;> simp only at h2 ⊢ <;> omega

/-- The text of a plain scalar from a word on, with the gap before the word, and the place after
it; also whether a line has ended after its last word. In brackets the indentation does not
matter. -/
def plainRest (inBrackets : Bool) (least : Nat) (gap : Text) (ended : Bool) (c : Cursor) :
    Text × Cursor × Bool :=
  let word := if c.next? == some '#' then [] else plainWord inBrackets c.rest
  if _h : word = [] then ([], c, ended)
  else
    let after := plainGap (Cursor.advanceBy word.length c)
    let next := after.2.1
    if after.1.isEmpty || next.next? == some '#' || !inBrackets && next.column < least then
      (gap ++ word, next, after.2.2)
    else
      let (more, last, lastEnded) := plainRest inBrackets least after.1 after.2.2 next
      (gap ++ word ++ more, last, lastEnded)
termination_by c.rest.length
decreasing_by
  have h1 := plainGap_length_le (Cursor.advanceBy word.length c)
  have h2 : 0 < word.length := List.length_pos_iff.2 _h
  have h3 : c.rest ≠ [] := by
    intro hr
    exact _h (by simp [word, hr, plainWord])
  have h4 : 0 < c.rest.length := List.length_pos_iff.2 h3
  simp only [Cursor.advanceBy_rest, List.length_drop] at h1
  exact Nat.lt_of_le_of_lt h1 (by omega)

/-- The text of the plain scalar at `c`, the place after it, and whether a line has ended before
that. Outside of brackets its further lines have at least `least` columns before them. -/
def plain (inBrackets : Bool) (least : Nat) (c : Cursor) : Text × Cursor × Bool :=
  plainRest inBrackets least [] false c

/-! ## Block scalars -/

/-- What happens to the line breaks at the end of a block. -/
inductive Chomping where
  /-- None is kept. -/
  | strip
  /-- One is kept. -/
  | clip
  /-- All are kept. -/
  | keep
  deriving DecidableEq, Repr

/-- The header of a block: its chomping and its indentation in relation to the outer one. -/
structure BlockHeader where
  chomping : Chomping
  indent : Option Nat
  deriving DecidableEq, Repr

/-- The chomping that a character asks for. -/
def chomping? : Option Char → Option Chomping
  | some '+' => some .keep
  | some '-' => some .strip
  | _ => none

/-- The indentation that a character asks for. -/
def indent? : Option Char → Option Nat
  | some ch => if '0' ≤ ch ∧ ch ≤ '9' then some (ch.toNat - 0x30) else none
  | none => none

/-- The header at `c`, its two parts in either order, and the place after it. -/
def blockHeader (c : Cursor) : Except Error (BlockHeader × Cursor) := do
  let (header, c) : BlockHeader × Cursor :=
    match chomping? c.next?, indent? c.next? with
    | some chomping, _ =>
      match indent? c.afterNext? with
      | some n => (⟨chomping, some n⟩, Cursor.advanceBy 2 c)
      | none => (⟨chomping, none⟩, c.advance)
    | none, some n =>
      match chomping? c.afterNext? with
      | some chomping => (⟨chomping, some n⟩, Cursor.advanceBy 2 c)
      | none => (⟨.clip, some n⟩, c.advance)
    | none, none => (⟨.clip, none⟩, c)
  if header.indent = some 0 || !endsWordButTab c.next? then throw .blockHeader
  return (header, c)

/-- The place after the indentation of a line. -/
def skipIndent (indent : Nat) (c : Cursor) : Cursor :=
  Cursor.advanceBy ((c.rest.takeWhile (· == ' ')).take (indent - c.column)).length c

theorem skipIndent_length_le (indent : Nat) (c : Cursor) :
    (skipIndent indent c).rest.length ≤ c.rest.length := by
  simp [skipIndent]

/-- The breaks of the empty lines from here on, and the place after the next indentation. -/
def blockBreaks (indent : Nat) (c : Cursor) : Text × Cursor :=
  let inner := skipIndent indent c
  match _h : inner.lineBreak? with
  | none => ([], inner)
  | some (b, next) =>
    let (breaks, c) := blockBreaks indent next
    (b :: breaks, c)
termination_by c.rest.length
decreasing_by
  have h1 := Cursor.lineBreak?_length _h
  have h2 : inner.rest.length ≤ c.rest.length := skipIndent_length_le _ _
  omega

theorem blockBreaks_length_le (indent : Nat) (c : Cursor) :
    (blockBreaks indent c).2.rest.length ≤ c.rest.length := by
  fun_induction blockBreaks indent c with
  | case1 c inner h => exact skipIndent_length_le _ _
  | case2 c inner b next h breaks last heq ih =>
    have h1 := Cursor.lineBreak?_length h
    have h2 : inner.rest.length ≤ c.rest.length := skipIndent_length_le _ _
    rw [heq] at ih
    simp only at ih ⊢
    omega

/-- The breaks of the empty lines from here on, the greatest column that their spaces reach, and
the place after them. -/
def leadingBreaks (widest : Nat) (c : Cursor) : Text × Nat × Cursor :=
  let inner := c.skipWhile (· == ' ')
  let reached := if c.next? == some ' ' then max widest inner.column else widest
  match _h : inner.lineBreak? with
  | none => ([], reached, inner)
  | some (b, next) =>
    let (breaks, widest, c) := leadingBreaks reached next
    (b :: breaks, widest, c)
termination_by c.rest.length
decreasing_by
  have h1 := Cursor.lineBreak?_length _h
  have h2 : inner.rest.length ≤ c.rest.length := Cursor.skipWhile_length_le _ _
  omega

/-- The parts of a block: its text up to the last line, the break of that line, the breaks of the
empty lines after it, and the place behind. -/
structure Block where
  text : Text
  lastBreak : Text
  emptyLines : Text
  after : Cursor

/-- What joins two lines of a block. In a folded block a line feed between two lines that start
with a word is a space. -/
def blockGlue (folded : Bool) (line brk breaks : Text) (next : Option Char) : Text :=
  if folded && brk == ['\n'] && !line.head?.any isSpacing && !next.any isSpacing then
    if breaks.isEmpty then [' '] else []
  else brk

/-- The lines of a block from a line on, with the breaks before it. -/
def blockLines (folded : Bool) (indent : Nat) (breaks : Text) (c : Cursor) : Block :=
  if _h : c.column = indent ∧ c.rest ≠ [] then
    let taken := c.takeLine
    let inner := blockBreaks indent taken.2.2
    if inner.2.column = indent ∧ inner.2.rest ≠ [] then
      let more := blockLines folded indent inner.1 inner.2
      { more with
        text := breaks ++ taken.1
          ++ blockGlue folded taken.1 taken.2.1 inner.1 inner.2.next? ++ more.text }
    else ⟨breaks ++ taken.1, taken.2.1, inner.1, inner.2⟩
  else ⟨[], [], breaks, c⟩
termination_by c.rest.length
decreasing_by
  exact Nat.lt_of_le_of_lt (blockBreaks_length_le _ _) (Cursor.takeLine_length _h.2)

/-- The text of the block scalar at `c`, and the place after it. Its lines have at least `least`
columns before them. -/
def block (folded : Bool) (least : Nat) (c : Cursor) : Except Error (Text × Cursor) := do
  let (header, c) ← blockHeader c.advance
  let some c := c.endLine? | throw .blockHeader
  let least := max least 1
  let (indent, breaks, c) : Nat × Text × Cursor := match header.indent with
    | some n =>
      let indent := least + n - 1
      (indent, blockBreaks indent c)
    | none =>
      let (breaks, widest, c) := leadingBreaks 0 c
      (max least widest, breaks, c)
  let b := blockLines folded indent breaks c
  let tail := match header.chomping with
    | .strip => []
    | .clip => b.lastBreak
    | .keep => b.lastBreak ++ b.emptyLines
  return (b.text ++ tail, b.after)

end Scalar

end Assay.Yaml
