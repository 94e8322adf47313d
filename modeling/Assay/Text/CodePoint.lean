import Assay.Text.Case
import Assay.Text.Quoted

/-!
# Code points

Characters are all code points but the surrogates, of which two together stand for one character in
16-bit encodings. An escape can name a surrogate on its own, and then a text is a list of code points
and not of characters. Both kinds of text are quoted in the same way: a surrogate never shows, so it
is escaped. It is no letter, no digit and no blank, and has no case.

The main statements are that a code point and its number determine each other, and that a text of
characters is quoted in the same way whichever kind of text it is taken for.
-/

namespace Assay

/-- Whether the code point with a number is a surrogate. -/
def isSurrogate (n : Nat) : Bool := 0xD800 ≤ n && n ≤ 0xDFFF

/-- A code point. -/
inductive CodePoint where
  | char (c : Char)
  /-- A surrogate on its own, by its number. -/
  | surrogate (code : Nat) (code_mem : isSurrogate code = true)
  deriving DecidableEq, Repr

namespace CodePoint

/-- The code point with a number. -/
def ofCode (n : Nat) : CodePoint :=
  if h : isSurrogate n = true then .surrogate n h else .char (Char.ofNat n)

/-- The number of a code point. -/
def code : CodePoint → Nat
  | .char c => c.toNat
  | .surrogate n _ => n

/-- The character that stands for every surrogate where only characters can stand. -/
def replacement : Char := '\uFFFD'

/-- A code point as a character. -/
def shown : CodePoint → Char
  | .char c => c
  | .surrogate .. => replacement

/-- The character that a code point is. -/
def char? : CodePoint → Option Char
  | .char c => some c
  | .surrogate .. => none

theorem toNat_ofNat_of_isValidChar {n : Nat} (h : n.isValidChar) : (Char.ofNat n).toNat = n := by
  unfold Char.ofNat
  rw [dif_pos h]
  rfl

/-- The code point with a number has that number. -/
theorem code_ofCode {n : Nat} (h : n < 0x110000) : (ofCode n).code = n := by
  unfold ofCode
  split
  · rfl
  · next hs =>
    have hr : ¬ (0xD800 ≤ n ∧ n ≤ 0xDFFF) := by grind [isSurrogate]
    exact toNat_ofNat_of_isValidChar (by grind)

theorem isSurrogate_toNat (c : Char) : isSurrogate c.toNat = false := by
  have h : c.toNat.isValidChar := c.valid
  grind [isSurrogate]

/-- A code point is the one with its number. -/
theorem ofCode_code (p : CodePoint) : ofCode p.code = p := by
  cases p with
  | char c =>
    have h : ¬ isSurrogate c.toNat = true := by simp [isSurrogate_toNat]
    rw [code, ofCode, dif_neg h, Char.ofNat_toNat]
  | surrogate n h => rw [code, ofCode, dif_pos h]

end CodePoint

/-! ## Texts of code points -/

/-- A text that may hold lone surrogates. -/
abbrev CodeText := List CodePoint

namespace CodeText

/-- A text of characters. -/
def ofText (t : Text) : CodeText := t.map .char

/-- A string. -/
def ofString (s : String) : CodeText := ofText s.toList

/-- The text, if it holds characters alone. -/
def text? (t : CodeText) : Option Text := t.mapM CodePoint.char?

/-- The text with replacements for its surrogates. -/
def shown (t : CodeText) : Text := t.map CodePoint.shown

/-- The text with replacements for its surrogates, as a string. -/
def toText (t : CodeText) : String := String.ofList t.shown

/-- Whether one text comes before another one or is the same, by the numbers of their code points. -/
def comesBefore : CodeText → CodeText → Bool
  | [], _ => true
  | _ :: _, [] => false
  | p :: t, q :: u => p.code < q.code || p == q && comesBefore t u

/-- The text in lower case from a place on, after a run of characters that is held back, its last one
first. A surrogate parts what stands on its two sides. -/
def lowerAfter (run : Text) : CodeText → CodeText
  | [] => ofText (Text.lower run.reverse)
  | .char c :: rest => lowerAfter (c :: run) rest
  | p :: rest => ofText (Text.lower run.reverse) ++ p :: lowerAfter [] rest

/-- The text in lower case. -/
def lower (t : CodeText) : CodeText := lowerAfter [] t

/-- What stands for one code point between quotes. -/
def escape (quote : Char) : CodePoint → Text
  | .char c => Quoted.escape quote c
  | .surrogate n _ => Quoted.escapeCode n

/-- The text in quotes, with all that does not show escaped. -/
def quoted (t : CodeText) : Text :=
  let quote := Quoted.quoteOf t.shown
  quote :: t.flatMap (escape quote) ++ [quote]

theorem text?_cons (p : CodePoint) (rest : CodeText) :
    text? (p :: rest) = p.char?.bind fun c => (text? rest).map (c :: ·) := by
  simp only [text?, List.mapM_cons, Option.map_eq_bind]
  rfl

/-- A text of characters is its own text. -/
theorem text?_ofText (t : Text) : (ofText t).text? = some t := by
  induction t with
  | nil => rfl
  | cons c rest ih =>
    have h : text? (rest.map .char) = some rest := ih
    rw [ofText, List.map_cons, text?_cons, h]
    rfl

/-- Only a text of characters has a text. -/
theorem text?_eq_some_iff {t : CodeText} {s : Text} : t.text? = some s ↔ t = ofText s := by
  constructor
  · intro h
    induction t generalizing s with
    | nil =>
      cases h
      rfl
    | cons p rest ih =>
      rw [text?_cons, Option.bind_eq_some_iff] at h
      obtain ⟨c, hc, h⟩ := h
      obtain ⟨more, hmore, rfl⟩ := Option.map_eq_some_iff.mp h
      cases p with
      | surrogate n hn => cases hc
      | char c' =>
        cases hc
        rw [ih hmore]
        rfl
  · rintro rfl
    exact text?_ofText s

theorem ofText_inj {s t : Text} : ofText s = ofText t ↔ s = t := by
  refine ⟨fun h => ?_, congrArg ofText⟩
  have hread := text?_ofText s
  rw [h, text?_ofText] at hread
  exact (Option.some.inj hread).symm

theorem ofString_inj {s t : String} : ofString s = ofString t ↔ s = t := by
  rw [ofString, ofString, ofText_inj, String.toList_inj]

theorem toText_ofString (s : String) : (ofString s).toText = s := by
  simp [toText, shown, ofString, ofText, CodePoint.shown, Function.comp_def]

/-- Only a text without code points is shown as nothing. -/
theorem toText_eq_empty_iff {t : CodeText} : t.toText = "" ↔ t = [] := by
  simp [toText, shown]

/-- A text of characters is quoted as any text is. -/
theorem quoted_ofText (t : Text) : (ofText t).quoted = t.quoted := by
  have h : (ofText t).shown = t := by
    simp [ofText, shown, CodePoint.shown, Function.comp_def]
  simp only [quoted, Text.quoted, h]
  rw [ofText, List.flatMap_map]
  rfl

end CodeText

end Assay
