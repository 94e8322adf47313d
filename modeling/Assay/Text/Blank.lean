import Assay.Text.Basic

/-!
# Blank characters

White space in the wide sense of Unicode 14: the characters of category `Zs` and those whose
bidirectional class is `WS`, `B` or `S`. The separators U+001C to U+001F belong to it.
-/

namespace Assay

/-- The ranges of blank characters. -/
def blankRanges : RangeTable :=
  [
    (0x9, 0xD), (0x1C, 0x20), (0x85, 0x85), (0xA0, 0xA0), (0x1680, 0x1680), (0x2000, 0x200A),
    (0x2028, 0x2029), (0x202F, 0x202F), (0x205F, 0x205F), (0x3000, 0x3000)]

/-- Whether a character is white space. -/
def isBlank (c : Char) : Bool := inRanges blankRanges c.toNat

/-- All that core counts as white space is blank. -/
theorem isBlank_of_isWhitespace {c : Char} (h : c.isWhitespace = true) : isBlank c = true := by
  simp only [Char.isWhitespace, Bool.or_eq_true, decide_eq_true_eq] at h
  rcases h with ((rfl | rfl) | rfl) | rfl <;> decide

/-- Strips blanks from both ends. -/
def Text.strip (t : Text) : Text := t.trim isBlank

/-- Whether a character may stand before or after a number: blanks may, but for the separators. -/
def isMargin (c : Char) : Bool := isBlank c && !(0x1C ≤ c.toNat && c.toNat ≤ 0x1F)

/-- Strips what may stand around a number from both ends. -/
def Text.stripMargins (t : Text) : Text := t.trim isMargin

end Assay
