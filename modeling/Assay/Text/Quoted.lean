import Assay.Text.Basic
import Assay.Text.Printable

/-!
# Quoted texts

A report shows a name or a message in quotes, so that its ends and its invisible characters can be
seen. The quote is `'`, or `"` where that saves escapes: if the text holds `'` and no `"`. The
quote, the backslash and every character that does not show are escaped.
-/

namespace Assay

/-! ## Hexadecimal numbers -/

/-- The lower-case hexadecimal digit of a value below 16. -/
def hexDigit (d : Nat) : Char := Nat.digitChar (d % 16)

/-- The last `width` hexadecimal digits of a number. -/
def hexDigits : Nat → Nat → Text
  | 0, _ => []
  | width + 1, n => hexDigits width (n / 16) ++ [hexDigit n]

theorem hexDigits_length (width n : Nat) : (hexDigits width n).length = width := by
  induction width generalizing n with
  | zero => rfl
  | succ width ih => simp [hexDigits, ih]

/-! ## Escapes and quotes -/

namespace Quoted

/-- The escape of a character that does not show, by its code point: two digits after `\x`, four
after `\u` or eight after `\U`. -/
def escapeCode (n : Nat) : Text :=
  if n < 0x100 then '\\' :: 'x' :: hexDigits 2 n
  else if n < 0x10000 then '\\' :: 'u' :: hexDigits 4 n
  else '\\' :: 'U' :: hexDigits 8 n

/-- What stands for one character between quotes. -/
def escape (quote c : Char) : Text :=
  if c = quote ∨ c = '\\' then ['\\', c]
  else if c = '\n' then ['\\', 'n']
  else if c = '\r' then ['\\', 'r']
  else if c = '\t' then ['\\', 't']
  else if isPrintable c then [c]
  else escapeCode c.toNat

/-- The quote that a text gets. -/
def quoteOf (t : Text) : Char := if '\'' ∈ t ∧ '"' ∉ t then '"' else '\''

end Quoted

/-- The text in quotes, with its invisible characters escaped. -/
def Text.quoted (t : Text) : Text :=
  let quote := Quoted.quoteOf t
  quote :: t.flatMap (Quoted.escape quote) ++ [quote]

/-- The quoted form of a string. -/
def quoted (s : String) : String := String.ofList (Text.quoted s.toList)

/-- A list of texts as reports show it: the quoted items between brackets. -/
def quotedList (items : List String) : String :=
  "[" ++ ", ".intercalate (items.map quoted) ++ "]"

end Assay
