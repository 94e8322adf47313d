import Assay.Decimal.Power
import Assay.Text.Blank
import Assay.Text.CodePoint
import Assay.Text.Digit

/-!
# Integers in running text

How an integer may be written: blanks around it, a sign directly before the digits, and single
underscores between digits. The digits may be decimal digits of any script. A base of 2, 8 or 16
admits its prefix. A decimal number of more than `digitLimit` digits is neither read nor written.
-/

namespace Assay.Integer

/-- The longest decimal number that is read or written, in digits. -/
def digitLimit : Nat := 4300

/-- The value of a digit of the base: a decimal digit, or a letter from ten on. -/
def digitOf? (base : Nat) (c : Char) : Option Nat :=
  let value := match digitValue? c with
    | some d => some d
    | none =>
      if 'a' ≤ c ∧ c ≤ 'z' then some (c.toNat - 0x61 + 10)
      else if 'A' ≤ c ∧ c ≤ 'Z' then some (c.toNat - 0x41 + 10)
      else none
  value.filter (· < base)

/-- The values of the digits, where an underscore may stand between two digits. `afterDigit` tells
whether a digit came last. -/
def digits? (base : Nat) (afterDigit : Bool) : Text → Option (List Nat)
  | [] => if afterDigit then some [] else none
  | '_' :: rest => if afterDigit then digits? base false rest else none
  | c :: rest => do
    let d ← digitOf? base c
    return d :: (← digits? base true rest)

/-- The number that digits write in a base. -/
def ofDigits (base : Nat) (ds : List Nat) : Nat := ds.foldl (fun n d => n * base + d) 0

/-- The letter of the prefix of a base. -/
def prefixLetter? : Nat → Option Char
  | 2 => some 'b'
  | 8 => some 'o'
  | 16 => some 'x'
  | _ => none

/-- The text after the prefix of the base, if it has one. An underscore may follow a prefix. -/
def dropPrefix (base : Nat) (t : Text) : Text :=
  match t, prefixLetter? base with
  | '0' :: mark :: rest, some letter =>
    if mark.toLower = letter then
      match rest with
      | '_' :: more => more
      | _ => rest
    else t
  | _, _ => t

/-- The value of an unsigned number. -/
def unsigned? (base : Nat) (t : Text) : Option Nat := do
  let ds ← digits? base false (dropPrefix base t)
  if base = 10 ∧ digitLimit < ds.length then none
  else return ofDigits base ds

/-- The value of an integer in a base, or nothing if the text is none. -/
def readIn? (base : Nat) (t : Text) : Option Int :=
  match t.stripMargins with
  | '-' :: rest => (unsigned? base rest).map fun n => -(n : Int)
  | '+' :: rest => (unsigned? base rest).map fun n => (n : Int)
  | rest => (unsigned? base rest).map fun n => (n : Int)

/-- The value of a decimal integer, or nothing if the text is none. -/
def read? (t : Text) : Option Int := readIn? 10 t

/-! ## Complaints -/

/-- How many digits stand at the front of a text, or none if the number there is badly grouped. -/
def leadingDigits (t : Text) : Nat :=
  match digits? 10 false (t.takeWhile fun c => (digitValue? c).isSome || c == '_') with
  | some ds => ds.length
  | none => 0

/-- The text without a sign in front. -/
def withoutSign : Text → Text
  | '-' :: rest => rest
  | '+' :: rest => rest
  | t => t

/-- The complaint about a decimal number with too many digits to be read. -/
def tooLongToRead (count : Nat) : String :=
  "Exceeds the limit (" ++ toString digitLimit ++ " digits) for integer string conversion: value has "
    ++ toString count ++ " digits; use sys.set_int_max_str_digits() to increase the limit"

/-- The complaint about an integer with too many digits to be written. -/
def tooLongToWrite : String :=
  "Exceeds the limit (" ++ toString digitLimit
    ++ " digits) for integer string conversion; use sys.set_int_max_str_digits() to increase the limit"

/-- How much of a quoted text a complaint shows. -/
def shownLength : Nat := 200

/-- Why a text is no integer, in words. -/
def complaint (base : Nat) (t : CodeText) : String :=
  let count := leadingDigits (withoutSign (Text.stripMargins t.shown))
  if base = 10 ∧ digitLimit < count then tooLongToRead count
  else
    "invalid literal for int() with base " ++ toString base ++ ": "
      ++ String.ofList (t.quoted.take shownLength)

/-! ## Writing -/

/-- Whether an integer has few enough decimal digits to be written. -/
def isWritable (n : Int) : Bool := n.natAbs.log2 < 3 * digitLimit || n.natAbs < tenTo digitLimit

end Assay.Integer
