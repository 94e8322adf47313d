import Assay.Text.Basic
import Assay.Yaml.Error

/-!
# Dates and times as they are written

A date is written as `2001-12-14`, and a time as `2001-12-14T21:59:43.10-05:00`: a date, a `T` or
blanks, the clock, a fraction of a second, and how far the clock is ahead of universal time. Only a
date without a clock needs both digits of its month and its day to be known as one.
-/

namespace Assay.Yaml

/-- A text without the line feed at its end, if something stands before that. -/
def withoutFinalFeed (t : Text) : Text :=
  match t.reverse with
  | '\n' :: c :: rest => (c :: rest).reverse
  | _ => t

namespace Time

/-- A clock as it is written. -/
structure Clock where
  hour : Nat
  minute : Nat
  second : Nat
  /-- The digits of the fraction of a second. -/
  fraction : Text
  /-- Minutes ahead of universal time. -/
  offset : Option Int
  deriving DecidableEq, Repr

/-- A date, with a clock or without, as it is written. -/
structure Written where
  year : Nat
  month : Nat
  day : Nat
  clock : Option Clock
  deriving DecidableEq, Repr

/-- Whether a character is a decimal digit. -/
def isDigit (c : Char) : Bool := '0' ≤ c && c ≤ '9'

/-- The number that decimal digits write. -/
def number (digits : Text) : Nat := digits.foldl (fun n c => n * 10 + (c.toNat - 0x30)) 0

/-- The number at the front of a text in at least `least` and at most `most` digits, and what
follows it. -/
def digits? (least most : Nat) (t : Text) : Option (Nat × Text) :=
  let digits := (t.take most).takeWhile isDigit
  if digits.length < least then none else some (number digits, t.drop digits.length)

/-- What follows a character. -/
def after? (c : Char) : Text → Option Text
  | [] => none
  | d :: rest => if d = c then some rest else none

/-- Whether a character is a space or a tab. -/
def isGap (c : Char) : Bool := c == ' ' || c == '\t'

/-- The offset that ends a time: `Z`, or hours and perhaps minutes with a sign. -/
def offset? (t : Text) : Option Int :=
  match t with
  | ['Z'] => some 0
  | sign :: rest => do
    guard (sign = '+' ∨ sign = '-')
    let (hours, rest) ← digits? 1 2 rest
    let minutes ← match rest with
      | [] => some 0
      | ':' :: rest => match digits? 2 2 rest with
        | some (minutes, []) => some minutes
        | _ => none
      | _ => none
    let ahead : Int := (hours * 60 + minutes : Nat)
    return if sign = '-' then -ahead else ahead
  | [] => none

/-- The clock that a text is. -/
def clock? (t : Text) : Option Clock := do
  let (hour, t) ← digits? 1 2 t
  let (minute, t) ← digits? 2 2 (← after? ':' t)
  let (second, t) ← digits? 2 2 (← after? ':' t)
  let (fraction, t) := match t with
    | '.' :: rest => (rest.takeWhile isDigit, rest.dropWhile isDigit)
    | _ => ([], t)
  match t with
  | [] => return ⟨hour, minute, second, fraction, none⟩
  | _ => return ⟨hour, minute, second, fraction, some (← offset? (t.dropWhile isGap))⟩

/-- The clock behind what parts it from its date. -/
def clockAfter? : Text → Option Clock
  | [] => none
  | c :: rest =>
    if c = 'T' ∨ c = 't' then clock? rest
    else if isGap c then clock? (rest.dropWhile isGap)
    else none

/-- The date or time that a text is. -/
def exactly? (t : Text) : Option Written := do
  let (year, t) ← digits? 4 4 t
  let (month, t) ← digits? 1 2 (← after? '-' t)
  let (day, t) ← digits? 1 2 (← after? '-' t)
  match t with
  | [] => return ⟨year, month, day, none⟩
  | _ => return ⟨year, month, day, some (← clockAfter? t)⟩

/-- The date or time that a text writes, up to a line feed at its end. -/
def written? (t : Text) : Option Written := exactly? (withoutFinalFeed t)

/-- The length of a date with all its digits. -/
def dateLength : Nat := 10

/-- Whether a text without a tag is known as a date or a time. -/
def isSpelled (t : Text) : Bool :=
  match exactly? t with
  | some w => w.clock.isSome || t.length == dateLength
  | none => false

/-- The millionths of a second in the digits of a fraction. -/
def microseconds (fraction : Text) : Nat :=
  let digits := fraction.take 6
  number (digits ++ List.replicate (6 - digits.length) '0')

end Time

end Assay.Yaml
