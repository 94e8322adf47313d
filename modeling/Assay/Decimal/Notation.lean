import Assay.Decimal.Shortest
import Assay.Text.Blank
import Assay.Text.Digit

/-!
# Floating point numbers in text

Writing takes the shortest decimal that reads back and lays it out by a `Layout`; reading accepts
decimals with a point and an exponent, and the words for what is no finite number.
-/

namespace Assay

/-! ## Writing -/

/-- How a decimal is laid out. -/
structure Layout where
  /-- Positional notation is used while the point stands after at most this many digits. -/
  greatestPoint : Int
  /-- Positional notation is used while at most this many zeros follow the point. -/
  mostZeros : Nat
  /-- The least number of digits of an exponent. -/
  exponentDigits : Nat

/-- Numbers in reports are positional from 0.0001 to below 10^16, always with a point, and have an
exponent of at least two digits elsewhere. -/
def Layout.report : Layout := ⟨16, 3, 2⟩

/-- Zeros in front of a text up to a width. -/
def padZeros (width : Nat) (t : Text) : Text := List.replicate (width - t.length) '0' ++ t

/-- The decimal in the layout. -/
def Layout.write (layout : Layout) (d : Decimal) : Text :=
  let digits := Nat.toDigits 10 d.digits
  let point : Int := digits.length + d.scale
  if point ≤ -layout.mostZeros - 1 + 0 ∨ layout.greatestPoint < point then
    let exponent := point - 1
    let fraction := if digits.length ≤ 1 then [] else '.' :: digits.drop 1
    let sign := if exponent < 0 then '-' else '+'
    digits.take 1 ++ fraction ++
      'e' :: sign :: padZeros layout.exponentDigits (Nat.toDigits 10 exponent.natAbs)
  else if point ≤ 0 then
    '0' :: '.' :: List.replicate (-point).toNat '0' ++ digits
  else if digits.length ≤ point then
    digits ++ List.replicate (point - digits.length).toNat '0' ++ ['.', '0']
  else
    digits.take point.toNat ++ '.' :: digits.drop point.toNat

namespace Binary64

/-- The text of a number in reports. -/
def toText : Binary64 → Text
  | .finite negative m e =>
    let sign := if negative then ['-'] else []
    if m = 0 then sign ++ ['0', '.', '0'] else sign ++ Layout.report.write (shortest m e)
  | .infinite negative => if negative then "-inf".toList else "inf".toList
  | .nan => "nan".toList

/-! ## Reading -/

/-- The digits at the front of a text, where an underscore may stand between two digits, and what
follows them. -/
def takeDigits : Text → List Nat × Text
  | [] => ([], [])
  | c :: rest =>
    match digitValue? c with
    | some d =>
      let (ds, more) := takeDigits rest
      (d :: ds, more)
    | none =>
      if c = '_' then
        match rest with
        | next :: _ =>
          if (digitValue? next).isSome then takeDigits rest else ([], c :: rest)
        | [] => ([], c :: rest)
      else ([], c :: rest)

/-- The number that decimal digits write. -/
def decimalOf (ds : List Nat) : Nat := ds.foldl (fun n d => n * 10 + d) 0

/-- The digits after a point, if there is one. -/
def fractionOf : Text → List Nat × Text
  | '.' :: rest => if rest.head? = some '_' then ([], rest) else takeDigits rest
  | rest => ([], rest)

/-- The exponent that a text ends with; no text is no exponent. -/
def exponentOf? : Text → Option Int
  | [] => some 0
  | mark :: rest =>
    if mark = 'e' ∨ mark = 'E' then
      let (negative, rest) := match rest with
        | '-' :: more => (true, more)
        | '+' :: more => (false, more)
        | _ => (false, rest)
      match rest.head?.bind digitValue?, takeDigits rest with
      | some _, (ds, []) => some (if negative then -(decimalOf ds : Int) else decimalOf ds)
      | _, _ => none
    else none

/-- The value of an unsigned number. -/
def unsigned? (negative : Bool) (t : Text) : Option Binary64 :=
  let word := String.ofList (t.map Char.toLower)
  if word = "inf" ∨ word = "infinity" then some (.infinite negative)
  else if word = "nan" then some .nan
  else if t.head? = some '_' then none
  else
    let (whole, rest) := takeDigits t
    let (fraction, rest) := fractionOf rest
    if whole.isEmpty && fraction.isEmpty then none
    else (exponentOf? rest).map fun exponent =>
      ofDecimal negative (decimalOf (whole ++ fraction)) (exponent - fraction.length)

/-- The value of a number in running text: blanks around it, a sign, digits with a point, an
exponent. -/
def read? (t : Text) : Option Binary64 :=
  match t.stripMargins with
  | '-' :: rest => unsigned? true rest
  | '+' :: rest => unsigned? false rest
  | rest => unsigned? false rest

end Binary64

end Assay
