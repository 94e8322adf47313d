import Assay.Template.Part

/-!
# Specifications of fields

A field of a template may say how its value is laid out:
`[[fill]align][sign][z][#][0][width][grouping][.precision][type]`. `Spec.ofText?` reads that, and
`layOut` applies it to a value: texts are cut and padded, integers written in a base with groups,
and floating point numbers rounded to a number of places or digits. All rounding is exact.
-/

namespace Assay.Template

/-! ## Reading a specification -/

/-- How a value is laid out. -/
structure Spec where
  fill : Option Char
  align : Option Char
  sign : Option Char
  /-- A negative zero is written without its sign. -/
  plainZero : Bool
  alternate : Bool
  width : Option Nat
  grouping : Option Char
  precision : Option Nat
  type : Option Char
  deriving Repr

/-- Whether a character says where a value stands in its width. -/
def isAlign (c : Char) : Bool := c == '<' || c == '>' || c == '=' || c == '^'

/-- The greatest count that a template may give. -/
def greatestCount : Nat := 9223372036854775807

/-- The number that digits at the front of a text write behind those of `n`, and what follows. -/
def countFrom (n : Nat) : Text → Except Error (Nat × Text)
  | [] => .ok (n, [])
  | c :: rest =>
    match digitValue? c with
    | none => .ok (n, c :: rest)
    | some d =>
      if greatestCount < n * 10 + d then
        .error (.malformed "Too many decimal digits in format string")
      else countFrom (n * 10 + d) rest

/-- A count at the front of a text, and what follows it. -/
def takeCount (t : Text) : Except Error (Option Nat × Text) :=
  match t with
  | [] => .ok (none, [])
  | c :: _ =>
    if (digitValue? c).isSome then (countFrom 0 t).map fun (n, rest) => (some n, rest)
    else .ok (none, t)

/-- A character of a set at the front of a text, and what follows it. -/
def takeIf (allowed : Char → Bool) : Text → Option Char × Text
  | [] => (none, [])
  | c :: rest => if allowed c then (some c, rest) else (none, c :: rest)

/-- Fill and alignment at the front of a specification. -/
def takeAlign : Text → Option Char × Option Char × Text
  | fill :: align :: rest =>
    if isAlign align then (some fill, some align, rest)
    else if isAlign fill then (none, some fill, align :: rest)
    else (none, none, fill :: align :: rest)
  | [align] => if isAlign align then (none, some align, []) else (none, none, [align])
  | [] => (none, none, [])

/-- Whether groups of digits make sense with a type. -/
def groupingFits (grouping : Char) (type : Option Char) : Bool :=
  match type with
  | none | some '\x00' => true
  | some c =>
    "deEfFgG%".toList.contains c || (grouping == '_' && "boxX".toList.contains c)

/-- A type of layout as complaints show it. -/
def shownType (type : Char) : String :=
  if 0x20 < type.toNat ∧ type.toNat < 0x80 then String.singleton type
  else "\\x" ++ String.ofList (Nat.toDigits 16 type.toNat)

/-- Reads the specification for a value of a type. `numeric` says that values of the type stand at
the right end of their width, so that a zero before the width goes between sign and digits.
`fallback` is the type of layout that is named where groups do not fit. -/
def Spec.ofText? (typeName : String) (numeric : Bool) (fallback : Option Char) (written : Text) :
    Except Error Spec := do
  let (fill, align, t) := takeAlign written
  let (sign, t) := takeIf (fun c => c == ' ' || c == '+' || c == '-') t
  let (plainZero, t) := takeIf (· == 'z') t
  let (alternate, t) := takeIf (· == '#') t
  let (zero, t) := if fill.isNone then takeIf (· == '0') t else (none, t)
  let align := if zero.isSome && align.isNone && numeric then some '=' else align
  let (width, t) ← takeCount t
  let (comma, t) := takeIf (· == ',') t
  let (under, t) := takeIf (· == '_') t
  if comma.isSome && under.isSome || under.isSome && t.head? = some ',' then
    throw (.malformed "Cannot specify both ',' and '_'.")
  let (precision, t) ← match t with
    | '.' :: rest =>
      match ← takeCount rest with
      | (none, _) => throw (.malformed "Format specifier missing precision")
      | found => pure found
    | _ => pure (none, t)
  let type ← match t with
    | [] => pure none
    | [c] => pure (some c)
    | _ => throw (.malformed ("Invalid format specifier '" ++ String.ofList written
        ++ "' for object of type '" ++ typeName ++ "'"))
  let grouping := comma.or under
  if let some mark := grouping then
    let named := type.or fallback
    if !groupingFits mark named then
      throw (.malformed ("Cannot specify '" ++ String.singleton mark ++ "' with '"
        ++ shownType (named.getD 'd') ++ "'."))
  return ⟨fill.or zero, align, sign, plainZero.isSome, alternate.isSome, width, grouping, precision,
    type⟩

/-! ## Padding -/

/-- The text within its width; `standard` is the alignment where none is given. -/
def Spec.pad (spec : Spec) (standard : Char) (t : Text) : Text :=
  let missing := spec.width.getD 0 - t.length
  let fill := spec.fill.getD ' '
  let align := spec.align.getD standard
  let before :=
    if align = '<' then 0 else if align = '^' then missing / 2 else missing
  List.replicate before fill ++ t ++ List.replicate (missing - before) fill

/-- Digits in groups of `size` from the right, with `mark` between them. -/
def groupDigits (size : Nat) (mark : Char) (digits : Text) : Text :=
  let rec /-- Works on the reversed digits, `room` being what still fits into the group. -/
    go (room : Nat) : Text → Text
    | [] => []
    | c :: rest =>
      match room with
      | 0 => mark :: c :: go (size - 1) rest
      | room + 1 => c :: go room rest
  (go size digits.reverse).reverse

/-- Zeros in front of digits until their groups fill the width. A group mark never leads, so that
the result can be one character wider. -/
def groupToWidth (size : Nat) (mark : Char) (width : Nat) (digits : Text) : Text :=
  groupDigits size mark (padZeros (width - (width - 1) / (size + 1)) digits)

/-- The least width of a text that is too wide to be made. -/
def leastExcess : Nat := 34359738368

/-- Refuses a width that is too great. -/
def Spec.checkWidth (spec : Spec) : Except Error Unit :=
  if spec.width.any (leastExcess ≤ ·) then .error .tooWide else .ok ()

/-- A number of a sign, a base mark, whole digits and a rest, laid out. Without whole digits there
are no groups. -/
def Spec.layNumber (spec : Spec) (negative : Bool) (mark : Text) (groupSize : Nat)
    (digits rest : Text) : Text :=
  let sign := if negative then ['-'] else match spec.sign with
    | some '+' => ['+']
    | some ' ' => [' ']
    | _ => []
  let fixed := sign.length + mark.length + rest.length
  let inner := spec.align == some '='
  let digits := match spec.grouping with
    | none => digits
    | some g =>
      if digits.isEmpty then digits
      else if inner && spec.fill == some '0' then
        groupToWidth groupSize g (spec.width.getD 0 - fixed) digits
      else groupDigits groupSize g digits
  if inner then
    let missing := spec.width.getD 0 - (fixed + digits.length)
    sign ++ mark ++ List.replicate missing (spec.fill.getD ' ') ++ digits ++ rest
  else spec.pad '>' (sign ++ mark ++ digits ++ rest)

/-! ## Texts -/

/-- The complaint that a type of layout is unknown for a type of value. -/
def unknownType (type : Char) (typeName : String) : Error :=
  .malformed ("Unknown format code '" ++ shownType type ++ "' for object of type '" ++ typeName
    ++ "'")

/-- A text, cut to the precision and padded to the width. -/
def layText (spec : Spec) (s : Text) : Except Error Text := do
  if let some type := spec.type then
    if type ≠ 's' then throw (unknownType type "str")
  if let some sign := spec.sign then
    throw (.malformed ((if sign = ' ' then "Space" else "Sign")
      ++ " not allowed in string format specifier"))
  if spec.plainZero then
    throw (.malformed "Negative zero coercion (z) not allowed in string format specifier")
  if spec.alternate then
    throw (.malformed "Alternate form (#) not allowed in string format specifier")
  if spec.align = some '=' then
    throw (.malformed "'=' alignment not allowed in string format specifier")
  let s := match spec.precision with
    | some n => s.take n
    | none => s
  spec.checkWidth
  return spec.pad '<' s

/-! ## Floating point numbers -/

/-- No number has more decimal places than this, so that all further ones are zeros. -/
def mostPlaces : Nat := 1074

/-- No number has more significant digits than this. -/
def mostDigits : Nat := 800

/-- The greatest precision of a floating point number. -/
def greatestPrecision : Nat := 2147483647

/-- Whole and fractional digits of a non-negative ratio rounded to `places` decimal places. -/
def splitPoint (places num den : Nat) : Text × Text :=
  let exact := min places mostPlaces
  let n := Binary64.roundDiv (num * tenTo exact) den
  let digits := padZeros (exact + 1) (Nat.toDigits 10 n)
  (digits.take (digits.length - exact),
    digits.drop (digits.length - exact) ++ List.replicate (places - exact) '0')

/-- A positive ratio rounded to `count` significant digits: the digits as a number, and the exponent
of the first of them. -/
def significant (count num den : Nat) : Nat × Int :=
  let top := Decimal.floorLog10 num den
  let scale := top + 1 - count
  let n := Binary64.roundDiv (num * tenTo (-scale).toNat) (den * tenTo scale.toNat)
  if n = tenTo count then (tenTo (count - 1), top + 1) else (n, top)

/-- A non-negative ratio rounded to `count` significant digits: the digits and the exponent of the
first of them. -/
def significantDigits (count num den : Nat) : Text × Int :=
  let exact := min count mostDigits
  let (n, exponent) := if num = 0 then (0, 0) else significant exact num den
  (padZeros exact (Nat.toDigits 10 n) ++ List.replicate (count - exact) '0', exponent)

/-- The exponent part of a number. -/
def exponentText (mark : Char) (exponent : Int) : Text :=
  mark :: (if exponent < 0 then '-' else '+')
    :: padZeros 2 (Nat.toDigits 10 exponent.natAbs)

/-- A text without zeros at its end. -/
def dropZeros (t : Text) : Text := (t.reverse.dropWhile (· == '0')).reverse

/-- The point before fractional digits; without digits it shows in the alternate form only. -/
def pointed (alternate : Bool) (fraction : Text) : Text :=
  if fraction.isEmpty && !alternate then [] else '.' :: fraction

/-- Digits of a ratio in one of the notations, as whole digits and the rest. In the general notation
a number has an exponent if it has more than `room` digits before the point. -/
def numerals (spec : Spec) (type : Char) (room : Int) (num den : Nat) : Text × Text :=
  let precision := spec.precision.getD 6
  let lower := type.toLower
  let mark := if type.isUpper then 'E' else 'e'
  if lower = 'f' then
    let (whole, fraction) := splitPoint precision num den
    (whole, pointed spec.alternate fraction)
  else if lower = '%' then
    let (whole, fraction) := splitPoint precision num den
    (whole, pointed spec.alternate fraction ++ ['%'])
  else if lower = 'e' then
    let (digits, exponent) := significantDigits (precision + 1) num den
    (digits.take 1, pointed spec.alternate (digits.drop 1) ++ exponentText mark exponent)
  else
    let (digits, exponent) := significantDigits (max precision 1) num den
    if exponent < -4 ∨ room ≤ exponent then
      let fraction := digits.drop 1
      let fraction := if spec.alternate then fraction else dropZeros fraction
      (digits.take 1, pointed spec.alternate fraction ++ exponentText mark exponent)
    else if exponent < 0 then
      let fraction := List.replicate (-exponent - 1).toNat '0' ++ digits
      (['0'], pointed spec.alternate (if spec.alternate then fraction else dropZeros fraction))
    else
      let whole := exponent.toNat + 1
      let fraction := digits.drop whole
      (digits.take whole,
        pointed spec.alternate (if spec.alternate then fraction else dropZeros fraction))

/-- The types of layout of floating point numbers. -/
def realTypes : List Char := "eEfFgG%".toList

/-- A floating point number, laid out. Without a type of layout it is the shortest decimal, or has as
many digits as the precision says and at least one after the point. -/
def layReal (spec : Spec) (x : Binary64) : Except Error Text := do
  if spec.precision.any (greatestPrecision < ·) then throw (.malformed "precision too big")
  spec.checkWidth
  let type := spec.type.getD 'g'
  let count : Int := max (spec.precision.getD 6) 1
  match if type = '%' then x.scale 100 else x with
  | .finite negative m e =>
    let num := m * twoTo e.toNat
    let den := twoTo (-e).toNat
    let (whole, rest) :=
      if spec.type.isNone && spec.precision.isNone then
        let t := Binary64.toText (.finite false m e)
        let rest := t.dropWhile (·.isDigit)
        (t.takeWhile (·.isDigit),
          if spec.alternate && rest.head? != some '.' then '.' :: rest else rest)
      else if spec.type.isNone then
        let (whole, rest) := numerals spec 'g' (count - 1) num den
        if rest.isEmpty then (whole, ['.', '0']) else (whole, rest)
      else numerals spec (if type = 'n' then 'g' else type) count num den
    let shownZero := (whole ++ rest.takeWhile fun c => c != 'e' && c != 'E').all fun c =>
      !c.isDigit || c == '0'
    return spec.layNumber (negative && !(spec.plainZero && shownZero)) [] 3 whole rest
  | .infinite negative =>
    let word := if type.isUpper then "INF" else "inf"
    return spec.layNumber negative [] 3 [] (word.toList ++ if type = '%' then ['%'] else [])
  | .nan =>
    let word := if type.isUpper then "NAN" else "nan"
    return spec.layNumber false [] 3 [] (word.toList ++ if type = '%' then ['%'] else [])

/-! ## Integers -/

/-- The character with a number, laid out. -/
def layCharacter (spec : Spec) (n : Int) : Except Error Text := do
  if spec.sign.isSome then
    throw (.malformed "Sign not allowed with integer format specifier 'c'")
  if spec.alternate then
    throw (.malformed "Alternate form (#) not allowed with integer format specifier 'c'")
  if n < -9223372036854775808 ∨ 9223372036854775807 < n then
    throw (.tooGreat "Python int too large to convert to C long")
  if n < 0 ∨ 0x10FFFF < n then throw (.tooGreat "%c arg not in range(0x110000)")
  spec.checkWidth
  return spec.layNumber false [] 3 [] [(CodePoint.ofCode n.toNat).shown]

/-- An integer in a base, laid out. -/
def layWhole (spec : Spec) (type : Char) (n : Int) : Except Error Text := do
  let (base, mark) := match type with
    | 'b' => (2, "0b")
    | 'o' => (8, "0o")
    | 'x' => (16, "0x")
    | 'X' => (16, "0X")
    | _ => (10, "")
  if base = 10 && !Integer.isWritable n then throw (.malformed Integer.tooLongToWrite)
  spec.checkWidth
  let digits := Nat.toDigits base n.natAbs
  let digits := if type = 'X' then digits.map Char.toUpper else digits
  let mark := if spec.alternate then mark.toList else []
  return spec.layNumber (n < 0) mark (if base = 10 then 3 else 4) digits []

/-- An integer, laid out as an integer, as a character or as a floating point number. -/
def layInt (spec : Spec) (n : Int) (typeName : String) : Except Error Text := do
  let type := spec.type.getD 'd'
  if realTypes.contains type then
    match Binary64.ofInt n with
    | .infinite _ => throw (.tooGreat "int too large to convert to float")
    | x => layReal spec x
  else
    if !("bcdoxXn".toList.contains type) then throw (unknownType type typeName)
    if spec.precision.isSome then
      throw (.malformed "Precision not allowed in integer format specifier")
    if spec.plainZero then
      throw (.malformed "Negative zero coercion (z) not allowed in integer format specifier")
    if type = 'c' then layCharacter spec n else layWhole spec type n

/-! ## Parts -/

/-- The specification of a floating point number; the type with number zero is none. -/
def Spec.ofTextForReal? (written : Text) : Except Error Spec := do
  let spec ← Spec.ofText? "float" true none written
  match spec.type with
  | none => return spec
  | some '\x00' => return { spec with type := none }
  | some type =>
    if type = 'n' || realTypes.contains type then return spec
    else throw (unknownType type "float")

/-- A part laid out by the text of a specification. Without one it is written plainly. -/
def layOut (specText : Text) (part : Part) : Except Error Text := do
  if specText.isEmpty then return (← part.written Part.text).toList
  match part with
  | .value (.text s) => layText (← Spec.ofText? "str" false (some 's') specText) s.toList
  | .value (.int n) => layInt (← Spec.ofText? "int" true (some 'd') specText) n "int"
  | .value (.bool b) =>
    layInt (← Spec.ofText? "bool" true (some 'd') specText) (if b then 1 else 0) "bool"
  | .value (.real x) => layReal (← Spec.ofTextForReal? specText) x
  | part =>
    throw (.wrongType ("unsupported format string passed to " ++ part.typeName ++ ".__format__"))

end Assay.Template
