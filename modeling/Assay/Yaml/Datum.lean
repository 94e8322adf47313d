import Assay.Decimal.Notation
import Assay.Text.Integer
import Assay.Value
import Assay.Yaml.Base64
import Assay.Yaml.Tag

/-!
# What scalars stand for

The tag of a scalar says of what type it is, and its text is read as that type asks.
-/

namespace Assay.Yaml

/-! ## Numbers -/

/-- A text without a sign in front, and whether the sign is a minus. -/
def splitSign : CodeText → Bool × CodeText
  | .char '-' :: rest => (true, rest)
  | .char '+' :: rest => (false, rest)
  | t => (false, t)

/-- The integer in a base that a text is. -/
def integerIn (base : Nat) (t : CodeText) : Except Error Int :=
  match Integer.readIn? base t.shown with
  | some n => .ok n
  | none => .error (.notInteger (Integer.complaint base t))

/-- The integer that a text without sign and underscores writes: a zero in front announces base
eight, and colons part the digits of base sixty. -/
def magnitude (t : CodeText) : Except Error Int :=
  match t with
  | [] => .error .emptyNumber
  | [.char '0'] => .ok 0
  | .char '0' :: .char 'b' :: digits => integerIn 2 digits
  | .char '0' :: .char 'x' :: digits => integerIn 16 digits
  | .char '0' :: _ => integerIn 8 t
  | _ => do
    let parts ← (Text.splitAt (.char ':') t).mapM (integerIn 10)
    return parts.foldl (fun n part => n * 60 + part) 0

/-- The integer that a text writes. -/
def integer (t : CodeText) : Except Error Int :=
  let (negative, t) := splitSign (t.filter (· != .char '_'))
  (magnitude t).map fun n => if negative then -n else n

/-- The sum of digits of base sixty, the last one first, added from the last one on. The weight of
every digit must be a floating point number too. -/
def sumSixtieths (total : Binary64) (weight : Nat) : List Binary64 → Except Error Binary64
  | [] => .ok total
  | digit :: more =>
    match Binary64.ofInt weight with
    | .infinite _ => .error .tooGreat
    | factor => sumSixtieths (total.add (digit.mul factor)) (weight * 60) more

/-- The floating point number that a text is. -/
def realOf (t : CodeText) : Except Error Binary64 :=
  match Binary64.read? t.shown with
  | some x => .ok x
  | none => .error (.notReal t)

/-- The floating point number that a text without sign, underscores and capital letters writes. -/
def realMagnitude (t : CodeText) : Except Error Binary64 :=
  if t = CodeText.ofText ".inf".toList then .ok (.infinite false)
  else if t = CodeText.ofText ".nan".toList then .ok .nan
  else match Text.splitAt (.char ':') t with
    | _ :: _ :: _ => do
      let digits ← (Text.splitAt (.char ':') t).mapM realOf
      sumSixtieths .zero 1 digits.reverse
    | _ => realOf t

/-- The floating point number that a text writes. -/
def real (t : CodeText) : Except Error Binary64 :=
  let t : CodeText := t.filter (· != .char '_')
  if t.isEmpty then .error .emptyNumber
  else
    let (negative, t) := splitSign t.lower
    (realMagnitude t).map fun x => if negative then x.neg else x

/-- Whether a text writes the number that is none by its own name, and not by that of a decimal. -/
def isNamedNan (t : CodeText) : Bool :=
  (splitSign (CodeText.lower (t.filter (· != .char '_')))).2 == CodeText.ofText ".nan".toList

/-! ## Other scalars -/

/-- The truth value that a text writes. -/
def truth (t : CodeText) : Except Error Bool :=
  match String.ofList (Text.lower t.shown) with
  | "yes" | "true" | "on" => .ok true
  | "no" | "false" | "off" => .ok false
  | _ => .error .notTruth

/-- The date or time that a text writes. -/
def time (t : CodeText) : Except Error Value :=
  match Time.written? t.shown with
  | none => .error .notTime
  | some w =>
    match w.clock with
    | none => ((Date.ofParts w.year w.month w.day).mapError .calendar).map .date
    | some k =>
      ((Timestamp.ofParts w.year w.month w.day k.hour k.minute k.second
        (Time.microseconds k.fraction) k.offset).mapError .calendar).map .time

/-- The data of a scalar with a tag. -/
def scalarData (tag : Tag) (t : CodeText) : Except Error Value :=
  match tag with
  | .null => .ok .null
  | .bool => (truth t).map .bool
  | .int => (integer t).map .int
  | .real => (real t).map .real
  | .time => time t
  | .text => .ok (.ofCodes t)
  | .binary =>
    match Base64.decode? t.shown with
    | some bytes => .ok (.bytes bytes)
    | none => .error .base64
  | .list | .map | .set | .pairs => .error .wrongKind
  | .merge => .error (.unknownTag (Tag.beginning ++ "merge".toList))
  | .standIn => .error (.unknownTag (Tag.beginning ++ "value".toList))
  | .other name => .error (.unknownTag name)

end Assay.Yaml
