import Assay.Calendar
import Assay.Decimal.Notation
import Assay.Decimal.Power
import Assay.Text.Integer

/-!
# Plain data

What a configuration file or an option can hold: scalars, sequences and mappings. A mapping keeps
its entries in the order of their first appearance; writing a key again changes its value and not
its place. Numbers are one kind of key: a truth value, an integer and a floating point number that
are equal are the same key. Times that are the same moment are the same key as well.

A collection can be a part of itself. Where it comes up again inside itself, an elision of its shape
stands for it, so that a value has an end.
-/

namespace Assay

/-- The shapes of collections that can be parts of themselves. -/
inductive Shape where
  | list
  | tuple
  | map
  deriving DecidableEq, Repr

/-- A piece of plain data. -/
inductive Value where
  | null
  | bool (b : Bool)
  | int (n : Int)
  | real (x : Binary64)
  | text (s : String)
  /-- A text with lone surrogates. -/
  | codes (t : CodeText)
  | date (d : Date)
  | time (t : Timestamp)
  | bytes (data : List UInt8)
  | list (items : List Value)
  | tuple (items : List Value)
  | set (items : List Value)
  | map (entries : List (Value × Value))
  /-- A collection inside itself. -/
  | elided (shape : Shape)
  deriving Inhabited, BEq, Repr

namespace Value

/-- The name of the type of a value in messages. -/
def typeName : Value → String
  | .null => "NoneType"
  | .bool _ => "bool"
  | .int _ => "int"
  | .real _ => "float"
  | .text _ | .codes _ => "str"
  | .date _ => "date"
  | .time _ => "datetime"
  | .bytes _ => "bytes"
  | .list _ => "list"
  | .tuple _ => "tuple"
  | .set _ => "set"
  | .map _ => "dict"
  | .elided .list => "list"
  | .elided .tuple => "tuple"
  | .elided .map => "dict"

/-- A text of code points; it is a string if it holds characters alone. -/
def ofCodes (t : CodeText) : Value :=
  match t.text? with
  | some characters => .text (String.ofList characters)
  | none => .codes t

/-- The code points of a text. -/
def codes? : Value → Option CodeText
  | .text s => some (.ofString s)
  | .codes t => some t
  | _ => none

/-! ## Emptiness and keys -/

/-- Whether a value counts as nothing: null, false, a zero, or an empty text or collection. -/
def isEmpty : Value → Bool
  | .null => true
  | .bool b => !b
  | .int n => n == 0
  | .real x => x.isZero
  | .text s => s.isEmpty
  | .codes t => t.isEmpty
  | .date _ | .time _ | .elided _ => false
  | .bytes data => data.isEmpty
  | .list items | .tuple items | .set items => items.isEmpty
  | .map entries => entries.isEmpty

/-- The integer that a truth value or an integer counts as. -/
def asInt? : Value → Option Int
  | .bool b => some (if b then 1 else 0)
  | .int n => some n
  | _ => none

/-- Whether two values are the same key. -/
def sameKey (a b : Value) : Bool :=
  match a.asInt?, b.asInt?, a, b with
  | some m, some n, _, _ => m == n
  | some m, none, _, .real y => y.equalsInt m
  | none, some n, .real x, _ => x.equalsInt n
  | _, _, .real x, .real y => x != .nan && (x == y || x.isZero && y.isZero)
  | _, _, .time s, .time t => s.isSame t
  | _, _, a, b => a == b

/-- The entries with a key set to a value: in its place if it is there, else at the end. -/
def insertEntry (key value : Value) : List (Value × Value) → List (Value × Value)
  | [] => [(key, value)]
  | (k, v) :: rest =>
    if sameKey k key then (k, value) :: rest else (k, v) :: insertEntry key value rest

/-- The entries of a mapping that is written entry by entry. -/
def entriesOf (written : List (Value × Value)) : List (Value × Value) :=
  written.foldl (fun entries (key, value) => insertEntry key value entries) []

/-- The value of a textual key. -/
def lookup? (key : String) (entries : List (Value × Value)) : Option Value :=
  (entries.find? fun entry => entry.1.sameKey (.text key)).map Prod.snd

/-! ## Order of sets -/

/-- The number of buckets of a set: the least power of two that is more than twice the number of its
items, and not below eight. -/
def bucketCount (size : Nat) : Nat := if size < 5 then 8 else twoTo ((2 * size).log2 + 1)

/-- The bucket of a number, its remainder by their number. The buckets of -1 and -2 are one. -/
def bucketOf (count : Nat) (n : Int) : Nat := ((if n = -1 then -2 else n) % (count : Int)).toNat

/-- What is said of the items of a set, in the order in which the set shows them: numbers by their
buckets, items of other types as they came. -/
def inSetOrder {α : Type} (items : List Value) (said : List α) : List α :=
  match items.mapM asInt? with
  | none => said
  | some numbers =>
    let buckets := numbers.map (bucketOf (bucketCount items.length))
    ((buckets.zip said).mergeSort fun a b => a.1 ≤ b.1).map Prod.snd

/-! ## Text of a value -/

/-- One byte of a quoted byte string. -/
def escapeByte (quote : Char) (b : UInt8) : Text :=
  let c := Char.ofNat b.toNat
  if c = quote ∨ c = '\\' then ['\\', c]
  else if c = '\t' then ['\\', 't']
  else if c = '\n' then ['\\', 'n']
  else if c = '\r' then ['\\', 'r']
  else if b < 0x20 ∨ 0x7F ≤ b then '\\' :: 'x' :: hexDigits 2 b.toNat
  else [c]

/-- A byte string in quotes. -/
def bytesLiteral (data : List UInt8) : String :=
  let chars := data.map fun b => Char.ofNat b.toNat
  let quote := Quoted.quoteOf chars
  String.ofList ('b' :: quote :: data.flatMap (escapeByte quote) ++ [quote])

mutual

/-- A value as it is written inside a collection: texts in quotes, and all else as the expression
that builds it. -/
def toLiteral : Value → String
  | .null => "None"
  | .bool b => if b then "True" else "False"
  | .int n => toString n
  | .real x => String.ofList x.toText
  | .text s => quoted s
  | .codes t => String.ofList t.quoted
  | .date d => d.toLiteral
  | .time t => t.toLiteral
  | .bytes data => bytesLiteral data
  | .list items => "[" ++ ", ".intercalate (literals items) ++ "]"
  | .tuple [item] => "(" ++ toLiteral item ++ ",)"
  | .tuple items => "(" ++ ", ".intercalate (literals items) ++ ")"
  | .set [] => "set()"
  | .set items => "\x7b" ++ ", ".intercalate (inSetOrder items (literals items)) ++ "\x7d"
  | .map entries => "\x7b" ++ ", ".intercalate (entryLiterals entries) ++ "\x7d"
  | .elided .list => "[...]"
  | .elided .tuple => "(...)"
  | .elided .map => "\x7b...\x7d"

/-- The literals of a list of values. -/
def literals : List Value → List String
  | [] => []
  | v :: rest => toLiteral v :: literals rest

/-- The literals of the entries of a mapping. -/
def entryLiterals : List (Value × Value) → List String
  | [] => []
  | (k, v) :: rest => (toLiteral k ++ ": " ++ toLiteral v) :: entryLiterals rest

end

/-- The text of a value: a text is itself as far as it can be a string, a date is written with
hyphens, all else is written as inside a collection. -/
def toText : Value → String
  | .text s => s
  | .codes t => t.toText
  | .date d => d.toText
  | .time t => t.toText
  | v => v.toLiteral

/-- The text of a value in code points, in which nothing is replaced. -/
def toCodes (v : Value) : CodeText := v.codes?.getD (.ofString v.toText)

mutual

/-- Whether a value can be written: it holds no integer that is too long for that. -/
def isWritable : Value → Bool
  | .int n => Integer.isWritable n
  | .list items | .tuple items | .set items => areWritable items
  | .map entries => entriesAreWritable entries
  | _ => true

/-- Whether some values can be written. -/
def areWritable : List Value → Bool
  | [] => true
  | v :: rest => isWritable v && areWritable rest

/-- Whether the entries of a mapping can be written. -/
def entriesAreWritable : List (Value × Value) → Bool
  | [] => true
  | (k, v) :: rest => isWritable k && isWritable v && entriesAreWritable rest

end

/-- Why a value cannot be written. -/
inductive WriteError where
  /-- Collections are in one another too deep. -/
  | tooDeep
  /-- An integer has too many digits. -/
  | tooLong
  deriving DecidableEq, Repr

mutual

/-- What goes wrong first when a value is written, from left to right, with room for some collections
in one another. A set is written as the list of its items, and so takes up room twice. -/
def writeError? : Nat → Value → Option WriteError
  | _, .int n => if Integer.isWritable n then none else some .tooLong
  | room, .list items | room, .tuple items | room + 1, .set items => itemsWriteError? room items
  | 0, .set (_ :: _) => some .tooDeep
  | room, .map entries => entriesWriteError? room entries
  | _, _ => none

/-- What goes wrong first with the items of a collection. -/
def itemsWriteError? : Nat → List Value → Option WriteError
  | _, [] => none
  | 0, _ :: _ => some .tooDeep
  | room + 1, v :: rest => (writeError? room v).or (itemsWriteError? (room + 1) rest)

/-- What goes wrong first with the entries of a mapping. -/
def entriesWriteError? : Nat → List (Value × Value) → Option WriteError
  | _, [] => none
  | 0, _ :: _ => some .tooDeep
  | room + 1, (k, v) :: rest =>
    (writeError? room k).or ((writeError? room v).or (entriesWriteError? (room + 1) rest))

end

/-- How many collections can be in one another where a value is written, as long as nothing else takes
up room. Whatever calls for the writing takes up some, and so does the zone of a time; that is left
out. -/
def standardRoom : Nat := 1000

mutual

/-- Whether a collection is a part of itself somewhere in a value. -/
def isEndless : Value → Bool
  | .elided _ => true
  | .list items | .tuple items | .set items => areEndless items
  | .map entries => entriesAreEndless entries
  | _ => false

/-- Whether one of some values has no end. -/
def areEndless : List Value → Bool
  | [] => false
  | v :: rest => isEndless v || areEndless rest

/-- Whether one of the entries of a mapping has no end. -/
def entriesAreEndless : List (Value × Value) → Bool
  | [] => false
  | (_, v) :: rest => isEndless v || entriesAreEndless rest

end

/-! ## JSON text -/

/-- One character of a JSON string. Only the quote, the backslash and control characters are
escaped. -/
def jsonEscape (c : Char) : Text :=
  if c = '"' then ['\\', '"']
  else if c = '\\' then ['\\', '\\']
  else if c = '\n' then ['\\', 'n']
  else if c = '\r' then ['\\', 'r']
  else if c = '\t' then ['\\', 't']
  else if c = '\x08' then ['\\', 'b']
  else if c = '\x0c' then ['\\', 'f']
  else if c.toNat < 0x20 then '\\' :: 'u' :: hexDigits 4 c.toNat
  else [c]

/-- A string in JSON. -/
def jsonString (s : String) : String :=
  String.ofList ('"' :: s.toList.flatMap jsonEscape ++ ['"'])

mutual

/-- A value as JSON text, the keys of mappings in ascending order and characters beyond ASCII as
they are. -/
def toJson : Value → String
  | .null => "null"
  | .bool b => if b then "true" else "false"
  | .int n => toString n
  | .real (.infinite negative) => if negative then "-Infinity" else "Infinity"
  | .real .nan => "NaN"
  | .real x => String.ofList x.toText
  | .list items | .tuple items | .set items => "[" ++ ", ".intercalate (jsonItems items) ++ "]"
  | .map entries =>
    let sorted := (jsonEntries entries).mergeSort fun a b =>
      Text.comesBefore a.1.toList b.1.toList
    "\x7b" ++ ", ".intercalate (sorted.map fun entry => jsonString entry.1 ++ ": " ++ entry.2)
      ++ "\x7d"
  | v => jsonString v.toText

/-- The JSON texts of a list of values. -/
def jsonItems : List Value → List String
  | [] => []
  | v :: rest => toJson v :: jsonItems rest

/-- The keys of a mapping with the JSON texts of their values. -/
def jsonEntries : List (Value × Value) → List (String × String)
  | [] => []
  | (k, v) :: rest => (k.toText, toJson v) :: jsonEntries rest

end

end Value

end Assay
