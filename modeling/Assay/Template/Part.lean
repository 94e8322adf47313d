import Assay.Template.Error
import Assay.Value

/-!
# What fields stand for

A field of a template leads to an argument, or through its members and items to a part of one.
Besides values these are the types of values, which have names and build on one another.
-/

namespace Assay.Template

/-- What a field stands for. -/
inductive Part where
  | value (v : Value)
  | type (name : String)
  /-- Types in a row. -/
  | types (names : List String)

namespace Part

/-- The type that all types build on. -/
def rootType : String := "object"

/-- The type of types. -/
def typeOfTypes : String := "type"

/-- The type that a type builds on directly. -/
def baseOf? (name : String) : Option String :=
  if name = rootType then none else if name = "bool" then some "int" else some rootType

/-- A type and all that it builds on, the nearest first. -/
def lineage (name : String) : List String :=
  if name = rootType then [name]
  else if name = "bool" then [name, "int", rootType]
  else [name, rootType]

/-- The name of the type of a part. -/
def typeName : Part → String
  | .value v => v.typeName
  | .type _ => typeOfTypes
  | .types _ => "tuple"

/-- A type as it is written. -/
def typeLiteral (name : String) : String := "<class '" ++ name ++ "'>"

/-- A part as it is written inside a collection. -/
def literal : Part → String
  | .value v => v.toLiteral
  | .type name => typeLiteral name
  | .types [name] => "(" ++ typeLiteral name ++ ",)"
  | .types names => "(" ++ ", ".intercalate (names.map typeLiteral) ++ ")"

/-- The text of a part. -/
def text : Part → String
  | .value v => v.toText
  | part => part.literal

/-- Whether a part can be written. -/
def isWritable : Part → Bool
  | .value v => v.isWritable
  | _ => true

/-- What a way of writing makes of a part that can be written. -/
def written (part : Part) (write : Part → String) : Except Error String :=
  if part.isWritable then .ok (write part) else .error (.malformed Integer.tooLongToWrite)

/-! ## Members -/

/-- The member of a type with a name. -/
def memberOfType? (name : String) : String → Option Part
  | "__name__" | "__qualname__" => some (.value (.text name))
  | "__module__" => some (.value (.text "builtins"))
  | "__base__" => some (((baseOf? name).map Part.type).getD (.value .null))
  | "__bases__" => some (.types (baseOf? name).toList)
  | "__mro__" => some (.types (lineage name))
  | _ => none

/-- The member of a value with a name. Numbers have a real and an imaginary part, and integers are
fractions as well. Collections that change cannot be hashed. -/
def memberOfValue? (v : Value) (member : String) : Option Part :=
  match v, v.asInt?, member with
  | _, some n, "real" | _, some n, "numerator" => some (.value (.int n))
  | _, some _, "imag" => some (.value (.int 0))
  | _, some _, "denominator" => some (.value (.int 1))
  | .real x, _, "real" => some (.value (.real x))
  | .real _, _, "imag" => some (.value (.real .zero))
  | .list _, _, "__hash__" | .map _, _, "__hash__" | .set _, _, "__hash__" => some (.value .null)
  | _, _, _ => none

/-- The member of a part with a name. -/
def member (part : Part) (name : String) : Except Error Part :=
  if name = "__class__" then .ok (.type part.typeName)
  else
    let found := match part with
      | .value v => memberOfValue? v name
      | .type t => memberOfType? t name
      | .types _ => none
    match found, part with
    | some m, _ => .ok m
    | none, .type t => .error (.noMember ("type object '" ++ t ++ "'") name)
    | none, part => .error (.noMember ("'" ++ part.typeName ++ "' object") name)

/-! ## Items -/

/-- The item of a row at an index, or the complaint that there is none. -/
def itemAt {α : Type} (container : String) (items : List α) (index : Option Nat) :
    Except Error α :=
  match index with
  | some i =>
    match items[i]? with
    | some v => .ok v
    | none => .error (.noItem container)
  | none => .error (.wrongType (container ++ " indices must be integers or slices, not str"))

/-- The item of a text at an index. -/
def characterAt (s : String) (index : Option Nat) : Except Error Part :=
  match index with
  | some i =>
    match s.toList[i]? with
    | some c => .ok (.value (.text (String.singleton c)))
    | none => .error (.noItem "string")
  | none => .error (.wrongType "string indices must be integers, not 'str'")

/-- The item of a part at a key; a key that is an index comes as a number too. -/
def item (part : Part) (key : Text) (index : Option Nat) : Except Error Part :=
  match part with
  | .value (.text s) => characterAt s index
  | .value (.list items) => (itemAt "list" items index).map .value
  | .value (.tuple items) => (itemAt "tuple" items index).map .value
  | .types names => (itemAt "tuple" names index).map .type
  | .value (.map entries) =>
    let k := match index with
      | some i => Value.int i
      | none => Value.text (String.ofList key)
    match entries.find? fun entry => entry.1.sameKey k with
    | some entry => .ok (.value entry.2)
    | none => .error (.noEntry k.toLiteral)
  | .type name => .error (.wrongType ("type '" ++ name ++ "' is not subscriptable"))
  | part => .error (.wrongType ("'" ++ part.typeName ++ "' object is not subscriptable"))

end Part

end Assay.Template
