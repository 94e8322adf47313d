import Assay.Text.Basic
import Assay.Yaml.Time

/-!
# Tags

A tag says of what type a node is. A plain scalar without a tag has the tag that its spelling
announces; the spellings are disjoint, a text that is none of them is a text.
-/

namespace Assay.Yaml

/-- The types of nodes. -/
inductive Tag where
  | null
  | bool
  | int
  | real
  | time
  | text
  | binary
  | list
  | map
  | set
  /-- Pairs of keys and values in their order. -/
  | pairs
  /-- The key of entries that come from other mappings. -/
  | merge
  /-- The key of the value that stands for its mapping. -/
  | standIn
  | other (name : Text)
  deriving DecidableEq, Repr

namespace Tag

/-- What the names of the known types begin with. -/
def beginning : Text := "tag:yaml.org,2002:".toList

/-- The known types with the rest of their names. -/
def known : List (String × Tag) :=
  [("null", .null), ("bool", .bool), ("int", .int), ("float", .real), ("timestamp", .time),
    ("str", .text), ("binary", .binary), ("seq", .list), ("map", .map), ("set", .set),
    ("omap", .pairs), ("pairs", .pairs), ("merge", .merge), ("value", .standIn)]

/-- The tag with a name. -/
def ofName (name : Text) : Tag :=
  if beginning.isPrefixOf name then
    match known.find? fun entry => entry.1.toList == name.drop beginning.length with
    | some entry => entry.2
    | none => .other name
  else .other name

/-! ## Spellings of plain scalars -/

/-- The spellings of null. -/
def nulls : List String := ["", "~", "null", "Null", "NULL"]

/-- The spellings of the truth values. -/
def truthValues : List String :=
  ["yes", "Yes", "YES", "no", "No", "NO", "true", "True", "TRUE", "false", "False", "FALSE",
    "on", "On", "ON", "off", "Off", "OFF"]

/-- Whether a character is a decimal digit or an underscore. -/
def isSpaced (c : Char) : Bool := Time.isDigit c || c == '_'

/-- Whether a text is one or more characters of a class. -/
def isSome (p : Char → Bool) (t : Text) : Bool := !t.isEmpty && t.all p

/-- The text without a sign in front. -/
def unsigned : Text → Text
  | '+' :: rest => rest
  | '-' :: rest => rest
  | t => t

/-- Whether a text is a digit, and then digits and underscores. -/
def isWhole : Text → Bool
  | c :: rest => Time.isDigit c && rest.all isSpaced
  | [] => false

/-- Whether a text is a number below sixty in one or two digits. -/
def isSixtieth : Text → Bool
  | [c] => Time.isDigit c
  | [c, d] => '0' ≤ c && c ≤ '5' && Time.isDigit d
  | _ => false

/-- Whether a text without a sign spells an integer: in base two, eight, ten, sixteen or sixty. -/
def spellsInteger : Text → Bool
  | '0' :: rest =>
    rest.isEmpty || isSome (fun c => '0' ≤ c && c ≤ '7' || c == '_') rest
      || match rest with
        | 'b' :: digits => isSome (fun c => c == '0' || c == '1' || c == '_') digits
        | 'x' :: digits =>
          isSome (fun c => isSpaced c || 'a' ≤ c && c ≤ 'f' || 'A' ≤ c && c ≤ 'F') digits
        | _ => false
  | t =>
    match Text.splitAt ':' t with
    | whole :: sixtieths => isWhole whole && sixtieths.all isSixtieth
    | [] => false

/-- Whether a text is nothing or an exponent with its sign. -/
def isExponent : Text → Bool
  | [] => true
  | e :: sign :: digits =>
    (e == 'e' || e == 'E') && (sign == '+' || sign == '-') && isSome Time.isDigit digits
  | _ => false

/-- Whether a text without a sign spells a number with a point that has digits before it. -/
def spellsPointed (t : Text) : Bool :=
  let before := t.takeWhile (· != '.')
  match t.dropWhile (· != '.') with
  | _ :: after =>
    isWhole before && isExponent (after.dropWhile isSpaced)
      || match Text.splitAt ':' before with
        | whole :: sixtieths =>
          isWhole whole && !sixtieths.isEmpty && sixtieths.all isSixtieth && after.all isSpaced
        | [] => false
  | [] => false

/-- Whether a text spells a number with a point and nothing before the point. -/
def spellsFraction : Text → Bool
  | '.' :: c :: rest => Time.isDigit c && isExponent (rest.dropWhile isSpaced)
  | _ => false

/-- Whether a text spells a floating point number. -/
def spellsReal (t : Text) : Bool :=
  spellsPointed (unsigned t) || spellsFraction t
    || [".inf", ".Inf", ".INF"].any (fun s => s.toList == unsigned t)
    || [".nan", ".NaN", ".NAN"].any fun s => s.toList == t

/-- The tag that a spelling announces. -/
def ofSpelling (t : Text) : Tag :=
  if truthValues.any fun s => s.toList == t then .bool
  else if spellsReal t then .real
  else if spellsInteger (unsigned t) then .int
  else if t = "<<".toList then .merge
  else if nulls.any fun s => s.toList == t then .null
  else if Time.isSpelled t then .time
  else if t = ['='] then .standIn
  else if t = ['!'] ∨ t = ['&'] ∨ t = ['*'] then .other (beginning ++ "yaml".toList)
  else .text

/-- The tag of a scalar without one; a line feed at the end of a longer text is no part of its
spelling. -/
def ofPlain (t : Text) : Tag := ofSpelling (withoutFinalFeed t)

end Tag

end Assay.Yaml
