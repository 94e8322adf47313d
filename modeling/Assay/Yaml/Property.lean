import Assay.Text.Integer
import Assay.Yaml.Scalar
import Assay.Yaml.Token

/-!
# Anchors, tags and directives as they are written

The names that a document gives to its nodes and to their types, and the lines that start with a
percent sign. A name of a type may hold bytes of UTF-8 text, each as a percent sign and two
hexadecimal digits.
-/

namespace Assay.Yaml.Property

/-! ## Anchors and aliases -/

/-- The name behind the mark of an anchor or an alias at `c`, and the place after it. -/
def name (c : Cursor) : Except Error (Text × Cursor) :=
  let (name, c) := c.advance.takeWhile isNameCharacter
  if name.isEmpty || !(endsWord c.next? || c.next?.any "?:,]\x7d%@\x60".toList.contains) then
    .error .anchorName
  else .ok (name, c)

/-! ## Tags -/

/-- The characters that may stand in the name of a type. -/
def isUriCharacter (ch : Char) : Bool :=
  isNameCharacter ch || ";/?:@&=+$,.!~*'()[]%".toList.contains ch

/-- The bytes of the name of a type, and how many characters write them. -/
def uriBytes : Text → Except Error (List UInt8 × Nat)
  | '%' :: a :: b :: rest => do
    match Scalar.hexNumber? [a, b] with
    | none => throw .tagSyntax
    | some n =>
      let (bytes, count) ← uriBytes rest
      return (n.toUInt8 :: bytes, count + 3)
  | ch :: rest => do
    if ch = '%' then throw .tagSyntax
    else if isUriCharacter ch then
      let (bytes, count) ← uriBytes rest
      return (ch.toNat.toUInt8 :: bytes, count + 1)
    else return ([], 0)
  | [] => .ok ([], 0)

/-- The name of a type at `c`, and the place after it. -/
def uri (c : Cursor) : Except Error (Text × Cursor) := do
  let (bytes, count) ← uriBytes c.rest
  match String.fromUTF8? ⟨bytes.toArray⟩ with
  | some s => if count = 0 then throw .tagSyntax else return (s.toList, Cursor.advanceBy count c)
  | none => throw .tagSyntax

/-- The handle at `c`, and the place after it: an exclamation mark, or a name between two. -/
def handle (c : Cursor) : Except Error (Text × Cursor) :=
  if c.next? ≠ some '!' then .error .tagSyntax
  else if c.afterNext? = some ' ' then .ok (['!'], c.advance)
  else
    let (name, c) := c.advance.takeWhile isNameCharacter
    if c.next? = some '!' then .ok ('!' :: name ++ ['!'], c.advance) else .error .tagSyntax

/-- Whether a second exclamation mark follows before the word ends. -/
def hasHandle (t : Text) : Bool :=
  (t.takeWhile fun ch => !endsWordButTab (some ch)).contains '!'

/-- The tag at `c`, and the place after it. -/
def tag (c : Cursor) : Except Error (Token × Cursor) := do
  let (token, c) ←
    if c.afterNext? = some '<' then do
      let (rest, c) ← uri (Cursor.advanceBy 2 c)
      if c.next? = some '>' then pure (Token.tag none rest, c.advance) else throw .tagSyntax
    else if endsWord c.afterNext? then pure (Token.tag none ['!'], c.advance)
    else do
      let (h, c) ← if hasHandle c.rest.tail then handle c else pure (['!'], c.advance)
      let (rest, c) ← uri c
      pure (Token.tag (some h) rest, c)
  if endsWordButTab c.next? then return (token, c) else throw .tagSyntax

/-! ## Directives -/

/-- The decimal number at `c`, and the place after it. -/
def number (c : Cursor) : Except Error (Nat × Cursor) :=
  let (digits, c) := c.takeWhile fun ch => '0' ≤ ch && ch ≤ '9'
  if digits.isEmpty then .error .directive
  else if Integer.digitLimit < digits.length then
    .error (.notInteger (Integer.tooLongToRead digits.length))
  else .ok (digits.foldl (fun n ch => n * 10 + (ch.toNat - 0x30)) 0, c)

/-- The version behind the name of its directive. -/
def version (c : Cursor) : Except Error (Directive × Cursor) := do
  let (major, c) ← number (c.skipWhile (· == ' '))
  if c.next? ≠ some '.' then throw .directive
  let (minor, c) ← number c.advance
  if !endsWordButTab c.next? then throw .directive
  return (.version major minor, c)

/-- The handle and what it stands for behind the name of their directive. -/
def handleMeaning (c : Cursor) : Except Error (Directive × Cursor) := do
  let (name, c) ← handle (c.skipWhile (· == ' '))
  if c.next? ≠ some ' ' then throw .directive
  let (beginning, c) ← uri (c.skipWhile (· == ' '))
  if !endsWordButTab c.next? then throw .directive
  return (.handle name beginning, c)

/-- The directive at `c`, and the place after its line. -/
def directive (c : Cursor) : Except Error (Directive × Cursor) := do
  let (name, c) := c.advance.takeWhile isNameCharacter
  if name.isEmpty || !endsWordButTab c.next? then throw .directive
  let (d, c) ←
    if name = "YAML".toList then version c
    else if name = "TAG".toList then handleMeaning c
    else pure (.other name, c.skipWhile fun ch => !isBreak ch)
  match c.endLine? with
  | some c => return (d, c)
  | none => throw .directive

end Assay.Yaml.Property
