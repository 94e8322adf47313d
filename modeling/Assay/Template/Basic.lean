import Assay.Template.Spec

/-!
# Message templates

A template is a text with fields in braces. `{0}` stands for the first argument, `{}` for the next
one; a template numbers its fields or leaves all of them without a number. A field may ask for a
part of an argument (`{0[1]}`), for its quoted form (`{0!r}`), and may say how the value is laid out
(`{0:>8}`); the layout may hold fields itself. Doubled braces stand for single ones.

## Termination

Every step of `fill` leaves a shorter template; a layout is one level deeper, and there are two
levels.
-/

namespace Assay.Template

/-! ## Cutting a template into pieces -/

/-- A field as it is written. -/
structure Field where
  name : Text
  conversion : Option Char
  spec : Text
  /-- Whether the layout holds fields. -/
  nested : Bool
  deriving Repr

/-- The text up to the closing bracket, and what follows it. -/
def takeBracket : Text → Text × Text
  | [] => ([], [])
  | ']' :: rest => ([']'], rest)
  | c :: rest =>
    let (taken, more) := takeBracket rest
    (c :: taken, more)

theorem takeBracket_length (t : Text) : (takeBracket t).2.length ≤ t.length := by
  fun_induction takeBracket t with
  | case1 => exact Nat.le_refl _
  | case2 rest => exact Nat.le_succ _
  | case3 c rest _ taken more h ih =>
    rw [h] at ih
    exact Nat.le_succ_of_le ih

/-- The name of a field, the character that ends it and what follows. -/
def takeName : Text → Except Error (Text × Option Char × Text)
  | [] => .ok ([], none, [])
  | '{' :: _ => .error (.malformed "unexpected '\x7b' in field name")
  | '[' :: rest =>
    match takeName (takeBracket rest).2 with
    | .ok (name, stop, more) => .ok ('[' :: (takeBracket rest).1 ++ name, stop, more)
    | .error e => .error e
  | c :: rest =>
    if c = '}' ∨ c = ':' ∨ c = '!' then .ok ([], some c, rest)
    else match takeName rest with
      | .ok (name, stop, more) => .ok (c :: name, stop, more)
      | .error e => .error e
termination_by t => t.length
decreasing_by
  · have := takeBracket_length rest
    simp; omega
  · simp

/-- The layout up to the brace that closes the field, and what follows. `depth` counts the braces
opened within it. -/
def takeSpec (depth : Nat) : Text → Except Error (Text × Bool × Text)
  | [] => .error (.malformed "unmatched '\x7b' in format spec")
  | '}' :: rest =>
    match depth with
    | 0 => .ok ([], false, rest)
    | depth + 1 => do
      let (spec, nested, more) ← takeSpec depth rest
      return ('}' :: spec, nested, more)
  | '{' :: rest => do
    let (spec, _, more) ← takeSpec (depth + 1) rest
    return ('{' :: spec, true, more)
  | c :: rest => do
    let (spec, nested, more) ← takeSpec depth rest
    return (c :: spec, nested, more)

/-- The field that starts after an opening brace, and what follows its closing brace. -/
def takeField (t : Text) : Except Error (Field × Text) := do
  let (name, stop, rest) ← takeName t
  match stop with
  | some '}' => return (⟨name, none, [], false⟩, rest)
  | some ':' =>
    let (spec, nested, more) ← takeSpec 0 rest
    return (⟨name, none, spec, nested⟩, more)
  | some '!' =>
    match rest with
    | [] => throw (.malformed "end of string while looking for conversion specifier")
    | [_] => throw (.malformed "unmatched '\x7b' in format spec")
    | conversion :: '}' :: more => return (⟨name, some conversion, [], false⟩, more)
    | conversion :: ':' :: more =>
      let (spec, nested, more) ← takeSpec 0 more
      return (⟨name, some conversion, spec, nested⟩, more)
    | _ => throw (.malformed "expected ':' after conversion specifier")
  | _ => throw (.malformed "expected '\x7d' before end of string")

/-! ## Looking a field up -/

/-- How the fields of a template get their numbers. -/
inductive Numbering where
  | undecided
  | automatic (next : Nat)
  | manual
  deriving Repr

/-- The part of a name before the first point or bracket, and the rest. -/
def splitFirst (name : Text) : Text × Text :=
  (name.takeWhile fun c => c != '.' && c != '[', name.dropWhile fun c => c != '.' && c != '[')

/-- The index that a text of digits writes. -/
def index (t : Text) : Except Error (Option Nat) := do
  match t, ← countFrom 0 t with
  | _ :: _, (n, []) => return some n
  | _, _ => return none

/-- What the rest of a name leads to from a part, step by step. The bound is on the number of
steps. -/
def follow (bound : Nat) (part : Part) (t : Text) : Except Error Part :=
  match bound, t with
  | _, [] => .ok part
  | 0, _ => .ok part
  | bound + 1, '.' :: rest => do
    let (name, more) := splitFirst rest
    if name.isEmpty then throw (.malformed "Empty attribute in format string")
    follow bound (← part.member (String.ofList name)) more
  | bound + 1, '[' :: rest => do
    let key := rest.takeWhile (· != ']')
    match rest.dropWhile (· != ']') with
    | [] => throw (.malformed "Missing ']' in format string")
    | _ :: more =>
      let i ← index key
      if key.isEmpty then throw (.malformed "Empty attribute in format string")
      follow bound (← part.item key i) more
  | _ + 1, _ =>
    .error (.malformed "Only '.' or '[' may follow ']' in format field specifier")

/-- The number of the argument that a field asks for, and how the next field is numbered. -/
def number (numbering : Numbering) (first : Text) :
    Except Error (Option Nat × Numbering) := do
  match first.isEmpty, ← index first, numbering with
  | true, _, .undecided => return (some 0, .automatic 1)
  | true, _, .automatic next => return (some next, .automatic (next + 1))
  | true, _, .manual =>
    throw (.malformed
      "cannot switch from manual field specification to automatic field numbering")
  | false, none, numbering => return (none, numbering)
  | false, some _, .automatic _ =>
    throw (.malformed
      "cannot switch from automatic field numbering to manual field specification")
  | false, some i, _ => return (some i, .manual)

/-- What a field leads to. -/
def lookUp (args : List Value) (numbering : Numbering) (name : Text) :
    Except Error (Part × Numbering) := do
  let (first, rest) := splitFirst name
  let (index, numbering) ← number numbering first
  let v ← match index with
    | none => throw (.noName (String.ofList first))
    | some i =>
      match args[i]? with
      | some v => pure v
      | none => throw (.noArgument i)
  return (← follow rest.length (.value v) rest, numbering)

/-- A text with characters beyond ASCII escaped. -/
def asciiOnly (t : Text) : Text :=
  t.flatMap fun c => if c.toNat < 0x80 then [c] else Quoted.escapeCode c.toNat

/-- What a conversion makes of a part; the character with number zero asks for none. -/
def convert (part : Part) (conversion : Option Char) : Except Error Part :=
  let texted (write : Part → String) : Except Error Part :=
    (part.written write).map fun s => .value (.text s)
  match conversion with
  | none | some '\x00' => .ok part
  | some 's' => texted Part.text
  | some 'r' => texted Part.literal
  | some 'a' => texted fun p => String.ofList (asciiOnly p.literal.toList)
  | some c =>
    if 0x20 < c.toNat ∧ c.toNat < 0x7F then
      .error (.malformed ("Unknown conversion specifier " ++ String.singleton c))
    else
      .error (.malformed ("Unknown conversion specifier \\x"
        ++ String.ofList (Nat.toDigits 16 c.toNat)))

/-! ## Filling -/

/-- The template with its fields replaced by arguments. `levels` bounds how deep fields stand in
layouts, and `bound` how many pieces the template has. -/
def fillFrom (args : List Value) (levels : Nat) (bound : Nat) (numbering : Numbering) (t : Text) :
    Except Error (Text × Numbering) :=
  match levels, bound, t with
  | 0, _, _ => .error (.malformed "Max string recursion exceeded")
  | _ + 1, _, [] => .ok ([], numbering)
  | _ + 1, 0, _ => .ok ([], numbering)
  | levels + 1, bound + 1, '{' :: '{' :: rest => do
    let (more, numbering) ← fillFrom args (levels + 1) bound numbering rest
    return ('{' :: more, numbering)
  | levels + 1, bound + 1, '}' :: '}' :: rest => do
    let (more, numbering) ← fillFrom args (levels + 1) bound numbering rest
    return ('}' :: more, numbering)
  | _ + 1, _ + 1, '}' :: _ =>
    .error (.malformed "Single '\x7d' encountered in format string")
  | _ + 1, _ + 1, ['{'] => .error (.malformed "Single '\x7b' encountered in format string")
  | levels + 1, bound + 1, '{' :: rest => do
    let (field, rest) ← takeField rest
    let (v, numbering) ← lookUp args numbering field.name
    let v ← convert v field.conversion
    let (spec, numbering) ←
      if field.nested then fillFrom args levels bound numbering field.spec
      else pure (field.spec, numbering)
    let shown ← layOut spec v
    let (more, numbering) ← fillFrom args (levels + 1) bound numbering rest
    return (shown ++ more, numbering)
  | levels + 1, bound + 1, c :: rest => do
    let (more, numbering) ← fillFrom args (levels + 1) bound numbering rest
    return (c :: more, numbering)
termination_by (bound, levels)

end Assay.Template

namespace Assay

/-- The template with its fields replaced by the arguments. -/
def Template.fill (template : Text) (args : List Value) : Except Template.Error Text :=
  (Template.fillFrom args 2 (template.length + 1) .undecided template).map Prod.fst

end Assay
