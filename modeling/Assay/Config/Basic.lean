import Assay.Fault
import Assay.Value

/-!
# Configurations

A configuration names the project and the document of a case, its delimiters and its limits. It can
be built from plain data: a mapping whose keys are known and whose values have the right types. The
first entry that is wrong is the error; keys that are not known go before all others.

The texts of data can hold lone surrogates, and what data describes keeps them. They are replaced
where a configuration is shown (`Config.shown`).
-/

namespace Assay

/-- The options that a compilation and its components see. -/
abbrev Options := List (Value × Value)

/-- The settings of a case. Their texts are strings where a program writes them, and texts of code
points where data describes them. -/
structure Config (τ : Type := String) where
  projectName : τ
  documentName : τ
  language : τ
  openMarker : τ
  closeMarker : τ
  timeout : Option TimeLimit
  failOnInputErrors : Bool
  references : List τ
  compilerOptions : Options
  deriving Inhabited

namespace Config

/-- The settings that hold where nothing else is said. -/
def standard : Config where
  projectName := "TestProject"
  documentName := "Test.al"
  language := standardLanguage
  openMarker := Markup.standardOpening
  closeMarker := Markup.standardClosing
  timeout := some (.real (.ofInt 30))
  failOnInputErrors := true
  references := []
  compilerOptions := []

/-! ## Kinds of texts -/

/-- The settings with every text changed. -/
def map {τ σ : Type} (change : τ → σ) (c : Config τ) : Config σ where
  projectName := change c.projectName
  documentName := change c.documentName
  language := change c.language
  openMarker := change c.openMarker
  closeMarker := change c.closeMarker
  timeout := c.timeout
  failOnInputErrors := c.failOnInputErrors
  references := c.references.map change
  compilerOptions := c.compilerOptions

/-- Settings with strings hold as settings with texts of code points. -/
def coded (c : Config) : Config CodeText := c.map .ofString

/-- The settings as they are shown, with replacements for lone surrogates. -/
def shown (c : Config CodeText) : Config := c.map CodeText.toText

/-- Settings with strings are shown as they are. -/
theorem shown_coded (c : Config) : c.coded.shown = c := by
  have hsame : CodeText.toText ∘ CodeText.ofString = id := funext CodeText.toText_ofString
  simp only [shown, coded, map, CodeText.toText_ofString, List.map_map, hsame, List.map_id]

instance : Coe Config (Config CodeText) := ⟨coded⟩

instance : Coe (Config CodeText) Config := ⟨shown⟩

/-! ## Errors -/

/-- Why there is no configuration. -/
inductive Error where
  | notMapping (typeName : String)
  /-- Keys that are not known, in ascending order. -/
  | unknownKeys (keys : List CodeText)
  /-- There are keys that are not known, and one of them is no text. -/
  | oddKeys
  | wrongType (key : String) (wanted : List String) (typeName : String)
  | notPositive
  /-- A time limit beyond all floating point numbers. -/
  | tooGreat
  /-- A reference with collections too deep in one another to be written. -/
  | tooDeep
  /-- A reference with an integer of too many digits to be written. -/
  | tooLong
  deriving DecidableEq, Repr

/-- The error of a reference that cannot be written. -/
def Error.ofWrite : Value.WriteError → Error
  | .tooDeep => .tooDeep
  | .tooLong => .tooLong

/-- Whether an error is a complaint about the configuration. The others arise while the complaint or
the setting is made. -/
def Error.isComplaint : Error → Bool
  | .oddKeys | .tooGreat | .tooDeep | .tooLong => false
  | _ => true

/-- What is wrong, in words. -/
def Error.message : Error → String
  | .notMapping typeName => "Configuration must be a mapping, got " ++ typeName
  | .unknownKeys keys => "Unknown configuration keys: " ++ ", ".intercalate (keys.map CodeText.toText)
  | .oddKeys => "Configuration keys must be text"
  | .wrongType key wanted typeName =>
    "Configuration key " ++ quoted key ++ " must be " ++ " or ".intercalate wanted ++ ", got "
      ++ typeName
  | .notPositive => "Configuration key 'timeout' must be positive"
  | .tooGreat => TimeLimit.tooGreat
  | .tooDeep => "maximum recursion depth exceeded while getting the repr of an object"
  | .tooLong => Integer.tooLongToWrite

/-- What is wrong, in words, where the words belong to it. -/
def Error.message? : Error → Option String
  | .oddKeys | .tooGreat => none
  | e => some e.message

/-! ## Keys -/

/-- The keys of a configuration. -/
inductive Key where
  | projectName
  | documentName
  | language
  | openMarker
  | closeMarker
  | timeout
  | failOnInputErrors
  | references
  | compilerOptions
  deriving DecidableEq, Repr

namespace Key

/-- A key as it is written. -/
def name : Key → String
  | .projectName => "project_name"
  | .documentName => "document_name"
  | .language => "language"
  | .openMarker => "open_marker"
  | .closeMarker => "close_marker"
  | .timeout => "timeout"
  | .failOnInputErrors => "fail_on_input_errors"
  | .references => "references"
  | .compilerOptions => "compiler_options"

/-- All keys. -/
def all : List Key :=
  [.projectName, .documentName, .language, .openMarker, .closeMarker, .timeout,
    .failOnInputErrors, .references, .compilerOptions]

/-- The key that a value writes. -/
def ofValue? : Value → Option Key
  | .text s => all.find? fun k => k.name = s
  | _ => none

/-- The types that a key takes. -/
def wanted : Key → List String
  | .timeout => ["int", "float", "NoneType"]
  | .failOnInputErrors => ["bool"]
  | .references => ["list", "tuple"]
  | .compilerOptions => ["dict"]
  | _ => ["str"]

end Key

/-- The complaint that a key does not take a value. -/
def refuse {α : Type} (k : Key) (v : Value) : Except Error α :=
  .error (.wrongType k.name k.wanted v.typeName)

/-- The configuration with one setting from a key and its value. References are written as texts, each
with the same room for collections in one another. -/
def set (room : Nat) (c : Config CodeText) (k : Key) (v : Value) :
    Except Error (Config CodeText) :=
  match k, v.codes?, v with
  | .projectName, some t, _ => .ok { c with projectName := t }
  | .documentName, some t, _ => .ok { c with documentName := t }
  | .language, some t, _ => .ok { c with language := t }
  | .openMarker, some t, _ => .ok { c with openMarker := t }
  | .closeMarker, some t, _ => .ok { c with closeMarker := t }
  | .timeout, _, .null => .ok { c with timeout := none }
  | .timeout, _, .int n =>
    if n ≤ 0 then .error .notPositive
    else if (Binary64.ofInt n).isInfinite then .error .tooGreat
    else .ok { c with timeout := some (.real (.ofInt n)) }
  | .timeout, _, .real x =>
    if x.nonpositive then .error .notPositive else .ok { c with timeout := some (.real x) }
  | .failOnInputErrors, _, .bool b => .ok { c with failOnInputErrors := b }
  | .references, _, .list items | .references, _, .tuple items =>
    match items.findSome? (Value.writeError? room) with
    | some e => .error (.ofWrite e)
    | none => .ok { c with references := items.map Value.toCodes }
  | .compilerOptions, _, .map entries => .ok { c with compilerOptions := entries }
  | k, _, v => refuse k v

/-! ## From plain data -/

/-- The keys of a mapping that are not known. -/
def unknownKeys (entries : List (Value × Value)) : List Value :=
  (entries.map Prod.fst).filter fun k => (Key.ofValue? k).isNone

/-- The complaint about keys that are not known. -/
def unknownError (keys : List Value) : Error :=
  if keys.all fun k => match k with
    | .text _ | .codes _ => true
    | _ => false
  then .unknownKeys ((keys.map Value.toCodes).mergeSort CodeText.comesBefore)
  else .oddKeys

/-- The configuration after one more entry with a known key. -/
def setEntry (room : Nat) (c : Config CodeText) (entry : Value × Value) :
    Except Error (Config CodeText) :=
  match Key.ofValue? entry.1 with
  | some k => c.set room k entry.2
  | none => .ok c

/-- The configuration that plain data describes. -/
def ofValue (v : Value) (room : Nat := Value.standardRoom) : Except Error (Config CodeText) :=
  match v with
  | .map entries =>
    let unknown := unknownKeys entries
    if unknown.isEmpty then entries.foldlM (setEntry room) standard
    else .error (unknownError unknown)
  | v => .error (.notMapping v.typeName)

/-- The configuration that a document describes; a document that is empty describes none of the
settings. -/
def ofDocument (v : Value) (room : Nat := Value.standardRoom) : Except Error (Config CodeText) :=
  ofValue (if v.isEmpty then .map [] else v) room

end Config

end Assay
