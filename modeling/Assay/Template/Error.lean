import Assay.Text.Quoted

/-!
# Errors of message templates

Each error is a cause; `Template.Error.message` words it.
-/

namespace Assay.Template

/-- Why a template cannot be filled. -/
inductive Error where
  /-- The template or a field's specification breaks the rules; the text says which. -/
  | malformed (complaint : String)
  /-- A field asks for an argument by a number that no argument has. -/
  | noArgument (index : Nat)
  /-- A field asks for an argument by a name; arguments have none. -/
  | noName (name : String)
  /-- A field asks for a part of an argument beyond its end. -/
  | noItem (container : String)
  /-- A field asks for an entry that a mapping does not have. -/
  | noEntry (key : String)
  /-- A field asks for a named member that its owner does not have. -/
  | noMember (owner member : String)
  /-- A field treats an argument as a type that it is not; the text says how. -/
  | wrongType (complaint : String)
  /-- A number is no code point, or too great to compute with. -/
  | tooGreat (complaint : String)
  /-- A text would be too wide to be made. -/
  | tooWide
  deriving DecidableEq, Repr

/-- What is wrong, in words. -/
def Error.message : Error → String
  | .malformed complaint => complaint
  | .noArgument index =>
    "Replacement index " ++ toString index ++ " out of range for positional args tuple"
  | .noName name => quoted name
  | .noItem container => container ++ " index out of range"
  | .noEntry key => key
  | .noMember owner member => owner ++ " has no attribute '" ++ member ++ "'"
  | .wrongType complaint => complaint
  | .tooGreat complaint => complaint
  | .tooWide => ""

end Assay.Template
