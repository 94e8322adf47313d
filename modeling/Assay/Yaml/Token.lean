import Assay.Yaml.Error

/-!
# YAML tokens

What a document is made of once its layout is read: the marks of documents and collections, the
properties of nodes, and scalars. Block collections have a start and an end as if they had brackets.
Where the text is wrong the tokens end with the error; it counts only if what stands before it makes
up the beginning of a document.
-/

namespace Assay.Yaml

/-- What a document says about its own reading. -/
inductive Directive where
  | version (major minor : Nat)
  /-- A handle stands for the beginning of the names of tags. -/
  | handle (name beginning : Text)
  | other (name : Text)
  deriving DecidableEq, Repr

/-- The tokens. -/
inductive Token where
  | directive (d : Directive)
  | documentStart
  | documentEnd
  | blockSequenceStart
  | blockMappingStart
  | blockEnd
  | flowSequenceStart
  | flowSequenceEnd
  | flowMappingStart
  | flowMappingEnd
  /-- The hyphen before an item. -/
  | item
  /-- The comma between the parts of a collection in brackets. -/
  | separator
  | key
  | value
  | alias (name : Text)
  | anchor (name : Text)
  /-- A tag with its handle, if it has one. -/
  | tag (handle : Option Text) (rest : Text)
  | scalar (plain : Bool) (text : CodeText)
  /-- No more tokens can be read. -/
  | broken (e : Error)
  deriving DecidableEq, Repr

end Assay.Yaml
