import Assay.Config.Reader
import Assay.Yaml.Document

/-!
# Configuration files

A configuration file is a YAML document in UTF-8.
-/

namespace Assay.Config

/-- The reader of YAML documents. -/
def yaml : Reader Yaml.Error where
  read bytes := Yaml.read (.ofBytes bytes)
  isMalformed := Yaml.Error.isMalformed

/-- Why a YAML file gives no configuration. -/
abbrev FileError := Failure Yaml.Error

/-- What is wrong, in words, where there are words for it. -/
def FileError.message? : FileError → Option String
  | .missing name => some ("Configuration file not found: " ++ name)
  | .invalid name _ => some ("Invalid YAML in " ++ name)
  | .unreadable e => e.complaint?
  | .config e => e.message?

/-- The configuration in a YAML file with some bytes, if there is one. -/
def load (name : String) (bytes : Option (List UInt8)) : Except FileError (Config CodeText) :=
  yaml.load name bytes

end Assay.Config
