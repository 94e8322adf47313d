import Assay.Config.Basic

/-!
# Configurations from files

A configuration file holds a document. How documents are written is the business of a reader, which
makes data of bytes or says why there is none. `Reader.load` is the only way from a file to a
configuration, and all that it adds to `Config.ofDocument` is the reading: a file that is missing, a
text that is no document, and bytes that are no text have failures of their own.
-/

namespace Assay.Config

/-- A reader of documents. -/
structure Reader (ε : Type) where
  /-- The data that bytes write. -/
  read : List UInt8 → Except ε Value
  /-- Whether an error is a complaint about the document. The others are about its bytes. -/
  isMalformed : ε → Bool

/-- Why a file gives no configuration. -/
inductive Failure (ε : Type) where
  | missing (name : String)
  | invalid (name : String) (e : ε)
  /-- There is no document to complain about. -/
  | unreadable (e : ε)
  | config (e : Error)
  deriving DecidableEq, Repr

/-- Whether a failure is a complaint about the configuration. -/
def Failure.isComplaint {ε : Type} : Failure ε → Bool
  | .missing _ | .invalid .. => true
  | .unreadable _ => false
  | .config e => e.isComplaint

/-- The name of a file as it is shown: parts that are empty or a single point are left out. -/
def shownName (name : String) : String :=
  let slashes := (name.toList.takeWhile (· == '/')).length
  let root := if slashes = 2 then "//" else if slashes = 0 then "" else "/"
  let parts := (Text.splitAt '/' name.toList).filter fun part => part ≠ [] ∧ part ≠ ['.']
  let shown := root ++ String.ofList (Text.join ['/'] parts)
  if shown.isEmpty then "." else shown

/-- The configuration in a file with some bytes, if there is one. -/
def Reader.load {ε : Type} (reader : Reader ε) (name : String) (bytes : Option (List UInt8))
    (room : Nat := Value.standardRoom) : Except (Failure ε) (Config CodeText) :=
  match bytes with
  | none => .error (.missing (shownName name))
  | some bytes =>
    match reader.read bytes with
    | .error e =>
      .error (if reader.isMalformed e then .invalid (shownName name) e else .unreadable e)
    | .ok v => (ofDocument v room).mapError .config

end Assay.Config
