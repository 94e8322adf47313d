import Assay.Span
import Assay.Template.Basic
import Assay.Text.Case

/-!
# Diagnostics

A diagnostic is what a component has to say about a stretch of a text. Components declare the rules
that they report under as descriptors, from which a diagnostic takes its id, its message and its
severity.
-/

namespace Assay

/-! ## Severity -/

/-- How serious a diagnostic is. -/
inductive Severity where
  | error
  | warning
  | info
  | hidden
  deriving DecidableEq, Repr, Inhabited

namespace Severity

/-- The name of a severity. -/
def name : Severity → String
  | .error => "error"
  | .warning => "warning"
  | .info => "info"
  | .hidden => "hidden"

/-- The severities from the most serious down. -/
def all : List Severity := [.error, .warning, .info, .hidden]

/-- The severity with a name, in whatever case it is written. -/
def ofName? (written : String) : Option Severity :=
  all.find? fun s => s.name.toList == Text.lower written.toList

theorem ofName?_name (s : Severity) : ofName? s.name = some s := by
  cases s <;> decide

end Severity

/-- A name that no severity has. -/
structure UnknownSeverity where
  name : String
  deriving DecidableEq, Repr

/-- What is wrong, in words. -/
def UnknownSeverity.message (e : UnknownSeverity) : String :=
  "Unknown diagnostic severity: " ++ quoted e.name

/-- The severity with a name, which must have one. -/
def Severity.ofName (written : String) : Except UnknownSeverity Severity :=
  match Severity.ofName? written with
  | some s => .ok s
  | none => .error ⟨written⟩

/-! ## Diagnostics -/

/-- A message about a stretch of a text. -/
structure Diagnostic where
  id : String
  span : Span
  message : String
  severity : Severity
  deriving DecidableEq, Repr, Inhabited

namespace Diagnostic

/-- The diagnostic on one line. -/
def toText (d : Diagnostic) : String :=
  d.span.toText ++ ": " ++ d.severity.name ++ " " ++ d.id ++ ": " ++ d.message

/-- Whether a diagnostic is an error. -/
def isError (d : Diagnostic) : Bool := d.severity = .error

/-- The diagnostic about a stretch further on in the text. -/
def shift (d : Diagnostic) (distance : Nat) : Diagnostic := { d with span := d.span.shift distance }

end Diagnostic

/-- The diagnostics one per line. -/
def diagnosticLines (ds : List Diagnostic) : String := "\n".intercalate (ds.map Diagnostic.toText)

/-- Whether one of the diagnostics is an error. -/
def hasErrors (ds : List Diagnostic) : Bool := ds.any Diagnostic.isError

/-! ## Descriptors -/

/-- A rule that a component can report under. -/
structure Descriptor where
  id : String
  title : String
  /-- The template of the messages. -/
  messageFormat : String
  severity : Severity
  deriving DecidableEq, Repr, Inhabited

namespace Descriptor

/-- The template of rules that only pass a text on. -/
def plainFormat : String := "\x7b0\x7d"

/-- The message for some arguments. Without arguments it is the template as it is written. -/
def messageFor (d : Descriptor) (args : List Value) : Except Template.Error String :=
  if args.isEmpty then .ok d.messageFormat
  else (Template.fill d.messageFormat.toList args).map String.ofList

/-- A diagnostic under the rule; a severity given here goes before the rule's own. -/
def create (d : Descriptor) (span : Span) (args : List Value) (severity : Option Severity) :
    Except Template.Error Diagnostic := do
  let message ← d.messageFor args
  return ⟨d.id, span, message, severity.getD d.severity⟩

end Descriptor

end Assay
