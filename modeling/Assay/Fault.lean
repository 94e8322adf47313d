import Assay.Diagnostic
import Assay.Difference.Report
import Assay.Edit
import Assay.Locator
import Assay.Workspace

/-!
# Faults

All that can end a case early. Some faults are the bench's own: they say that the case cannot be
run (`harness`) or that an expectation is not met (`verdict`). A component may also raise anything
else; what is not the bench's own is pinned on the component that it escapes from. A cancellation is
neither, and nor is a request to leave the program: they end a run and are pinned on nobody.
-/

namespace Assay

/-! ## Choosing an action -/

/-- Why no action can be chosen. -/
inductive SelectionError where
  /-- No action is offered, or none meets the criteria. -/
  | noneApplicable (titles : List String) (criteria : Option String)
  /-- Several actions are offered and there are no criteria. -/
  | ambiguous (titles : List String)
  deriving DecidableEq, Repr

/-- Titles one per line. -/
def titleLines (titles : List String) : String :=
  "\n".intercalate (titles.map fun title => "  - " ++ title)

/-- What is wrong, in words. -/
def SelectionError.message : SelectionError → String
  | .noneApplicable titles criteria =>
    if titles.isEmpty then "No code action was offered"
    else "No code action matched " ++ criteria.getD "None" ++ ". Offered:\n" ++ titleLines titles
  | .ambiguous titles =>
    toString titles.length ++ " code actions were offered; supply a selector to pick one:\n"
      ++ titleLines titles

/-! ## Own kinds of faults -/

/-- The bench's own kinds of faults, as a component can raise them too. -/
inductive OwnKind where
  | harness
  | malformedMarkup
  | config
  | workspace
  | expectation
  deriving DecidableEq, Repr

/-- A limit on the time of a run, in seconds. -/
inductive TimeLimit where
  | whole (seconds : Int)
  | real (seconds : Binary64)
  deriving DecidableEq, Repr

namespace TimeLimit

/-- The limit as a number. -/
def toText : TimeLimit → String
  | .whole n => toString n
  | .real x => String.ofList x.toText

/-- Whether the limit has passed before anything starts. What is no number is never still to come, so
it passes at once as well. A check that ends without having waited at all is faster even than that;
such checks are left out. -/
def isOver : TimeLimit → Bool
  | .whole n => n ≤ 0
  | .real x => x.nonpositive || x == .nan

/-- Whether the limit is no time: an integer beyond all floating point numbers. -/
def isTooGreat : TimeLimit → Bool
  | .whole n => (Binary64.ofInt n).isInfinite
  | .real _ => false

/-- Whether something can be waited for until the limit passes. -/
def isUsable (l : TimeLimit) : Bool := !l.isOver && !l.isTooGreat

/-- What is said about an integer that becomes no floating point number. -/
def tooGreat : String := "int too large to convert to float"

end TimeLimit

/-- The kinds of runs. -/
inductive RunKind where
  | diagnostics
  | codeFix
  | refactoring
  | completion
  deriving DecidableEq, Repr

/-- The name of a kind of run. -/
def RunKind.name : RunKind → String
  | .diagnostics => "diagnostics"
  | .codeFix => "code fix"
  | .refactoring => "refactoring"
  | .completion => "completion"

/-! ## Faults -/

/-- What ends a case early. -/
inductive Fault where
  -- arguments
  | invalidSpan (e : InvalidSpan)
  | unknownSeverity (e : UnknownSeverity)
  | target (e : Target.Error)
  | template (e : Template.Error)
  | edit (e : Edit.Error)
  /-- A look-up of a key that is not there. -/
  | missingKey (key : String)
  -- the case cannot be run
  | markup (e : Markup.Error)
  | workspace (e : Workspace.Error)
  | inputErrors (diagnostics : List Diagnostic)
  | timedOut (limit : TimeLimit) (kind : RunKind)
  /-- A component, or an action of it, has raised `cause`. -/
  | component (name : String) (cause : Fault)
  /-- An analyzer has reported under an id that it does not declare. -/
  | undeclared (analyzer id : String)
  -- an expectation is not met
  | unmet (failures : List String)
  | selection (e : SelectionError)
  | mismatch (actual expected : Text)
  -- raised by a component
  /-- A fault of one of the bench's own kinds with a text of the component's. -/
  | own (kind : OwnKind) (text : String)
  /-- A limit of the component's own has passed. -/
  | expired (limit : String)
  /-- Any other fault, with its type and text. -/
  | foreign (typeName text : String)
  | cancelled
  deriving Repr

namespace Fault

/-- What an undeclared id is called where it is pinned on the analyzer. -/
def undeclaredMessage (id : String) : String := "Reported diagnostic " ++ id ++ " is not supported"

/-- The type of the cause under which an undeclared id is pinned on the analyzer. -/
def undeclaredType : String := "ValueError"

/-- Whether a fault is the bench's own, to be passed on as it is. -/
def isOwn : Fault → Bool
  | .markup .emptyDelimiter | .markup .equalDelimiters => false
  | .workspace e => e.isAboutState
  | .markup _ | .inputErrors _ | .timedOut .. | .component .. | .undeclared .. | .unmet _
  | .selection _ | .mismatch .. | .own .. | .expired _ => true
  | _ => false

/-- The type of a fault that is not the bench's own. -/
def typeName : Fault → String
  | .template (.malformed _) => "ValueError"
  | .template (.noArgument _) | .template (.noItem _) => "IndexError"
  | .template (.noName _) | .template (.noEntry _) => "KeyError"
  | .template (.noMember ..) => "AttributeError"
  | .template (.wrongType _) => "TypeError"
  | .template (.tooGreat _) => "OverflowError"
  | .template .tooWide => "MemoryError"
  | .target (.other _) => "TypeError"
  | .missingKey _ => "KeyError"
  | .foreign typeName _ => typeName
  | _ => "ValueError"

/-- What is wrong, in words. -/
def message : Fault → String
  | .invalidSpan e => e.message
  | .unknownSeverity e => e.message
  | .target e => e.message
  | .template e => e.message
  | .edit e => e.message
  | .missingKey key => quoted key
  | .markup e => e.message
  | .workspace e => e.message
  | .inputErrors diagnostics =>
    "Input document contains errors:\n"
      ++ "\n".intercalate (diagnostics.map fun d => "  " ++ d.toText)
  | .timedOut limit kind =>
    kind.name ++ " run did not complete within " ++ limit.toText ++ " seconds"
  | .component name cause => name ++ " faulted: " ++ cause.typeName ++ ": " ++ cause.message
  | .undeclared analyzer id =>
    analyzer ++ " faulted: " ++ undeclaredType ++ ": " ++ undeclaredMessage id
  | .unmet failures => "\n".intercalate failures
  | .selection e => e.message
  | .mismatch actual expected =>
    "Transformed code is different than expected:\n" ++ differenceReport actual expected
  | .own _ text => text
  | .expired limit => "analysis run did not complete within " ++ limit ++ " seconds"
  | .foreign _ text => text
  | .cancelled => ""

/-- The types of faults that ask to leave the program. A fault is told by the name of its type: types
that are derived from these are left out, and so are faults whose text cannot be made because that
fails itself. -/
def abruptTypes : List String :=
  ["KeyboardInterrupt", "SystemExit", "GeneratorExit", "BaseException"]

/-- Whether a fault is no ordinary one: a cancellation or a request to leave the program. No handler
of faults takes it for a component's. -/
def isAbrupt : Fault → Bool
  | .cancelled => true
  | .foreign typeName _ => typeName ∈ abruptTypes
  | _ => false

/-- The fault as it leaves a component: the bench's own faults and abrupt ones as they are, any
other one pinned on the component. -/
def pinOn (name : String) (f : Fault) : Fault :=
  if f.isAbrupt || f.isOwn then f else .component name f

end Fault

/-- What keeps a run of a kind from being waited for until a limit passes. -/
def TimeLimit.fault? (l : TimeLimit) (kind : RunKind) : Option Fault :=
  if l.isOver then some (.timedOut l kind)
  else if l.isTooGreat then some (.foreign "OverflowError" tooGreat)
  else none

/-! ## Outcomes -/

/-- What goes on after a step has come from the value of the step. -/
theorem exists_of_bind_eq_ok {ε α β : Type} {x : Except ε α} {f : α → Except ε β} {b : β}
    (h : (x >>= f) = .ok b) : ∃ a, x = .ok a ∧ f a = .ok b := by
  cases x with
  | error e => cases h
  | ok a => exact ⟨a, rfl, h⟩

/-- What a computation comes to: a value, a fault, or nothing because it never ends. -/
inductive Outcome (α : Type) where
  | done (a : α)
  | raised (f : Fault)
  | stalled
  deriving Repr

namespace Outcome

variable {α β : Type}

/-- Goes on with the value, if there is one. -/
def bind (o : Outcome α) (next : α → Outcome β) : Outcome β :=
  match o with
  | .done a => next a
  | .raised f => .raised f
  | .stalled => .stalled

instance : Monad Outcome where
  pure := .done
  bind := bind

/-- The outcome with its fault changed. -/
def mapFault (change : Fault → Fault) : Outcome α → Outcome α
  | .done a => .done a
  | .raised f => .raised (change f)
  | .stalled => .stalled

/-- A checked value as an outcome. -/
def ofExcept {ε : Type} (fault : ε → Fault) : Except ε α → Outcome α
  | .ok a => .done a
  | .error e => .raised (fault e)

/-- The outcome that a list of failures comes to. -/
def ofFailures (failures : List String) : Outcome Unit :=
  if failures.isEmpty then .done () else .raised (.unmet failures)

/-! ### Blocks that release what they hold -/

/-- What a block leaves of something that it holds and releases on the way out, by what comes of the
computation inside. A value and a fault get out of the block alike; a computation that never ends stays
in it. -/
def leave {σ : Type} (o : Outcome α) (release : σ → σ) (held : σ) : σ :=
  match o with
  | .stalled => held
  | _ => release held

/-- A computation that ends leaves what it has held released. -/
theorem leave_of_ends {σ : Type} {o : Outcome α} (h : o ≠ .stalled) (release : σ → σ) (held : σ) :
    o.leave release held = release held := by
  cases o with
  | stalled => exact absurd rfl h
  | _ => rfl

end Outcome

end Assay
