import Assay.Diagnostic
import Assay.Locator
import Assay.Matching.Assignment

/-!
# Matching expectations with diagnostics

An expectation asks for a diagnostic with an id, at a place, and possibly with a message. It can
take every diagnostic with the id at the place. Expectations are matched in two rounds: first along
the diagnostics that agree on the message, as many as possible; then the expectations that are left
may take a diagnostic with another message, which is reported as a wrong message instead of a
missing diagnostic. In the second round an expectation that is matched already keeps to its message.

Expectations and diagnostics are named by their index in their list.
-/

namespace Assay

/-- A diagnostic that is asked for. -/
structure Expectation where
  id : String
  locator : Locator
  /-- Without a message every message will do. -/
  message : Option String
  deriving DecidableEq, Repr

namespace Expectation

/-- The expectation of an id at a target. -/
def atTarget (id : String) (target : Target) (message : Option String) :
    Except Target.Error Expectation :=
  (Locator.ofTarget target).map fun locator => ⟨id, locator, message⟩

/-- One expectation of an id for every target. -/
def atAll (id : String) (targets : List Target) : Except Target.Error (List Expectation) :=
  targets.mapM fun target => atTarget id target none

/-- Whether a diagnostic has the id and is at the place. -/
def locates (e : Expectation) (t : Text) (d : Diagnostic) : Bool :=
  d.id = e.id && e.locator.matchesSpan d.span t

/-- Whether a diagnostic has the message, if one is asked for. -/
def agrees (e : Expectation) (d : Diagnostic) : Bool :=
  match e.message with
  | none => true
  | some message => d.message = message

/-- Whether a diagnostic is what is asked for. -/
def fits (e : Expectation) (t : Text) (d : Diagnostic) : Bool := e.locates t d && e.agrees d

end Expectation

namespace Matching

/-- The indices of the diagnostics for which a test holds of the expectation with an index. -/
def edgesOf (test : Expectation → Diagnostic → Bool) (expected : List Expectation)
    (actual : List Diagnostic) (i : Nat) : List Nat :=
  match expected[i]? with
  | none => []
  | some e => (List.range actual.length).filter fun j =>
      match actual[j]? with
      | none => false
      | some d => test e d

/-- The outcome of matching. -/
structure Report where
  /-- Expectations with the diagnostics that they have got. -/
  matched : List (Nat × Nat)
  missing : List Nat
  /-- Expectations with diagnostics of another message. -/
  wrongMessage : List (Nat × Nat)
  /-- Diagnostics that no expectation has got. -/
  unexpected : List Nat
  deriving DecidableEq, Repr

/-- Whether every expectation is met and, if `strict`, nothing else is reported. -/
def Report.ok (r : Report) (strict : Bool) : Bool :=
  r.missing.isEmpty && r.wrongMessage.isEmpty && (!strict || r.unexpected.isEmpty)

/-- The owners of the diagnostics after the first round. -/
def firstRound (expected : List Expectation) (actual : List Diagnostic) (t : Text) : Owners :=
  assignAll (edgesOf (fun e d => e.fits t d) expected actual) actual.length .empty
    (List.range expected.length)

/-- The edges of the second round: an expectation that is matched keeps to its message. -/
def secondEdges (expected : List Expectation) (actual : List Diagnostic) (t : Text)
    (paired : Nat → Bool) (i : Nat) : List Nat :=
  if paired i then edgesOf (fun e d => e.fits t d) expected actual i
  else edgesOf (fun e d => e.locates t d) expected actual i

/-- The owners of the diagnostics after both rounds. -/
def bothRounds (expected : List Expectation) (actual : List Diagnostic) (t : Text) : Owners :=
  let first := firstRound expected actual t
  let paired (i : Nat) : Bool := (first.itemOf? actual.length i).isSome
  assignAll (secondEdges expected actual t paired) actual.length first
    ((List.range expected.length).filter fun i => !paired i)

/-- Whether the diagnostic with an index agrees with the message of the expectation with one. -/
def agreesAt (expected : List Expectation) (actual : List Diagnostic) (i j : Nat) : Bool :=
  match expected[i]?, actual[j]? with
  | some e, some d => e.agrees d
  | _, _ => false

/-- The report on a final assignment. -/
def reportOf (expected : List Expectation) (actual : List Diagnostic) (owners : Owners) : Report :=
  let indices := List.range expected.length
  let item (i : Nat) : Option Nat := owners.itemOf? actual.length i
  let pairs := indices.filterMap fun i => (item i).map fun j => (i, j)
  { matched := pairs.filter fun (i, j) => agreesAt expected actual i j
    missing := indices.filter fun i => (item i).isNone
    wrongMessage := pairs.filter fun (i, j) => !agreesAt expected actual i j
    unexpected := (List.range actual.length).filter fun j => (owners.owner? j).isNone }

end Matching

/-- Matches expectations with the diagnostics that were reported on a text. -/
def matchDiagnostics (expected : List Expectation) (actual : List Diagnostic) (t : Text) :
    Matching.Report :=
  Matching.reportOf expected actual (Matching.bothRounds expected actual t)

end Assay
