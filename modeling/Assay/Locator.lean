import Assay.Location
import Assay.Markup

/-!
# Locators

A locator says where a diagnostic is expected: on exactly one span, or starting on a line. The line
alone is the looser demand. A locator also tells which diagnostics touch it, for demands that none
does: a span is touched by what overlaps it, a line by what starts on it.
-/

namespace Assay

/-- Where a diagnostic is expected. -/
inductive Locator where
  | span (s : Span)
  | line (number : Int)
  deriving DecidableEq, Repr

namespace Locator

/-- Whether a diagnostic on a span is where it is expected. -/
def matchesSpan (l : Locator) (s : Span) (t : Text) : Bool :=
  match l with
  | .span expected => s = expected
  | .line number => (lineOf t s.start : Int) = number

/-- Whether a diagnostic on a span touches the place. -/
def touches (l : Locator) (s : Span) (t : Text) : Bool :=
  match l with
  | .span expected => s.overlaps expected
  | .line _ => l.matchesSpan s t

/-- The place in words. -/
def describe (l : Locator) (t : Text) (file : String) : String :=
  match l with
  | .span s => (Location.ofSpan t s file).toText
  | .line number => file ++ ": line " ++ toString number

/-- What is where it is expected touches the place. -/
theorem touches_of_matchesSpan {l : Locator} {s : Span} {t : Text} (h : l.matchesSpan s t = true) :
    l.touches s t = true := by
  cases l with
  | span expected =>
    simp only [matchesSpan, decide_eq_true_eq] at h
    subst h
    exact Span.overlaps_self s
  | line number => exact h

end Locator

/-! ## Targets -/

/-- What a locator can be asked for, unchecked. -/
inductive Target where
  | span (start length : Int)
  | line (number : Int)
  /-- Something of another type. -/
  | other (typeName : String)
  deriving DecidableEq, Repr

/-- Why there is no locator for a target. -/
inductive Target.Error where
  | span (e : InvalidSpan)
  /-- Lines are counted from one. -/
  | line (number : Int)
  | other (typeName : String)
  deriving DecidableEq, Repr

/-- What is wrong, in words. -/
def Target.Error.message : Target.Error → String
  | .span e => e.message
  | .line number => "Line markers are 1-based, got " ++ toString number
  | .other typeName => "Cannot locate diagnostics with " ++ typeName

/-- The locator for a target. -/
def Locator.ofTarget : Target → Except Target.Error Locator
  | .span start length =>
    match Span.ofParts start length with
    | .ok s => .ok (.span s)
    | .error e => .error (.span e)
  | .line number => if number < 1 then .error (.line number) else .ok (.line number)
  | .other typeName => .error (.other typeName)

end Assay
