import Assay.Matching.Report

/-!
# Verdicts on diagnostics

A verdict is the list of failures of a demand, worded one by one, so that one run shows them all. A
demand that is met has no failure.
-/

namespace Assay

namespace Matching

/-- A diagnostic with its place and message. -/
def describe (d : Diagnostic) (t : Text) (file : String) : String :=
  d.id ++ " at " ++ (Location.ofSpan t d.span file).toText ++ ": " ++ quoted d.message

/-- The failure of an expectation without a diagnostic. -/
def missingFailure (e : Expectation) (t : Text) (file : String) : String :=
  "Expected diagnostic " ++ e.id ++ " at " ++ e.locator.describe t file ++ " was not reported"

/-- The failure of an expectation with a diagnostic of another message. -/
def wrongMessageFailure (e : Expectation) (d : Diagnostic) (t : Text) (file : String) : String :=
  "Diagnostic " ++ d.id ++ " at " ++ e.locator.describe t file ++ " has message "
    ++ quoted d.message ++ ", expected " ++ quoted (e.message.getD "")

/-- The failure of a diagnostic that no expectation asks for. -/
def unexpectedFailure (d : Diagnostic) (t : Text) (file : String) : String :=
  "Unexpected diagnostic " ++ describe d t file

/-- All that was reported, which ends a list of failures. -/
def listing (actual : List Diagnostic) (t : Text) (file : String) : String :=
  "Reported diagnostics:\n" ++
    if actual.isEmpty then "  (none)"
    else "\n".intercalate (actual.map fun d => "  " ++ describe d t file)

/-- The failures that a report shows. Unexpected diagnostics count if `strict`, and only those whose
id is expected somewhere. -/
def failuresOf (r : Report) (expected : List Expectation) (actual : List Diagnostic) (t : Text)
    (strict : Bool) (file : String) : List String :=
  let missing := r.missing.filterMap fun i => (expected[i]?).map fun e => missingFailure e t file
  let wrong := r.wrongMessage.filterMap fun (i, j) =>
    match expected[i]?, actual[j]? with
    | some e, some d => some (wrongMessageFailure e d t file)
    | _, _ => none
  let unexpected :=
    if strict then r.unexpected.filterMap fun j =>
      (actual[j]?).bind fun d =>
        if expected.any fun e => e.id = d.id then some (unexpectedFailure d t file) else none
    else []
  missing ++ wrong ++ unexpected

end Matching

/-- The failures of the demand that the expectations are met, with a listing of what was reported
behind them; none if the demand is met. -/
def presenceFailures (expected : List Expectation) (actual : List Diagnostic) (t : Text)
    (strict : Bool) (file : String) : List String :=
  let failures :=
    Matching.failuresOf (matchDiagnostics expected actual t) expected actual t strict file
  if failures.isEmpty then [] else failures ++ [Matching.listing actual t file]

/-- The failures of the demand that no diagnostic with an id touches one of the places. -/
def absenceFailures (id : String) (locators : List Locator) (actual : List Diagnostic) (t : Text)
    (file : String) : List String :=
  locators.flatMap fun l =>
    (actual.filter fun d => d.id = id && l.touches d.span t).map fun d =>
      "Expected no diagnostic " ++ id ++ " at " ++ l.describe t file ++ ", but found "
        ++ Matching.describe d t file

end Assay
