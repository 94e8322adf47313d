import Assay.Text.Integer

/-!
# Versions

A version is two to four numbers with points between them. Versions are compared number by number,
numbers that are not written counting as zero. A gate holds the version that was detected, if one
was, and answers whether a case applies to it; where one side of a comparison is unknown, the answer
is no.
-/

namespace Assay

/-- A version: its numbers from the most significant down, two to four of them. -/
structure Version where
  numbers : List Nat
  two_le : 2 ≤ numbers.length
  le_four : numbers.length ≤ 4
  deriving DecidableEq, Repr

namespace Version

/-- The version of a list of numbers, if it has two to four. -/
def ofNumbers? (numbers : List Nat) : Option Version :=
  if h : 2 ≤ numbers.length ∧ numbers.length ≤ 4 then some ⟨numbers, h.1, h.2⟩ else none

/-- The number that a component writes; a negative one is none. -/
def component? (t : Text) : Option Nat :=
  (Integer.read? t).bind fun n => if n < 0 then none else some n.toNat

/-- The version that a text writes. -/
def ofText? (t : Text) : Option Version :=
  let components := Text.splitAt '.' t.strip
  if components.length < 2 ∨ 4 < components.length then none
  else (components.mapM component?).bind ofNumbers?

/-- The version that a string writes, if there is a string. -/
def ofString? (s : Option String) : Option Version := s.bind fun s => ofText? s.toList

/-- The numbers with points between them. -/
def toText (v : Version) : String := ".".intercalate (v.numbers.map toString)

/-- Four numbers, those that are not written being zero. -/
def padded (v : Version) : List Nat := v.numbers ++ List.replicate (4 - v.numbers.length) 0

/-- The order of lists of numbers of one length: the first difference decides. -/
def compareNumbers : List Nat → List Nat → Ordering
  | [], [] => .eq
  | [], _ :: _ => .lt
  | _ :: _, [] => .gt
  | a :: as, b :: bs => (compare a b).then (compareNumbers as bs)

/-- The order of versions. -/
def order (v w : Version) : Ordering := compareNumbers v.padded w.padded

/-- The major number. -/
def major (v : Version) : Nat := v.numbers.get ⟨0, by have := v.two_le; omega⟩

/-- The minor number. -/
def minor (v : Version) : Nat := v.numbers.get ⟨1, by have := v.two_le; omega⟩

/-- The components of an installed version that are numbers, up to four from the front. What is
appended to them is cut off. -/
def releaseComponents (t : Text) : List Text :=
  ((Text.splitAt '.' t).take 4).takeWhile fun component =>
    !component.isEmpty && component.all isDigit

/-- The version of an installed component by what it says of itself. -/
def ofInstalled? (t : Text) : Option Version :=
  ofText? (Text.join ['.'] (releaseComponents t))

end Version

/-! ## Gates -/

/-- What is known of the version of a component. -/
structure VersionGate where
  detected : Option Version
  component : String
  deriving DecidableEq, Repr

namespace VersionGate

/-- What a gate calls its component unless it is told. -/
def standardComponent : String := "analysis engine"

/-- The gate of a version as it is written. -/
def ofString (s : Option String) (component : String) : VersionGate :=
  ⟨Version.ofString? s, component⟩

/-- The gate of an installed component, or of one that is not installed. -/
def ofInstalled (installed : Option String) (component : String) : VersionGate :=
  ⟨installed.bind fun s => Version.ofInstalled? s.toList, component⟩

/-- The detected version in words. -/
def toText (g : VersionGate) : String := (g.detected.map Version.toText).getD "unknown"

/-! ### Questions -/

/-- How the detected version stands to another one, if both are known. -/
def order? (g : VersionGate) (version : String) : Option Ordering := do
  let other ← Version.ofText? version.toList
  let mine ← g.detected
  return mine.order other

/-- Whether the version is known to be this one or later. -/
def atLeast (g : VersionGate) (version : String) : Bool := (g.order? version).any (·.isGE)

/-- Whether the version is known to be later. -/
def greaterThan (g : VersionGate) (version : String) : Bool := (g.order? version).any (·.isGT)

/-- Whether the version is known to be earlier. -/
def lessThan (g : VersionGate) (version : String) : Bool := (g.order? version).any (·.isLT)

/-- Whether the version is known to be this one or earlier. -/
def atMost (g : VersionGate) (version : String) : Bool := (g.order? version).any (·.isLE)

/-- Whether the version is known to lie between two, both included. -/
def inRange (g : VersionGate) (least greatest : String) : Bool :=
  g.atLeast least && g.atMost greatest

/-- Whether the version has a major number and, if one is given, a minor number. -/
def isVersion (g : VersionGate) (major : Int) (minor : Option Int) : Bool :=
  match g.detected with
  | none => false
  | some v => (v.major : Int) == major && (minor.all fun m => (v.minor : Int) == m)

/-! ### Requirements

A requirement gives the reason for which a case is skipped, or nothing. -/

/-- The reason that is given, or the standard one if none or an empty one is given. -/
def reasonOr (reason : Option String) (standard : String) : String :=
  match reason with
  | none => standard
  | some r => if r.isEmpty then standard else r

/-- Skips unless the version is this one or later. -/
def requireMinimum (g : VersionGate) (version : String) (reason : Option String) : Option String :=
  if g.atLeast version then none
  else some (reasonOr reason
    ("Test requires " ++ g.component ++ " version " ++ version ++ " or higher."))

/-- Skips unless the version is this one or earlier. -/
def requireMaximum (g : VersionGate) (version : String) (reason : Option String) : Option String :=
  if g.atMost version then none
  else some (reasonOr reason
    ("Test requires " ++ g.component ++ " version " ++ version ++ " or lower."))

/-- Skips unless the version lies between two. -/
def requireRange (g : VersionGate) (least greatest : String) (reason : Option String) :
    Option String :=
  if g.inRange least greatest then none
  else some (reasonOr reason
    ("Test requires " ++ g.component ++ " version between " ++ least ++ " and " ++ greatest ++ "."))

/-- Skips unless a version was detected. -/
def requireDetection (g : VersionGate) (reason : Option String) : Option String :=
  if g.detected.isSome then none
  else some (reasonOr reason
    ("Test requires " ++ g.component ++ " version detection to be successful."))

/-- Skips one of the cases below a version. -/
def skipCasesBelow (g : VersionGate) (cases : List String) (current least : String)
    (reason : Option String) : Option String :=
  if current ∈ cases ∧ ¬ g.atLeast least then
    some (reasonOr reason
      ("Test case requires " ++ g.component ++ " version " ++ least ++ " or higher."))
  else none

/-- Skips one of the cases above a version. -/
def skipCasesAbove (g : VersionGate) (cases : List String) (current greatest : String)
    (reason : Option String) : Option String :=
  if current ∈ cases ∧ ¬ g.atMost greatest then
    some (reasonOr reason
      ("Test case requires " ++ g.component ++ " version " ++ greatest ++ " or lower."))
  else none

/-- Skips one of the cases outside a range of versions. -/
def skipCasesOutside (g : VersionGate) (cases : List String) (current least greatest : String)
    (reason : Option String) : Option String :=
  if current ∈ cases ∧ ¬ g.inRange least greatest then
    some (reasonOr reason
      ("Test case requires " ++ g.component ++ " version between " ++ least ++ " and " ++ greatest
        ++ "."))
  else none

end VersionGate

end Assay
