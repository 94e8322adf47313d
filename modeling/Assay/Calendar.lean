import Assay.Text.Basic

/-!
# Dates and times

Days of the proleptic Gregorian calendar in the years 1 to 9999, and times of such days, with an
offset from universal time if one is known. Building one checks its parts in a fixed order; the
first part out of range is the error.
-/

namespace Assay

/-! ## Numbers with a fixed width -/

/-- A number with zeros in front up to a width. -/
def paddedNat (width n : Nat) : String :=
  let digits := Nat.toDigits 10 n
  String.ofList (List.replicate (width - digits.length) '0' ++ digits)

/-! ## Dates -/

/-- A day. -/
structure Date where
  year : Nat
  month : Nat
  day : Nat
  deriving DecidableEq, Repr

/-- What is wrong with the parts of a date or time. -/
inductive CalendarError where
  | year (value : Nat)
  | month
  | day
  | hour
  | minute
  | second
  /-- The offset from universal time is a day or more. -/
  | offset (minutes : Int)
  deriving DecidableEq, Repr

/-- The years with a 29 February. -/
def isLeapYear (year : Nat) : Bool :=
  year % 4 == 0 && (year % 100 != 0 || year % 400 == 0)

/-- The number of days of a month. -/
def daysInMonth (year month : Nat) : Nat :=
  if month = 2 then (if isLeapYear year then 29 else 28)
  else if month = 4 ∨ month = 6 ∨ month = 9 ∨ month = 11 then 30
  else 31

/-- The day with the given parts. -/
def Date.ofParts (year month day : Nat) : Except CalendarError Date :=
  if year < 1 ∨ 9999 < year then .error (.year year)
  else if month < 1 ∨ 12 < month then .error .month
  else if day < 1 ∨ daysInMonth year month < day then .error .day
  else .ok ⟨year, month, day⟩

/-- The days of the months before a month. -/
def daysBeforeMonth (year : Nat) : Nat → Nat
  | 0 => 0
  | 1 => 0
  | month + 2 => daysBeforeMonth year (month + 1) + daysInMonth year (month + 1)

/-- The number of a day, counted from the first day of the year 1 on. -/
def Date.number (d : Date) : Nat :=
  let years := d.year - 1
  365 * years + years / 4 - years / 100 + years / 400 + daysBeforeMonth d.year d.month + d.day

/-- Year, month and day, joined with hyphens. -/
def Date.toText (d : Date) : String :=
  paddedNat 4 d.year ++ "-" ++ paddedNat 2 d.month ++ "-" ++ paddedNat 2 d.day

/-! ## Times -/

/-- A time of a day. -/
structure Timestamp where
  date : Date
  hour : Nat
  minute : Nat
  second : Nat
  microsecond : Nat
  /-- Minutes ahead of universal time. -/
  offset : Option Int
  deriving DecidableEq, Repr

/-- The time with the given parts, its date checked first. -/
def Timestamp.ofParts (year month day hour minute second microsecond : Nat) (offset : Option Int) :
    Except CalendarError Timestamp :=
  match offset with
  | some minutes =>
    if minutes ≤ -1440 ∨ 1440 ≤ minutes then .error (.offset minutes) else build
  | none => build
where
  /-- Checks the parts but the offset. -/
  build : Except CalendarError Timestamp := do
    let date ← Date.ofParts year month day
    if 23 < hour then throw .hour
    if 59 < minute then throw .minute
    if 59 < second then throw .second
    return ⟨date, hour, minute, second, microsecond, offset⟩

/-- The minute of universal time, if the offset is known. -/
def Timestamp.universalMinute? (t : Timestamp) : Option Int :=
  t.offset.map fun ahead => ((t.date.number * 1440 + t.hour * 60 + t.minute : Nat) : Int) - ahead

/-- Whether two times are the same: those with an offset as moments, the others part by part. -/
def Timestamp.isSame (a b : Timestamp) : Bool :=
  match a.universalMinute?, b.universalMinute? with
  | some m, some n => m == n && a.second == b.second && a.microsecond == b.microsecond
  | _, _ => a == b

/-- An offset as a sign, hours and minutes. -/
def offsetText (minutes : Int) : String :=
  (if minutes < 0 then "-" else "+") ++ paddedNat 2 (minutes.natAbs / 60) ++ ":"
    ++ paddedNat 2 (minutes.natAbs % 60)

/-- Date and time of day, with the fraction of a second and the offset where there are some. -/
def Timestamp.toText (t : Timestamp) : String :=
  t.date.toText ++ " " ++ paddedNat 2 t.hour ++ ":" ++ paddedNat 2 t.minute ++ ":"
    ++ paddedNat 2 t.second
    ++ (if t.microsecond = 0 then "" else "." ++ paddedNat 6 t.microsecond)
    ++ (match t.offset with
      | none => ""
      | some minutes => offsetText minutes)

/-- A length of time in minutes as the expression that builds it: days, then seconds of a day. -/
def durationLiteral (minutes : Int) : String :=
  let days := Int.fdiv minutes 1440
  let seconds := (Int.fmod minutes 1440) * 60
  let parts :=
    (if days = 0 then [] else ["days=" ++ toString days]) ++
      (if seconds = 0 then [] else ["seconds=" ++ toString seconds])
  "datetime.timedelta(" ++ (if parts.isEmpty then "0" else ", ".intercalate parts) ++ ")"

/-- What is wrong, in words. -/
def CalendarError.message : CalendarError → String
  | .year value => "year " ++ toString value ++ " is out of range"
  | .month => "month must be in 1..12"
  | .day => "day is out of range for month"
  | .hour => "hour must be in 0..23"
  | .minute => "minute must be in 0..59"
  | .second => "second must be in 0..59"
  | .offset minutes =>
    "offset must be a timedelta strictly between -timedelta(hours=24) and timedelta(hours=24), not "
      ++ durationLiteral minutes ++ "."

/-- A date as the expression that builds it. -/
def Date.toLiteral (d : Date) : String :=
  "datetime.date(" ++ ", ".intercalate [toString d.year, toString d.month, toString d.day] ++ ")"

/-- A time as the expression that builds it. Seconds and their fraction are left out at the end
where they are zero. -/
def Timestamp.toLiteral (t : Timestamp) : String :=
  let parts := [t.date.year, t.date.month, t.date.day, t.hour, t.minute]
  let fine :=
    if t.microsecond ≠ 0 then [t.second, t.microsecond]
    else if t.second ≠ 0 then [t.second]
    else []
  let zone := match t.offset with
    | none => []
    | some 0 => ["tzinfo=datetime.timezone.utc"]
    | some minutes => ["tzinfo=datetime.timezone(" ++ durationLiteral minutes ++ ")"]
  "datetime.datetime(" ++ ", ".intercalate ((parts ++ fine).map toString ++ zone) ++ ")"

end Assay
