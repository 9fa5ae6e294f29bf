/-!
Instants as whole seconds since the first of January 1970 in UTC, and their calendar form. The
times that certificates and revocation lists state are whole seconds. A clock tells fractions too;
they are cut off, so during the second with which a validity window ends the window contains every
instant, where with fractions it would contain the first one only.
-/

namespace Mrtd

/-- Seconds since 1970-01-01T00:00:00Z. There are no fractions of a second: of a clock's reading
the second it falls in counts. -/
abbrev Timestamp := Int

namespace Timestamp

/-- Days from 1970-01-01 to a date of the Gregorian calendar. Years are counted from March, so that
the leap day is the last of its year. -/
def daysOfDate (year : Int) (month day : Nat) : Int :=
  let y := if month ≤ 2 then year - 1 else year
  let era := y / 400
  let yearOfEra := y - era * 400
  let dayOfYear := (153 * ((month + 9) % 12) + 2) / 5 + day - 1
  let dayOfEra := yearOfEra * 365 + yearOfEra / 4 - yearOfEra / 100 + dayOfYear
  era * 146097 + dayOfEra - 719468

/-- The year, month and day of a number of days from 1970-01-01. -/
def dateOfDays (days : Int) : Int × Nat × Nat :=
  let z := days + 719468
  let era := z / 146097
  let dayOfEra := z - era * 146097
  let yearOfEra := (dayOfEra - dayOfEra / 1460 + dayOfEra / 36524 - dayOfEra / 146096) / 365
  let dayOfYear := (dayOfEra - (365 * yearOfEra + yearOfEra / 4 - yearOfEra / 100)).toNat
  let m := (5 * dayOfYear + 2) / 153
  let day := dayOfYear - (153 * m + 2) / 5 + 1
  let month := if m < 10 then m + 3 else m - 9
  (yearOfEra + era * 400 + (if month ≤ 2 then 1 else 0), month, day)

/-- The Gregorian rule for leap years. -/
def isLeapYear (year : Nat) : Bool :=
  year % 4 == 0 && (year % 100 != 0 || year % 400 == 0)

/-- The number of days of a month, zero for a number that is no month. -/
def daysInMonth (year month : Nat) : Nat :=
  match month with
  | 1 | 3 | 5 | 7 | 8 | 10 | 12 => 31
  | 4 | 6 | 9 | 11 => 30
  | 2 => if isLeapYear year then 29 else 28
  | _ => 0

/-- An instant from its calendar fields; `none` when a field is out of its range. -/
def ofFields? (year month day hour minute second : Nat) : Option Timestamp :=
  if 1 ≤ day ∧ day ≤ daysInMonth year month ∧ hour < 24 ∧ minute < 60 ∧ second < 60 then
    some (daysOfDate year month day * 86400 + (hour * 3600 + minute * 60 + second : Nat))
  else none

/-- A number padded with zeros to a width. -/
def padded (width : Nat) (n : Nat) : String :=
  let s := toString n
  String.ofList (List.replicate (width - s.length) '0') ++ s

/-- Years outside 0 to 9999 carry a sign. -/
def yearText (year : Int) : String :=
  if year < 0 then "-" ++ padded 4 year.natAbs
  else if year ≤ 9999 then padded 4 year.natAbs
  else "+" ++ padded 4 year.natAbs

/-- The date, as `2020-01-01`. -/
def date (t : Timestamp) : String :=
  let (year, month, day) := dateOfDays (t / 86400)
  yearText year ++ "-" ++ padded 2 month ++ "-" ++ padded 2 day

/-- Date and time without a zone, as `2020-01-01T00:00:00`. -/
def dateTime (t : Timestamp) : String :=
  let second := (t % 86400).toNat
  date t ++ "T" ++ padded 2 (second / 3600) ++ ":" ++ padded 2 (second / 60 % 60) ++ ":" ++
    padded 2 (second % 60)

/-- The form of records: zone `Z`. -/
def zulu (t : Timestamp) : String :=
  dateTime t ++ "Z"

/-- The form inside messages: a numeric zone. -/
def withOffset (t : Timestamp) : String :=
  dateTime t ++ "+00:00"

end Timestamp

end Mrtd
