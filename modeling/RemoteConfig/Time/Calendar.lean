/-!
Contract: instants as dates and times of day.

Owns:
- the day of the calendar of an instant that is given in seconds since the start of 1970;
- the texts of an instant, in full and without marks.

Does not own: time zones, and fractions of a second.
-/

namespace RemoteConfig

/-- A date and a time of day. -/
structure Moment where
  year : Int
  month : Nat
  day : Nat
  hour : Nat
  minute : Nat
  second : Nat
deriving DecidableEq, Repr

namespace Moment

/-- The number of days from the first of March of the year zero to the first of January of 1970. -/
def daysToEpoch : Int := 719468

/-- The number of days of 400 years. -/
def daysOfCycle : Nat := 146097

/-- The year of a cycle, counted from March, that a day of the cycle lies in. -/
def yearOfCycle (day : Nat) : Nat :=
  (day - day / 1460 + day / 36524 - day / 146096) / 365

/-- Year, month and day of a day that is counted from the start of 1970. -/
def ofDays (days : Int) : Int × Nat × Nat :=
  let shifted := days + daysToEpoch
  let cycle := shifted / daysOfCycle
  let day := (shifted % daysOfCycle).toNat
  let year := yearOfCycle day
  let dayOfYear := day - (365 * year + year / 4 - year / 100)
  let shiftedMonth := (5 * dayOfYear + 2) / 153
  let dayOfMonth := dayOfYear - (153 * shiftedMonth + 2) / 5 + 1
  let month := if shiftedMonth < 10 then shiftedMonth + 3 else shiftedMonth - 9
  (cycle * 400 + year + (if month ≤ 2 then 1 else 0), month, dayOfMonth)

/-- The date and time of day of an instant. -/
def ofSeconds (seconds : Int) : Moment :=
  let (year, month, day) := ofDays (seconds / 86400)
  let second := (seconds % 86400).toNat
  ⟨year, month, day, second / 3600, second / 60 % 60, second % 60⟩

/-- A number with at least as many digits as are asked for. -/
def padded (width value : Nat) : String :=
  let digits := toString value
  String.ofList (List.replicate (width - digits.length) '0') ++ digits

/-- A year: four digits, or a sign and at least four digits for one that has more or is negative. -/
def yearText (year : Int) : String :=
  if year < 0 then "-" ++ padded 4 year.natAbs
  else if year > 9999 then "+" ++ padded 4 year.natAbs
  else padded 4 year.natAbs

/-- The date without marks. -/
def plainDate (moment : Moment) : String :=
  yearText moment.year ++ padded 2 moment.month ++ padded 2 moment.day

/-- Date and time without marks. -/
def plainText (moment : Moment) : String :=
  moment.plainDate ++ "T" ++ padded 2 moment.hour ++ padded 2 moment.minute
    ++ padded 2 moment.second ++ "Z"

/-- Date and time. -/
def text (moment : Moment) : String :=
  yearText moment.year ++ "-" ++ padded 2 moment.month ++ "-" ++ padded 2 moment.day ++ "T"
    ++ padded 2 moment.hour ++ ":" ++ padded 2 moment.minute ++ ":" ++ padded 2 moment.second ++ "Z"

end Moment

end RemoteConfig
