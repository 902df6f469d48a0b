import EdgeProxy.Text.Digit
/-!
Points in time, counted in microseconds from the start of 1970 in universal time, and their calendar
form.
-/

namespace EdgeProxy

/-- A point in time. -/
structure Instant where
  microseconds : Int
deriving DecidableEq, Repr

namespace Instant

/-- A date and a time of day in the proleptic Gregorian calendar. -/
structure Civil where
  year : Int
  month : Nat
  day : Nat
  hour : Nat
  minute : Nat
  second : Nat
  microsecond : Nat
deriving DecidableEq, Repr

def isLeapYear (year : Int) : Bool := year % 4 == 0 && (year % 100 != 0 || year % 400 == 0)

def daysInMonth (year : Int) (month : Nat) : Nat :=
  if month == 2 then (if isLeapYear year then 29 else 28)
  else if month == 4 || month == 6 || month == 9 || month == 11 then 30
  else 31

/-- Whether the parts are a date of the years 1 to 9999 and a time of day. -/
def Civil.isProper (c : Civil) : Bool :=
  1 ≤ c.year && c.year ≤ 9999 && 1 ≤ c.month && c.month ≤ 12 && 1 ≤ c.day &&
    c.day ≤ daysInMonth c.year c.month && c.hour < 24 && c.minute < 60 && c.second < 60 &&
    c.microsecond < 1000000

/-- The day number of a date, day 0 being the first of 1970.  Years are counted from March, so that
the leap day is the last of its year. -/
def dayNumber (year : Int) (month day : Nat) : Int :=
  let y := if month ≤ 2 then year - 1 else year
  let shifted : Int := ((month + 9) % 12 : Nat)
  365 * y + y / 4 - y / 100 + y / 400 + (153 * shifted + 2) / 5 + (day : Int) - 1 - 719468

def dateOfDay (n : Int) : Int × Nat × Nat :=
  let z := n + 719468
  let era := z / 146097
  let dayOfEra := z % 146097
  let yearOfEra := (dayOfEra - dayOfEra / 1460 + dayOfEra / 36524 - dayOfEra / 146096) / 365
  let dayOfYear := dayOfEra - (365 * yearOfEra + yearOfEra / 4 - yearOfEra / 100)
  let shifted := (5 * dayOfYear + 2) / 153
  let day := (dayOfYear - (153 * shifted + 2) / 5 + 1).toNat
  let month := (if shifted < 10 then shifted + 3 else shifted - 9).toNat
  let year := yearOfEra + era * 400 + (if month ≤ 2 then 1 else 0)
  (year, month, day)

def secondsPerDay : Int := 86400

def perSecond : Int := 1000000

/-- The instant of a civil time that is ahead of universal time by an offset in seconds. -/
def ofCivil (c : Civil) (offset : Int) : Instant :=
  let seconds := dayNumber c.year c.month c.day * secondsPerDay + (c.hour : Int) * 3600 +
    (c.minute : Int) * 60 + c.second - offset
  ⟨seconds * perSecond + c.microsecond⟩

/-- The civil time of an instant in universal time. -/
def civil (t : Instant) : Civil :=
  let seconds := t.microseconds / perSecond
  let (year, month, day) := dateOfDay (seconds / secondsPerDay)
  let ofDay := (seconds % secondsPerDay).toNat
  ⟨year, month, day, ofDay / 3600, ofDay / 60 % 60, ofDay % 60,
    (t.microseconds % perSecond).toNat⟩

/-- A number with leading zeros up to a width. -/
def padded (width n : Nat) : String :=
  let body := Text.decimal n
  String.ofList (List.replicate (width - body.length) '0') ++ body

/-- The written form in universal time; microseconds are written only if there are any. -/
def text (t : Instant) : String :=
  let c := t.civil
  padded 4 c.year.toNat ++ "-" ++ padded 2 c.month ++ "-" ++ padded 2 c.day ++ "T" ++
    padded 2 c.hour ++ ":" ++ padded 2 c.minute ++ ":" ++ padded 2 c.second ++
    (if c.microsecond == 0 then "" else "." ++ padded 6 c.microsecond) ++ "+00:00"

end Instant

end EdgeProxy
