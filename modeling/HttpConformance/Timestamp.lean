import HttpConformance.Numeral

/-!
# Timestamps

A moment is counted in seconds or microseconds from the beginning of 1970 and written in the
Gregorian calendar, as a date and a time of day in universal time. A year that does not have four
digits is written with its sign.

Main definitions: `Timestamp.ofSeconds`, `Timestamp.ofMicroseconds`.
-/

namespace HttpConformance.Timestamp

/-! ## The calendar -/

/-- A day of the Gregorian calendar. -/
structure Date where
  year : Int
  month : Nat
  day : Nat
  deriving DecidableEq, Repr

/-- The days in 400 years. -/
def cycleDays : Nat := 146097

/-- The days in the 100 years after a year that 400 divides, the leap day at the end left out. -/
def centuryDays : Nat := 36524

/-- The days in four years. -/
def leapCycleDays : Nat := 1461

/-- The days of the months from March to the next February. -/
def monthLengths : List Nat :=
  [31, 30, 31, 30, 31, 31, 30, 31, 30, 31, 31, 29]

/-- The month and the day of the month, both from zero, of a day of a year that begins with
March. -/
def monthOf (day : Nat) : List Nat → Nat × Nat
  | [] => (0, day)
  | length :: rest =>
    if day < length then (0, day)
    else
      let (month, day) := monthOf (day - length) rest
      (month + 1, day)

/-- The days from the first of March of the year 0 to the beginning of 1970. -/
def daysBefore1970 : Int := 719468

/-- The date of a day counted from the beginning of 1970. Years are counted from March on, so that
a leap day is the last day of its year; the last century of a cycle and the last year of four are
the ones that may be a day longer. -/
def dateOf (day : Int) : Date :=
  let shifted := day + daysBefore1970
  let cycle := shifted / cycleDays
  let inCycle := (shifted % cycleDays).toNat
  let century := min 3 (inCycle / centuryDays)
  let inCentury := inCycle - century * centuryDays
  let leapCycle := inCentury / leapCycleDays
  let inLeapCycle := inCentury - leapCycle * leapCycleDays
  let year := min 3 (inLeapCycle / 365)
  let (month, dayOfMonth) := monthOf (inLeapCycle - year * 365) monthLengths
  let marchYear := 400 * cycle + (100 * century + 4 * leapCycle + year : Nat)
  if month < 10 then ⟨marchYear, month + 3, dayOfMonth + 1⟩
  else ⟨marchYear + 1, month - 9, dayOfMonth + 1⟩

/-! ## Writing -/

/-- A number with zeros before it, to at least the given number of digits. -/
def padded (width n : Nat) : Text :=
  let digits := Numeral.write n
  List.replicate (width - digits.length) '0' ++ digits

/-- A year: four digits, or a sign and at least four digits. -/
def writeYear (year : Int) : Text :=
  if 0 ≤ year ∧ year ≤ 9999 then padded 4 year.toNat
  else (if year < 0 then '-' else '+') :: padded 4 year.natAbs

/-- A date. -/
def writeDate (date : Date) : Text :=
  writeYear date.year ++ '-' :: padded 2 date.month ++ '-' :: padded 2 date.day

/-- The seconds of a day. -/
def daySeconds : Nat := 86400

/-- A time of day, in seconds from midnight. -/
def writeTime (second : Nat) : Text :=
  padded 2 (second / 3600) ++ ':' :: padded 2 (second / 60 % 60) ++ ':' :: padded 2 (second % 60)

/-- A moment to the second, without the mark of universal time. -/
def writeMoment (seconds : Int) : Text :=
  writeDate (dateOf (seconds / daySeconds)) ++ 'T' :: writeTime (seconds % daySeconds).toNat

/-- A moment in seconds from the beginning of 1970. -/
def ofSeconds (seconds : Int) : Text :=
  writeMoment seconds ++ ['Z']

/-- A moment in microseconds from the beginning of 1970. -/
def ofMicroseconds (microseconds : Int) : Text :=
  writeMoment (microseconds / 1000000) ++
    '.' :: padded 6 (microseconds % 1000000).toNat ++ ['Z']

end HttpConformance.Timestamp
