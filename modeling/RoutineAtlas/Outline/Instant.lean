/-
This file writes an instant, given in seconds, as a date and a time of day.
-/

namespace RoutineAtlas

/-- A date of the proleptic Gregorian calendar. -/
structure CalendarDate where
  year : Int
  month : Nat
  day : Nat
  deriving DecidableEq, Repr

/-- Years are counted from March, so that a leap day ends its year. -/
def CalendarDate.ofDays (days : Int) : CalendarDate :=
  let shifted := days + 719468
  let era := shifted.fdiv 146097
  let dayOfEra := (shifted.fmod 146097).toNat
  let yearOfEra :=
    (dayOfEra - dayOfEra / 1460 + dayOfEra / 36524 - dayOfEra / 146096) / 365
  let dayOfYear := dayOfEra - (365 * yearOfEra + yearOfEra / 4 - yearOfEra / 100)
  let monthFromMarch := (5 * dayOfYear + 2) / 153
  let day := dayOfYear - (153 * monthFromMarch + 2) / 5 + 1
  let month := if monthFromMarch < 10 then monthFromMarch + 3 else monthFromMarch - 9
  let year := era * 400 + (yearOfEra : Int)
  { year := if month ≤ 2 then year + 1 else year, month, day }

/-- A number is filled up with zeros to a width. -/
def zeroPadded (width number : Nat) : String :=
  let digits := toString number
  String.ofList (List.replicate (width - digits.length) '0') ++ digits

/-- A year of four digits bears no sign, any other year does. -/
def yearText (year : Int) : String :=
  if year < 0 then "-" ++ zeroPadded 4 year.natAbs
  else if year ≤ 9999 then zeroPadded 4 year.natAbs
  else "+" ++ toString year.natAbs

/-- The instant is written in universal time. -/
def instantText (seconds : Int) : String :=
  let date := CalendarDate.ofDays (seconds.fdiv 86400)
  let second := (seconds.fmod 86400).toNat
  yearText date.year ++ "-" ++ zeroPadded 2 date.month ++ "-" ++ zeroPadded 2 date.day ++ " " ++
    zeroPadded 2 (second / 3600) ++ ":" ++ zeroPadded 2 (second / 60 % 60) ++ ":" ++
    zeroPadded 2 (second % 60) ++ " UTC"

end RoutineAtlas
