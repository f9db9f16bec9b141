import HostMetrics.Text.Numeral

/-!
# Timestamps

A moment as text: the date and the time of day in universal time, to the
millisecond. Years are counted from March here, so that a leap day is the
last day of its year, in cycles of 400 years.
-/

namespace HostMetrics.Daemon

open Text

/-- A day as year, month and day of the month. -/
structure CivilDate where
  /-- The year. -/
  year : Nat
  /-- The month, from one. -/
  month : Nat
  /-- The day of the month, from one. -/
  day : Nat
deriving DecidableEq, Repr

/-- The date of a day, counted from the first of January 1970. -/
def CivilDate.ofDays (days : Nat) : CivilDate :=
  let shifted := days + 719468
  let dayOfCycle := shifted % 146097
  let yearOfCycle :=
    (dayOfCycle - dayOfCycle / 1460 + dayOfCycle / 36524 - dayOfCycle / 146096) / 365
  let dayOfYear := dayOfCycle - (365 * yearOfCycle + yearOfCycle / 4 - yearOfCycle / 100)
  let marchMonth := (5 * dayOfYear + 2) / 153
  let month := if marchMonth < 10 then marchMonth + 3 else marchMonth - 9
  let year := yearOfCycle + shifted / 146097 * 400
  ⟨if month ≤ 2 then year + 1 else year, month, dayOfYear - (153 * marchMonth + 2) / 5 + 1⟩

/-- A number with at least `width` digits. -/
def padded (width n : Nat) : List Char :=
  List.replicate (width - (decimal n).length) '0' ++ decimal n

/-- The text of a moment, given in milliseconds since the start of 1970. -/
def timestamp (milliseconds : Nat) : String :=
  let seconds := milliseconds / 1000
  let date := CivilDate.ofDays (seconds / 86400)
  let ofDay := seconds % 86400
  String.ofList (padded 4 date.year ++ '-' :: padded 2 date.month ++ '-' :: padded 2 date.day
    ++ 'T' :: padded 2 (ofDay / 3600) ++ ':' :: padded 2 (ofDay / 60 % 60)
    ++ ':' :: padded 2 (ofDay % 60) ++ '.' :: padded 3 (milliseconds % 1000) ++ ['Z'])

end HostMetrics.Daemon
