import RecordFilter.Instances

/-!
# Calendar dates

Dates of the proleptic Gregorian calendar. Years run from -262143 to 262142; the year 0 is a leap
year. Dates are counted by day numbers, with 1 for the first day of the year 1, a Monday.
-/

namespace RecordFilter

namespace Calendar

/-- Whether the year has a 29th of February. -/
def isLeapYear (year : Int) : Bool :=
  year % 4 == 0 && (year % 100 != 0 || year % 400 == 0)

/-- The number of days in a month. -/
def daysInMonth (year : Int) (month : Nat) : Nat :=
  match month with
  | 2 => if isLeapYear year then 29 else 28
  | 4 | 6 | 9 | 11 => 30
  | _ => 31

/-- The number of days in a year. -/
def daysInYear (year : Int) : Nat :=
  if isLeapYear year then 366 else 365

/-- The earliest year. -/
def minYear : Int := -262143

/-- The latest year. -/
def maxYear : Int := 262142

end Calendar

/-- A day of the calendar. -/
structure Date where
  year : Int
  month : Nat
  day : Nat
  year_range : -262143 ≤ year ∧ year ≤ 262142
  month_range : 1 ≤ month ∧ month ≤ 12
  day_range : 1 ≤ day ∧ day ≤ Calendar.daysInMonth year month
deriving DecidableEq, Repr

namespace Date

open Calendar

/-- The date with these parts, if there is one. -/
def ofCivil? (year : Int) (month day : Nat) : Option Date :=
  if h : (-262143 ≤ year ∧ year ≤ 262142) ∧ (1 ≤ month ∧ month ≤ 12)
      ∧ (1 ≤ day ∧ day ≤ daysInMonth year month) then
    some ⟨year, month, day, h.1, h.2.1, h.2.2⟩
  else none

/-- The months from `month` on, for as long as `ordinal` reaches beyond them. -/
def monthOfOrdinal (year : Int) (ordinal month : Nat) : (left : Nat) → Nat × Nat
  | 0 => (month, ordinal)
  | left + 1 =>
    if ordinal ≤ daysInMonth year month then (month, ordinal)
    else monthOfOrdinal year (ordinal - daysInMonth year month) (month + 1) left

/-- The date with this number of the day within its year, counted from 1. -/
def ofOrdinal? (year : Int) (ordinal : Nat) : Option Date :=
  if ordinal ≤ daysInYear year then
    let (month, day) := monthOfOrdinal year ordinal 1 11
    ofCivil? year month day
  else none

/-- The number of the day within its year, counted from 1. -/
def ordinal (d : Date) : Nat :=
  ((List.range (d.month - 1)).map fun m => daysInMonth d.year (m + 1)).sum + d.day

/-- The number of days before the first of January. -/
def daysBeforeYear (year : Int) : Int :=
  let y := year - 1
  365 * y + y / 4 - y / 100 + y / 400

/-- The number of the day, with 1 for the first day of the year 1. -/
def dayNumber (d : Date) : Int :=
  daysBeforeYear d.year + d.ordinal

/-- The date with a day number, if its year is in range. -/
def ofDayNumber? (n : Int) : Option Date :=
  let guess := n * 400 / 146097 + 1
  let year :=
    if n ≤ daysBeforeYear guess then guess - 1
    else if daysBeforeYear (guess + 1) < n then guess + 1
    else guess
  let ordinal := n - daysBeforeYear year
  if 1 ≤ ordinal then ofOrdinal? year ordinal.toNat else none

/-- The day of the week, with 0 for Monday. -/
def weekday (d : Date) : Nat :=
  ((d.dayNumber + 6) % 7).toNat

/-- The date that lies `days` later. -/
def addDays? (d : Date) (days : Int) : Option Date :=
  ofDayNumber? (d.dayNumber + days)

/-! ## Weeks -/

/-- The number of the week of a year whose weeks begin on the weekday `first`; days before the first
such weekday are in week 0. -/
def weekFrom (first : Nat) (d : Date) : Nat :=
  (d.ordinal + 6 - (d.weekday + 7 - first) % 7) / 7

/-- The number of weeks in a year, when a week belongs to the year of its Thursday. -/
def isoWeeks (year : Int) : Nat :=
  let firstDay := ((daysBeforeYear year + 1 + 6) % 7).toNat
  if firstDay = 3 ∨ (firstDay = 2 ∧ isLeapYear year) then 53 else 52

/-- The year and the week that a date belongs to, when a week belongs to the year of its
Thursday. -/
def isoWeek (d : Date) : Int × Nat :=
  let week := (d.ordinal + 9 - d.weekday) / 7
  if week = 0 then (d.year - 1, isoWeeks (d.year - 1))
  else if isoWeeks d.year < week then (d.year + 1, 1)
  else (d.year, week)

/-- The date of a weekday within a week that belongs to the year of its Thursday. -/
def ofIsoWeek? (year : Int) (week weekday : Nat) : Option Date :=
  if 1 ≤ week ∧ week ≤ isoWeeks year then
    let fourth := daysBeforeYear year + 4
    ofDayNumber? (fourth - (fourth + 6) % 7 + (week - 1) * 7 + weekday)
  else none

/-- The date of a weekday within a numbered week, when weeks begin on the weekday `first`. -/
def ofWeekFrom? (first : Nat) (year : Int) (week weekday : Nat) : Option Date :=
  let firstDay := ((daysBeforeYear year + 7) % 7).toNat
  let start : Int := 1 + (first + 7 - firstDay) % 7
  let ordinal := start + (week - 1) * 7 + (weekday + 7 - first) % 7
  if week ≤ 53 ∧ 1 ≤ ordinal then ofOrdinal? year ordinal.toNat else none

/-! ## Order -/

/-- The order of the calendar. -/
def compare (a b : Date) : Ordering :=
  (Ord.compare a.year b.year).then ((Ord.compare a.month b.month).then (Ord.compare a.day b.day))

end Date
end RecordFilter
