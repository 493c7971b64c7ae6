import RecordFilter.Time.Date
import RecordFilter.Number.Digits

/-!
# Timestamps

A timestamp is a date and a time of day down to the nanosecond, without a time zone. A leap second
belongs to the second before it, whose nanoseconds then go on beyond 999999999. At the end of a minute
it is shown as the second 60.
-/

namespace RecordFilter

/-- A date with a time of day. From 1000000000 nanoseconds on it lies in a leap second after `second`. -/
@[ext]
structure Timestamp where
  date : Date
  hour : Nat
  minute : Nat
  second : Nat
  nanosecond : Nat
  hour_lt : hour < 24
  minute_lt : minute < 60
  second_lt : second < 60
  nanosecond_lt : nanosecond < 2000000000
deriving DecidableEq, Repr

namespace Timestamp

/-- The timestamp for the parts that are shown, if they are in range. The second 60 is a leap second. -/
def ofParts? (date : Date) (hour minute second nanosecond : Nat) : Option Timestamp :=
  if h : hour < 24 ∧ minute < 60 ∧ second ≤ 60 ∧ nanosecond < 1000000000 then
    some ⟨date, hour, minute, min second 59, second / 60 * 1000000000 + nanosecond, h.1, h.2.1,
      by omega, by omega⟩
  else none

/-- The beginning of a second, if there is such a time of day. -/
def ofClock? (date : Date) (hour minute second : Nat) : Option Timestamp :=
  if h : hour < 24 ∧ minute < 60 ∧ second < 60 then
    some ⟨date, hour, minute, second, 0, h.1, h.2.1, h.2.2, by decide⟩
  else none

/-- The beginning of a day. -/
def midnight (date : Date) : Timestamp :=
  ⟨date, 0, 0, 0, 0, by decide, by decide, by decide, by decide⟩

/-- Whether it lies in a leap second. -/
def isLeap (t : Timestamp) : Bool :=
  1000000000 ≤ t.nanosecond

/-- The order in time. -/
def compare (a b : Timestamp) : Ordering :=
  (a.date.compare b.date).then <| (Ord.compare a.hour b.hour).then <|
    (Ord.compare a.minute b.minute).then <| (Ord.compare a.second b.second).then <|
      Ord.compare a.nanosecond b.nanosecond

/-- The timestamp that lies `minutes` later. -/
def addMinutes? (t : Timestamp) (minutes : Int) : Option Timestamp :=
  let total : Int := t.hour * 60 + t.minute + minutes
  (t.date.addDays? (total / 1440)).map fun date =>
    { t with
      date
      hour := (total % 1440).toNat / 60
      minute := (total % 1440).toNat % 60
      hour_lt := by omega
      minute_lt := by omega }

/-- The number of seconds since the beginning of 1970. -/
def unixSeconds (t : Timestamp) : Int :=
  (t.date.dayNumber - 719163) * 86400 + t.hour * 3600 + t.minute * 60 + t.second

/-- The timestamp that lies `seconds` after the beginning of 1970. -/
def ofUnixSeconds? (seconds : Int) : Option Timestamp :=
  (Date.ofDayNumber? (seconds / 86400 + 719163)).bind fun date =>
    let within := (seconds % 86400).toNat
    ofClock? date (within / 3600) (within / 60 % 60) (within % 60)

/-! ## Text -/

/-- A year has four digits; one outside of 0 to 9999 also has a sign. -/
def yearText (year : Int) : Text :=
  if 0 ≤ year ∧ year ≤ 9999 then Numeral.padded 4 year.toNat
  else (if year < 0 then '-' else '+') :: Numeral.padded 4 year.natAbs

/-- The second that is shown, which counts a leap second. -/
def shownSecond (t : Timestamp) : Nat :=
  t.second + t.nanosecond / 1000000000

/-- The nanoseconds since the beginning of the second that is shown. -/
def fraction (t : Timestamp) : Nat :=
  t.nanosecond % 1000000000

/-- The date and the time to the second, with `T` in between. -/
def secondsText (t : Timestamp) : Text :=
  yearText t.date.year ++ '-' :: Numeral.padded 2 t.date.month ++ '-' :: Numeral.padded 2 t.date.day
    ++ 'T' :: Numeral.padded 2 t.hour ++ ':' :: Numeral.padded 2 t.minute
    ++ ':' :: Numeral.padded 2 t.shownSecond

/-- The fraction of the second with three, six or nine digits, as many as it needs. -/
def fractionText (nanosecond : Nat) : Text :=
  if nanosecond = 0 then []
  else if nanosecond % 1000000 = 0 then '.' :: Numeral.padded 3 (nanosecond / 1000000)
  else if nanosecond % 1000 = 0 then '.' :: Numeral.padded 6 (nanosecond / 1000)
  else '.' :: Numeral.padded 9 nanosecond

/-- The text that shows a timestamp. -/
def render (t : Timestamp) : Text :=
  t.secondsText ++ fractionText t.fraction

/-- The text of a timestamp inside a literal: always seven digits after the point. -/
def roundTripText (t : Timestamp) : Text :=
  t.secondsText ++ '.' :: Numeral.padded 7 (t.fraction / 100)

end Timestamp
end RecordFilter
