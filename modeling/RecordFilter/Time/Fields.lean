import RecordFilter.Time.Timestamp

/-!
# Partial dates and times

While a date is read, its parts are collected one by one, each of them at most once with one value.
In the end the parts are put together: a date from a year with month and day, with the day of the
year, or with a week and a weekday; a time from hour and minute, where seconds may be missing. Parts
that are not needed must agree with the result.
-/

namespace RecordFilter

/-- The parts of a date and a time that can be written. -/
inductive DateField where
  | year
  | century
  | yearOfCentury
  | isoYear
  | isoYearOfCentury
  | quarter
  | month
  | isoWeek
  | weekFromSunday
  | weekFromMonday
  | ordinal
  | day
  | weekday
  | halfDay
  | hourOfHalf
  | minute
  | second
  | nanosecond
  | unixSeconds
deriving DecidableEq, Repr

namespace DateField

/-- The least and the greatest value of a part. -/
def range : DateField → Int × Int
  | year | isoYear => (-2 ^ (31 : Nat), 2 ^ (31 : Nat) - 1)
  | century => (0, 2 ^ (31 : Nat) - 1)
  | yearOfCentury | isoYearOfCentury => (0, 99)
  | quarter => (1, 4)
  | month => (1, 12)
  | isoWeek => (1, 53)
  | weekFromSunday | weekFromMonday => (0, 53)
  | ordinal => (1, 366)
  | day => (1, 31)
  | weekday => (0, 6)
  | halfDay => (0, 1)
  | hourOfHalf => (0, 11)
  | minute => (0, 59)
  | second => (0, 60)
  | nanosecond => (0, 999999999)
  | unixSeconds => (-2 ^ (63 : Nat), 2 ^ (63 : Nat) - 1)

end DateField

/-- The parts read so far. -/
abbrev DateFields := List (DateField × Int)

namespace DateFields

/-- Why parts make no date or time: some are missing, or they contradict each other. -/
inductive Problem where
  | missing
  | contradiction
deriving DecidableEq, Repr

/-- The value of a part. -/
def get? (fields : DateFields) (field : DateField) : Option Int :=
  fields.lookup field

/-- Adds a part, which must be in range and must not be there with another value. -/
def set? (fields : DateFields) (field : DateField) (value : Int) : Option DateFields :=
  if field.range.1 ≤ value ∧ value ≤ field.range.2 then
    match fields.get? field with
    | none => some ((field, value) :: fields)
    | some present => if present = value then some fields else none
  else none

/-- Whether a part is missing or has this value. -/
def agrees (fields : DateFields) (field : DateField) (value : Int) : Bool :=
  (fields.get? field).all (· == value)

/-- Adds an hour of the day as its half of the day and its hour within the half. -/
def setHour? (fields : DateFields) (hour : Int) : Option DateFields :=
  if 0 ≤ hour ∧ hour < 24 then
    (fields.set? .halfDay (hour / 12)).bind (·.set? .hourOfHalf (hour % 12))
  else none

/-- Adds an hour between 1 and 12, where 12 is the beginning of the half of the day. -/
def setHour12? (fields : DateFields) (hour : Int) : Option DateFields :=
  if 1 ≤ hour ∧ hour ≤ 12 then fields.set? .hourOfHalf (hour % 12) else none

/-- The full year from a year, a century and a year of the century. Two digits alone stand for
1970 to 2069. -/
def resolveYear (year century ofCentury : Option Int) : Except Problem (Option Int) :=
  match year, century, ofCentury with
  | year, none, none => .ok year
  | some y, century, ofCentury =>
    if 0 ≤ y ∧ century.all (· == y / 100) ∧ ofCentury.all (· == y % 100) then .ok (some y)
    else .error .contradiction
  | none, some q, some r => .ok (some (q * 100 + r))
  | none, none, some r => .ok (some (if r < 70 then 2000 + r else 1900 + r))
  | none, some _, none => .error .missing

/-- Whether year, month and day agree with a date. -/
def agreesCivil (fields : DateFields) (date : Date) : Bool :=
  fields.agrees .year date.year
    && (date.year < 0 && fields.get? .century == none && fields.get? .yearOfCentury == none
      || 0 ≤ date.year && fields.agrees .century (date.year / 100)
        && fields.agrees .yearOfCentury (date.year % 100))
    && fields.agrees .month date.month && fields.agrees .day date.day

/-- Whether the week and the weekday agree with a date. -/
def agreesIsoWeek (fields : DateFields) (date : Date) : Bool :=
  let (year, week) := date.isoWeek
  fields.agrees .isoYear year
    && (0 ≤ year && fields.agrees .isoYearOfCentury (year % 100)
      || year < 0 && fields.get? .isoYearOfCentury == none)
    && fields.agrees .isoWeek week && fields.agrees .weekday date.weekday

/-- Whether the numbers counted from the beginning of the year agree with a date. -/
def agreesOrdinal (fields : DateFields) (date : Date) : Bool :=
  fields.agrees .ordinal date.ordinal && fields.agrees .weekFromSunday (date.weekFrom 6)
    && fields.agrees .weekFromMonday (date.weekFrom 0)

/-- The date if it exists and agrees with the other parts. -/
def checked (date : Option Date) (agreement : Date → Bool) : Except Problem Date :=
  match date with
  | some date => if agreement date then .ok date else .error .contradiction
  | none => .error .contradiction

/-- Puts the date together. -/
def date (fields : DateFields) : Except Problem Date := do
  let year ← resolveYear (fields.get? .year) (fields.get? .century) (fields.get? .yearOfCentury)
  let isoYear ← resolveYear (fields.get? .isoYear) none (fields.get? .isoYearOfCentury)
  let all (date : Date) : Bool :=
    fields.agreesCivil date && fields.agreesIsoWeek date && fields.agreesOrdinal date
  let result ←
    match year, fields.get? .month, fields.get? .day, fields.get? .ordinal with
    | some y, some m, some d, _ =>
      checked (Date.ofCivil? y m.toNat d.toNat) fun date =>
        fields.agreesIsoWeek date && fields.agreesOrdinal date
    | some y, _, _, some n => checked (Date.ofOrdinal? y n.toNat) all
    | _, _, _, _ =>
      match year, fields.get? .weekFromSunday, fields.get? .weekFromMonday, fields.get? .weekday with
      | some y, some week, _, some weekday =>
        checked (Date.ofWeekFrom? 6 y week.toNat weekday.toNat) all
      | some y, _, some week, some weekday =>
        checked (Date.ofWeekFrom? 0 y week.toNat weekday.toNat) all
      | _, _, _, _ =>
        match isoYear, fields.get? .isoWeek, fields.get? .weekday with
        | some y, some week, some weekday =>
          checked (Date.ofIsoWeek? y week.toNat weekday.toNat) fun date =>
            fields.agreesCivil date && fields.agreesOrdinal date
        | _, _, _ => .error .missing
  if fields.agrees .quarter (((result.month + 2) / 3 : Nat) : Int) then .ok result
  else .error .contradiction

/-- Puts the time together: hour, minute, second and nanosecond. -/
def time (fields : DateFields) : Except Problem (Nat × Nat × Nat × Nat) :=
  match fields.get? .halfDay, fields.get? .hourOfHalf, fields.get? .minute with
  | some half, some hour, some minute =>
    match fields.get? .second, fields.get? .nanosecond with
    | none, some _ => .error .missing
    | second, nanosecond =>
      .ok ((half * 12 + hour).toNat, minute.toNat, (second.getD 0).toNat, (nanosecond.getD 0).toNat)
  | _, _, _ => .error .missing

/-- A date with a time of day. -/
def atTime (date : Date) : Nat × Nat × Nat × Nat → Option Timestamp
  | (hour, minute, second, nanosecond) => Timestamp.ofParts? date hour minute second nanosecond

/-- Fills in what is missing from the second in which the timestamp lies. A leap second is taken from the
parts. -/
def fromSecond? (fields : DateFields) (base : Timestamp) : Option Timestamp :=
  (if fields.get? .second == some 60 then some fields else fields.set? .second base.second).bind
    fun fields => do
      let fields ← fields.set? .year base.date.year
      let fields ← fields.set? .ordinal base.date.ordinal
      let fields ← fields.setHour? base.hour
      let fields ← fields.set? .minute base.minute
      match fields.date, fields.time with
      | .ok date, .ok time => atTime date time
      | _, _ => none

/-- Fills in what is missing from the seconds since 1970, which the parts must agree with. -/
def fromUnixSeconds? (fields : DateFields) (seconds : Int) : Option Timestamp :=
  (Timestamp.ofUnixSeconds? seconds).bind fun base =>
    let leap := fields.get? .second == some 60
    if leap && base.second == 0 then (Timestamp.ofUnixSeconds? (seconds - 1)).bind fields.fromSecond?
    else if leap && base.second != 59 then none
    else fields.fromSecond? base

/-- Puts the date and the time together. -/
def timestamp? (fields : DateFields) : Option Timestamp :=
  match fields.date, fields.time with
  | .ok date, .ok time =>
    (atTime date time).filter fun t =>
      (fields.get? .unixSeconds).all fun given =>
        given == t.unixSeconds || (t.isLeap && given == t.unixSeconds + 1)
  | .error .contradiction, _ | _, .error .contradiction => none
  | _, _ => (fields.get? .unixSeconds).bind fields.fromUnixSeconds?

/-- Puts the date together and takes the beginning of that day. -/
def midnight? (fields : DateFields) : Option Timestamp :=
  match fields.date with
  | .ok date => some (Timestamp.midnight date)
  | .error _ => none

end DateFields
end RecordFilter
