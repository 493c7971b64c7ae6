import RecordFilter.Time.Fields

/-!
# Date patterns

A pattern says how a date is written: `%Y` stands for the year, `%d` for the day, and so on; other
characters stand for themselves and blanks for any number of blanks. `Pattern.items` takes a
pattern apart, and `DateFields.read?` reads the parts of a date from a text along the items.
-/

namespace RecordFilter

namespace Pattern

/-- One part of a pattern. -/
inductive Item where
  | literal (text : Text)
  | blanks
  /-- A number of up to `width` digits. -/
  | number (field : DateField) (width : Nat)
  | year
  | isoYear
  | hour
  | hour12
  /-- A weekday counted from 1 for Monday to 7 for Sunday. -/
  | weekdayNumber
  /-- A weekday counted from 0 for Sunday to 6 for Saturday. -/
  | weekdayFromSunday
  | unixSeconds
  | monthName (long : Bool)
  | weekdayName (long : Bool)
  | halfDay
  /-- An optional fraction of a second after a point. -/
  | fraction
  /-- A fraction of a second of exactly `digits` digits without a point. -/
  | fixedFraction (digits : Nat)
  | zoneName
  /-- An offset from universal time, which has no effect. -/
  | offset (allowZulu minutesOptional : Bool)
  /-- An offset or the word `UTC`. -/
  | offsetOrUtc
  /-- One character between a date and a time: `T`, `t` or a space. -/
  | dateTimeMark
  | unknown
deriving DecidableEq, Repr

/-- `%H:%M`. -/
def hourMinute : List Item := [.hour, .literal [':'], .number .minute 2]

/-- `%H:%M:%S`. -/
def clock : List Item := hourMinute ++ [.literal [':'], .number .second 2]

/-- `%m/%d/%y`. -/
def shortDate : List Item :=
  [.number .month 2, .literal ['/'], .number .day 2, .literal ['/'], .number .yearOfCentury 2]

/-- `%Y-%m-%d`. -/
def isoDate : List Item :=
  [.year, .literal ['-'], .number .month 2, .literal ['-'], .number .day 2]

/-- The items of `%+`: a date and a time with a fraction and an offset. -/
def full : List Item :=
  [.year, .blanks, .literal ['-'], .number .month 2, .blanks, .literal ['-'], .number .day 2,
    .dateTimeMark, .hour, .blanks, .literal [':'], .number .minute 2, .blanks, .literal [':'],
    .number .second 2, .fraction, .blanks, .offsetOrUtc]

/-- The items that a letter after the percent sign stands for, other than single numbers. -/
def composite : Char → Option (List Item)
  | 'D' | 'x' => some shortDate
  | 'F' => some isoDate
  | 'R' => some hourMinute
  | 'T' | 'X' => some clock
  | 'r' => some [.hour12, .literal [':'], .number .minute 2, .literal [':'], .number .second 2,
      .literal [' '], .halfDay]
  | 'c' => some ([.weekdayName false, .blanks, .monthName false, .blanks, .number .day 2, .blanks]
      ++ clock ++ [.blanks, .year])
  | 'v' => some [.number .day 2, .literal ['-'], .monthName false, .literal ['-'], .year]
  | 'b' | 'h' => some [.monthName false]
  | 'B' => some [.monthName true]
  | 'a' => some [.weekdayName false]
  | 'A' => some [.weekdayName true]
  | 'p' | 'P' => some [.halfDay]
  | 'Z' => some [.zoneName]
  | 'z' => some [.offset false false]
  | '+' => some full
  | 'n' | 't' => some [.blanks]
  | '%' => some [.literal ['%']]
  | _ => none

/-- The number that a letter after the percent sign stands for. -/
def numeric : Char → Option Item
  | 'Y' => some .year
  | 'C' => some (.number .century 2)
  | 'y' => some (.number .yearOfCentury 2)
  | 'G' => some .isoYear
  | 'g' => some (.number .isoYearOfCentury 2)
  | 'q' => some (.number .quarter 1)
  | 'm' => some (.number .month 2)
  | 'd' | 'e' => some (.number .day 2)
  | 'j' => some (.number .ordinal 3)
  | 'U' => some (.number .weekFromSunday 2)
  | 'W' => some (.number .weekFromMonday 2)
  | 'V' => some (.number .isoWeek 2)
  | 'u' => some .weekdayNumber
  | 'w' => some .weekdayFromSunday
  | 'H' | 'k' => some .hour
  | 'I' | 'l' => some .hour12
  | 'M' => some (.number .minute 2)
  | 'S' => some (.number .second 2)
  | 'f' => some (.number .nanosecond 9)
  | 's' => some .unixSeconds
  | _ => none

/-- The number of digits that a digit before `f` stands for. -/
def fractionDigits? : Char → Option Nat
  | '3' => some 3
  | '6' => some 6
  | '9' => some 9
  | _ => none

/-- The items after a percent sign and the rest of the pattern. -/
def directive : Text → List Item × Text
  | '-' :: c :: t | '_' :: c :: t | '0' :: c :: t =>
    -- A flag for the padding, which matters only for writing; it is allowed before numbers.
    match numeric c with
    | some item => ([item], t)
    | none => ([.unknown], t)
  | '.' :: 'f' :: t => ([.fraction], t)
  | '.' :: c :: 'f' :: t => (if (fractionDigits? c).isSome then [.fraction] else [.unknown], t)
  | ':' :: 'z' :: t | ':' :: ':' :: 'z' :: t | ':' :: ':' :: ':' :: 'z' :: t =>
    ([.offset false false], t)
  | '#' :: 'z' :: t => ([.offset true true], t)
  | c :: t =>
    match numeric c, composite c, fractionDigits? c, t with
    | some item, _, _, _ => ([item], t)
    | none, some items, _, _ => (items, t)
    | none, none, some digits, 'f' :: t => ([.fixedFraction digits], t)
    | none, none, _, _ => ([.unknown], t)
  | [] => ([.unknown], [])

theorem length_directive_le (t : Text) : (directive t).2.length ≤ t.length := by
  unfold directive
  split <;> (try split) <;> simp only [List.length_cons, List.length_nil] <;> omega

/-- The items of a pattern. -/
def items : Text → List Item
  | [] => []
  | '%' :: t => (directive t).1 ++ items (directive t).2
  | c :: t => (if Text.isBlankChar c then .blanks else .literal [c]) :: items t
termination_by t => t.length
decreasing_by
  · have := length_directive_le t
    simp only [List.length_cons]
    omega
  · simp

end Pattern

namespace DateFields

open Pattern

/-! ## Reading along a pattern -/

/-- Reads a number of at least `least` and at most `most` digits. -/
def digits? (least most : Nat) (t : Text) : Option (Int × Text) :=
  let digits := (t.take most).takeWhile Numeral.isDigit
  if digits.length < least then none
  else (Numeral.nat? digits).map fun n => ((n : Int), t.drop digits.length)

/-- Reads a year: with a sign of any number of digits, without one of at most four. -/
def signedYear? : Text → Option (Int × Text)
  | '-' :: t => (digits? 1 t.length t).map fun (n, t) => (-n, t)
  | '+' :: t => digits? 1 t.length t
  | t => digits? 1 4 t

/-- Reads a fraction of a second in nanoseconds. Digits after the ninth are skipped. -/
def fractionDigits? (t : Text) : Option (Int × Text) :=
  let digits := (t.take 9).takeWhile Numeral.isDigit
  (Numeral.nat? digits).map fun n =>
    ((n * 10 ^ (9 - digits.length) : Nat), (t.drop digits.length).dropWhile Numeral.isDigit)

/-- Skips a piece of text in any case of its letters. -/
def skipIgnoreCase? (piece t : Text) : Option Text :=
  if Text.eqIgnoreCase (t.take piece.length) piece && piece.length ≤ t.length then
    some (t.drop piece.length)
  else none

/-- Reads a name by its first three letters and, if `long` is set and they are there, by the letters
after those. The result is the position of the name in the list. -/
def name? (long : Bool) (names : List String) (t : Text) : Option (Int × Text) :=
  let position? := names.findIdx? fun name => Text.eqIgnoreCase (t.take 3) (name.toList.take 3)
  position?.bind fun position =>
    let rest := t.drop 3
    let ending := ((names.drop position).headD "").toList.drop 3
    some ((position : Int), if long then (skipIgnoreCase? ending rest).getD rest else rest)

/-- The names of the months. -/
def monthNames : List String :=
  ["january", "february", "march", "april", "may", "june", "july", "august", "september", "october",
    "november", "december"]

/-- The names of the weekdays. -/
def weekdayNames : List String :=
  ["monday", "tuesday", "wednesday", "thursday", "friday", "saturday", "sunday"]

/-- The two digits at the start of a text. -/
def twoDigits? : Text → Option (Nat × Text)
  | a :: b :: t => (Numeral.digit? a).bind fun x => (Numeral.digit? b).map fun y => (10 * x + y, t)
  | _ => none

/-- Reads an offset from universal time in minutes. `colon` reads what stands between the hours and
the minutes. -/
def offset? (colon : Text → Option Text) (allowZulu minutesOptional : Bool) :
    Text → Option (Int × Text)
  | [] => none
  | sign :: t =>
    if (sign = 'Z' ∨ sign = 'z') ∧ allowZulu then some (0, t)
    else if sign = '+' ∨ sign = '-' ∨ sign = '−' then
      (twoDigits? t).bind fun (hours, t) => (colon t).bind fun t =>
        let minutes? :=
          if t.length < 2 ∧ minutesOptional then (if t.isEmpty then some (0, t) else none)
          else (twoDigits? t).filter fun (minutes, _) => minutes < 60
        minutes?.map fun (minutes, t) =>
          let total : Int := hours * 60 + minutes
          (if sign = '+' then total else -total, t)
    else none

/-- Skips any number of colons and blanks. -/
def skipColons (t : Text) : Option Text :=
  some (t.dropWhile fun c => c == ':' || Text.isBlankChar c)

/-- Reads one item and adds what it says to the parts. -/
def readItem? (fields : DateFields) (item : Item) (t : Text) : Option (DateFields × Text) :=
  let number? (read : Text → Option (Int × Text)) (set : Int → Option DateFields) :=
    (read (Text.trimStart t)).bind fun (n, t) => (set n).map (·, t)
  match item with
  | .literal text => (Text.dropStart? text t).map (fields, ·)
  | .blanks => some (fields, Text.trimStart t)
  | .number field width => number? (digits? 1 width) (fields.set? field)
  | .year => number? signedYear? (fields.set? .year)
  | .isoYear => number? signedYear? (fields.set? .isoYear)
  | .hour => number? (digits? 1 2) fields.setHour?
  | .hour12 => number? (digits? 1 2) fields.setHour12?
  | .weekdayNumber => number? (digits? 1 1) fun n => fields.set? .weekday (n - 1)
  | .weekdayFromSunday =>
    number? (digits? 1 1) fun n => if n < 7 then fields.set? .weekday ((n + 6) % 7) else none
  | .unixSeconds => number? (digits? 1 t.length) (fields.set? .unixSeconds)
  | .monthName long =>
    (name? long monthNames t).bind fun (n, t) => (fields.set? .month (n + 1)).map (·, t)
  | .weekdayName long =>
    (name? long weekdayNames t).bind fun (n, t) => (fields.set? .weekday n).map (·, t)
  | .halfDay =>
    match skipIgnoreCase? ['a', 'm'] t, skipIgnoreCase? ['p', 'm'] t with
    | some t, _ => (fields.set? .halfDay 0).map (·, t)
    | none, some t => (fields.set? .halfDay 1).map (·, t)
    | none, none => none
  | .fraction =>
    match t with
    | '.' :: t => (fractionDigits? t).bind fun (n, t) => (fields.set? .nanosecond n).map (·, t)
    | t => some (fields, t)
  | .fixedFraction digits =>
    (digits? digits digits t).bind fun (n, t) =>
      (fields.set? .nanosecond (n * 10 ^ (9 - digits))).map (·, t)
  | .zoneName => some (fields, t.dropWhile fun c => !Text.isBlankChar c)
  | .offset allowZulu minutesOptional =>
    (offset? skipColons allowZulu minutesOptional (Text.trimStart t)).map fun (_, t) => (fields, t)
  | .offsetOrUtc =>
    match skipIgnoreCase? ['u', 't', 'c'] t with
    | some t => some (fields, t)
    | none => (offset? skipColons true false t).map fun (_, t) => (fields, t)
  | .dateTimeMark =>
    match t with
    | c :: t => if c = 'T' ∨ c = 't' ∨ c = ' ' then some (fields, t) else none
    | [] => none
  | .unknown => none

/-- Reads all items; nothing may be left over. -/
def readItems? (fields : DateFields) : List Item → Text → Option DateFields
  | [], t => if t.isEmpty then some fields else none
  | item :: items, t => (fields.readItem? item t).bind fun (fields, t) => readItems? fields items t

/-- Reads the parts of a date along a pattern. -/
def read? (pattern t : Text) : Option DateFields :=
  readItems? [] (Pattern.items pattern) t

end DateFields
end RecordFilter
