import RecordFilter.Time.Reading
import RecordFilter.Proofs.NumberTexts

/-!
# Texts of timestamps

A timestamp is read from the text that shows it, with the second alone or with up to nine digits of a fraction
behind it. Along a pattern, each number takes as many digits as it was padded to, and a year ends at its dash
(`readItems?_secondsText`); the parts that are found make the timestamp again (`timestamp?_of_shows`). Among the
patterns there are two that begin in the same way, and the first of them leaves a fraction over. Without an
offset, a text is not in the Internet format. In literals a fraction has seven digits, and what is read lacks
the rest.

A leap second has a text of its own only at the end of a minute, where it is the second 60. Inside of a minute
it is shown as the second after it (`Timestamp.shown`). No reader makes such a leap second
(`Timestamp.leapEndsMinute_of_read?`).

Main statements: `Timestamp.read?_padded`, `Timestamp.read?_render` and `Timestamp.read?_roundTripText`.
-/

namespace RecordFilter

/-! ## Padded numbers -/

namespace Numeral

theorem exists_cons_padded (width n : Nat) : ∃ c t, padded width n = c :: t ∧ isDigit c = true := by
  have hne : padded width n ≠ [] := by simp [padded, padStart, ofNat, Nat.toDigits_ne_nil]
  obtain ⟨c, t, hcons⟩ := List.exists_cons_of_ne_nil hne
  exact ⟨c, t, hcons, areDigits_padStart width n c (by
    rw [← padded, hcons]
    exact List.mem_cons_self)⟩

/-- A padded number is read back. -/
theorem nat?_padded (width n : Nat) : nat? (padded width n) = some n := by
  obtain ⟨c, t, hcons, -⟩ := exists_cons_padded width n
  rw [nat?, if_neg (by simp [hcons])]
  exact foldDigits?_padStart width n

/-- A number below `10 ^ width` takes `width` digits. -/
theorem length_padded {width n : Nat} (hwidth : 0 < width) (h : n < 10 ^ width) :
    (padded width n).length = width := by
  have hlength : (ofNat n).length ≤ width := Nat.toDigits_length 10 n width hwidth h
  rw [padded, length_padStart]
  omega

end Numeral

/-! ## Reading numbers -/

/-- Whether a part of a date or a time may have a value. -/
def DateField.InRange (field : DateField) (value : Int) : Prop :=
  field.range.1 ≤ value ∧ value ≤ field.range.2

namespace DateFields

open Numeral Pattern

variable {digits rest : Text} {n : Nat}

/-- Digits are read up to the most that there may be, or up to what is no digit. -/
theorem digits?_append {least most : Nat} (hdigits : AreDigits digits) (hread : nat? digits = some n)
    (hleast : least ≤ digits.length) (hmost : digits.length ≤ most)
    (hend : digits.length = most ∨ ∀ c, rest.head? = some c → isDigit c = false) :
    digits? least most (digits ++ rest) = some ((n : Int), rest) := by
  have hspan : ((digits ++ rest).take most).takeWhile isDigit = digits := by
    rw [List.take_append, List.take_of_length_le hmost, List.takeWhile_append_of_pos hdigits]
    rcases hend with hend | hend
    · rw [hend, Nat.sub_self, List.take_zero, List.takeWhile_nil, List.append_nil]
    · cases rest with
      | nil => simp
      | cons c rest =>
        have hc := hend c rfl
        cases hk : most - digits.length with
        | zero => simp
        | succ k => simp [hc]
  rw [digits?]
  simp only [hspan, hread, List.drop_left]
  rw [if_neg (by omega)]
  rfl

/-- `digits?` takes off a padded number of an allowed width, where no digit follows it. -/
theorem digits?_padded {least width most : Nat} (hwidth : 0 < width) (h : n < 10 ^ width)
    (hleast : least ≤ width) (hmost : width ≤ most)
    (hend : width = most ∨ ∀ c, rest.head? = some c → isDigit c = false) :
    digits? least most (padded width n ++ rest) = some ((n : Int), rest) := by
  have hlength := length_padded hwidth h
  exact digits?_append (areDigits_padStart width n) (nat?_padded width n) (by rwa [hlength])
    (by rwa [hlength]) (by rwa [hlength])

theorem trimStart_padded (width n : Nat) (rest : Text) :
    Text.trimStart (padded width n ++ rest) = padded width n ++ rest := by
  obtain ⟨c, t, hcons, hc⟩ := exists_cons_padded width n
  refine Text.trimStart_eq_self fun d hd => ?_
  rw [hcons] at hd
  cases hd
  exact isBlankChar_of_isDigit hc

variable {fields : DateFields}

/-- A part that is not there yet is added. -/
theorem set?_new {field : DateField} {value : Int} (hnew : fields.get? field = none)
    (hrange : field.InRange value) : fields.set? field value = some ((field, value) :: fields) := by
  obtain ⟨hlow, hhigh⟩ := hrange
  rw [set?, if_pos ⟨hlow, hhigh⟩, hnew]

/-- One item is read, and the others are left. -/
theorem readItems?_step {fields' : DateFields} {item : Item} {t t' : Text}
    (h : fields.readItem? item t = some (fields', t')) (items : List Item) :
    readItems? fields (item :: items) t = readItems? fields' items t' := by
  rw [readItems?, h, Option.bind_some]

theorem readItem?_literal (c : Char) (rest : Text) :
    fields.readItem? (.literal [c]) (c :: rest) = some (fields, rest) := by
  simp [readItem?, Text.dropStart?]

/-- A number of two digits is added to the parts. -/
theorem readItem?_number {field : DateField} (hnew : fields.get? field = none)
    (hwidth : field.range.2 < 100) (hrange : field.InRange n) (rest : Text) :
    fields.readItem? (.number field 2) (padded 2 n ++ rest) = some ((field, (n : Int)) :: fields, rest) := by
  have h : n < 100 := Int.ofNat_lt.1 (lt_of_le_of_lt hrange.2 hwidth)
  show (digits? 1 2 (Text.trimStart _)).bind _ = _
  rw [trimStart_padded, digits?_padded (by decide) h (by decide) (by decide) (.inl rfl), Option.bind_some]
  show (fields.set? field n).map _ = _
  rw [set?_new hnew hrange, Option.map_some]

/-- An hour is added as its half of the day and its hour within the half. -/
theorem readItem?_hour (hhalf : fields.get? .halfDay = none) (hhour : fields.get? .hourOfHalf = none)
    (h : n < 24) (rest : Text) :
    fields.readItem? .hour (padded 2 n ++ rest)
      = some ((.hourOfHalf, (n : Int) % 12) :: (.halfDay, (n : Int) / 12) :: fields, rest) := by
  have hfields : DateFields.get? ((.halfDay, (n : Int) / 12) :: fields) .hourOfHalf = none := hhour
  have hset : fields.setHour? n
      = some ((.hourOfHalf, (n : Int) % 12) :: (.halfDay, (n : Int) / 12) :: fields) := by
    rw [setHour?, if_pos (by omega),
      set?_new hhalf (by simp only [DateField.InRange, DateField.range]; omega), Option.bind_some]
    exact set?_new hfields (by simp only [DateField.InRange, DateField.range]; omega)
  show (digits? 1 2 (Text.trimStart _)).bind _ = _
  rw [trimStart_padded, digits?_padded (by decide) (by omega) (by decide) (by decide) (.inl rfl),
    Option.bind_some]
  show (fields.setHour? n).map _ = _
  rw [hset, Option.map_some]

end DateFields

namespace Timestamp

open DateFields Pattern Numeral

variable {t : Timestamp}

/-! ## What a text shows -/

/-- The second that is shown is at most 60, the leap second of a minute's end. -/
theorem shownSecond_le (t : Timestamp) : t.shownSecond ≤ 60 := by
  have hsecond := t.second_lt
  have hnano := t.nanosecond_lt
  rw [shownSecond]
  omega

theorem fraction_lt (t : Timestamp) : t.fraction < 1000000000 :=
  Nat.mod_lt _ (by decide)

/-- Whether a timestamp that lies in a leap second lies at the end of a minute. -/
def LeapEndsMinute (t : Timestamp) : Prop :=
  t.isLeap = true → t.second = 59

/-- The timestamp that the text shows: a leap second inside of a minute is shown as the second after it. -/
def shown (t : Timestamp) : Timestamp :=
  if h : t.isLeap = true ∧ t.second < 59 then
    { t with
      second := t.second + 1
      nanosecond := t.nanosecond - 1000000000
      second_lt := by omega
      nanosecond_lt := by have := t.nanosecond_lt; omega }
  else t

/-- Where a leap second ends its minute, the text shows the timestamp itself. -/
theorem shown_of_leapEndsMinute (h : t.LeapEndsMinute) : t.shown = t :=
  dif_neg fun hleap => absurd (h hleap.1) (Nat.ne_of_lt hleap.2)

theorem second_shown (h : ¬t.LeapEndsMinute) : t.shown.second = t.second + 1 := by
  have hlt := t.second_lt
  obtain ⟨hleap, hsecond⟩ := Classical.not_imp.1 h
  rw [shown, dif_pos ⟨hleap, by omega⟩]

/-- A timestamp is what its text shows if and only if it `LeapEndsMinute`. -/
theorem shown_eq_self_iff : t.shown = t ↔ t.LeapEndsMinute := by
  refine ⟨fun h => ?_, shown_of_leapEndsMinute⟩
  by_contra hends
  have := second_shown hends
  rw [h] at this
  omega

/-- The parts that are shown make the timestamp that is shown. -/
theorem ofParts?_shown (t : Timestamp) :
    ofParts? t.date t.hour t.minute t.shownSecond t.fraction = some t.shown := by
  have hsecond := t.second_lt
  have hnano := t.nanosecond_lt
  rw [ofParts?, dif_pos ⟨t.hour_lt, t.minute_lt, t.shownSecond_le, t.fraction_lt⟩, Option.some_inj, shown]
  simp only [isLeap, decide_eq_true_eq]
  split
  · ext <;> simp only [shownSecond, fraction] <;> omega
  · ext <;> simp only [shownSecond, fraction] <;> omega

/-! ## Reading along the items -/

theorem signedYear?_digit {c : Char} (hc : isDigit c = true) (t : Text) :
    signedYear? (c :: t) = digits? 1 4 (c :: t) := by
  rw [signedYear?]
  · rintro _ heq
    cases heq
    cases hc
  · rintro _ heq
    cases heq
    cases hc

/-- A year is read from its text, up to what is no digit. -/
theorem signedYear?_yearText (year : Int) {rest : Text}
    (hrest : ∀ c, rest.head? = some c → isDigit c = false) :
    signedYear? (yearText year ++ rest) = some (year, rest) := by
  -- behind a sign, a year may have any number of digits
  have hsigned : ∀ n : Nat,
      digits? 1 (padded 4 n ++ rest).length (padded 4 n ++ rest) = some ((n : Int), rest) := by
    intro n
    have hlength : (padded 4 n).length = max 4 (ofNat n).length := length_padStart 4 _
    exact digits?_append (areDigits_padStart 4 n) (nat?_padded 4 n) (by omega)
      (by rw [List.length_append]; omega) (.inr hrest)
  rw [yearText]
  split
  · obtain ⟨c, t, hcons, hc⟩ := exists_cons_padded 4 year.toNat
    have hdigits : digits? 1 4 (padded 4 year.toNat ++ rest) = some ((year.toNat : Int), rest) :=
      digits?_padded (by decide) (by omega) (by decide) (le_refl 4) (.inl rfl)
    rw [Int.toNat_of_nonneg (by omega)] at hdigits
    rw [← hdigits, hcons, List.cons_append, signedYear?_digit hc]
  · split
    · show (digits? 1 (padded 4 year.natAbs ++ rest).length (padded 4 year.natAbs ++ rest)).map _ = _
      rw [hsigned, Option.map_some]
      show some (-(year.natAbs : Int), rest) = _
      rw [show -(year.natAbs : Int) = year by omega]
    · show digits? 1 (padded 4 year.natAbs ++ rest).length (padded 4 year.natAbs ++ rest) = _
      rw [hsigned, show (year.natAbs : Int) = year by omega]

/-- The items of the date and the time to the second. -/
def secondsItems : List Item :=
  isoDate ++ .literal ['T'] :: clock

theorem items_seconds : items "%Y-%m-%dT%H:%M:%S".toList = secondsItems := by
  decide +kernel

theorem items_fraction : items "%Y-%m-%dT%H:%M:%S%.f".toList = secondsItems ++ [.fraction] := by
  decide +kernel

/-- The parts of the date and the time to the second, in the order in which they are found. -/
def secondsFields (t : Timestamp) : DateFields :=
  [(.second, t.shownSecond), (.minute, t.minute), (.hourOfHalf, t.hour % 12), (.halfDay, t.hour / 12),
    (.day, t.date.day), (.month, t.date.month), (.year, t.date.year)]

theorem daysInMonth_le (year : Int) (month : Nat) : Calendar.daysInMonth year month ≤ 31 := by
  unfold Calendar.daysInMonth
  split
  · split <;> decide
  all_goals decide

/-- A year of the calendar is read back, signed or not, where no digit follows it. -/
theorem readItem?_year (year : Int) (hyear : -262143 ≤ year ∧ year ≤ 262142) {rest : Text}
    (hrest : ∀ c, rest.head? = some c → isDigit c = false) :
    readItem? [] .year (yearText year ++ rest) = some ([(.year, year)], rest) := by
  have htrim : Text.trimStart (yearText year ++ rest) = yearText year ++ rest := by
    rw [yearText]
    split
    · exact trimStart_padded 4 _ rest
    · split <;> rfl
  show (signedYear? (Text.trimStart _)).bind _ = _
  rw [htrim, signedYear?_yearText year hrest, Option.bind_some]
  show (set? [] .year year).map _ = _
  rw [set?_new rfl (by simp only [DateField.InRange, DateField.range]; omega), Option.map_some]

/-- The date and the time to the second are read from their text. What follows is left to the other items. -/
theorem readItems?_secondsText (t : Timestamp) (items : List Item) (rest : Text) :
    readItems? [] (secondsItems ++ items) (t.secondsText ++ rest)
      = readItems? t.secondsFields items rest := by
  have hdays := daysInMonth_le t.date.year t.date.month
  have hmonth : DateField.month.InRange t.date.month := by
    have := t.date.month_range
    simp only [DateField.InRange, DateField.range]
    omega
  have hday : DateField.day.InRange t.date.day := by
    have := t.date.day_range
    simp only [DateField.InRange, DateField.range]
    omega
  have hminute : DateField.minute.InRange t.minute := by
    have := t.minute_lt
    simp only [DateField.InRange, DateField.range]
    omega
  have hsecond : DateField.second.InRange t.shownSecond := by
    have := t.shownSecond_le
    simp only [DateField.InRange, DateField.range]
    omega
  simp only [secondsItems, isoDate, clock, hourMinute, secondsText, List.append_assoc, List.cons_append,
    List.nil_append]
  rw [readItems?_step (readItem?_year t.date.year t.date.year_range (by simp; decide)),
    readItems?_step (readItem?_literal _ _), readItems?_step (readItem?_number rfl (by decide) hmonth _),
    readItems?_step (readItem?_literal _ _), readItems?_step (readItem?_number rfl (by decide) hday _),
    readItems?_step (readItem?_literal _ _), readItems?_step (readItem?_hour rfl rfl t.hour_lt _),
    readItems?_step (readItem?_literal _ _), readItems?_step (readItem?_number rfl (by decide) hminute _),
    readItems?_step (readItem?_literal _ _), readItems?_step (readItem?_number rfl (by decide) hsecond _)]
  rfl

/-! ## From parts to timestamps -/

theorem ofCivil?_date (d : Date) : Date.ofCivil? d.year d.month d.day = some d :=
  dif_pos ⟨d.year_range, d.month_range, d.day_range⟩

/-- Parts that come from a date and a time, with a fraction of the second or without one. -/
def ShowsTimestamp (fields : DateFields) (t : Timestamp) : Prop :=
  fields = (.nanosecond, (t.fraction : Int)) :: t.secondsFields ∨
    t.fraction = 0 ∧ fields = t.secondsFields

/-- Where nothing else is known, year, month and day make the date. -/
theorem date_of_shows {fields : DateFields} (h : ShowsTimestamp fields t) : fields.date = .ok t.date := by
  have hweek : fields.agreesIsoWeek t.date = true := by
    have hsign : ((decide (0 ≤ t.date.isoWeek.1) && true || decide (t.date.isoWeek.1 < 0) && true)
        && true && true) = true := by
      simp only [Bool.and_true, Bool.or_eq_true, decide_eq_true_eq]
      omega
    rcases h with rfl | ⟨-, rfl⟩
    · exact hsign
    · exact hsign
  have hordinal : fields.agreesOrdinal t.date = true := by
    rcases h with rfl | ⟨-, rfl⟩ <;> rfl
  have hchecked : checked (Date.ofCivil? t.date.year (t.date.month : Int).toNat (t.date.day : Int).toNat)
      (fun date => fields.agreesIsoWeek date && fields.agreesOrdinal date) = .ok t.date := by
    rw [Int.toNat_natCast, Int.toNat_natCast, ofCivil?_date, checked, if_pos (by rw [hweek, hordinal]; rfl)]
  rcases h with rfl | ⟨-, rfl⟩
  · show (checked _ _ >>= _) = _
    rw [hchecked]
    rfl
  · show (checked _ _ >>= _) = _
    rw [hchecked]
    rfl

/-- Fields that show a timestamp give the time that its text shows. -/
theorem time_of_shows {fields : DateFields} (h : ShowsTimestamp fields t) :
    fields.time = .ok (t.hour, t.minute, t.shownSecond, t.fraction) := by
  have hhour : ((t.hour : Int) / 12 * 12 + (t.hour : Int) % 12).toNat = t.hour := by omega
  rcases h with rfl | ⟨hzero, rfl⟩
  · exact congrArg (fun hour => Except.ok (hour, t.minute, t.shownSecond, t.fraction)) hhour
  · rw [hzero]
    exact congrArg (fun hour => Except.ok (hour, t.minute, t.shownSecond, 0)) hhour

/-- Fields that show a timestamp give the timestamp that its text shows. -/
theorem timestamp?_of_shows {fields : DateFields} (h : ShowsTimestamp fields t) :
    fields.timestamp? = some t.shown := by
  have hunix : fields.get? .unixSeconds = none := by
    rcases h with rfl | ⟨-, rfl⟩ <;> rfl
  rw [timestamp?, date_of_shows h, time_of_shows h]
  simp only [atTime, ofParts?_shown, hunix]
  rfl

/-! ## From texts to timestamps -/

/-- The pattern without a fraction reads the text of a whole second. -/
theorem readPattern?_seconds (h : t.fraction = 0) :
    readPattern? "%Y-%m-%dT%H:%M:%S".toList t.secondsText = some t.shown := by
  have hread := readItems?_secondsText t [] []
  rw [List.append_nil, List.append_nil] at hread
  rw [readPattern?, DateFields.read?, items_seconds, hread]
  show Option.or (t.secondsFields.timestamp?) _ = _
  rw [timestamp?_of_shows (.inr ⟨h, rfl⟩), Option.some_or]

/-- The pattern without a fraction leaves one over. -/
theorem readPattern?_seconds_of_fraction (t : Timestamp) (c : Char) (rest : Text) :
    readPattern? "%Y-%m-%dT%H:%M:%S".toList (t.secondsText ++ c :: rest) = none := by
  have hread := readItems?_secondsText t [] (c :: rest)
  rw [List.append_nil] at hread
  rw [readPattern?, DateFields.read?, items_seconds, hread]
  rfl

variable {digits : Text} {n : Nat}

/-- A fraction of up to nine digits, in nanoseconds. -/
theorem fractionDigits?_digits (hdigits : AreDigits digits) (hread : nat? digits = some n)
    (hlength : digits.length ≤ 9) :
    DateFields.fractionDigits? digits = some (((n * 10 ^ (9 - digits.length) : Nat) : Int), []) := by
  have hspan : (digits.take 9).takeWhile isDigit = digits := by
    rw [List.take_of_length_le hlength, List.takeWhile_eq_self_iff]
    exact hdigits
  rw [DateFields.fractionDigits?]
  simp only [hspan, hread, List.drop_length]
  rfl

/-- The pattern with a fraction reads at most nine digits, scaled to nanoseconds. -/
theorem readPattern?_fraction (hdigits : AreDigits digits) (hread : nat? digits = some n)
    (hlength : digits.length ≤ 9) (h : n * 10 ^ (9 - digits.length) = t.fraction) :
    readPattern? "%Y-%m-%dT%H:%M:%S%.f".toList (t.secondsText ++ '.' :: digits) = some t.shown := by
  have hnano := t.fraction_lt
  have hfraction : readItem? t.secondsFields .fraction ('.' :: digits)
      = some ((.nanosecond, (t.fraction : Int)) :: t.secondsFields, []) := by
    show (DateFields.fractionDigits? digits).bind _ = _
    rw [fractionDigits?_digits hdigits hread hlength, h, Option.bind_some]
    show (t.secondsFields.set? .nanosecond t.fraction).map _ = _
    rw [set?_new rfl (by simp only [DateField.InRange, DateField.range]; omega), Option.map_some]
  rw [readPattern?, DateFields.read?, items_fraction, readItems?_secondsText, readItems?_step hfraction]
  show Option.or (DateFields.timestamp? _) _ = _
  rw [timestamp?_of_shows (.inl rfl), Option.some_or]

/-- The end of a text that has no offset: there is no fraction, or nothing after it. -/
def EndsAtFraction (rest : Text) : Prop :=
  rest = [] ∨ ∃ digits n, rest = '.' :: digits ∧ DateFields.fractionDigits? digits = some (n, [])

theorem bind_step {α β : Type} {x : Option α} {a : α} {f : α → Option β} (h : x = some a)
    (hnone : f a = none) : (x >>= f) = none := by
  rw [h]
  exact hnone

/-- A text without an offset is not in the Internet format. -/
theorem readInternet?_secondsText (t : Timestamp) {rest : Text} (hrest : EndsAtFraction rest) :
    readInternet? (t.secondsText ++ rest) = none := by
  have hmonth := t.date.month_range
  have hday := t.date.day_range
  have hdays := daysInMonth_le t.date.year t.date.month
  have hhour := t.hour_lt
  have hminute := t.minute_lt
  have hsecond := t.shownSecond_le
  have htwo : ∀ {n : Nat} (rest : Text), n < 100 →
      digits? 2 2 (padded 2 n ++ rest) = some ((n : Int), rest) :=
    fun rest h => digits?_padded (by decide) h (by decide) (by decide) (.inl rfl)
  have hskip : ∀ (c : Char) (t : Text), skip? c (c :: t) = some t := fun c t => by
    simp [skip?, Text.dropStart?]
  have hmark : ∀ t : Text, readItem? [] .dateTimeMark ('T' :: t) = some ([], t) := fun t => rfl
  simp only [secondsText, yearText, List.append_assoc, List.cons_append]
  split
  · have hyear : ∀ rest, digits? 4 4 (padded 4 t.date.year.toNat ++ rest)
        = some ((t.date.year.toNat : Int), rest) := fun rest =>
      digits?_padded (by decide) (by omega) (by decide) (by decide) (.inl rfl)
    refine bind_step (hyear _) <| bind_step (hskip '-' _) <| bind_step (htwo _ (by omega)) <|
      bind_step (hskip '-' _) <| bind_step (htwo _ (by omega)) <| bind_step (hmark _) <|
      bind_step (htwo _ (by omega)) <| bind_step (hskip ':' _) <| bind_step (htwo _ (by omega)) <|
      bind_step (hskip ':' _) <| bind_step (htwo _ (by omega)) ?_
    rcases hrest with rfl | ⟨digits, n, rfl, hfraction⟩
    · rfl
    · exact bind_step hfraction rfl
  · split <;> rfl

/-- A timestamp is written with digits, signs, the letter `T` and colons. -/
theorem mem_secondsText {c : Char} (hc : c ∈ t.secondsText) : isDigit c = true ∨ c ∈ "-+T:".toList := by
  have hpadded : ∀ {width n : Nat}, c ∈ padded width n → isDigit c = true :=
    fun hc => areDigits_padStart _ _ c hc
  have hyear : c ∈ yearText t.date.year → isDigit c = true ∨ c = '-' ∨ c = '+' := by
    rw [yearText]
    split
    · exact fun hc => .inl (hpadded hc)
    · rw [List.mem_cons]
      rintro (rfl | hc)
      · split
        · exact .inr (.inl rfl)
        · exact .inr (.inr rfl)
      · exact .inl (hpadded hc)
  simp only [secondsText, List.mem_append, List.mem_cons] at hc
  grind

/-- There is nothing to trim around a timestamp and a suffix without blanks. -/
theorem trim_secondsText (t : Timestamp) {rest : Text} (hrest : ∀ c ∈ rest, Text.isBlankChar c = false) :
    Text.trim (t.secondsText ++ rest) = t.secondsText ++ rest := by
  have hmarks : ∀ c ∈ "-+T:".toList, Text.isBlankChar c = false := by decide
  refine Text.trim_eq_self_of_visible fun c hc => ?_
  rcases List.mem_append.1 hc with hc | hc
  · rcases mem_secondsText hc with hc | hc
    · exact isBlankChar_of_isDigit hc
    · exact hmarks c hc
  · exact hrest c hc

/-- The default patterns read the text of a whole second. -/
theorem read?_secondsText (h : t.fraction = 0) : read? defaultPatterns t.secondsText = some t.shown := by
  have htrim : Text.trim (t.secondsText ++ []) = t.secondsText ++ [] := trim_secondsText t (by simp)
  have hinternet := readInternet?_secondsText t (.inl rfl)
  rw [List.append_nil] at htrim hinternet
  rw [read?, htrim]
  simp only [hinternet, Option.none_or, defaultPatterns, List.findSome?_cons, readPattern?_seconds h]

/-- A timestamp is read from its text with a fraction of up to nine digits. -/
theorem read?_fraction (hdigits : AreDigits digits) (hread : nat? digits = some n)
    (hlength : digits.length ≤ 9) (h : n * 10 ^ (9 - digits.length) = t.fraction) :
    read? defaultPatterns (t.secondsText ++ '.' :: digits) = some t.shown := by
  have hblank : ∀ c ∈ '.' :: digits, Text.isBlankChar c = false :=
    List.forall_mem_cons.2 ⟨rfl, fun c hc => isBlankChar_of_isDigit (hdigits c hc)⟩
  have hinternet := readInternet?_secondsText t
    (.inr ⟨digits, _, rfl, fractionDigits?_digits hdigits hread hlength⟩)
  rw [read?, trim_secondsText t hblank]
  simp only [hinternet, Option.none_or, defaultPatterns, List.findSome?_cons,
    readPattern?_seconds_of_fraction, readPattern?_fraction hdigits hread hlength h]

/-- The default patterns read a fraction of any width up to nine digits. -/
theorem read?_padded {width : Nat} (hwidth : 0 < width) (hle : width ≤ 9) (hn : n < 10 ^ width)
    (h : n * 10 ^ (9 - width) = t.fraction) :
    read? defaultPatterns (t.secondsText ++ '.' :: padded width n) = some t.shown := by
  have hlength := length_padded hwidth hn
  exact read?_fraction (areDigits_padStart width n) (nat?_padded width n) (by rwa [hlength])
    (by rwa [hlength])

/-- What is read from the text of a timestamp is the timestamp that it shows. -/
theorem read?_render (t : Timestamp) : read? defaultPatterns t.render = some t.shown := by
  have hnano := t.fraction_lt
  rw [render, fractionText]
  split
  · rename_i hzero
    rw [List.append_nil, read?_secondsText hzero]
  split
  · exact read?_padded (by decide) (by decide) (by omega) (by omega)
  split
  · exact read?_padded (by decide) (by decide) (by omega) (by omega)
  · exact read?_padded (by decide) (by decide) (by omega) (by omega)

/-! ## Leap seconds -/

/-- `ofParts?` puts a leap second nowhere but at the end of a minute. -/
theorem leapEndsMinute_of_ofParts? {date : Date} {hour minute second nanosecond : Nat}
    (h : ofParts? date hour minute second nanosecond = some t) : t.LeapEndsMinute := by
  unfold ofParts? at h
  split at h
  · cases h
    intro hleap
    simp only [isLeap, decide_eq_true_eq] at hleap
    show min second 59 = 59
    omega
  · cases h

theorem leapEndsMinute_of_fromSecond? {fields : DateFields} {base : Timestamp}
    (h : fields.fromSecond? base = some t) : t.LeapEndsMinute := by
  simp only [fromSecond?, bind, Option.bind_eq_some_iff] at h
  obtain ⟨-, -, -, -, -, -, -, -, fields, -, h⟩ := h
  split at h
  · exact leapEndsMinute_of_ofParts? h
  · cases h

theorem leapEndsMinute_of_fromUnixSeconds? {fields : DateFields} {seconds : Int}
    (h : fields.fromUnixSeconds? seconds = some t) : t.LeapEndsMinute := by
  obtain ⟨base, -, h⟩ := Option.bind_eq_some_iff.1 h
  dsimp only at h
  split at h
  · obtain ⟨earlier, -, h⟩ := Option.bind_eq_some_iff.1 h
    exact leapEndsMinute_of_fromSecond? h
  · split at h
    · cases h
    · exact leapEndsMinute_of_fromSecond? h

/-- The fields of a pattern give no leap second inside of a minute. -/
theorem leapEndsMinute_of_timestamp? {fields : DateFields} (h : fields.timestamp? = some t) :
    t.LeapEndsMinute := by
  unfold timestamp? at h
  split at h
  · exact leapEndsMinute_of_ofParts? (Option.filter_eq_some_iff.1 h).1
  · cases h
  · cases h
  · obtain ⟨seconds, -, h⟩ := Option.bind_eq_some_iff.1 h
    exact leapEndsMinute_of_fromUnixSeconds? h

/-- A time zone moves whole minutes, so a leap second stays at the end of one. -/
theorem leapEndsMinute_of_addMinutes? {moment : Timestamp} {minutes : Int} (hmoment : moment.LeapEndsMinute)
    (h : moment.addMinutes? minutes = some t) : t.LeapEndsMinute := by
  obtain ⟨date, -, rfl⟩ := Option.map_eq_some_iff.1 h
  exact hmoment

theorem forall_bind {α β : Type} {P : β → Prop} {x : Option α} {f : α → Option β}
    (h : ∀ a, x = some a → ∀ b, f a = some b → P b) : ∀ b, (x >>= f) = some b → P b := by
  intro b hb
  obtain ⟨a, ha, hf⟩ := Option.bind_eq_some_iff.1 hb
  exact h a ha b hf

/-- The reader of internet dates gives no leap second inside of a minute. -/
theorem leapEndsMinute_of_readInternet? {text : Text} :
    ∀ t, readInternet? text = some t → t.LeapEndsMinute := by
  unfold readInternet?
  -- only the last two steps matter, which put the parts together
  iterate 14 refine forall_bind fun _ _ => ?_
  refine forall_bind fun moment hmoment t h => ?_
  split at h
  · exact leapEndsMinute_of_addMinutes? (leapEndsMinute_of_ofParts? hmoment) h
  · cases h

/-- A timestamp that is read lies in no leap second but at the end of a minute. -/
theorem leapEndsMinute_of_read? {patterns : List String} {text : Text} (h : read? patterns text = some t) :
    t.LeapEndsMinute := by
  rw [read?, Option.or_eq_some_iff] at h
  rcases h with h | ⟨-, h⟩
  · exact leapEndsMinute_of_readInternet? t h
  · obtain ⟨pattern, -, h⟩ := List.exists_of_findSome?_eq_some h
    obtain ⟨fields, -, h⟩ := Option.bind_eq_some_iff.1 h
    rcases Option.or_eq_some_iff.1 h with h | ⟨-, h⟩
    · exact leapEndsMinute_of_timestamp? h
    · unfold midnight? at h
      split at h
      · cases h
        intro hleap
        cases hleap
      · cases h

/-! ## Texts in literals -/

/-- The timestamp with its fraction of a second rounded down to a multiple of 100 nanoseconds. -/
def roundedDown (t : Timestamp) : Timestamp :=
  { t with
    nanosecond := t.nanosecond / 100 * 100
    nanosecond_lt := Nat.lt_of_le_of_lt (Nat.div_mul_le_self _ _) t.nanosecond_lt }

/-- A timestamp of whole hundreds of nanoseconds is its own rounding. -/
theorem roundedDown_eq_iff : t.roundedDown = t ↔ t.nanosecond % 100 = 0 := by
  obtain ⟨date, hour, minute, second, nanosecond, _, _, _, _⟩ := t
  simp only [roundedDown, Timestamp.mk.injEq, true_and]
  omega

theorem leapEndsMinute_roundedDown : t.roundedDown.LeapEndsMinute ↔ t.LeapEndsMinute := by
  have hleap : 1000000000 ≤ t.roundedDown.nanosecond ↔ 1000000000 ≤ t.nanosecond := by
    show 1000000000 ≤ t.nanosecond / 100 * 100 ↔ _
    omega
  simp only [LeapEndsMinute, isLeap, decide_eq_true_eq, hleap]
  rfl

/-- The text shows nothing of what is rounded away. -/
theorem roundTripText_eq (t : Timestamp) :
    t.roundTripText = t.roundedDown.secondsText ++ '.' :: padded 7 (t.fraction / 100) := by
  have hsecond : t.roundedDown.shownSecond = t.shownSecond := by
    simp only [shownSecond, roundedDown]
    omega
  simp only [roundTripText, secondsText, hsecond]
  rfl

/-- What is read from the text inside a literal is the timestamp that the text shows, up to the last two
of its nine digits (`roundedDown`). It is the timestamp itself if and only if these digits are zero and no
leap second lies inside of a minute (`LeapEndsMinute`). -/
theorem read?_roundTripText (t : Timestamp) :
    read? defaultPatterns t.roundTripText = some t.roundedDown.shown ∧
      (read? defaultPatterns t.roundTripText = some t.roundedDown ↔ t.LeapEndsMinute) ∧
      (read? defaultPatterns t.roundTripText = some t ↔ t.LeapEndsMinute ∧ t.nanosecond % 100 = 0) := by
  have hfraction : t.fraction / 100 * 10 ^ (9 - 7) = t.roundedDown.fraction := by
    simp only [fraction, roundedDown]
    omega
  have hlt := t.fraction_lt
  have hread : read? defaultPatterns t.roundTripText = some t.roundedDown.shown := by
    rw [roundTripText_eq]
    exact read?_padded (by decide) (by decide) (by omega) hfraction
  refine ⟨hread, ?_, ?_⟩
  · rw [hread, Option.some_inj, shown_eq_self_iff, leapEndsMinute_roundedDown]
  · rw [hread, Option.some_inj, ← roundedDown_eq_iff]
    refine ⟨fun h => ?_, fun ⟨hends, hdown⟩ => by rwa [hdown, shown_eq_self_iff]⟩
    have hends : t.roundedDown.LeapEndsMinute := by
      by_contra hends
      have := second_shown hends
      rw [h] at this
      exact absurd this (Nat.ne_of_lt (Nat.lt_succ_self _))
    rw [shown_of_leapEndsMinute hends] at h
    exact ⟨leapEndsMinute_roundedDown.1 hends, h⟩

/-- A leap second inside of a minute. -/
def leapInside : Timestamp :=
  ⟨⟨2012, 1, 2, by decide, by decide, by decide⟩, 23, 56, 4, 1333333300, by decide, by decide, by decide,
    by decide⟩

/-- It is shown as the second after it, which is what is read then. -/
theorem read?_roundTripText_leapInside :
    leapInside.roundTripText = "2012-01-02T23:56:05.3333333".toList ∧
      (read? defaultPatterns leapInside.roundTripText).map second = some 5 ∧
      leapInside.roundedDown = leapInside ∧
      read? defaultPatterns leapInside.roundTripText ≠ some leapInside := by
  decide +kernel

/-- A leap second at the end of a year before the year 0. -/
example : String.ofList (roundTripText
    ⟨⟨-5, 12, 31, by decide, by decide, by decide⟩, 23, 59, 59, 1123456789, by decide, by decide,
      by decide, by decide⟩) = "-0005-12-31T23:59:60.1234567" := by
  decide +kernel

end Timestamp
end RecordFilter
