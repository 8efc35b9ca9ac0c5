import Hazard.Finding.Codec
import Hazard.Proofs.Number.Digits

/-!
# Points in time

A point in time that exists reads back from its text, except that a text tells only the whole minutes of
an offset, and none of an offset that is rounded to a day.  Whatever is read as a point in time, from a text
or from a number of seconds, exists and has an offset of whole minutes.
-/

namespace Hazard.Timestamp

open Numeral

/-- The date and the time of day exist, and the offset is less than a day. -/
structure Valid (t : Timestamp) : Prop where
  /-- The date is one of the calendar. -/
  date : isDate t.year t.month t.day
  /-- The hour is one of a day. -/
  hour : t.hour ≤ 23
  /-- The minute is one of an hour. -/
  minute : t.minute ≤ 59
  /-- The second is one of a minute. -/
  second : t.second ≤ 59
  /-- The microsecond is one of a second. -/
  microsecond : t.microsecond < 1000000
  /-- The offset is less than a day, either way. -/
  offset : ∀ offset ∈ t.offset, offset.natAbs < 1440 * minuteLength

/-- The whole minutes that the text of an offset tells. -/
def toldMinutes (offset : Int) : Nat := nearestSeconds offset / 60

/-- What the text of an offset tells. -/
def toldOffset (offset : Int) : Int :=
  if offset < 0 then -(toldMinutes offset * minuteLength : Nat)
  else (toldMinutes offset * minuteLength : Nat)

/-- What the text of a point in time tells. -/
def told (t : Timestamp) : Timestamp := { t with offset := t.offset.map toldOffset }

/-- The text of the offset tells less than a day. -/
def Tellable (t : Timestamp) : Prop := ∀ offset ∈ t.offset, toldMinutes offset < 1440

instance (t : Timestamp) : Decidable t.Tellable :=
  inferInstanceAs (Decidable (∀ offset ∈ t.offset, _ < _))

/-- The offset is one of whole minutes. -/
def WholeMinutes (t : Timestamp) : Prop := ∀ offset ∈ t.offset, (minuteLength : Int) ∣ offset

instance (t : Timestamp) : Decidable t.WholeMinutes :=
  inferInstanceAs (Decidable (∀ offset ∈ t.offset, _ ∣ _))

/-! ## Digits of fixed width -/

theorem isDigits_padded (width n : Nat) : IsDigits (padded width n) :=
  isDigits_zeros_append _ (isDigits_toDigits n)

theorem natural?_padded (width n : Nat) : natural? 10 (padded width n) = some n :=
  natural?_zeros_append _ n

theorem length_padded {width n : Nat} (pos : 0 < width) (small : n < Nat.pow 10 width) :
    (padded width n).length = width := by
  have length_le := (Nat.length_toDigits_le_iff (b := 10) (by decide) pos).mpr small
  rw [padded, List.length_append, List.length_replicate]
  omega

theorem digits?_padded {width n : Nat} (pos : 0 < width) (small : n < Nat.pow 10 width)
    (rest : List Char) : digits? width (padded width n ++ rest) = some (n, rest) := by
  have length_eq := length_padded pos small
  have all : (padded width n).all Char.isDigit := List.all_eq_true.mpr (isDigits_padded width n).all
  have front : (padded width n ++ rest).take width = padded width n := List.take_left' length_eq
  have back : (padded width n ++ rest).drop width = rest := List.drop_left' length_eq
  simp [digits?, front, back, length_eq, all, natural?_padded]

theorem digits?_two {n : Nat} (small : n < 100) (rest : List Char) :
    digits? 2 (padded 2 n ++ rest) = some (n, rest) :=
  digits?_padded (by decide) small rest

/-! ## Texts -/

theorem isDate_bounds {year month day : Nat} (exists_date : isDate year month day) :
    year ≤ 9999 ∧ month ≤ 12 ∧ day ≤ 31 := by
  simp only [isDate, Bool.and_eq_true, decide_eq_true_eq] at exists_date
  have days_le : daysInMonth year month ≤ 31 := by
    rw [daysInMonth]
    split
    · split <;> omega
    · split <;> omega
  omega

theorem date?_text {year month day : Nat} (exists_date : isDate year month day) (rest : List Char) :
    date? (padded 4 year ++ '-' :: (padded 2 month ++ '-' :: (padded 2 day ++ rest))) =
      some (year, month, day, rest) := by
  obtain ⟨year_le, month_le, day_le⟩ := isDate_bounds exists_date
  have year_read (rest : List Char) : digits? 4 (padded 4 year ++ rest) = some (year, rest) :=
    digits?_padded (by decide) (by omega : year < 10000) rest
  simp [date?, year_read, digits?_two (by omega : month < 100), digits?_two (by omega : day < 100),
    expect?, exists_date]

theorem fraction?_text {microsecond : Nat} (small : microsecond < 1000000) {rest : List Char}
    (ends : EndsDigits rest) :
    fraction? (padded 6 microsecond ++ rest) = some (microsecond, rest) := by
  have length_eq : (padded 6 microsecond).length = 6 := length_padded (by decide) small
  have digits := isDigits_padded 6 microsecond
  have taken := takeWhile_isDigit_append digits.all ends
  have six : (padded 6 microsecond).take 6 = padded 6 microsecond :=
    List.take_of_length_le (Nat.le_of_eq length_eq)
  have back : (padded 6 microsecond ++ rest).drop 6 = rest := List.drop_left' length_eq
  simp [fraction?, taken, digits.nonempty, six, length_eq, back, natural?_padded]

theorem offsetMinutes?_text {minutes : Nat} (small : minutes < 1440) :
    offsetMinutes? (padded 2 (minutes / 60) ++ ':' :: padded 2 (minutes % 60)) = some minutes := by
  have hours_read := digits?_two (by omega : minutes / 60 < 100) (':' :: padded 2 (minutes % 60))
  have minutes_read := digits?_two (by omega : minutes % 60 < 100) []
  rw [List.append_nil] at minutes_read
  have range : minutes % 60 ≤ 59 ∧ minutes / 60 ≤ 23 := by omega
  have total : minutes / 60 * 60 + minutes % 60 = minutes := by omega
  simp [offsetMinutes?, hours_read, minutes_read, range, total]

/-- The text of an offset that is not next to nothing. -/
theorem offsetText_eq {offset : Int} (nonzero : nearestSeconds offset ≠ 0) :
    offsetText (some offset) = (if offset < 0 then '-' else '+') ::
      (padded 2 (toldMinutes offset / 60) ++ ':' :: padded 2 (toldMinutes offset % 60)) := by
  have hours : nearestSeconds offset / 3600 = toldMinutes offset / 60 := by
    rw [toldMinutes]
    omega
  rw [offsetText, if_neg (by simpa using nonzero), hours, ← toldMinutes, List.cons_append]

theorem offset?_text {offset : Option Int}
    (tellable : ∀ told ∈ offset, toldMinutes told < 1440) :
    offset? (offsetText offset) = some (offset.map toldOffset) := by
  cases offset with
  | none => rfl
  | some offset =>
      by_cases zero : nearestSeconds offset = 0
      · have told : toldOffset offset = 0 := by simp [toldOffset, toldMinutes, zero]
        have letter : offsetText (some offset) = ['Z'] := by simp [offsetText, zero]
        rw [Option.map_some, told, letter]
        rfl
      · have read := offsetMinutes?_text (tellable offset rfl)
        rw [offsetText_eq zero, Option.map_some, toldOffset]
        split <;> simp [offset?, read]

/-- An offset of a day is none. -/
theorem offset?_text_eq_none {offset : Int} (day : toldMinutes offset = 1440) :
    offset? (offsetText (some offset)) = none := by
  have zero : nearestSeconds offset ≠ 0 := by
    rw [toldMinutes] at day
    omega
  have unread : offsetMinutes? (padded 2 (1440 / 60) ++ ':' :: padded 2 (1440 % 60)) = none := by
    decide
  rw [offsetText_eq zero, day]
  split <;> simp [offset?, unread]

/-- What an offset starts with is neither a digit nor the mark of a fraction. -/
theorem head?_offsetText (offset : Option Int) :
    ∀ c ∈ (offsetText offset).head?, c.isDigit = false ∧ c ≠ '.' ∧ c ≠ ',' := by
  intro c mem
  cases offset with
  | none => contradiction
  | some offset =>
      by_cases zero : nearestSeconds offset = 0
      · rw [offsetText, zero] at mem
        obtain rfl : 'Z' = c := Option.some.inj mem
        decide
      · rw [offsetText_eq zero] at mem
        split at mem
        · obtain rfl : '-' = c := Option.some.inj mem
          decide
        · obtain rfl : '+' = c := Option.some.inj mem
          decide

theorem seconds?_text {second microsecond : Nat} (second_le : second ≤ 59)
    (microsecond_lt : microsecond < 1000000) (offset : Option Int) :
    seconds? (':' :: (padded 2 second ++
        ((if microsecond = 0 then [] else '.' :: padded 6 microsecond) ++ offsetText offset))) =
      some (second, microsecond, offsetText offset) := by
  have head := head?_offsetText offset
  have second_read (rest : List Char) := digits?_two (by omega : second < 100) rest
  have in_range : ¬ 59 < second := by omega
  by_cases zero : microsecond = 0
  · cases offset_eq : offsetText offset with
    | nil =>
        have second_alone : digits? 2 (padded 2 second) = some (second, []) := by
          simpa using second_read []
        simp [seconds?, second_alone, in_range, zero]
    | cons mark rest =>
        rw [offset_eq] at head
        have other := head mark rfl
        simp [seconds?, second_read, in_range, zero, other]
  · have fraction_read := fraction?_text microsecond_lt fun c mem => (head c mem).1
    simp [seconds?, second_read, in_range, zero, fraction_read]

theorem toText_eq (t : Timestamp) :
    t.toText = padded 4 t.year ++ '-' :: (padded 2 t.month ++ '-' :: (padded 2 t.day ++
      'T' :: (padded 2 t.hour ++ ':' :: (padded 2 t.minute ++ ':' :: (padded 2 t.second ++
        ((if t.microsecond = 0 then [] else '.' :: padded 6 t.microsecond) ++
          offsetText t.offset)))))) := by
  simp [toText]

/-- The text of a point in time is read up to its offset. -/
theorem calendarText?_toText {t : Timestamp} (valid : t.Valid) :
    calendarText? t.toText =
      (offset? (offsetText t.offset)).map fun offset => { t with offset := offset } := by
  have hour_le := valid.hour
  have minute_le := valid.minute
  rw [toText_eq]
  cases read : offset? (offsetText t.offset) <;>
    simp [calendarText?, date?_text valid.date, digits?_two (by omega : t.hour < 100),
      digits?_two (by omega : t.minute < 100), expect?, seconds?_text valid.second valid.microsecond,
      read, valid.hour, valid.minute]

/-- The text of a date is no count of seconds. -/
theorem unixText?_toText (t : Timestamp) : unixText? t.toText = none := by
  have digits := isDigits_padded 4 t.year
  have unsigned (rest : List Char) :
      takeSign (padded 4 t.year ++ rest) = (false, padded 4 t.year ++ rest) := by
    cases year : padded 4 t.year with
    | nil => exact absurd year digits.nonempty
    | cons c front =>
        have digit : c.isDigit = true := digits.all c (year ▸ List.mem_cons_self)
        have plus : c ≠ '+' := fun same => absurd (same ▸ digit) (by decide)
        have minus : c ≠ '-' := fun same => absurd (same ▸ digit) (by decide)
        simp [takeSign, plus, minus]
  have ends (rest : List Char) : EndsDigits ('-' :: rest) := by
    intro c mem
    obtain rfl : '-' = c := Option.some.inj mem
    decide
  rw [toText_eq, unixText?, unsigned]
  dsimp only
  rw [dropWhile_isDigit_append digits.all (ends _)]
  split
  · contradiction
  · rename_i same
    exact absurd (List.cons.inj same).1 (by decide)
  · rfl

/-- A text tells a point in time that exists, up to the parts of a minute in its offset. -/
theorem ofText?_toText {t : Timestamp} (valid : t.Valid) (tellable : t.Tellable) :
    ofText? t.toText = some t.told := by
  rw [ofText?, calendarText?_toText valid, offset?_text tellable]
  rfl

theorem ofText?_toText_eq_none {t : Timestamp} (valid : t.Valid) (day : ¬ t.Tellable) :
    ofText? t.toText = none := by
  rw [ofText?, calendarText?_toText valid, unixText?_toText, Option.or_none]
  rw [Tellable] at day
  push Not at day
  obtain ⟨offset, known, long⟩ := day
  have exact_day : toldMinutes offset = 1440 := by
    have bound := valid.offset offset known
    rw [toldMinutes, nearestSeconds] at long ⊢
    rw [minuteLength] at bound
    omega
  rw [Option.mem_def.mp known, offset?_text_eq_none exact_day]
  rfl

/-! ## Offsets of whole minutes -/

theorem toldOffset_eq_self_iff {offset : Int} :
    toldOffset offset = offset ↔ (minuteLength : Int) ∣ offset := by
  rw [toldOffset, toldMinutes, nearestSeconds, minuteLength]
  constructor
  · intro same
    rw [← same]
    split <;> omega
  · intro whole
    split <;> omega

theorem told_eq_self_iff {t : Timestamp} : t.told = t ↔ t.WholeMinutes := by
  obtain ⟨year, month, day, hour, minute, second, microsecond, offset⟩ := t
  cases offset <;> simp [told, WholeMinutes, toldOffset_eq_self_iff]

theorem WholeMinutes.tellable {t : Timestamp} (whole : t.WholeMinutes) (valid : t.Valid) :
    t.Tellable := by
  intro offset known
  have bound := valid.offset offset known
  have multiple := whole offset known
  rw [toldMinutes, nearestSeconds]
  rw [minuteLength] at bound multiple
  omega

/-! ## What texts are read as -/

theorem isDate_of_date? {text rest : List Char} {year month day : Nat}
    (read : date? text = some (year, month, day, rest)) : isDate year month day := by
  simp only [date?, Option.bind_eq_bind, Option.bind_eq_some_iff] at read
  obtain ⟨_, -, _, -, _, -, _, -, _, -, read⟩ := read
  split at read
  · rename_i exists_date
    obtain ⟨rfl, rfl, rfl, -⟩ := by simpa using read
    exact exists_date
  · contradiction

theorem lt_of_fraction? {text rest : List Char} {microsecond : Nat}
    (read : fraction? text = some (microsecond, rest)) : microsecond < 1000000 := by
  rw [fraction?] at read
  split at read
  · contradiction
  · rename_i nonempty
    obtain ⟨value, value_eq, pair_eq⟩ := Option.map_eq_some_iff.mp read
    obtain ⟨rfl, -⟩ := Prod.mk.inj pair_eq
    set six := (text.takeWhile Char.isDigit).take 6 with six_eq
    have six_le : six.length ≤ 6 := by
      rw [six_eq, List.length_take]
      exact Nat.min_le_left _ _
    have digits : IsDigits (six ++ List.replicate (6 - six.length) '0') := by
      refine isDigits_append_zeros ⟨?_, fun c mem => ?_⟩ _
      · simpa [six_eq, List.take_eq_nil_iff] using nonempty
      · exact List.mem_takeWhile_imp (List.mem_of_mem_take mem)
    have bound := ofDigitChars_lt digits.all 0
    rw [natural?_eq digits] at value_eq
    obtain rfl := Option.some.inj value_eq
    rw [List.length_append, List.length_replicate, Nat.add_sub_cancel' six_le] at bound
    exact bound

theorem bounds_of_seconds? {text rest : List Char} {second microsecond : Nat}
    (read : seconds? text = some (second, microsecond, rest)) :
    second ≤ 59 ∧ microsecond < 1000000 := by
  rw [seconds?.eq_def] at read
  split at read
  · simp only [Option.bind_eq_bind, Option.bind_eq_some_iff] at read
    obtain ⟨⟨value, after⟩, -, read⟩ := read
    split at read
    · contradiction
    · rename_i in_range
      have in_range : value ≤ 59 := not_lt.mp in_range
      split at read
      · split at read
        · obtain ⟨⟨fraction, behind⟩, fraction_read, read⟩ := Option.bind_eq_some_iff.mp read
          obtain ⟨rfl, rfl, -⟩ := by simpa using read
          exact ⟨in_range, lt_of_fraction? fraction_read⟩
        · obtain ⟨rfl, rfl, -⟩ := by simpa using read
          exact ⟨in_range, by decide⟩
      · obtain ⟨rfl, rfl, -⟩ := by simpa using read
        exact ⟨in_range, by decide⟩
  · obtain ⟨rfl, rfl, -⟩ := by simpa using read
    decide

theorem lt_of_offsetMinutes? {text : List Char} {minutes : Nat}
    (read : offsetMinutes? text = some minutes) : minutes < 1440 := by
  simp only [offsetMinutes?, Option.bind_eq_bind, Option.bind_eq_some_iff] at read
  obtain ⟨⟨hours, _⟩, -, ⟨more, _⟩, -, read⟩ := read
  split at read
  · rename_i in_range
    simp only [Bool.and_eq_true, decide_eq_true_eq] at in_range
    obtain rfl := Option.some.inj read
    omega
  · contradiction

/-- An offset that is read is less than a day and one of whole minutes. -/
theorem bounds_of_offset? {text : List Char} {offset : Option Int}
    (read : offset? text = some offset) :
    ∀ told ∈ offset, told.natAbs < 1440 * minuteLength ∧ (minuteLength : Int) ∣ told := by
  rw [offset?.eq_def] at read
  intro told mem
  split at read
  · obtain rfl := Option.some.inj read
    contradiction
  · obtain rfl := Option.some.inj read
    obtain rfl := Option.some.inj mem
    decide
  · obtain rfl := Option.some.inj read
    obtain rfl := Option.some.inj mem
    decide
  · obtain ⟨minutes, value_read, rfl⟩ := Option.map_eq_some_iff.mp read
    obtain rfl := Option.some.inj mem
    have value_lt := lt_of_offsetMinutes? value_read
    rw [minuteLength]
    omega
  · obtain ⟨minutes, value_read, rfl⟩ := Option.map_eq_some_iff.mp read
    obtain rfl := Option.some.inj mem
    have value_lt := lt_of_offsetMinutes? value_read
    rw [minuteLength]
    omega
  · contradiction

theorem valid_of_calendarText? {text : List Char} {t : Timestamp}
    (read : calendarText? text = some t) : t.Valid ∧ t.WholeMinutes := by
  simp only [calendarText?, Option.bind_eq_bind, Option.bind_eq_some_iff] at read
  obtain ⟨⟨year, month, day, after⟩, date_read, read⟩ := read
  have date := isDate_of_date? date_read
  split at read
  · obtain rfl := Option.some.inj read
    exact ⟨⟨date, Nat.zero_le _, Nat.zero_le _, Nat.zero_le _, Nat.succ_pos _, nofun⟩, nofun⟩
  · split at read
    · contradiction
    · obtain ⟨⟨hour, _⟩, -, read⟩ := Option.bind_eq_some_iff.mp read
      simp only [Option.bind_eq_some_iff] at read
      obtain ⟨_, -, ⟨minute, _⟩, -, ⟨second, microsecond, _⟩, seconds_read, offset, offset_read,
        read⟩ := read
      have bounds := bounds_of_seconds? seconds_read
      have told := bounds_of_offset? offset_read
      split at read
      · rename_i in_range
        simp only [Bool.and_eq_true, decide_eq_true_eq] at in_range
        obtain rfl := Option.some.inj read
        exact ⟨⟨date, in_range.1, in_range.2, bounds.1, bounds.2, fun _ mem => (told _ mem).1⟩,
          fun _ mem => (told _ mem).2⟩
      · contradiction

/-! ## Days of an era -/

/-- The first day of a year in an era of four hundred years, which begins in March. -/
def yearStart (year : Nat) : Nat := 365 * year + year / 4 - year / 100 + year / 400

/-- The year of a day in an era. -/
def yearOfDay (day : Nat) : Nat := (day - day / 1460 + day / 36524 - day / 146096) / 365

theorem yearOfDay_mono {day later : Nat} (le : day ≤ later) : yearOfDay day ≤ yearOfDay later := by
  have quarter (n : Nat) : n / 146096 = n / 36524 / 4 := by rw [Nat.div_div_eq_div_mul]
  have centuries : day / 36524 ≤ later / 36524 := Nat.div_le_div_right le
  rw [yearOfDay, yearOfDay, quarter, quarter]
  exact Nat.div_le_div_right (by omega)

theorem yearOfDay_ends : ∀ year < 400,
    yearOfDay (yearStart year) = year ∧ yearOfDay (yearStart (year + 1) - 1) = year := by
  decide +kernel

theorem yearStart_succ : ∀ year < 400,
    yearStart (year + 1) = yearStart year + if isLeapYear (year + 1) then 366 else 365 := by
  decide +kernel

/-- The days of a year all have the year. -/
theorem yearOfDay_eq {day year : Nat} (small : year < 400) (lower : yearStart year ≤ day)
    (upper : day < yearStart (year + 1)) : yearOfDay day = year := by
  obtain ⟨first, last⟩ := yearOfDay_ends year small
  have le := yearOfDay_mono lower
  have ge := yearOfDay_mono (Nat.le_sub_one_of_lt upper)
  omega

theorem exists_year {day : Nat} (small : day < 146097) :
    ∃ year < 400, yearStart year ≤ day ∧ day < yearStart (year + 1) := by
  have reached : ∃ year, day < yearStart (year + 1) := ⟨399, small⟩
  refine ⟨Nat.find reached, ?_, ?_, Nat.find_spec reached⟩
  · exact Nat.lt_succ_of_le (Nat.find_min' reached small)
  · cases year_eq : Nat.find reached with
    | zero => exact Nat.zero_le day
    | succ year =>
        have missed := Nat.find_min reached (by omega : year < Nat.find reached)
        exact not_lt.mp missed

/-- The month of a day in a year that begins in March. -/
def monthOfDay (day : Nat) : Nat :=
  if (5 * day + 2) / 153 < 10 then (5 * day + 2) / 153 + 3 else (5 * day + 2) / 153 - 9

/-- The place of a day in its month. -/
def dayOfMonth (day : Nat) : Nat := day - (153 * ((5 * day + 2) / 153) + 2) / 5 + 1

theorem monthOfDay_bounds : ∀ day < 366, 1 ≤ monthOfDay day ∧ monthOfDay day ≤ 12 ∧
    (monthOfDay day ≤ 2 ↔ 306 ≤ day) := by
  decide +kernel

/-- A year without a leap day will do for all days but the last one. -/
theorem dayOfMonth_le : ∀ day < 365, dayOfMonth day ≤ daysInMonth 1 (monthOfDay day) := by
  decide +kernel

theorem daysInMonth_le (year month : Nat) : daysInMonth 1 month ≤ daysInMonth year month := by
  rw [daysInMonth, daysInMonth]
  split
  · split
    · contradiction
    · split <;> omega
  · exact le_refl _

theorem dayOfMonth_le_daysInMonth {day year : Nat} (small : day < 366)
    (last : day = 365 → isLeapYear year) : dayOfMonth day ≤ daysInMonth year (monthOfDay day) := by
  by_cases last_day : day = 365
  · have leap := last last_day
    subst last_day
    simp [daysInMonth, monthOfDay, dayOfMonth, leap]
  · exact (dayOfMonth_le day (by omega)).trans (daysInMonth_le year _)

theorem isLeapYear_add_mul (year eras : Nat) : isLeapYear (year + 400 * eras) = isLeapYear year := by
  have four : (year + 400 * eras) % 4 = year % 4 := by omega
  have hundred : (year + 400 * eras) % 100 = year % 100 := by omega
  have all : (year + 400 * eras) % 400 = year % 400 := by omega
  rw [isLeapYear, isLeapYear, four, hundred, all]

/-- The parts of a date: the era, the year in it, and the day of the year. -/
theorem exists_dateOfDays {days : Int} (lower : -719468 ≤ days) :
    ∃ era year day : Nat, year < 400 ∧ days + 719468 = 146097 * era + yearStart year + day ∧
      day < (if isLeapYear (year + 1) then 366 else 365) ∧
      dateOfDays days = (year + 400 * era + (if monthOfDay day ≤ 2 then 1 else 0), monthOfDay day,
        dayOfMonth day) := by
  obtain ⟨n, n_eq⟩ := Int.eq_ofNat_of_zero_le (by omega : 0 ≤ days + 719468)
  have era_eq : (n : Int).fdiv 146097 = ((n / 146097 : Nat) : Int) :=
    Int.fdiv_eq_ediv_of_nonneg _ (by decide)
  have dayOfEra_eq : ((n : Int) - ((n / 146097 : Nat) : Int) * 146097).toNat = n % 146097 := by
    omega
  obtain ⟨year, small, first, last⟩ := exists_year (Nat.mod_lt n (by decide : 0 < 146097))
  have start_eq : 365 * year + year / 4 - year / 100 = yearStart year := by
    rw [yearStart]
    omega
  have year_eq := yearOfDay_eq small first last
  rw [yearOfDay] at year_eq
  refine ⟨n / 146097, year, n % 146097 - yearStart year, small, by omega, ?_, ?_⟩
  · have next := yearStart_succ year small
    omega
  · simp only [dateOfDays, n_eq, era_eq, dayOfEra_eq, year_eq, start_eq]
    refine Prod.ext ?_ rfl
    change Int.toNat (year + ((n / 146097 : Nat) : Int) * 400 +
      if monthOfDay (n % 146097 - yearStart year) ≤ 2 then 1 else 0) = _
    split <;> omega

/-- The days from the year 1600 to the year 9999 have dates that exist. -/
theorem isDate_dateOfDays {days : Int} (lower : -135140 ≤ days) (upper : days ≤ 2932896) :
    isDate (dateOfDays days).1 (dateOfDays days).2.1 (dateOfDays days).2.2 := by
  obtain ⟨era, year, day, small, days_eq, day_lt, date_eq⟩ :=
    exists_dateOfDays (by omega : -719468 ≤ days)
  have day_small : day < 366 := by
    split at day_lt <;> omega
  obtain ⟨one_le, le_twelve, winter⟩ := monthOfDay_bounds day day_small
  have day_fits : dayOfMonth day ≤ daysInMonth
      (year + 400 * era + (if monthOfDay day ≤ 2 then 1 else 0)) (monthOfDay day) := by
    refine dayOfMonth_le_daysInMonth day_small fun last_day => ?_
    have leap : isLeapYear (year + 1) := by
      by_contra common
      rw [if_neg common] at day_lt
      omega
    rw [if_pos (winter.mpr (by omega)), Nat.add_right_comm, isLeapYear_add_mul]
    exact leap
  have year_bounds : 1 ≤ year + 400 * era + (if monthOfDay day ≤ 2 then 1 else 0) ∧
      year + 400 * era + (if monthOfDay day ≤ 2 then 1 else 0) ≤ 9999 := by
    rw [yearStart] at days_eq
    split
    · rename_i early
      have late := winter.mp early
      omega
    · omega
  rw [date_eq]
  simp only [isDate, Bool.and_eq_true, decide_eq_true_eq]
  exact ⟨⟨⟨⟨⟨year_bounds.1, year_bounds.2⟩, one_le⟩, le_twelve⟩, Nat.le_add_left 1 _⟩, day_fits⟩

/-! ## Numbers of seconds -/

theorem valid_of_ofUnix? {count : Int} {microseconds : Nat} {t : Timestamp}
    (read : ofUnix? count microseconds = some t) : t.Valid ∧ t.WholeMinutes := by
  rw [ofUnix?] at read
  dsimp only at read
  set total : Int := if secondsLimit < count.natAbs then count * 1000 + microseconds / 1000
    else count * 1000000 + microseconds with total_eq
  have seconds_eq : total.fdiv 1000000 = total / 1000000 :=
    Int.fdiv_eq_ediv_of_nonneg _ (by decide)
  have days_eq : (total / 1000000).fdiv 86400 = total / 1000000 / 86400 :=
    Int.fdiv_eq_ediv_of_nonneg _ (by decide)
  rw [seconds_eq, days_eq] at read
  split at read
  · contradiction
  · rename_i in_range
    simp only [Bool.or_eq_true, decide_eq_true_eq, not_or, not_lt] at in_range
    obtain rfl := Option.some.inj read
    refine ⟨⟨isDate_dateOfDays (by omega) (by omega), ?_, ?_, ?_, ?_, ?_⟩, ?_⟩
    · dsimp only
      omega
    · dsimp only
      omega
    · dsimp only
      omega
    · dsimp only
      omega
    · rintro offset ⟨rfl⟩
      decide
    · rintro offset ⟨rfl⟩
      decide

theorem valid_of_unixText? {text : List Char} {t : Timestamp} (read : unixText? text = some t) :
    t.Valid ∧ t.WholeMinutes := by
  rw [unixText?] at read
  dsimp only at read
  split at read
  · exact valid_of_ofUnix? read
  · split at read
    · exact valid_of_ofUnix? read
    · contradiction
  · contradiction

theorem valid_of_ofText? {text : List Char} {t : Timestamp} (read : ofText? text = some t) :
    t.Valid ∧ t.WholeMinutes := by
  rw [ofText?, Option.or_eq_some_iff] at read
  rcases read with read | ⟨-, read⟩
  · exact valid_of_calendarText? read
  · exact valid_of_unixText? read

theorem valid_of_ofFloat? {x : Binary64} {t : Timestamp} (read : ofFloat? x = some t) :
    t.Valid ∧ t.WholeMinutes := by
  cases x with
  | nan | infinite => contradiction
  | finite negative significand exponent => exact valid_of_ofUnix? read

/-- Whatever is read as a point in time exists, and its text tells all of it. -/
theorem valid_of_ofValue {value : Value} {t : Timestamp} (read : ofValue value = .ok t) :
    t.Valid ∧ t.WholeMinutes := by
  rw [ofValue.eq_def] at read
  split at read
  · split at read
    · rename_i time_read
      obtain rfl := Except.ok.inj read
      exact valid_of_ofUnix? time_read
    · contradiction
  · split at read
    · rename_i time_read
      obtain rfl := Except.ok.inj read
      exact valid_of_ofFloat? time_read
    · contradiction
  · split at read
    · split at read
      · rename_i time_read
        obtain rfl := Except.ok.inj read
        exact valid_of_ofText? time_read
      · contradiction
    · contradiction
  · contradiction

end Hazard.Timestamp
