import Mathlib.Control.Basic
import Mathlib.Data.Option.Basic
import AbandonedBikes.Proofs.Spans
import AbandonedBikes.Proofs.Time.Calendar
import AbandonedBikes.Time.Rfc3339
/-!
# Instants are read back from their text

The text of an instant is made of numbers with a fixed mark after each. What reads a number stops where
its digits end, so each part is read back with whatever stands after it. The reader takes more texts
than are written, but white space is only skipped where there is some, and the parts have none.

`ofText?_toText` puts the parts together. It holds of every instant of the calendar: the year may have
a sign, the fraction any of its four lengths, and the second may be a leap second, which is written as
second 60.
-/

namespace AbandonedBikes.Instant

variable {width n : Nat} {rest : List Char}

/-! ## Digits -/

theorem digitsValue_eq (digits : List Char) : digitsValue digits = Nat.ofDigitChars 10 digits 0 := by
  simp only [digitsValue, Nat.ofDigitChars_eq_foldl, Nat.mul_comm]

theorem digitsValue_padded (width n : Nat) : digitsValue (padded width n) = n := by
  rw [digitsValue_eq, padded, Nat.ofDigitChars_append, Nat.ofDigitChars_replicate_zero, Nat.mul_zero,
    Nat.ofDigitChars_ten_toDigits]

theorem digitsValue_append_zeros (digits : List Char) (count : Nat) :
    digitsValue (digits ++ List.replicate count '0') = digitsValue digits * 10 ^ count := by
  rw [digitsValue_eq, digitsValue_eq, Nat.ofDigitChars_append, Nat.ofDigitChars_replicate_zero,
    Nat.mul_comm]

theorem isDigit_of_mem_padded {c : Char} (member : c ∈ padded width n) : c.isDigit = true := by
  rw [padded, List.mem_append] at member
  rcases member with zero | digit
  · rw [List.eq_of_mem_replicate zero]
    rfl
  · exact Nat.isDigit_of_mem_toDigits (by decide) (by decide) digit

theorem length_padded (filled : 0 < width) (fits : n < 10 ^ width) :
    (padded width n).length = width := by
  have digits := (Nat.length_toDigits_le_iff (by decide : 1 < 10) filled).mpr fits
  rw [padded, List.length_append, List.length_replicate]
  omega

/-- Padded digits start with a digit. -/
theorem padded_eq_cons (width n : Nat) : ∃ c cs, padded width n = c :: cs ∧ c.isDigit = true := by
  cases digits : padded width n with
  | nil =>
    have empty := congrArg List.length digits
    have digit_written : 0 < (Nat.toDigits 10 n).length := Nat.length_toDigits_pos
    rw [padded, List.length_append, List.length_nil] at empty
    omega
  | cons c cs =>
    have member : c ∈ padded width n := digits ▸ List.mem_cons_self
    exact ⟨c, cs, rfl, isDigit_of_mem_padded member⟩

theorem padded_ne_nil (width n : Nat) : padded width n ≠ [] := by
  obtain ⟨c, cs, first, -⟩ := padded_eq_cons width n
  simp [first]

/-- Padded digits end where there is no further digit. -/
theorem takeWhile_padded (stop : ∀ c ∈ rest.head?, c.isDigit = false) :
    (padded width n ++ rest).takeWhile Char.isDigit = padded width n :=
  takeWhile_span (fun _ => isDigit_of_mem_padded) stop

theorem dropWhile_padded (stop : ∀ c ∈ rest.head?, c.isDigit = false) :
    (padded width n ++ rest).dropWhile Char.isDigit = rest :=
  dropWhile_span (fun _ => isDigit_of_mem_padded) stop

theorem natural?_padded (stop : ∀ c ∈ rest.head?, c.isDigit = false) :
    natural? (padded width n ++ rest) = some (n, rest) := by
  simp [natural?, takeWhile_padded stop, dropWhile_padded stop, padded_ne_nil, digitsValue_padded]

/-- Numbers that fill their places are read whatever stands after them. -/
theorem number?_padded (filled : 0 < width) (fits : n < 10 ^ width) :
    number? width (padded width n ++ rest) = some (n, rest) := by
  have length := length_padded filled fits
  rw [number?, List.take_left' length, List.drop_left' length, ← List.append_nil (padded width n),
    natural?_padded (by simp)]
  rfl

/-! ## White space -/

theorem isBlank_of_isDigit {c : Char} (digit : c.isDigit = true) : Text.isBlank c = false := by
  obtain ⟨least, greatest⟩ : 48 ≤ c.toNat ∧ c.toNat ≤ 57 := Char.isDigit_iff_toNat.mp digit
  simp only [Text.isBlank, Bool.or_eq_false_iff, Bool.and_eq_false_iff, decide_eq_false_iff_not,
    beq_eq_false_iff_ne]
  omega

theorem skipBlanks_padded : skipBlanks (padded width n ++ rest) = padded width n ++ rest := by
  obtain ⟨c, cs, first, digit⟩ := padded_eq_cons width n
  exact dropWhile_of_head (by simp [first, isBlank_of_isDigit digit])

/-! ## Dates -/

/-- A year without a sign is read as a number. -/
theorem year?_padded (width n : Nat) (rest : List Char) : year? (padded width n ++ rest) =
    (number? 4 (padded width n ++ rest)).map fun (value, rest) => (value, rest) := by
  obtain ⟨c, cs, first, digit⟩ := padded_eq_cons width n
  have no_sign {mark : Char} (sign : mark.isDigit = false) (others : List Char)
      (starts : padded width n ++ rest = mark :: others) : False := by
    rw [first, List.cons_append] at starts
    obtain ⟨rfl, -⟩ := List.cons.inj starts
    rw [digit] at sign
    cases sign
  rw [year?]
  · exact no_sign rfl
  · exact no_sign rfl

theorem year?_yearText (year : Int) :
    year? (yearText year ++ '-' :: rest) = some (year, '-' :: rest) := by
  have stop : ∀ c ∈ ('-' :: rest).head?, c.isDigit = false := by simp
  rw [yearText]
  split
  next short =>
    have fits : year.toNat < 10 ^ 4 := by omega
    have back : (year.toNat : Int) = year := Int.toNat_of_nonneg short.1
    simp only [year?_padded, number?_padded (by decide) fits, Option.map_some, back]
  next long =>
    split
    next negative =>
      have back : -(year.natAbs : Int) = year := by omega
      simp only [List.cons_append, year?, natural?_padded stop, Option.map_some, back]
    next positive =>
      have back : (year.natAbs : Int) = year := by omega
      simp only [List.cons_append, year?, natural?_padded stop, Option.map_some, back]

/-- A number of two digits is read after its mark. -/
theorem part?_padded {mark : Char} (visible : Text.isBlank mark = false) (fits : n < 100) :
    part? mark (mark :: (padded 2 n ++ rest)) = some (n, rest) := by
  have mark_first : skipBlanks (mark :: (padded 2 n ++ rest)) = mark :: (padded 2 n ++ rest) :=
    dropWhile_of_head (by simpa using visible)
  rw [part?, mark_first]
  simp [oneOf?, skipBlanks_padded, number?_padded (by decide : 0 < 2) fits]

/-- Years start with a sign or a digit. -/
theorem skipBlanks_yearText (year : Int) :
    skipBlanks (yearText year ++ rest) = yearText year ++ rest := by
  rw [yearText]
  split
  next => exact skipBlanks_padded
  next =>
    rw [List.cons_append]
    exact dropWhile_of_head (by split <;> simp <;> decide)

/-- A date that exists is read back, if it is in the calendar. -/
theorem date?_of_valid {date : Date} (month_fits : date.month < 100) (day_fits : date.day < 100)
    (valid : date.valid = true) (known : inCalendar date.toDays = true) :
    date? (yearText date.year ++ '-' :: (padded 2 date.month ++ '-' :: (padded 2 date.day ++ rest))) =
      some (date, rest) := by
  obtain ⟨year, month, day⟩ := date
  have visible : Text.isBlank '-' = false := by decide
  simp [date?, skipBlanks_yearText, year?_yearText, part?_padded visible month_fits,
    part?_padded visible day_fits, valid, known]

/-! ## Times of day -/

theorem fractionNanos_padded (filled : 0 < width) (short : width ≤ 9) (fits : n < 10 ^ width) :
    fractionNanos (padded width n) = n * 10 ^ (9 - width) := by
  have length := length_padded filled fits
  rw [fractionNanos, length, List.take_of_length_le (by omega), digitsValue_append_zeros,
    digitsValue_padded]

/-- The digits of a fraction may be any that have its value. -/
theorem fraction?_padded {nanos : Nat} (filled : 0 < width) (short : width ≤ 9) (fits : n < 10 ^ width)
    (whole : n * 10 ^ (9 - width) = nanos) :
    fraction? ('.' :: (padded width n ++ 'Z' :: rest)) = some (nanos, 'Z' :: rest) := by
  have stop : ∀ c ∈ ('Z' :: rest).head?, c.isDigit = false := by simp
  simp [fraction?, takeWhile_padded stop, dropWhile_padded stop, padded_ne_nil,
    fractionNanos_padded filled short fits, whole]

/-- A fraction is read back from the digits that lose nothing of it. -/
theorem fraction?_fractionText {nanos : Nat} (fits : nanos < secondNanos) :
    fraction? (fractionText nanos ++ 'Z' :: rest) = some (nanos, 'Z' :: rest) := by
  unfold secondNanos at fits
  fun_cases fractionText nanos with
  | case1 whole => rw [whole]; rfl
  | case2 _ millis => exact fraction?_padded (by decide) (by decide) (by omega) (by omega)
  | case3 _ _ micros => exact fraction?_padded (by decide) (by decide) (by omega) (by omega)
  | case4 => exact fraction?_padded (by decide) (by decide) fits (by omega)

theorem secondOfDay_lt (t : Instant) : t.secondOfDay < 86400 := by
  unfold secondOfDay daySeconds
  omega

/-- Only in a leap second, after the last second of a minute, are there more nanoseconds. -/
theorem leap_cases (t : Instant) : t.nanos < secondNanos ∨
    (t.secondOfDay % 60 = 59 ∧ secondNanos ≤ t.nanos ∧ t.nanos < 2 * secondNanos) := by
  have bound := t.nanos_lt
  unfold secondNanos secondOfDay daySeconds
  split at bound <;> omega

/-- Reads a time of day of which the seconds may be 60. -/
theorem timeOfDay?_padded {hours minutes seconds nanos : Nat} (hours_fit : hours < 24)
    (minutes_fit : minutes < 60) (seconds_fit : seconds ≤ 60) (nanos_fit : nanos < secondNanos) :
    timeOfDay? (padded 2 hours ++ ':' :: (padded 2 minutes ++ ':' :: (padded 2 seconds ++
      (fractionText nanos ++ 'Z' :: rest)))) =
    some (if seconds = 60 then (hours * 3600 + minutes * 60 + 59, secondNanos + nanos)
      else (hours * 3600 + minutes * 60 + seconds, nanos), 'Z' :: rest) := by
  have visible : Text.isBlank ':' = false := by decide
  have hours_short : hours < 10 ^ 2 := by omega
  simp [timeOfDay?, skipBlanks_padded, number?_padded (by decide : 0 < 2) hours_short,
    part?_padded visible (show minutes < 100 by omega),
    part?_padded visible (show seconds < 100 by omega), fraction?_fractionText nanos_fit, hours_fit,
    minutes_fit, seconds_fit]

/-- The time of day is read back. -/
theorem timeOfDay?_written (t : Instant) :
    timeOfDay? (padded 2 (t.secondOfDay / 3600) ++ ':' :: (padded 2 (t.secondOfDay / 60 % 60) ++
      ':' :: (t.secondText ++ 'Z' :: rest))) = some ((t.secondOfDay, t.nanos), 'Z' :: rest) := by
  have short := t.secondOfDay_lt
  have minute : t.secondOfDay / 3600 * 3600 + t.secondOfDay / 60 % 60 * 60 + t.secondOfDay % 60 =
      t.secondOfDay := by omega
  rw [secondText, List.append_assoc]
  rcases t.leap_cases with ordinary | ⟨last, leap, bound⟩
  · rw [Nat.div_eq_of_lt ordinary, Nat.mod_eq_of_lt ordinary, Nat.add_zero,
      timeOfDay?_padded (by omega) (by omega) (by omega) ordinary, if_neg (by omega), minute]
  · have one : t.nanos / secondNanos = 1 := by
      unfold secondNanos at *
      omega
    have fraction : t.nanos % secondNanos = t.nanos - secondNanos := by
      unfold secondNanos at *
      omega
    rw [last] at minute
    rw [one, fraction, last, timeOfDay?_padded (by omega) (by omega) (by omega) (by omega), if_pos rfl,
      minute, Nat.add_sub_cancel' leap]

/-! ## Instants -/

/-- The parts of the text, each with all that follows it. -/
theorem toChars_eq (t : Instant) : t.toChars = yearText (Date.ofDays t.day).year ++
    '-' :: (padded 2 (Date.ofDays t.day).month ++ '-' :: (padded 2 (Date.ofDays t.day).day ++
    'T' :: (padded 2 (t.secondOfDay / 3600) ++ ':' :: (padded 2 (t.secondOfDay / 60 % 60) ++
    ':' :: (t.secondText ++ ['Z']))))) := by
  simp only [toChars, List.append_assoc, List.cons_append]

theorem date?_ofDays {day : Int} (known : inCalendar day = true) :
    date? (yearText (Date.ofDays day).year ++ '-' :: (padded 2 (Date.ofDays day).month ++
      '-' :: (padded 2 (Date.ofDays day).day ++ rest))) = some (Date.ofDays day, rest) :=
  date?_of_valid (Nat.lt_of_le_of_lt (Date.month_ofDays_le day) (by decide))
    (Nat.lt_of_le_of_lt (Date.day_ofDays_le day) (by decide)) (Date.valid_ofDays day)
    (by rwa [Date.toDays_ofDays])

theorem day_add_secondOfDay (t : Instant) : t.day * daySeconds + t.secondOfDay = t.second := by
  unfold day secondOfDay daySeconds
  omega

theorem of?_self (t : Instant) : of? t.second t.nanos = some t := dif_pos t.nanos_lt

/-- Every instant of the calendar is read back from its text. -/
theorem ofText?_toText {t : Instant} (known : inCalendar t.day = true) : ofText? t.toText = some t := by
  have zone : offset? (skipBlanks ['Z']) = some (0, []) := by decide
  have nothing_left : skipBlanks [] = [] := rfl
  rw [ofText?, toText, String.toList_ofList, toChars_eq, ofChars?, date?_ofDays known]
  simp [oneOf?, timeOfDay?_written, zone, nothing_left, Date.toDays_ofDays, day_add_secondOfDay,
    of?_self, known]

end AbandonedBikes.Instant
