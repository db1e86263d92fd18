import Intake.Time.Instant
import Mathlib.Tactic.IntervalCases

/-!
The text of a moment is read as the moment itself, for every moment within the range of dates. The
proof has three parts: digits that are padded are read as the number they were made of, a day of the
calendar is counted back to itself, and the readers take from the text one part after the other.
-/
namespace Intake.Instant

section Digits

variable {ds rest : List Char} {width n : Nat}

theorem valueOf_eq (ds : List Char) : valueOf ds = Nat.ofDigitChars 10 ds 0 := by
  simp [valueOf, Nat.ofDigitChars_eq_foldl, Nat.mul_comm]

theorem valueOf_padded (width n : Nat) : valueOf (padded width n).toList = n := by
  simp [padded, valueOf_eq, Nat.ofDigitChars_append, Nat.ofDigitChars_replicate_zero]

theorem valueOf_padded_lt {width n : Nat} (fits : n < 10 ^ 18) :
    valueOf (padded width n).toList < Nat.pow 2 63 := by
  rw [valueOf_padded]
  exact lt_trans fits (by decide)

theorem isDigit_of_mem_padded {c : Char} (among : c ∈ (padded width n).toList) :
    isDigit c = true := by
  rw [padded, String.toList_ofList] at among
  obtain front | back := List.mem_append.mp among
  · rw [List.eq_of_mem_replicate front]
    decide
  · have digit := Nat.isDigit_of_mem_toDigits (by decide) (by decide) back
    simpa [isDigit, Char.isDigit, Char.le_def] using digit

theorem padded_length (positive : 0 < width) (fits : n < 10 ^ width) :
    (padded width n).toList.length = width := by
  have short := (Nat.length_toDigits_le_iff (by decide) positive).mpr fits
  simp [padded]
  omega

theorem padded_ne_nil (width n : Nat) : (padded width n).toList ≠ [] := by
  simp [padded, Nat.toDigits_ne_nil]

theorem number_some {most : Nat} (digits : ∀ c ∈ ds, isDigit c = true) (first : ds ≠ [])
    (taken : (ds ++ rest.takeWhile isDigit).take most = ds)
    (small : valueOf ds < Nat.pow 2 63) :
    number (some most) (ds ++ rest) = .ok (valueOf ds, rest) := by
  have run : (ds ++ rest).takeWhile isDigit = ds ++ rest.takeWhile isDigit :=
    List.takeWhile_append_of_pos digits
  simp only [number, run, taken]
  cases ds with
  | nil => exact absurd rfl first
  | cons d ds => simp [small]

theorem number_none (digits : ∀ c ∈ ds, isDigit c = true) (first : ds ≠ [])
    (stop : rest.takeWhile isDigit = []) (small : valueOf ds < Nat.pow 2 63) :
    number none (ds ++ rest) = .ok (valueOf ds, rest) := by
  have run : (ds ++ rest).takeWhile isDigit = ds := by
    rw [List.takeWhile_append_of_pos digits, stop, List.append_nil]
  simp only [number, run]
  cases ds with
  | nil => exact absurd rfl first
  | cons d ds => simp [small]

theorem number_padded (width : Nat) {n : Nat} (positive : 0 < width) (short : width ≤ 18)
    (fits : n < 10 ^ width) (rest : List Char) :
    number (some width) ((padded width n).toList ++ rest) = .ok (n, rest) := by
  have small := lt_of_lt_of_le fits (Nat.pow_le_pow_right (by decide) short)
  have taken : ((padded width n).toList ++ rest.takeWhile isDigit).take width =
      (padded width n).toList :=
    List.take_left' (padded_length positive fits)
  have read := number_some (fun _ => isDigit_of_mem_padded) (padded_ne_nil width n) taken
    (valueOf_padded_lt small)
  rwa [valueOf_padded] at read

end Digits

section Readers

variable {rest : List Char}

theorem skipBlanks_visible {c : Char} (visible : Text.isBlank c = false) :
    skipBlanks (c :: rest) = c :: rest := by
  simp [skipBlanks, visible]

theorem not_blank_of_isDigit {c : Char} (digit : isDigit c = true) : Text.isBlank c = false := by
  simp only [isDigit, Bool.and_eq_true, decide_eq_true_eq, Char.le_def] at digit
  have low : 48 ≤ c.toNat := UInt32.le_iff_toNat_le.mp digit.1
  have high : c.toNat ≤ 57 := UInt32.le_iff_toNat_le.mp digit.2
  simp only [Text.isBlank, Bool.or_eq_false_iff, Bool.and_eq_false_imp, decide_eq_true_eq,
    decide_eq_false_iff_not, beq_eq_false_iff_ne]
  omega

theorem exists_padded_eq_cons (width n : Nat) :
    ∃ c cs, (padded width n).toList = c :: cs ∧ isDigit c = true := by
  cases digits : (padded width n).toList with
  | nil => exact absurd digits (padded_ne_nil width n)
  | cons c cs => exact ⟨c, cs, rfl, isDigit_of_mem_padded (digits ▸ List.mem_cons_self)⟩

theorem skipBlanks_padded (width n : Nat) :
    skipBlanks ((padded width n).toList ++ rest) = (padded width n).toList ++ rest := by
  obtain ⟨c, cs, digits, digit⟩ := exists_padded_eq_cons width n
  rw [digits, List.cons_append, skipBlanks_visible (not_blank_of_isDigit digit)]

theorem part_padded {least greatest n : Nat} (low : least ≤ n) (high : n ≤ greatest)
    (fits : n < 100) : part least greatest ((padded 2 n).toList ++ rest) = .ok (n, rest) := by
  have read := number_padded 2 (by decide) (by decide) fits rest
  simp [part, skipBlanks_padded, read, low, high, bind, Except.bind]

/-- A year without a sign has four digits, and one with a sign any number of them. -/
theorem year_text {y : Int} (low : firstYear ≤ y) (high : y ≤ lastYear) :
    year ((yearText y).toList ++ '-' :: rest) = .ok (y, '-' :: rest) := by
  have least : -262143 ≤ y := low
  have greatest : y ≤ 262142 := high
  have inRange : -2147483648 ≤ y ∧ y < 2147483648 := by omega
  -- without a sign exactly four digits are read, after a sign any number of them
  by_cases plain : 0 ≤ y ∧ y ≤ 9999
  · have read := number_padded 4 (n := y.toNat) (by decide) (by decide) (by omega) ('-' :: rest)
    have value : (y.toNat : Int) = y := Int.toNat_of_nonneg plain.1
    obtain ⟨c, cs, digits, digit⟩ := exists_padded_eq_cons 4 y.toNat
    have unsigned : c ≠ '-' ∧ c ≠ '+' := by
      constructor <;> rintro rfl <;> exact absurd digit (by decide)
    rw [digits, List.cons_append] at read
    rw [yearText, if_pos (by simp [plain]), digits, List.cons_append, year,
      skipBlanks_visible (not_blank_of_isDigit digit)]
    simp [unsigned, read, value, inRange, bind, Except.bind]
  · have stop : ('-' :: rest).takeWhile isDigit = [] := by simp [isDigit]
    have read := number_none (fun _ => isDigit_of_mem_padded) (padded_ne_nil 4 y.natAbs) stop
      (valueOf_padded_lt (by omega))
    rw [valueOf_padded] at read
    rw [yearText, if_neg (by simpa using plain), String.toList_append]
    by_cases negative : y < 0
    · have value : -(y.natAbs : Int) = y := by omega
      have minus : skipBlanks ('-' :: ((padded 4 y.natAbs).toList ++ '-' :: rest)) =
          '-' :: ((padded 4 y.natAbs).toList ++ '-' :: rest) := skipBlanks_visible (by decide)
      rw [if_pos negative]
      change year ('-' :: ((padded 4 y.natAbs).toList ++ '-' :: rest)) = _
      simp only [year, minus, read, bind, Except.bind, value, inRange, decide_true, Bool.and_self,
        if_true]
    · have value : (y.natAbs : Int) = y := by omega
      have plus : skipBlanks ('+' :: ((padded 4 y.natAbs).toList ++ '-' :: rest)) =
          '+' :: ((padded 4 y.natAbs).toList ++ '-' :: rest) := skipBlanks_visible (by decide)
      rw [if_neg negative]
      change year ('+' :: ((padded 4 y.natAbs).toList ++ '-' :: rest)) = _
      simp only [year, plus, read, bind, Except.bind, value, inRange, decide_true, Bool.and_self,
        if_true]

theorem fraction_padded {width n : Nat} (positive : 0 < width) (most : width ≤ 9)
    (fits : n < 10 ^ width) :
    fraction ('.' :: ((padded width n).toList ++ 'Z' :: rest)) =
      .ok (n * 10 ^ (9 - width), 'Z' :: rest) := by
  have length := padded_length positive fits
  have taken : ((padded width n).toList ++ ('Z' :: rest).takeWhile isDigit).take 9 =
      (padded width n).toList := by
    have stop : ('Z' :: rest).takeWhile isDigit = [] := by simp [isDigit]
    rw [stop, List.append_nil, List.take_of_length_le (by omega)]
  have small : n < 10 ^ 18 := lt_of_lt_of_le fits (Nat.pow_le_pow_right (by decide) (by omega))
  have read := number_some (fun _ => isDigit_of_mem_padded) (padded_ne_nil width n) taken
    (valueOf_padded_lt small)
  rw [valueOf_padded] at read
  simp [fraction, read, bind, Except.bind, length, isDigit]

theorem fraction_text {nanos : Nat} (fits : nanos < 10 ^ 9) :
    fraction ((fractionText nanos).toList ++ 'Z' :: rest) = .ok (nanos, 'Z' :: rest) := by
  have point (width n : Nat) : ("." ++ padded width n).toList = '.' :: (padded width n).toList :=
    String.toList_append
  rw [fractionText]
  split
  · rename_i whole
    rw [whole]
    rfl
  split
  · rw [point, List.cons_append, fraction_padded (by decide) (by decide) (by omega)]
    congr 2
    omega
  split
  · rw [point, List.cons_append, fraction_padded (by decide) (by decide) (by omega)]
    congr 2
    omega
  · rw [point, List.cons_append, fraction_padded (by decide) (by decide) (by omega)]
    congr 2
    omega

end Readers

section Calendar

variable {dayOfEra yearOfEra dayOfYear fromMarch : Int}

theorem century_cases (low : 0 ≤ dayOfEra) (high : dayOfEra < 146097) :
    dayOfEra / 36524 = 0 ∨ dayOfEra / 36524 = 1 ∨ dayOfEra / 36524 = 2 ∨ dayOfEra / 36524 = 3 ∨
      dayOfEra / 36524 = 4 := by
  omega

theorem century_eq (low : 0 ≤ dayOfEra) (high : dayOfEra < 146097)
    (year : yearOfEra =
      (dayOfEra - dayOfEra / 1460 + dayOfEra / 36524 - dayOfEra / 146096) / 365) :
    yearOfEra / 100 = dayOfEra / 36524 - dayOfEra / 146096 := by
  obtain h | h | h | h | h := century_cases low high <;> omega

/-- A year of an era begins and ends where its days say. Only a leap year has a last day more. -/
theorem dayOfYear_bounds (low : 0 ≤ dayOfEra) (high : dayOfEra < 146097)
    (year : yearOfEra =
      (dayOfEra - dayOfEra / 1460 + dayOfEra / 36524 - dayOfEra / 146096) / 365)
    (day : dayOfYear = dayOfEra - (365 * yearOfEra + yearOfEra / 4 - yearOfEra / 100)) :
    0 ≤ yearOfEra ∧ yearOfEra < 400 ∧ 0 ≤ dayOfYear ∧ dayOfYear ≤ 365 ∧
      (dayOfYear = 365 → (yearOfEra + 1) % 4 = 0 ∧
        ((yearOfEra + 1) % 100 ≠ 0 ∨ (yearOfEra + 1) % 400 = 0)) := by
  have hundreds := century_eq low high year
  have cases := century_cases low high
  refine ⟨?_, ?_, ?_, ?_, ?_⟩
  · omega
  · obtain h | h | h | h | h := cases <;> omega
  · obtain h | h | h | h | h := cases <;> omega
  · obtain h | h | h | h | h := cases <;> omega
  · intro last
    -- the day is beyond as many leap cycles as the year is, and one more
    have cycles : yearOfEra / 4 < dayOfEra / 1460 := by omega
    have quarter : yearOfEra % 4 = 3 := by omega
    refine ⟨by omega, ?_⟩
    by_cases secular : (yearOfEra + 1) % 100 = 0
    · have whole : dayOfEra = 36524 * (yearOfEra / 100 + 1) := by omega
      omega
    · exact .inl secular

/-- The months from March on, each with its days; the last one ends with the year. -/
theorem month_bounds {day : Int} (low : 0 ≤ dayOfYear) (high : dayOfYear ≤ 365)
    (month : fromMarch = (5 * dayOfYear + 2) / 153)
    (ofMonth : day = dayOfYear - (153 * fromMarch + 2) / 5 + 1) :
    0 ≤ fromMarch ∧ fromMarch ≤ 11 ∧ 1 ≤ day ∧ day ≤ 31 ∧
      (fromMarch = 1 ∨ fromMarch = 3 ∨ fromMarch = 6 ∨ fromMarch = 8 → day ≤ 30) ∧
      (fromMarch = 11 → day ≤ 29 ∧ (day = 29 → dayOfYear = 365)) := by
  refine ⟨?_, ?_, ?_, ?_, ?_, ?_⟩ <;> omega

structure IsDate (days year : Int) (month day : Nat) : Prop where
  counted : daysFromCivil year month day = days
  inYear : 1 ≤ month ∧ month ≤ 12
  inMonth : 1 ≤ day ∧ day ≤ daysIn year month

/-- The years of an era are counted from March, so January and February belong to the next year. -/
theorem daysFromCivil_eq {era day : Int} (start : 0 ≤ yearOfEra) (stop : yearOfEra < 400)
    (march : 0 ≤ fromMarch) (february : fromMarch ≤ 11) (first : 1 ≤ day) :
    daysFromCivil (yearOfEra + era * 400 + if 10 ≤ fromMarch then 1 else 0)
        (if fromMarch < 10 then fromMarch + 3 else fromMarch - 9).toNat day.toNat =
      era * 146097 + (yearOfEra * 365 + yearOfEra / 4 - yearOfEra / 100 +
        ((153 * fromMarch + 2) / 5 + day - 1)) - 719468 := by
  have ofEra : (yearOfEra + era * 400).fdiv 400 = era := by
    rw [Int.fdiv_eq_ediv_of_nonneg _ (by decide)]
    omega
  have days : (day.toNat : Int) = day := Int.toNat_of_nonneg (by omega)
  by_cases early : fromMarch < 10
  · have late : ¬ (fromMarch + 3).toNat ≤ 2 := by omega
    have month : ((fromMarch + 3).toNat : Int) - 3 = fromMarch := by omega
    have year : yearOfEra + era * 400 - era * 400 = yearOfEra := by omega
    rw [if_pos early, if_neg (by omega), add_zero]
    simp only [daysFromCivil, late, if_false, ofEra, month, days, year]
  · have late : (fromMarch - 9).toNat ≤ 2 := by omega
    have month : ((fromMarch - 9).toNat : Int) + 9 = fromMarch := by omega
    have year : yearOfEra + era * 400 + 1 - 1 = yearOfEra + era * 400 := by omega
    have year' : yearOfEra + era * 400 - era * 400 = yearOfEra := by omega
    rw [if_neg early, if_pos (by omega)]
    simp only [daysFromCivil, late, if_true, ofEra, month, days, year, year']

theorem isLeap_of_cycle {year : Int} (four : year % 4 = 0)
    (hundred : year % 100 ≠ 0 ∨ year % 400 = 0) : isLeap year = true := by
  simpa [isLeap, four] using hundred

theorem le_daysIn {year : Int} {day : Nat} (march : 0 ≤ fromMarch) (february : fromMarch ≤ 11)
    (high : day ≤ 31)
    (short : fromMarch = 1 ∨ fromMarch = 3 ∨ fromMarch = 6 ∨ fromMarch = 8 → day ≤ 30)
    (shortest : fromMarch = 11 → day ≤ 29 ∧ (day = 29 → isLeap year = true)) :
    day ≤ daysIn year (if fromMarch < 10 then fromMarch + 3 else fromMarch - 9).toNat := by
  by_cases last : fromMarch = 11
  · subst last
    obtain ⟨most, leap⟩ := shortest rfl
    change day ≤ if isLeap year then 29 else 28
    split
    · exact most
    · rename_i common
      have other : day ≠ 29 := fun same => common (leap same)
      omega
  · interval_cases fromMarch
    all_goals first
      | exact high
      | exact short (by decide)
      | exact absurd rfl last

theorem civilFromDays_isDate (days : Int) :
    IsDate days (civilFromDays days).1 (civilFromDays days).2.1 (civilFromDays days).2.2 := by
  -- the parts get names of their own, so that the bounds see variables and not the sums behind them
  obtain ⟨z, shifted⟩ : ∃ z, z = days + 719468 := ⟨_, rfl⟩
  obtain ⟨era, eras⟩ : ∃ era, era = z.fdiv 146097 := ⟨_, rfl⟩
  obtain ⟨doe, ofEra⟩ : ∃ doe, doe = z - era * 146097 := ⟨_, rfl⟩
  obtain ⟨q, year⟩ : ∃ q, q = (doe - doe / 1460 + doe / 36524 - doe / 146096) / 365 := ⟨_, rfl⟩
  obtain ⟨doy, ofYear⟩ : ∃ doy, doy = doe - (365 * q + q / 4 - q / 100) := ⟨_, rfl⟩
  obtain ⟨fm, month⟩ : ∃ fm, fm = (5 * doy + 2) / 153 := ⟨_, rfl⟩
  obtain ⟨day, ofMonth⟩ : ∃ day, day = doy - (153 * fm + 2) / 5 + 1 := ⟨_, rfl⟩
  have computed : civilFromDays days =
      (q + era * 400 + (if (if fm < 10 then fm + 3 else fm - 9) ≤ 2 then 1 else 0),
        (if fm < 10 then fm + 3 else fm - 9).toNat, day.toNat) := by
    simp only [civilFromDays, ← shifted, ← eras, ← ofEra, ← year, ← ofYear, ← month, ← ofMonth]
  rw [Int.fdiv_eq_ediv_of_nonneg _ (by decide)] at eras
  have inEra : 0 ≤ doe ∧ doe < 146097 := by omega
  obtain ⟨first, last, start, stop, leapDay⟩ := dayOfYear_bounds inEra.1 inEra.2 year ofYear
  obtain ⟨march, february, low, high, short, shortest⟩ := month_bounds start stop month ofMonth
  have january : (if (if fm < 10 then fm + 3 else fm - 9) ≤ 2 then (1 : Int) else 0) =
      if 10 ≤ fm then 1 else 0 := by
    split <;> split <;> split <;> omega
  rw [computed, january]
  dsimp only
  refine ⟨?_, ?_, ?_, ?_⟩
  · rw [daysFromCivil_eq first last march february low]
    omega
  · split <;> omega
  · omega
  -- only a leap year has the last day of February
  · refine le_daysIn march february (by omega) (by omega) fun atEnd => ?_
    obtain ⟨most, onlyLast⟩ := shortest atEnd
    refine ⟨by omega, fun same => ?_⟩
    obtain ⟨four, hundred⟩ := leapDay (onlyLast (by omega))
    rw [if_pos (by omega)]
    exact isLeap_of_cycle (by omega) (by omega)

theorem daysIn_le (year : Int) (month : Nat) : daysIn year month ≤ 31 := by
  unfold daysIn
  split
  · split <;> decide
  all_goals decide

theorem year_bounds {days year : Int} {month day : Nat} (date : IsDate days year month day)
    (low : daysFromCivil firstYear 1 1 ≤ days)
    (high : days < daysFromCivil (lastYear + 1) 1 1) : firstYear ≤ year ∧ year ≤ lastYear := by
  obtain ⟨counted, ⟨firstMonth, lastMonth⟩, firstDay, lastDay⟩ := date
  have least : -96465292 ≤ days := low
  have greatest : days < 95026237 := high
  have most := le_trans lastDay (daysIn_le year month)
  simp only [firstYear, lastYear]
  rw [daysFromCivil] at counted
  -- the years at the bounds are counted exactly, and those beyond them roughly
  obtain rfl | rfl | past | below | within : year = 262143 ∨ year = -262144 ∨ 262144 ≤ year ∨
      year ≤ -262145 ∨ -262143 ≤ year ∧ year ≤ 262142 := by omega
  all_goals
    by_cases early : month ≤ 2
    · simp only [early, if_true] at counted
      rw [Int.fdiv_eq_ediv_of_nonneg _ (by decide)] at counted
      omega
    · simp only [early, if_false] at counted
      rw [Int.fdiv_eq_ediv_of_nonneg _ (by decide)] at counted
      omega

end Calendar

/-- A moment in the range of dates. A leap second is the last one of its minute. -/
structure Proper (t : Instant) : Prop where
  first : firstSecond ≤ t.seconds
  last : t.seconds ≤ lastSecond
  nanos : t.nanos < 1000000000 ∨ t.nanos < 2000000000 ∧ t.seconds % 60 = 59

theorem text_toList {t : Instant} {year : Int} {month day time : Nat}
    (date : civilFromDays (t.seconds / 86400) = (year, month, day))
    (ofDay : (t.seconds % 86400).toNat = time) :
    t.text.toList = (yearText year).toList ++ '-' :: ((padded 2 month).toList ++
      '-' :: ((padded 2 day).toList ++ 'T' :: ((padded 2 (time / 3600)).toList ++
        ':' :: ((padded 2 (time / 60 % 60)).toList ++
          ':' :: ((padded 2 (time % 60 + if 1000000000 ≤ t.nanos then 1 else 0)).toList ++
            ((fractionText (if 1000000000 ≤ t.nanos then t.nanos - 1000000000
              else t.nanos)).toList ++ ['Z'])))))) := by
  have days : t.seconds.fdiv 86400 = t.seconds / 86400 :=
    Int.fdiv_eq_ediv_of_nonneg _ (by decide)
  have left : t.seconds - t.seconds / 86400 * 86400 = t.seconds % 86400 := by omega
  simp [text, days, date, left, ofDay]

theorem parseChars_parts {year : Int} {month day hour minute second nanos : Nat}
    (inRange : firstYear ≤ year ∧ year ≤ lastYear) (inYear : 1 ≤ month ∧ month ≤ 12)
    (inMonth : 1 ≤ day ∧ day ≤ daysIn year month) (inDay : hour ≤ 23) (inHour : minute ≤ 59)
    (inMinute : second ≤ 60) (fits : nanos < 10 ^ 9) {seconds : Int}
    (moment : seconds = daysFromCivil year month day * 86400 +
      (hour * 3600 + minute * 60 + (if second = 60 then 59 else second : Nat)))
    (possible : firstSecond ≤ seconds ∧ seconds ≤ lastSecond) :
    parseChars ((yearText year).toList ++ '-' :: ((padded 2 month).toList ++
      '-' :: ((padded 2 day).toList ++ 'T' :: ((padded 2 hour).toList ++
        ':' :: ((padded 2 minute).toList ++ ':' :: ((padded 2 second).toList ++
          ((fractionText nanos).toList ++ ['Z']))))))) =
      .ok ⟨seconds, if second = 60 then nanos + 1000000000 else nanos⟩ := by
  have most := le_trans inMonth.2 (daysIn_le year month)
  have visible (c : Char) (plain : Text.isBlank c = false) (rest : List Char) :
      skipBlanks (c :: rest) = c :: rest := skipBlanks_visible plain
  rw [parseChars]
  simp only [bind, Except.bind, year_text inRange.1 inRange.2, visible '-' (by decide), mark,
    if_true, part_padded inYear.1 inYear.2 (by omega), part_padded inMonth.1 most (by omega),
    separator, part_padded (Nat.zero_le hour) inDay (by omega), visible ':' (by decide),
    part_padded (Nat.zero_le minute) inHour (by omega),
    part_padded (Nat.zero_le second) inMinute (by omega), fraction_text fits,
    visible 'Z' (by decide), offset, Int.sub_zero, ← moment]
  simp [skipBlanks, inRange, inMonth, possible]
  rfl

theorem parse_text {t : Instant} (proper : t.Proper) : parse t.text = .ok t := by
  obtain ⟨first, last, nanos⟩ := proper
  rcases date : civilFromDays (t.seconds / 86400) with ⟨year, month, day⟩
  obtain ⟨time, ofDay⟩ : ∃ time, (t.seconds % 86400).toNat = time := ⟨_, rfl⟩
  have isDate := civilFromDays_isDate (t.seconds / 86400)
  rw [date] at isDate
  have bounds : firstYear ≤ year ∧ year ≤ lastYear :=
    year_bounds isDate (by simp only [firstSecond] at first; omega)
      (by simp only [lastSecond] at last; omega)
  have leap : 1000000000 ≤ t.nanos → time % 60 = 59 := by omega
  have counted : t.seconds = daysFromCivil year month day * 86400 +
      ((time / 3600 : Nat) * 3600 + (time / 60 % 60 : Nat) * 60 + (time % 60 : Nat)) := by
    rw [isDate.counted]
    omega
  rw [parse, text_toList date ofDay]
  -- a leap second is written as the sixtieth second of its minute
  by_cases late : 1000000000 ≤ t.nanos
  · rw [if_pos late, if_pos late, leap late]
    rw [leap late] at counted
    rw [parseChars_parts bounds isDate.inYear isDate.inMonth (by omega) (by omega) (by omega)
      (by omega) counted ⟨first, last⟩, if_pos rfl, Nat.sub_add_cancel late]
  · have common : time % 60 ≠ 60 := by omega
    rw [if_neg late, if_neg late, add_zero, parseChars_parts bounds isDate.inYear isDate.inMonth
      (by omega) (by omega) (by omega) (by omega) (by rwa [if_neg common]) ⟨first, last⟩,
      if_neg common]

end Intake.Instant
