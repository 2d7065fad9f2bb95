/-
  VirtualService/Proofs/Timestamp.lean
  ====================================
  **An instant that was read is written so that it reads back.**

  A written instant is digits with marks between them, so the first part is about
  digits: a padded number has the width asked for and the value it writes.  The
  second part is the calendar: the date of a day is a valid date, and the day of
  that date is the day (`dayNumber_date`).  The third puts the two together.
-/
import VirtualService.Timestamp
import VirtualService.Proofs.Decoding

namespace VirtualService

/-! ### Digits -/

namespace Digits

theorem decimal?_digit {k : Nat} (h : k < 10) : decimal? (Char.ofNat (48 + k)) = some k := by
  have all : ∀ k : Fin 10, decimal? (Char.ofNat (48 + k.val)) = some k.val := by decide
  exact all ⟨k, h⟩

theorem isDecimal_digit {k : Nat} (h : k < 10) : isDecimal (Char.ofNat (48 + k)) = true := by
  rw [isDecimal, decimal?_digit h]
  rfl

theorem isDecimal_reversed (fuel n : Nat) : ∀ c ∈ reversed fuel n, isDecimal c = true := by
  induction fuel generalizing n with
  | zero => simp [reversed]
  | succ fuel ih =>
    intro c mem
    rw [reversed] at mem
    rcases List.mem_cons.mp mem with rfl | mem
    · exact isDecimal_digit (Nat.mod_lt _ (by decide))
    · split at mem
      · simp at mem
      · exact ih _ c mem

theorem length_reversed {width : Nat} (fuel : Nat) {n : Nat} (positive : 0 < width)
    (h : n < tenTo width) : (reversed fuel n).length ≤ width := by
  induction fuel generalizing n width with
  | zero => exact Nat.zero_le _
  | succ fuel ih =>
    rw [reversed, List.length_cons]
    split
    · exact positive
    · cases width with
      | zero => exact absurd positive (Nat.lt_irrefl 0)
      | succ width =>
        have bound : n < tenTo width * 10 := h
        have small : n / 10 < tenTo width := by omega
        have room : 0 < width := by
          rcases Nat.eq_zero_or_pos width with rfl | room
          · have : tenTo 0 = 1 := by decide
            omega
          · exact room
        exact Nat.succ_le_succ (ih room small)

/-- Reading digits from the least significant one on. -/
theorem foldr_reversed (fuel : Nat) {n : Nat} (h : n < fuel) :
    (reversed fuel n).foldr (fun c m => m * 10 + (decimal? c).getD 0) 0 = n := by
  induction fuel generalizing n with
  | zero => exact absurd h (Nat.not_lt_zero n)
  | succ fuel ih =>
    rw [reversed, List.foldr_cons, decimal?_digit (Nat.mod_lt _ (by decide)), Option.getD_some]
    split
    · rw [List.foldr_nil]
      omega
    · rw [ih (by omega)]
      omega

theorem value_ofNat (n : Nat) : value (ofNat n) = n := by
  rw [value, ofNat, List.foldl_reverse]
  exact foldr_reversed (n + 1) (Nat.lt_succ_self n)

theorem ofNat_ne_nil (n : Nat) : ofNat n ≠ [] := by
  simp [ofNat, reversed]

theorem value_zeros (k : Nat) (ds : List Char) : value (List.replicate k '0' ++ ds) = value ds := by
  have zero : decimal? '0' = some 0 := by decide
  induction k with
  | zero => rfl
  | succ k ih =>
    rw [← ih, List.replicate_succ, List.cons_append, value, List.foldl_cons, zero]
    rfl

theorem value_padded (width n : Nat) : value (padded width n) = n := by
  rw [padded, value_zeros, value_ofNat]

theorem isDecimal_padded (width n : Nat) : ∀ c ∈ padded width n, isDecimal c = true := by
  intro c mem
  rcases List.mem_append.mp mem with mem | mem
  · rw [List.eq_of_mem_replicate mem]
    decide
  · exact isDecimal_reversed _ _ c (List.mem_reverse.mp mem)

theorem padded_ne_nil (width n : Nat) : padded width n ≠ [] := by
  simp [padded, ofNat_ne_nil]

theorem length_padded {width n : Nat} (positive : 0 < width) (h : n < tenTo width) :
    (padded width n).length = width := by
  have short : (ofNat n).length ≤ width := by
    rw [ofNat, List.length_reverse]
    exact length_reversed _ positive h
  rw [padded, List.length_append, List.length_replicate]
  omega

/-- A run of digits stays below the power of ten of its length. -/
theorem value_lt (ds : List Char) : value ds < tenTo ds.length := by
  have step : ∀ (ds : List Char) (m : Nat),
      ds.foldl (fun n c => n * 10 + (decimal? c).getD 0) m < (m + 1) * tenTo ds.length := by
    intro ds
    induction ds with
    | nil =>
      intro m
      have : tenTo 0 = 1 := by decide
      rw [List.foldl_nil, List.length_nil, this]
      omega
    | cons c rest ih =>
      intro m
      have digit : (decimal? c).getD 0 < 10 := by
        rw [decimal?]
        split
        · next range =>
          have upper : c.toNat ≤ '9'.toNat := range.2
          have nine : '9'.toNat = 57 := by decide
          rw [Option.getD_some]
          omega
        · decide
      have power : tenTo (rest.length + 1) = tenTo rest.length * 10 := rfl
      rw [List.foldl_cons, List.length_cons, power]
      calc rest.foldl (fun n c => n * 10 + (decimal? c).getD 0) (m * 10 + (decimal? c).getD 0)
          < (m * 10 + (decimal? c).getD 0 + 1) * tenTo rest.length := ih _
        _ ≤ ((m + 1) * 10) * tenTo rest.length := Nat.mul_le_mul_right _ (by omega)
        _ = (m + 1) * (tenTo rest.length * 10) := by
          rw [Nat.mul_assoc, Nat.mul_comm 10]
  have bound := step ds 0
  rwa [Nat.zero_add, Nat.one_mul] at bound

end Digits

/-! ### The calendar -/

namespace Calendar

/-- The year of a day within an era of 400 years that begin in March. -/
def yearOfEra (n : Nat) : Nat := (n - n / 1460 + n / 36524 - n / 146096) / 365

/-- The first day of a year of an era. -/
def yearStart (y : Nat) : Nat := 365 * y + y / 4 - y / 100

theorem yearOfEra_lt {n : Nat} (h : n < 146097) : yearOfEra n < 400 := by
  unfold yearOfEra
  omega

/-- But for the last day of an era, the century of a day is that of its year. -/
theorem century_yearOfEra {n : Nat} (h : n < 146096) : yearOfEra n / 100 = n / 36524 := by
  obtain ⟨y, hy⟩ : ∃ y, y = yearOfEra n := ⟨_, rfl⟩
  rw [← hy]
  rw [yearOfEra, show n / 146096 = 0 by omega] at hy
  have cases_of : n / 36524 = 0 ∨ n / 36524 = 1 ∨ n / 36524 = 2 ∨ n / 36524 = 3 := by omega
  rcases cases_of with hb | hb | hb | hb <;> rw [hb] at hy ⊢ <;> omega

/-- A day lies in its year. -/
theorem yearStart_le {n : Nat} (h : n < 146097) :
    yearStart (yearOfEra n) ≤ n ∧ n ≤ yearStart (yearOfEra n) + 365 := by
  by_cases last : n = 146096
  · subst last
    decide
  · obtain ⟨y, hy⟩ : ∃ y, y = yearOfEra n := ⟨_, rfl⟩
    have century := century_yearOfEra (n := n) (by omega)
    rw [← hy] at century ⊢
    rw [yearOfEra, ← century, show n / 146096 = 0 by omega] at hy
    obtain ⟨g, hg⟩ : ∃ g, g = n / 1460 := ⟨_, rfl⟩
    obtain ⟨q, hq⟩ : ∃ q, q = y / 4 := ⟨_, rfl⟩
    obtain ⟨b, hb⟩ : ∃ b, b = y / 100 := ⟨_, rfl⟩
    rw [← hg, ← hb] at hy
    rw [yearStart, ← hq, ← hb]
    -- `g` counts the leap days by the day and `q` by the year; they differ by one at most.
    rcases Nat.lt_trichotomy g q with hlt | heq | hgt
    · constructor <;> omega
    · constructor <;> omega
    · constructor <;> omega

/-- A year with a 366th day is a leap year. -/
theorem leap_of_yearStart {n : Nat} (h : n < 146097) (last : n = yearStart (yearOfEra n) + 365) :
    yearOfEra n % 4 = 3 ∧ (yearOfEra n % 100 = 99 → yearOfEra n = 399) := by
  by_cases final : n = 146096
  · subst final
    decide
  · obtain ⟨y, hy⟩ : ∃ y, y = yearOfEra n := ⟨_, rfl⟩
    have century := century_yearOfEra (n := n) (by omega)
    rw [← hy] at century last ⊢
    rw [yearOfEra, ← century, show n / 146096 = 0 by omega] at hy
    obtain ⟨g, hg⟩ : ∃ g, g = n / 1460 := ⟨_, rfl⟩
    obtain ⟨q, hq⟩ : ∃ q, q = y / 4 := ⟨_, rfl⟩
    obtain ⟨b, hb⟩ : ∃ b, b = y / 100 := ⟨_, rfl⟩
    rw [← hg, ← hb] at hy
    rw [yearStart, ← hq, ← hb] at last
    have noCentury : y % 100 ≠ 99 := by
      intro h99
      have hundreds : y = 100 * b + 99 := by omega
      have fours : q = 25 * b + 24 := by omega
      omega
    refine ⟨?_, fun h99 => absurd h99 noCentury⟩
    rcases Nat.lt_trichotomy g q with hlt | heq | hgt <;> omega

/-- The number of the month, counted from March, of a day within a year. -/
def monthFromMarch (dayOfYear : Nat) : Nat := (5 * dayOfYear + 2) / 153

/-- The day within its month of a day within a year. -/
def dayOfMonth (dayOfYear : Nat) : Nat := dayOfYear - (153 * monthFromMarch dayOfYear + 2) / 5 + 1

theorem dayOfMonth_bounds {doy : Nat} (h : doy ≤ 365) :
    monthFromMarch doy < 12 ∧ 1 ≤ dayOfMonth doy ∧ dayOfMonth doy ≤ 31 ∧
      (153 * monthFromMarch doy + 2) / 5 + dayOfMonth doy - 1 = doy := by
  unfold dayOfMonth monthFromMarch
  omega

theorem dayOfMonth_le_thirty {doy : Nat}
    (short : monthFromMarch doy = 1 ∨ monthFromMarch doy = 3 ∨ monthFromMarch doy = 6 ∨
      monthFromMarch doy = 8) : dayOfMonth doy ≤ 30 := by
  unfold dayOfMonth
  unfold monthFromMarch at *
  omega

theorem dayOfMonth_february {doy : Nat} (h : doy ≤ 365) (february : monthFromMarch doy = 11) :
    dayOfMonth doy ≤ 29 ∧ (doy < 365 → dayOfMonth doy ≤ 28) := by
  unfold dayOfMonth
  unfold monthFromMarch at *
  omega

/-- The month of the calendar with a number counted from March. -/
def calendarMonth (mp : Nat) : Nat := if mp < 10 then mp + 3 else mp - 9

/-- What a date is made of: the era, the year in it and the day in that year, counted from March. -/
theorem date_parts (number : Int) :
    ∃ (era : Int) (y doy : Nat), y < 400 ∧ doy ≤ 365 ∧
      number = era * 146097 + (yearStart y + doy : Nat) - 719468 ∧
      (doy = 365 → y % 4 = 3 ∧ (y % 100 = 99 → y = 399)) ∧
      date number =
        (if calendarMonth (monthFromMarch doy) ≤ 2 then (y : Int) + era * 400 + 1
          else (y : Int) + era * 400,
         calendarMonth (monthFromMarch doy), dayOfMonth doy) := by
  obtain ⟨doe, hdoe⟩ : ∃ doe : Nat, doe = ((number + 719468) % 146097).toNat := ⟨_, rfl⟩
  have range : doe < 146097 := by omega
  obtain ⟨start, inYear⟩ := yearStart_le range
  refine ⟨(number + 719468) / 146097, yearOfEra doe, doe - yearStart (yearOfEra doe),
    yearOfEra_lt range, by omega, by omega, fun last => leap_of_yearStart range (by omega), ?_⟩
  rw [hdoe]
  rfl

theorem calendarMonth_bounds {mp : Nat} (h : mp < 12) :
    1 ≤ calendarMonth mp ∧ calendarMonth mp ≤ 12 ∧ (calendarMonth mp + 9) % 12 = mp := by
  unfold calendarMonth
  split <;> omega

/-- The day of a date is the day it is the date of. -/
theorem dayNumber_date (number : Int) :
    dayNumber (date number).1 (date number).2.1 (date number).2.2 = number := by
  obtain ⟨era, y, doy, small, inYear, total, -, shape⟩ := date_parts number
  obtain ⟨months, -, -, days⟩ := dayOfMonth_bounds inYear
  obtain ⟨-, -, back⟩ := calendarMonth_bounds months
  have eraBack : ((y : Int) + era * 400) / 400 = era := by omega
  have yearBack : ((y : Int) + era * 400) % 400 = y := by omega
  rw [shape, dayNumber]
  unfold yearStart at total
  by_cases early : calendarMonth (monthFromMarch doy) ≤ 2
  · simp only [early, if_true, back, days, Int.add_sub_cancel, eraBack, yearBack]
    omega
  · simp only [early, if_false, back, days, eraBack, yearBack]
    omega

theorem daysInMonth_le (year : Int) (month : Nat) : daysInMonth year month ≤ 31 := by
  unfold daysInMonth
  split
  · split <;> decide
  · split <;> decide

/-- A date names a day that its month has. -/
theorem date_valid (number : Int) :
    1 ≤ (date number).2.1 ∧ (date number).2.1 ≤ 12 ∧ 1 ≤ (date number).2.2 ∧
      (date number).2.2 ≤ daysInMonth (date number).1 (date number).2.1 := by
  obtain ⟨era, y, doy, small, inYear, -, leap, shape⟩ := date_parts number
  obtain ⟨months, first, all, -⟩ := dayOfMonth_bounds inYear
  obtain ⟨low, high, -⟩ := calendarMonth_bounds months
  rw [shape]
  refine ⟨low, high, first, ?_⟩
  dsimp only
  rw [daysInMonth]
  split
  · next february =>
    have eleven : monthFromMarch doy = 11 := by
      unfold calendarMonth at february
      split at february <;> omega
    obtain ⟨most, ordinary⟩ := dayOfMonth_february inYear eleven
    rw [if_pos (show calendarMonth (monthFromMarch doy) ≤ 2 by omega)]
    split
    · exact most
    · next noLeap =>
      refine ordinary (Nat.lt_of_le_of_ne inYear fun last => noLeap ?_)
      obtain ⟨fourth, century⟩ := leap last
      have divides : ((y : Int) + era * 400 + 1) % 4 = 0 := by omega
      by_cases hundred : ((y : Int) + era * 400 + 1) % 100 = 0
      · have whole : ((y : Int) + era * 400 + 1) % 400 = 0 := by
          have := century (by omega)
          omega
        simp [isLeap, whole]
      · simp [isLeap, divides, hundred]
  · split
    · next short =>
      refine dayOfMonth_le_thirty ?_
      simp only [Bool.or_eq_true, decide_eq_true_eq] at short
      unfold calendarMonth at short
      split at short <;> omega
    · exact all

end Calendar

/-! ### Instants that are read -/

namespace Timestamp

/-- An instant in a year of the calendar, with a leap second only after the last second of a
    minute. -/
structure WellFormed (t : Timestamp) : Prop where
  early : Calendar.minYear ≤ (Calendar.date (t.seconds / 86400)).1
  late : (Calendar.date (t.seconds / 86400)).1 ≤ Calendar.maxYear
  nanos : t.nanos < 1000000000 ∨ t.nanos < 2000000000 ∧ t.seconds % 60 = 59

theorem number_lt {width n : Nat} {cs rest : List Char} (h : number width cs = .ok (n, rest)) :
    rest.length ≤ cs.length ∧ cs.length - rest.length ≤ width ∧
      n < tenTo (cs.length - rest.length) := by
  rw [number.eq_def] at h
  have short : ((cs.take width).takeWhile Digits.isDecimal).length ≤ (cs.take width).length :=
    (List.takeWhile_sublist _).length_le
  generalize (cs.take width).takeWhile Digits.isDecimal = digits at h short
  rw [List.length_take] at short
  split at h
  · cases h
  · cases h
    rw [List.length_drop, show cs.length - (cs.length - digits.length) = digits.length by omega]
    exact ⟨Nat.sub_le _ _, by omega, Digits.value_lt digits⟩

theorem tenTo_add (a b : Nat) : tenTo (a + b) = tenTo a * tenTo b := Nat.pow_add 10 a b

theorem tenTo_pos (a : Nat) : 0 < tenTo a := Nat.pow_pos (by decide)

/-- The decimals of a second are less than a second. -/
theorem fraction_lt {cs rest : List Char} {n : Nat} (h : fraction cs = .ok (n, rest)) :
    n < 1000000000 := by
  unfold fraction at h
  split at h
  · next digits =>
    obtain ⟨⟨m, after⟩, read, h⟩ := Except.bind_eq_ok.mp h
    cases h
    obtain ⟨-, width, bound⟩ := number_lt read
    have power : tenTo (digits.length - after.length) * tenTo (9 - (digits.length - after.length)) =
        1000000000 := by
      rw [← tenTo_add, Nat.add_sub_cancel' width]
      rfl
    rw [← power]
    exact Nat.mul_lt_mul_of_pos_right bound (tenTo_pos _)
  · cases h
    decide

theorem signed_minutes {sign shift : Int} {cs rest : List Char}
    (h : offset.signed sign cs = .ok (shift, rest)) : ∃ minutes : Int, shift = minutes * 60 := by
  unfold offset.signed at h
  obtain ⟨⟨hours, after⟩, -, h⟩ := Except.bind_eq_ok.mp h
  obtain ⟨⟨minutes, last⟩, -, h⟩ := Except.bind_eq_ok.mp h
  dsimp only at h
  split at h
  · cases h
    refine ⟨sign * (hours * 60 + minutes : Nat), ?_⟩
    rw [Int.mul_assoc]
    congr 1
    omega
  · cases h

/-- An offset is a number of whole minutes. -/
theorem offset_minutes {cs rest : List Char} {shift : Int} (h : offset cs = .ok (shift, rest)) :
    ∃ minutes : Int, shift = minutes * 60 := by
  unfold offset at h
  split at h
  · cases h
    exact ⟨0, rfl⟩
  · cases h
    exact ⟨0, rfl⟩
  · exact signed_minutes h
  · exact signed_minutes h
  · exact signed_minutes h
  · split at h
    · cases h
      exact ⟨0, rfl⟩
    · cases h
  · cases h
  · cases h

theorem atOffset_wellFormed {year : Int} {month day hour minute second nanos : Nat} {shift : Int}
    {t : Timestamp} (h : atOffset year month day hour minute second nanos shift = .ok t)
    (below : nanos < 1000000000)
    (minutes : ∃ minutes : Int, shift = minutes * 60) : t.WellFormed := by
  obtain ⟨minutes, rfl⟩ := minutes
  unfold atOffset at h
  split at h
  · cases h
  · by_cases leap : second = 60
    · simp only [leap, if_true] at h
      split at h
      · cases h
      · next inRange =>
        cases h
        rw [not_or] at inRange
        refine ⟨Int.not_lt.mp inRange.1, Int.not_lt.mp inRange.2, .inr ?_⟩
        dsimp only
        omega
    · simp only [leap, if_false] at h
      split at h
      · cases h
      · next inRange =>
        cases h
        rw [not_or] at inRange
        exact ⟨Int.not_lt.mp inRange.1, Int.not_lt.mp inRange.2, .inl below⟩

theorem ofText_wellFormed {text : String} {t : Timestamp} (h : ofText text = .ok t) :
    t.WellFormed := by
  unfold ofText at h
  obtain ⟨⟨y, cs⟩, -, h⟩ := Except.bind_eq_ok.mp h
  obtain ⟨⟨⟨⟩, cs⟩, -, h⟩ := Except.bind_eq_ok.mp h
  obtain ⟨⟨month, cs⟩, -, h⟩ := Except.bind_eq_ok.mp h
  obtain ⟨⟨⟨⟩, cs⟩, -, h⟩ := Except.bind_eq_ok.mp h
  obtain ⟨⟨day, cs⟩, -, h⟩ := Except.bind_eq_ok.mp h
  obtain ⟨⟨⟨⟩, cs⟩, -, h⟩ := Except.bind_eq_ok.mp h
  obtain ⟨⟨hour, cs⟩, -, h⟩ := Except.bind_eq_ok.mp h
  obtain ⟨⟨⟨⟩, cs⟩, -, h⟩ := Except.bind_eq_ok.mp h
  obtain ⟨⟨minute, cs⟩, -, h⟩ := Except.bind_eq_ok.mp h
  obtain ⟨⟨⟨⟩, cs⟩, -, h⟩ := Except.bind_eq_ok.mp h
  obtain ⟨⟨second, cs⟩, -, h⟩ := Except.bind_eq_ok.mp h
  obtain ⟨⟨nanos, cs⟩, readNanos, h⟩ := Except.bind_eq_ok.mp h
  obtain ⟨⟨shift, cs⟩, readShift, h⟩ := Except.bind_eq_ok.mp h
  dsimp only at h
  split at h
  · exact atOffset_wellFormed h (fraction_lt readNanos) (offset_minutes readShift)
  · cases h

theorem decode_yields : Decoder.Yields decode WellFormed := by
  intro j _ t h
  cases j with
  | str s =>
    rw [decode] at h
    split at h
    · next read =>
      cases h
      exact ofText_wellFormed read
    · cases h
  | _ => cases h

/-! ### Reading back what is written -/

theorem isBlank_of_isDecimal {c : Char} (h : Digits.isDecimal c = true) :
    Blank.isBlank c = false := by
  rw [Digits.isDecimal, Digits.decimal?] at h
  split at h
  · next range =>
    have low : '0'.toNat ≤ c.toNat := range.1
    have high : c.toNat ≤ '9'.toNat := range.2
    have zero : '0'.toNat = 48 := by decide
    have nine : '9'.toNat = 57 := by decide
    simp only [Blank.isBlank, Bool.or_eq_false_iff, Bool.and_eq_false_iff, decide_eq_false_iff_not]
    omega
  · cases h

theorem trimStart_of_digits {ds : List Char} (rest : List Char) (ne : ds ≠ [])
    (decimal : ∀ c ∈ ds, Digits.isDecimal c = true) :
    Blank.trimStart (ds ++ rest) = ds ++ rest := by
  cases ds with
  | nil => exact absurd rfl ne
  | cons c more =>
    have first := isBlank_of_isDecimal (decimal c List.mem_cons_self)
    rw [Blank.trimStart, List.cons_append, List.dropWhile_cons, first]
    rfl

/-- A run of digits is read if it fills the width or ends there. -/
theorem number_append {width : Nat} {ds rest : List Char}
    (decimal : ∀ c ∈ ds, Digits.isDecimal c = true) (ne : ds ≠ []) (fits : ds.length ≤ width)
    (ends : ds.length = width ∨ ∀ c ∈ rest.head?, Digits.isDecimal c = false) :
    number width (ds ++ rest) = .ok (Digits.value ds, rest) := by
  have stop : (rest.take (width - ds.length)).takeWhile Digits.isDecimal = [] := by
    rcases ends with full | ends
    · rw [full, Nat.sub_self, List.take_zero, List.takeWhile_nil]
    · cases rest with
      | nil => rw [List.take_nil, List.takeWhile_nil]
      | cons c more =>
        cases width - ds.length with
        | zero => rw [List.take_zero, List.takeWhile_nil]
        | succ k => rw [List.take_succ_cons, List.takeWhile_cons, ends c rfl]; rfl
  have taken : ((ds ++ rest).take width).takeWhile Digits.isDecimal = ds := by
    rw [List.take_append, List.take_of_length_le fits, List.takeWhile_append_of_pos decimal, stop,
      List.append_nil]
  rw [number, taken]
  cases ds with
  | nil => exact absurd rfl ne
  | cons c more =>
    dsimp only
    rw [List.drop_left]

theorem number_padded {width n : Nat} (rest : List Char) (positive : 0 < width)
    (h : n < tenTo width) :
    number width (Digits.padded width n ++ rest) = .ok (n, rest) := by
  have length := Digits.length_padded positive h
  rw [number_append (Digits.isDecimal_padded width n) (Digits.padded_ne_nil width n)
    (Nat.le_of_eq length) (.inl length), Digits.value_padded]

theorem bounded_padded {low high n : Nat} (rest : List Char) (lower : low ≤ n) (upper : n ≤ high)
    (small : high < 100) : bounded low high (Digits.padded 2 n ++ rest) = .ok (n, rest) := by
  have hundred : tenTo 2 = 100 := by decide
  unfold bounded
  rw [trimStart_of_digits rest (Digits.padded_ne_nil 2 n) (Digits.isDecimal_padded 2 n),
    number_padded rest (by decide) (by omega)]
  exact if_pos ⟨lower, upper⟩

/-- A signed year has as many digits as it needs and ends at the mark after it. -/
theorem number_signed (n : Nat) (rest : List Char) :
    number (Digits.padded 4 n ++ '-' :: rest).length.succ (Digits.padded 4 n ++ '-' :: rest) =
      .ok (n, '-' :: rest) := by
  rw [number_append (Digits.isDecimal_padded 4 n) (Digits.padded_ne_nil 4 n), Digits.value_padded]
  · rw [List.length_append]
    omega
  · right
    intro c mem
    cases mem
    decide

theorem year_minus {n : Nat} {cs rest : List Char} (read : number cs.length.succ cs = .ok (n, rest))
    (range : n ≤ 2147483648) : year ('-' :: cs) = .ok (-(n : Int), rest) := by
  have shape : year ('-' :: cs) =
      ((number cs.length.succ cs).map fun r => (-(r.1 : Int), r.2)) >>= fun r =>
        if -2147483648 ≤ r.1 ∧ r.1 ≤ 2147483647 then .ok (r.1, r.2) else .error .outOfRange := rfl
  rw [shape, read]
  exact if_pos (by dsimp only; omega)

theorem year_plus {n : Nat} {cs rest : List Char} (read : number cs.length.succ cs = .ok (n, rest))
    (range : n ≤ 2147483647) : year ('+' :: cs) = .ok ((n : Int), rest) := by
  have shape : year ('+' :: cs) =
      ((number cs.length.succ cs).map fun r => ((r.1 : Int), r.2)) >>= fun r =>
        if -2147483648 ≤ r.1 ∧ r.1 ≤ 2147483647 then .ok (r.1, r.2) else .error .outOfRange := rfl
  rw [shape, read]
  exact if_pos (by dsimp only; omega)

theorem year_digits {n : Nat} {ds rest : List Char}
    (decimal : ∀ c ∈ ds, Digits.isDecimal c = true) (ne : ds ≠ [])
    (read : number 4 (ds ++ rest) = .ok (n, rest)) (range : n ≤ 2147483647) :
    year (ds ++ rest) = .ok ((n : Int), rest) := by
  unfold year
  rw [trimStart_of_digits rest ne decimal]
  cases ds with
  | nil => exact absurd rfl ne
  | cons c more =>
    have digit := decimal c List.mem_cons_self
    have noMinus : c ≠ '-' := by rintro rfl; revert digit; decide
    have noPlus : c ≠ '+' := by rintro rfl; revert digit; decide
    rw [List.cons_append] at read ⊢
    dsimp only
    split
    · next heq => exact absurd (List.cons.inj heq).1 noMinus
    · next heq => exact absurd (List.cons.inj heq).1 noPlus
    · rw [read]
      exact if_pos (by dsimp only; omega)

theorem year_yearText {y : Int} (rest : List Char) (early : Calendar.minYear ≤ y)
    (late : y ≤ Calendar.maxYear) :
    year (yearText y ++ '-' :: rest) = .ok (y, '-' :: rest) := by
  have low : Calendar.minYear = -262143 := rfl
  have high : Calendar.maxYear = 262142 := rfl
  unfold yearText
  split
  · have ten : tenTo 4 = 10000 := by decide
    rw [year_digits (Digits.isDecimal_padded 4 _) (Digits.padded_ne_nil 4 _)
      (number_padded _ (by decide) (by omega)) (by omega)]
    have back : ((y.toNat : Nat) : Int) = y := by omega
    rw [back]
  · have read := number_signed y.natAbs rest
    by_cases negative : y < 0
    · have back : -((y.natAbs : Nat) : Int) = y := by omega
      rw [if_pos negative, List.cons_append, year_minus read (by omega), back]
    · have back : ((y.natAbs : Nat) : Int) = y := by omega
      rw [if_neg negative, List.cons_append, year_plus read (by omega), back]

/-- Decimals in a group of places are read back as the nanoseconds they stand for. -/
theorem fraction_group {places n : Nat} (scale : Nat) (positive : 0 < places) (most : places ≤ 9)
    (small : n < tenTo places) (scaled : tenTo (9 - places) = scale) :
    fraction ('.' :: Digits.padded places n ++ ['Z']) = .ok (n * scale, ['Z']) := by
  have length := Digits.length_padded positive small
  have read : number 9 (Digits.padded places n ++ ['Z']) = .ok (n, ['Z']) := by
    rw [number_append (Digits.isDecimal_padded places n) (Digits.padded_ne_nil places n)
      (by omega), Digits.value_padded]
    right
    intro c mem
    cases mem
    decide
  have digits : (Digits.padded places n ++ ['Z']).length - (['Z'] : List Char).length = places := by
    rw [List.length_append, length]
    rfl
  have shape (ds : List Char) : fraction ('.' :: ds) =
      (number 9 ds >>= fun r =>
        .ok (r.1 * tenTo (9 - (ds.length - r.2.length)), r.2.dropWhile Digits.isDecimal)) := rfl
  rw [List.cons_append, shape, read]
  simp only [bind, Except.bind, digits, scaled]
  rfl

theorem fraction_fractionText {nanos : Nat} (h : nanos < 1000000000) :
    fraction (fractionText nanos ++ ['Z']) = .ok (nanos, ['Z']) := by
  unfold fractionText
  split
  · next zero =>
    rw [zero]
    rfl
  · split
    · next millis =>
      have power : tenTo 3 = 1000 := by decide
      rw [fraction_group 1000000 (by decide) (by decide) (by omega) (by decide),
        Nat.div_mul_cancel (Nat.dvd_of_mod_eq_zero millis)]
    · split
      · next micros =>
        have power : tenTo 6 = 1000000 := by decide
        rw [fraction_group 1000 (by decide) (by decide) (by omega) (by decide),
          Nat.div_mul_cancel (Nat.dvd_of_mod_eq_zero micros)]
      · have power : tenTo 9 = 1000000000 := by decide
        rw [fraction_group 1 (by decide) (by decide) (by omega) (by decide),
          Nat.mul_one]

@[simp] theorem mark_minus (rest : List Char) : mark '-' ('-' :: rest) = .ok ((), rest) := rfl

@[simp] theorem mark_colon (rest : List Char) : mark ':' (':' :: rest) = .ok ((), rest) := rfl

/-- The characters that write a date and a time of day. -/
def written (y : Int) (month day hour minute second nanos : Nat) : List Char :=
  yearText y ++ '-' :: (Digits.padded 2 month ++ '-' :: (Digits.padded 2 day ++
    'T' :: (Digits.padded 2 hour ++ ':' :: (Digits.padded 2 minute ++
      ':' :: (Digits.padded 2 second ++ (fractionText nanos ++ ['Z']))))))

/-- A written date and time of day is read part by part. -/
theorem ofText_written {y : Int} {month day hour minute second nanos : Nat}
    (early : Calendar.minYear ≤ y) (late : y ≤ Calendar.maxYear)
    (firstMonth : 1 ≤ month) (lastMonth : month ≤ 12) (firstDay : 1 ≤ day) (lastDay : day ≤ 31)
    (hours : hour ≤ 23) (minutes : minute ≤ 59) (seconds : second ≤ 60)
    (fraction : nanos < 1000000000) :
    ofText (String.ofList (written y month day hour minute second nanos)) =
      atOffset y month day hour minute second nanos 0 := by
  unfold ofText written
  rw [String.toList_ofList, year_yearText _ early late]
  simp only [bind, Except.bind, mark_minus, bounded_padded _ firstMonth lastMonth (by decide)]
  simp only [bounded_padded _ firstDay lastDay (by decide)]
  simp only [between, Bool.or_true, Bool.true_or, decide_true, if_true]
  simp only [bounded_padded _ (Nat.zero_le hour) hours (by decide), mark_colon]
  simp only [bounded_padded _ (Nat.zero_le minute) minutes (by decide), mark_colon]
  simp only [bounded_padded _ (Nat.zero_le second) seconds (by decide)]
  rw [fraction_fractionText fraction]
  rfl

/-- The second of a day as it is written: a leap second is the second 60. -/
theorem text_eq {t : Timestamp} {y : Int} {month day : Nat}
    (date : Calendar.date (t.seconds / 86400) = (y, month, day)) :
    t.text = String.ofList (written y month day ((t.seconds % 86400).toNat / 3600)
      ((t.seconds % 86400).toNat / 60 % 60)
      ((t.seconds % 86400).toNat % 60 + if t.nanos ≥ 1000000000 then 1 else 0)
      (if t.nanos ≥ 1000000000 then t.nanos - 1000000000 else t.nanos)) := by
  unfold Timestamp.text written
  rw [date]
  by_cases leap : t.nanos ≥ 1000000000
  · simp only [leap, if_true, List.append_assoc, List.cons_append]
  · simp only [leap, if_false, List.append_assoc, List.cons_append]

/-- A date of the calendar with a time of day is the instant it belongs to. -/
theorem atOffset_date {seconds : Int} {y : Int} {month day hour minute second nanos : Nat}
    (date : Calendar.date (seconds / 86400) = (y, month, day))
    (early : Calendar.minYear ≤ y) (late : y ≤ Calendar.maxYear)
    (seconds60 : second ≤ 60)
    (time : (seconds % 86400).toNat = hour * 3600 + minute * 60 + min second 59) :
    atOffset y month day hour minute second nanos 0 =
      .ok ⟨seconds, if second = 60 then nanos + 1000000000 else nanos⟩ := by
  have number := Calendar.dayNumber_date (seconds / 86400)
  have valid := (Calendar.date_valid (seconds / 86400)).2.2.2
  rw [date] at number valid
  dsimp only at number valid
  have inRange : ¬(y < Calendar.minYear ∨ Calendar.maxYear < y ∨
      Calendar.daysInMonth y month < day ∨ 86400 ≤ (0 : Int).natAbs) := by
    rw [Int.natAbs_zero]
    omega
  have again : ¬(y < Calendar.minYear ∨ Calendar.maxYear < y) := by omega
  unfold atOffset
  rw [if_neg inRange, number]
  by_cases leap : second = 60
  · have whole : seconds / 86400 * 86400 + (hour * 3600 + minute * 60 + 59 : Nat) - 0 = seconds := by
      omega
    simp only [leap, if_true, whole, date, again, if_false]
  · have whole : seconds / 86400 * 86400 + (hour * 3600 + minute * 60 + second : Nat) - 0 =
        seconds := by
      omega
    simp only [leap, if_false, whole, date, again]

/-- An instant that a reading yields is written so that it reads back. -/
theorem ofText_text {t : Timestamp} (h : t.WellFormed) : ofText t.text = .ok t := by
  obtain ⟨seconds, nanos⟩ := t
  obtain ⟨early, late, precision⟩ := h
  dsimp only at early late precision
  have valid := Calendar.date_valid (seconds / 86400)
  obtain ⟨⟨y, month, day⟩, date⟩ : ∃ date, Calendar.date (seconds / 86400) = date := ⟨_, rfl⟩
  rw [date] at early late valid
  obtain ⟨firstMonth, lastMonth, firstDay, monthDay⟩ := valid
  have lastDay : day ≤ 31 := Nat.le_trans monthDay (Calendar.daysInMonth_le _ _)
  have sameDay : (seconds % 86400).toNat < 86400 := by omega
  have form := text_eq (t := ⟨seconds, nanos⟩) date
  rw [form]
  by_cases leap : nanos ≥ 1000000000
  · have last : (seconds % 86400).toNat % 60 = 59 := by omega
    simp only [leap, if_true, last]
    rw [ofText_written early late firstMonth lastMonth firstDay lastDay (by omega) (by omega)
      (by omega) (by omega), atOffset_date date early late (by omega) (by omega)]
    simp only [if_true, Nat.sub_add_cancel leap]
  · simp only [leap, if_false, Nat.add_zero]
    rw [ofText_written early late firstMonth lastMonth firstDay lastDay (by omega) (by omega)
      (by omega) (by omega), atOffset_date date early late (by omega) (by omega), if_neg (by omega)]

theorem decode_encode {t : Timestamp} (h : t.WellFormed) : decode t.encode = .ok t := by
  rw [encode, decode, ofText_text h]

end Timestamp

end VirtualService
