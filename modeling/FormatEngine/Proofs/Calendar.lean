import Mathlib
import FormatEngine.Log.Run
/-!
# The calendar of timestamps

`civilFromDays` is the proleptic Gregorian calendar: day 0 is 1970-01-01, and each next day
count is the calendar's next day, so day `n` is the date `n` days after the epoch.

The method counts days from 0000-03-01 and cuts them into eras of 400 years (146097 days), years
that start on March 1st (so that a leap day is the last day of its year), and months of that
year. The proof follows the cut: a day of an era is the start of its year plus a day of that
year (`exists_startOfYear_add`), the year is found again from the day (`yearOfEra_startOfYear_add`),
and the next day count is the next day of the year, the first day of the next year, or the first
day of the next era (`eraDay_succ`). On a year that starts in March, the next day of the year is
the calendar's next day (`dateOf_nextEraDay`).

Every subtraction of the method stays in range, and for every day count of a 64-bit count of
seconds nothing exceeds 64 bits (`civilFromDaysChecked_eq`).

Main statement (`civilFromDays_gregorian`).
-/
namespace FormatEngine.Clock

/-! ## The proleptic Gregorian calendar -/

/-- A leap year: divisible by 4, except the centuries not divisible by 400. -/
def isLeap (y : Nat) : Bool := y % 4 == 0 && (y % 100 != 0 || y % 400 == 0)

def daysInMonth (y m : Nat) : Nat :=
  if m = 2 then (if isLeap y then 29 else 28)
  else if m = 4 ∨ m = 6 ∨ m = 9 ∨ m = 11 then 30
  else 31

/-- A year, month and day that name a day of the calendar. -/
def Valid : Nat × Nat × Nat → Prop
  | (y, m, d) => 1 ≤ m ∧ m ≤ 12 ∧ 1 ≤ d ∧ d ≤ daysInMonth y m

instance : DecidablePred Valid := fun ⟨y, m, d⟩ =>
  inferInstanceAs (Decidable (1 ≤ m ∧ m ≤ 12 ∧ 1 ≤ d ∧ d ≤ daysInMonth y m))

/-- The day after a date: the next day of its month, the first of the next month, or New Year's
Day of the next year. -/
def nextDay : Nat × Nat × Nat → Nat × Nat × Nat
  | (y, m, d) =>
    if d < daysInMonth y m then (y, m, d + 1)
    else if m < 12 then (y, m + 1, 1)
    else (y + 1, 1, 1)

theorem nextDay_of_lt {y m d : Nat} (h : d < daysInMonth y m) : nextDay (y, m, d) = (y, m, d + 1) := by
  rw [nextDay, if_pos h]

theorem nextDay_of_le {y m d : Nat} (h : daysInMonth y m ≤ d) :
    nextDay (y, m, d) = if m < 12 then (y, m + 1, 1) else (y + 1, 1, 1) := by
  rw [nextDay, if_neg (by omega)]

example : nextDay (2000, 2, 28) = (2000, 2, 29) := by decide
example : nextDay (1900, 2, 28) = (1900, 3, 1) := by decide

/-! ## Eras, and years and months that start in March -/

/-- The day of its era on which year `y` of an era starts, the era starting on a March 1st. -/
def startOfYear (y : Nat) : Nat := 365 * y + y / 4 - y / 100

/-- The length of year `y` of an era, which ends with the February of the next calendar year:
366 days when that February has a 29th. -/
def yearLength (y : Nat) : Nat :=
  if (y + 1) % 4 = 0 ∧ ((y + 1) % 100 ≠ 0 ∨ y = 399) then 366 else 365

/-- The year of its era a day of an era falls in. -/
def yearOfEra (doe : Nat) : Nat := (doe - doe / 1460 + doe / 36524 - doe / 146096) / 365

/-- The era, year of the era and day of the year of the `z`-th day from 0000-03-01. -/
def eraDay (z : Nat) : Nat × Nat × Nat :=
  (z / 146097, yearOfEra (z % 146097), z % 146097 - startOfYear (yearOfEra (z % 146097)))

/-- The next era, year of the era and day of the year. -/
def nextEraDay : Nat × Nat × Nat → Nat × Nat × Nat
  | (era, y, doy) =>
    if doy + 1 < yearLength y then (era, y, doy + 1)
    else if y < 399 then (era, y + 1, 0)
    else (era + 1, 0, 0)

/-- The day of a year that starts in March on which its `i`-th month starts. -/
def monthStart (i : Nat) : Nat := (153 * i + 2) / 5

/-- The calendar month of the `i`-th month of a year that starts in March. -/
def monthOf (i : Nat) : Nat := if i < 10 then i + 3 else i - 9

/-- The date of a day of a year of an era. -/
def dateOf : Nat × Nat × Nat → Nat × Nat × Nat
  | (era, y, doy) =>
    let i := (5 * doy + 2) / 153
    (y + era * 400 + (if monthOf i ≤ 2 then 1 else 0), monthOf i, doy - monthStart i + 1)

theorem civilFromDays_eq_dateOf (days : Nat) : civilFromDays days = dateOf (eraDay (days + 719468)) :=
  rfl

/-! ## Years of an era -/

/-- An era is four centuries of 25 four-year cycles of four years. -/
theorem startOfYear_parts (c k j : Nat) (hk : k < 25) (hj : j < 4) :
    startOfYear (100 * c + 4 * k + j) = 36524 * c + 1461 * k + 365 * j := by
  unfold startOfYear
  omega

/-- The last year of a cycle has a leap day, except in the last cycle of the first three
centuries. -/
theorem yearLength_parts (c k j : Nat) (hc : c < 4) (hk : k < 25) (hj : j < 4) :
    yearLength (100 * c + 4 * k + j) = if j = 3 ∧ (k ≠ 24 ∨ c = 3) then 366 else 365 := by
  unfold yearLength
  split_ifs <;> omega

theorem yearLength_bounds (y : Nat) : 365 ≤ yearLength y ∧ yearLength y ≤ 366 := by
  unfold yearLength
  split_ifs <;> omega

theorem startOfYear_succ {y : Nat} (hy : y < 399) :
    startOfYear (y + 1) = startOfYear y + yearLength y := by
  unfold startOfYear yearLength
  split_ifs <;> omega

theorem startOfYear_add_yearLength_le {y : Nat} (hy : y < 400) :
    startOfYear y + yearLength y ≤ 146097 := by
  unfold startOfYear yearLength
  split_ifs <;> omega

theorem yearOfEra_parts (c k j doy : Nat) (hc : c < 4) (hk : k < 25) (hj : j < 4)
    (hd : doy < if j = 3 ∧ (k ≠ 24 ∨ c = 3) then 366 else 365) :
    yearOfEra (36524 * c + 1461 * k + 365 * j + doy) = 100 * c + 4 * k + j := by
  unfold yearOfEra
  have hleap : doy = 365 → j = 3 ∧ (k ≠ 24 ∨ c = 3) := by
    intro h
    split_ifs at hd with hl
    · exact hl
    · omega
  have hd' : doy ≤ 365 := by split_ifs at hd <;> omega
  by_cases hlast : 36524 * c + 1461 * k + 365 * j + doy = 146096
  · -- the era's last day, February 29th of its 400th year
    have : c = 3 ∧ k = 24 ∧ j = 3 := by omega
    rw [hlast]
    omega
  · -- the quotients by a century, a four-year cycle and an era, each with its bounds
    have e1 : (36524 * c + 1461 * k + 365 * j + doy) / 146096 = 0 := Nat.div_eq_of_lt (by omega)
    have e2 : (36524 * c + 1461 * k + 365 * j + doy) / 36524 = c :=
      Nat.div_eq_of_lt_le (by omega) (by omega)
    rw [e1, e2]
    by_cases hq : 1460 ≤ 24 * c + k + 365 * j + doy
    · have e3 : (36524 * c + 1461 * k + 365 * j + doy) / 1460 = 25 * c + k + 1 :=
        Nat.div_eq_of_lt_le (by omega) (by omega)
      rw [e3]
      exact Nat.div_eq_of_lt_le (by omega) (by omega)
    · have e3 : (36524 * c + 1461 * k + 365 * j + doy) / 1460 = 25 * c + k :=
        Nat.div_eq_of_lt_le (by omega) (by omega)
      rw [e3]
      exact Nat.div_eq_of_lt_le (by omega) (by omega)

/-- A day of a year is found in that year. -/
theorem yearOfEra_startOfYear_add {y doy : Nat} (hy : y < 400) (hd : doy < yearLength y) :
    yearOfEra (startOfYear y + doy) = y := by
  obtain ⟨c, k, j, hc, hk, hj, rfl⟩ : ∃ c k j, c < 4 ∧ k < 25 ∧ j < 4 ∧ y = 100 * c + 4 * k + j :=
    ⟨y / 100, y % 100 / 4, y % 4, by omega, by omega, by omega, by omega⟩
  rw [yearLength_parts c k j hc hk hj] at hd
  rw [startOfYear_parts c k j hk hj]
  exact yearOfEra_parts c k j doy hc hk hj hd

/-- Of `count` blocks of `len` days, the last one open-ended, the block a day falls in. -/
theorem exists_block (n len count : Nat) (hlen : 0 < len) (hcount : 0 < count) :
    ∃ q, q < count ∧ len * q ≤ n ∧ (n < len * (q + 1) ∨ q = count - 1) := by
  by_cases h : n / len < count
  · exact ⟨n / len, h, Nat.mul_div_le n len, Or.inl (Nat.lt_mul_div_succ n hlen)⟩
  · refine ⟨count - 1, by omega, ?_, Or.inr rfl⟩
    calc len * (count - 1) ≤ len * (n / len) := Nat.mul_le_mul_left len (by omega)
      _ ≤ n := Nat.mul_div_le n len

/-- Every day of an era is a day of one of its years. -/
theorem exists_startOfYear_add {doe : Nat} (h : doe < 146097) :
    ∃ y doy, y < 400 ∧ doy < yearLength y ∧ doe = startOfYear y + doy := by
  -- the century, then the four-year cycle, then the year: the last of each may be a day longer
  obtain ⟨c, hc, hc1, hc2⟩ := exists_block doe 36524 4 (by omega) (by omega)
  obtain ⟨k, hk, hk1, hk2⟩ := exists_block (doe - 36524 * c) 1461 25 (by omega) (by omega)
  obtain ⟨j, hj, hj1, hj2⟩ := exists_block (doe - 36524 * c - 1461 * k) 365 4 (by omega) (by omega)
  refine ⟨100 * c + 4 * k + j, doe - 36524 * c - 1461 * k - 365 * j, by omega, ?_, ?_⟩
  · rw [yearLength_parts c k j hc hk hj]
    split_ifs <;> omega
  · rw [startOfYear_parts c k j hk hj]
    omega

/-- The era, year and day of the year of a day count, with their bounds. -/
theorem eraDay_eq (z : Nat) : ∃ y doy, y < 400 ∧ doy < yearLength y ∧
    z % 146097 = startOfYear y + doy ∧ eraDay z = (z / 146097, y, doy) := by
  obtain ⟨y, doy, hy, hd, hz⟩ := exists_startOfYear_add (Nat.mod_lt z (by omega))
  refine ⟨y, doy, hy, hd, hz, ?_⟩
  simp only [eraDay, hz, yearOfEra_startOfYear_add hy hd, Nat.add_sub_cancel_left]

/-- One more day is the next day of the year, the first day of the next year, or the first day
of the next era. -/
theorem eraDay_succ (z : Nat) : eraDay (z + 1) = nextEraDay (eraDay z) := by
  obtain ⟨y, doy, hy, hd, hz, he⟩ := eraDay_eq z
  have hend := startOfYear_add_yearLength_le hy
  rw [he, nextEraDay]
  split_ifs with h1 h2
  · -- within the year
    have hm : (z + 1) % 146097 = startOfYear y + (doy + 1) := by omega
    have hq : (z + 1) / 146097 = z / 146097 := by omega
    simp only [eraDay, hm, hq, yearOfEra_startOfYear_add hy h1, Nat.add_sub_cancel_left]
  · -- the first day of the next year of the era
    have hlen : 0 < yearLength (y + 1) := by have := yearLength_bounds (y + 1); omega
    have hnext := startOfYear_add_yearLength_le (show y + 1 < 400 by omega)
    rw [startOfYear_succ h2] at hnext
    have hm : (z + 1) % 146097 = startOfYear (y + 1) + 0 := by
      rw [startOfYear_succ h2]
      omega
    have hq : (z + 1) / 146097 = z / 146097 := by omega
    simp only [eraDay, hm, hq, yearOfEra_startOfYear_add (show y + 1 < 400 by omega) hlen,
      Nat.add_sub_cancel_left]
  · -- the last day of the era
    have hy399 : y = 399 := by omega
    subst hy399
    have h399 : startOfYear 399 = 145731 ∧ yearLength 399 = 366 := by decide
    have hlast : z % 146097 = 146096 := by omega
    have hm : (z + 1) % 146097 = 0 := by omega
    have hq : (z + 1) / 146097 = z / 146097 + 1 := by omega
    simp only [eraDay, hm, hq]
    rfl

/-! ## Months of a year that starts in March -/

/-- The month of a day of the year, between the starts of its month and of the next one. -/
theorem monthStart_le {doy : Nat} (h : doy < 366) :
    (5 * doy + 2) / 153 < 12 ∧ monthStart ((5 * doy + 2) / 153) ≤ doy ∧
      doy < monthStart ((5 * doy + 2) / 153 + 1) := by
  unfold monthStart
  omega

/-- A day between the starts of the `i`-th month and the next one is in the `i`-th month. -/
theorem monthIndex_eq {i doy : Nat} (h1 : monthStart i ≤ doy) (h2 : doy < monthStart (i + 1)) :
    (5 * doy + 2) / 153 = i := by
  unfold monthStart at h1 h2
  omega

/-- Outside February, a month of a year that starts in March is as long as its calendar month in
every year. -/
theorem daysInMonth_monthOf {i : Nat} (hi : i < 11) (y : Nat) :
    daysInMonth y (monthOf i) = monthStart (i + 1) - monthStart i := by
  interval_cases i <;> simp [daysInMonth, monthOf, monthStart]

/-- The calendar year in which year `y` of an era ends is a leap year exactly when that year of
the era has 366 days. -/
theorem isLeap_iff {y : Nat} (hy : y < 400) (era : Nat) :
    isLeap (y + era * 400 + 1) = true ↔ (y + 1) % 4 = 0 ∧ ((y + 1) % 100 ≠ 0 ∨ y = 399) := by
  simp only [isLeap, Bool.and_eq_true, Bool.or_eq_true, beq_iff_eq, bne_iff_ne, ne_eq]
  omega

/-- February has the days its year of the era keeps after the eleven months before it. -/
theorem daysInMonth_feb {y : Nat} (hy : y < 400) (era : Nat) :
    daysInMonth (y + era * 400 + 1) 2 = yearLength y - monthStart 11 := by
  rw [daysInMonth, if_pos rfl, yearLength]
  by_cases h : (y + 1) % 4 = 0 ∧ ((y + 1) % 100 ≠ 0 ∨ y = 399)
  · rw [if_pos ((isLeap_iff hy era).2 h), if_pos h]
    rfl
  · rw [if_neg (mt (isLeap_iff hy era).1 h), if_neg h]
    rfl

/-- Each month of a year of an era has the days from its start to the start of the next month,
or to the end of the year for February. -/
theorem daysInMonth_dateOf {y : Nat} (hy : y < 400) (era : Nat) {i : Nat} (hi : i < 12) :
    daysInMonth (y + era * 400 + (if monthOf i ≤ 2 then 1 else 0)) (monthOf i) =
      min (monthStart (i + 1)) (yearLength y) - monthStart i := by
  have hlen := yearLength_bounds y
  rcases Nat.lt_or_ge i 11 with h11 | h11
  · have hs : monthStart (i + 1) ≤ 337 := by unfold monthStart; omega
    rw [daysInMonth_monthOf h11, Nat.min_eq_left (by omega)]
  · obtain rfl : i = 11 := by omega
    rw [show monthOf 11 = 2 from rfl, if_pos (by decide), daysInMonth_feb hy era,
      Nat.min_eq_right (by unfold monthStart; omega)]

/-- The month after the `i`-th month of a year that starts in March: the next calendar month, in
the same calendar year but after December. -/
theorem monthOf_succ {i : Nat} (hi : i < 11) :
    if monthOf i < 12 then
      monthOf (i + 1) = monthOf i + 1 ∧
        (if monthOf (i + 1) ≤ 2 then 1 else 0) = (if monthOf i ≤ 2 then 1 else 0)
    else
      monthOf (i + 1) = 1 ∧
        (if monthOf (i + 1) ≤ 2 then 1 else 0) = (if monthOf i ≤ 2 then 1 else 0) + 1 := by
  interval_cases i <;> decide

/-! ## The next day -/

/-- Every day of a year of an era names a valid date. -/
theorem dateOf_valid {era y doy : Nat} (hy : y < 400) (hd : doy < yearLength y) :
    Valid (dateOf (era, y, doy)) := by
  obtain ⟨hi, hs1, hs2⟩ := monthStart_le (show doy < 366 by have := yearLength_bounds y; omega)
  have hdim := daysInMonth_dateOf hy era hi
  have hm : 1 ≤ monthOf ((5 * doy + 2) / 153) ∧ monthOf ((5 * doy + 2) / 153) ≤ 12 := by
    unfold monthOf
    split_ifs <;> omega
  simp only [dateOf, Valid]
  refine ⟨hm.1, hm.2, by omega, ?_⟩
  rw [hdim]
  omega

/-- A year that starts in March starts on March 1st. -/
theorem dateOf_march_first (era y : Nat) : dateOf (era, y, 0) = (y + era * 400, 3, 1) := by
  simp [dateOf, monthOf, monthStart]

/-- Within a month, the next day of the year is the calendar's next day. -/
theorem dateOf_succ_of_lt_monthEnd {era y doy i : Nat} (hy : y < 400)
    (hI : (5 * doy + 2) / 153 = i) (hs1 : monthStart i ≤ doy) (hi : i < 12)
    (h1 : doy + 1 < min (monthStart (i + 1)) (yearLength y)) :
    dateOf (era, y, doy + 1) = nextDay (dateOf (era, y, doy)) := by
  have hdim := daysInMonth_dateOf hy era hi
  have hI' : (5 * (doy + 1) + 2) / 153 = i := monthIndex_eq (by omega) (by omega)
  simp only [dateOf, hI, hI']
  rw [nextDay_of_lt (by rw [hdim]; omega)]
  simp only [Prod.mk.injEq, true_and]
  omega

/-- On the last day of a month before the end of the year, the next day of the year is the first
day of the next calendar month. -/
theorem dateOf_succ_of_monthEnd {era y doy i : Nat} (hy : y < 400)
    (hI : (5 * doy + 2) / 153 = i) (hs1 : monthStart i ≤ doy) (hs2 : doy < monthStart (i + 1))
    (hi : i < 12) (h1 : min (monthStart (i + 1)) (yearLength y) ≤ doy + 1)
    (h2 : doy + 1 < yearLength y) :
    dateOf (era, y, doy + 1) = nextDay (dateOf (era, y, doy)) := by
  have hlen := yearLength_bounds y
  have hdim := daysInMonth_dateOf hy era hi
  -- February ends the year, so the month is one of the eleven before it
  have hi11 : i < 11 := by
    by_contra h
    have : monthStart (i + 1) ≥ 367 := by unfold monthStart; omega
    omega
  have hms : monthStart (i + 1) ≤ 337 := by unfold monthStart; omega
  rw [Nat.min_eq_left (by omega)] at h1 hdim
  have hI' : (5 * (doy + 1) + 2) / 153 = i + 1 :=
    monthIndex_eq (by omega) (by unfold monthStart at *; omega)
  simp only [dateOf, hI, hI']
  rw [nextDay_of_le (by rw [hdim]; omega)]
  have hm := monthOf_succ hi11
  -- after December the calendar year changes, before it not
  by_cases h12 : monthOf i < 12
  · rw [if_pos h12] at hm
    rw [if_pos h12, hm.2, hm.1]
    simp only [Prod.mk.injEq, true_and]
    omega
  · rw [if_neg h12] at hm
    rw [if_neg h12, hm.2, hm.1]
    simp only [Prod.mk.injEq, true_and]
    omega

/-- Before the end of a year of an era, the next day of the year is the calendar's next day. -/
theorem dateOf_succ {era y doy : Nat} (hy : y < 400) (hd : doy + 1 < yearLength y) :
    dateOf (era, y, doy + 1) = nextDay (dateOf (era, y, doy)) := by
  obtain ⟨i, hI⟩ : ∃ i, (5 * doy + 2) / 153 = i := ⟨_, rfl⟩
  obtain ⟨hi, hs1, hs2⟩ := monthStart_le (show doy < 366 by have := yearLength_bounds y; omega)
  rw [hI] at hi hs1 hs2
  rcases Nat.lt_or_ge (doy + 1) (min (monthStart (i + 1)) (yearLength y)) with h1 | h1
  · exact dateOf_succ_of_lt_monthEnd hy hI hs1 hi h1
  · exact dateOf_succ_of_monthEnd hy hI hs1 hs2 hi h1 hd

/-- The calendar's next day after the last day of a year of an era is March 1st of the calendar
year in which that year ends. -/
theorem nextDay_dateOf_yearEnd {era y doy : Nat} (hy : y < 400) (hd : doy + 1 = yearLength y) :
    nextDay (dateOf (era, y, doy)) = (y + era * 400 + 1, 3, 1) := by
  have hlen := yearLength_bounds y
  obtain ⟨hi, hs1, hs2⟩ := monthStart_le (show doy < 366 by omega)
  -- the last day of a year that starts in March is the last day of its February
  have hI : (5 * doy + 2) / 153 = 11 := by
    by_contra h
    have : monthStart ((5 * doy + 2) / 153 + 1) ≤ 337 := by unfold monthStart; omega
    omega
  rw [hI] at hs1
  have hfeb : dateOf (era, y, doy) = (y + era * 400 + 1, 2, doy - monthStart 11 + 1) := by
    simp only [dateOf, hI]
    rfl
  have hend : daysInMonth (y + era * 400 + 1) 2 ≤ doy - monthStart 11 + 1 := by
    rw [daysInMonth_feb hy era]
    omega
  rw [hfeb, nextDay_of_le hend, if_pos (show 2 < 12 by decide)]

/-- On a year that starts in March, the next day of the year, of the era or of the eras is the
calendar's next day. -/
theorem dateOf_nextEraDay {era y doy : Nat} (hy : y < 400) (hd : doy < yearLength y) :
    dateOf (nextEraDay (era, y, doy)) = nextDay (dateOf (era, y, doy)) := by
  rw [nextEraDay]
  split_ifs with h1 h2
  · exact dateOf_succ hy h1
  · -- the first day of the next year of the era
    rw [nextDay_dateOf_yearEnd hy (by omega), dateOf_march_first]
    simp only [Prod.mk.injEq, and_true]
    omega
  · -- the first day of the next era
    obtain rfl : y = 399 := by omega
    rw [nextDay_dateOf_yearEnd hy (by omega), dateOf_march_first]
    simp only [Prod.mk.injEq, and_true]
    omega

/-! ## Day counts -/

/-- One day count more is the calendar's next day. -/
theorem civilFromDays_succ (days : Nat) : civilFromDays (days + 1) = nextDay (civilFromDays days) := by
  obtain ⟨y, doy, hy, hd, -, he⟩ := eraDay_eq (days + 719468)
  rw [civilFromDays_eq_dateOf, civilFromDays_eq_dateOf, show days + 1 + 719468 = days + 719468 + 1 by omega,
    eraDay_succ, he, dateOf_nextEraDay hy hd]

/-- Every day count names a valid date. -/
theorem civilFromDays_valid (days : Nat) : Valid (civilFromDays days) := by
  obtain ⟨y, doy, hy, hd, -, he⟩ := eraDay_eq (days + 719468)
  rw [civilFromDays_eq_dateOf, he]
  exact dateOf_valid hy hd

example : Valid (2000, 2, 29) ∧ ¬ Valid (1900, 2, 29) ∧ ¬ Valid (2023, 4, 31) := by decide

/-- Day `n` is the date `n` days after 1970-01-01. -/
theorem civilFromDays_eq_iterate (n : Nat) : civilFromDays n = nextDay^[n] (1970, 1, 1) := by
  induction n with
  | zero => rfl
  | succ n ih => rw [civilFromDays_succ, ih, Function.iterate_succ_apply']

/-! ## 64-bit words -/

namespace Word

def size : Nat := 2 ^ 64

def add (a b : Nat) : Option Nat := if a + b < size then some (a + b) else none

def sub (a b : Nat) : Option Nat := if b ≤ a then some (a - b) else none

def mul (a b : Nat) : Option Nat := if a * b < size then some (a * b) else none

theorem add_of_lt {a b : Nat} (h : a + b < size) : add a b = some (a + b) := if_pos h

theorem sub_of_le {a b : Nat} (h : b ≤ a) : sub a b = some (a - b) := if_pos h

theorem mul_of_lt {a b : Nat} (h : a * b < size) : mul a b = some (a * b) := if_pos h

end Word

/-- The year of the era of a day of an era on 64-bit words, each operation checked. -/
def yearOfEraChecked (doe : Nat) : Option Nat := do
  let t ← Word.sub doe (doe / 1460)
  let t ← Word.add t (doe / 36524)
  let t ← Word.sub t (doe / 146096)
  some (t / 365)

/-- The start of a year of an era on 64-bit words, each operation checked. -/
def startOfYearChecked (y : Nat) : Option Nat := do
  let s ← Word.mul 365 y
  let s ← Word.add s (y / 4)
  Word.sub s (y / 100)

/-- The month and day of a day of a year that starts in March on 64-bit words, each operation
checked. -/
def monthDayChecked (doy : Nat) : Option (Nat × Nat) := do
  let mp := (← Word.add (← Word.mul 5 doy) 2) / 153
  let day ← Word.add (← Word.sub doy ((← Word.add (← Word.mul 153 mp) 2) / 5)) 1
  let month ← if mp < 10 then Word.add mp 3 else Word.sub mp 9
  some (month, day)

/-- The date of a day count on 64-bit words, with every addition, subtraction and multiplication
checked: `none` where one of them would wrap around. -/
def civilFromDaysChecked (days : Nat) : Option (Nat × Nat × Nat) := do
  let z ← Word.add days 719468
  let era := z / 146097
  let doe := z % 146097
  let yoe ← yearOfEraChecked doe
  let doy ← Word.sub doe (← startOfYearChecked yoe)
  let (month, day) ← monthDayChecked doy
  let year ← Word.add (← Word.add yoe (← Word.mul era 400)) (if month ≤ 2 then 1 else 0)
  some (year, month, day)

theorem yearOfEraChecked_eq {doe : Nat} (h : doe < 146097) :
    yearOfEraChecked doe = some (yearOfEra doe) := by
  simp (disch := ((try unfold Word.size); omega)) only [yearOfEraChecked, Word.add_of_lt, Word.sub_of_le,
    Option.bind_eq_bind, Option.bind_some]
  rfl

theorem startOfYearChecked_eq {y : Nat} (h : y < 400) :
    startOfYearChecked y = some (startOfYear y) := by
  simp (disch := ((try unfold Word.size); omega)) only [startOfYearChecked, Word.add_of_lt, Word.sub_of_le,
    Word.mul_of_lt, Option.bind_eq_bind, Option.bind_some]
  rfl

theorem monthDayChecked_eq {doy : Nat} (h : doy < 366) :
    monthDayChecked doy = some (monthOf ((5 * doy + 2) / 153),
      doy - monthStart ((5 * doy + 2) / 153) + 1) := by
  obtain ⟨hi, hs1, -⟩ := monthStart_le h
  unfold monthStart at hs1
  simp (disch := ((try unfold Word.size); omega)) only [monthDayChecked, Word.add_of_lt, Word.sub_of_le,
    Word.mul_of_lt, Option.bind_eq_bind, Option.bind_some]
  unfold monthOf monthStart
  split_ifs <;> rfl

/-- For the day count of every 64-bit count of seconds, no operation wraps around, and the date
is the one of `civilFromDays`. -/
theorem civilFromDaysChecked_eq {days : Nat} (h : days ≤ (2 ^ 64 - 1) / 86400) :
    civilFromDaysChecked days = some (civilFromDays days) := by
  obtain ⟨y, doy, hy, hd, hz, he⟩ := eraDay_eq (days + 719468)
  have hlen := yearLength_bounds y
  rw [civilFromDays_eq_dateOf, he]
  simp only [eraDay, Prod.mk.injEq] at he
  obtain ⟨-, hyoe, hdoy⟩ := he
  rw [hyoe] at hdoy
  -- the day count and the era's years stay far below 2^64
  have hdays : days + 719468 < Word.size := by unfold Word.size; omega
  have hera : (days + 719468) / 146097 * 400 < Word.size := by unfold Word.size; omega
  have hyoe' : y + (days + 719468) / 146097 * 400 < Word.size := by unfold Word.size; omega
  have hstart : startOfYear y ≤ (days + 719468) % 146097 := by omega
  -- each bind of the checked computation gets its value in turn
  unfold civilFromDaysChecked
  rw [Word.add_of_lt hdays, Option.bind_eq_bind, Option.bind_some]
  dsimp only
  rw [yearOfEraChecked_eq (Nat.mod_lt _ (show 146097 > 0 by omega)), Option.bind_some, hyoe,
    startOfYearChecked_eq hy, Option.bind_some, Word.sub_of_le hstart, Option.bind_some, hdoy,
    monthDayChecked_eq (show doy < 366 by omega), Option.bind_eq_bind, Option.bind_some,
    Word.mul_of_lt hera, Option.bind_some, Word.add_of_lt hyoe', Option.bind_some]
  dsimp only
  have hyear : y + (days + 719468) / 146097 * 400 +
      (if monthOf ((5 * doy + 2) / 153) ≤ 2 then 1 else 0) < Word.size := by
    unfold Word.size
    split_ifs <;> omega
  rw [Word.add_of_lt hyear, Option.bind_some]
  simp only [dateOf]

/-! ## Timestamps -/

/-- The text of a date and a time of day: `YYYY-MM-DDTHH:MM:SS.mmmZ`. -/
def stamp (date : Nat × Nat × Nat) (h mi s ms : Nat) : String :=
  pad 4 date.1 ++ "-" ++ pad 2 date.2.1 ++ "-" ++ pad 2 date.2.2 ++ "T" ++ pad 2 h ++ ":" ++ pad 2 mi
    ++ ":" ++ pad 2 s ++ "." ++ pad 3 ms ++ "Z"

/-- A timestamp names the instant `secs` seconds after the epoch: the date `secs / 86400` days
after 1970-01-01, and the hours, minutes and seconds of the rest of the seconds. -/
theorem formatUtc_eq_stamp (secs millis : Nat) :
    ∃ h mi s, h < 24 ∧ mi < 60 ∧ s < 60 ∧ secs = 86400 * (secs / 86400) + 3600 * h + 60 * mi + s ∧
      formatUtc secs millis = stamp (nextDay^[secs / 86400] (1970, 1, 1)) h mi s millis := by
  refine ⟨secs % 86400 / 3600, secs % 3600 / 60, secs % 60, by omega, by omega, by omega, by omega, ?_⟩
  rw [← civilFromDays_eq_iterate]
  unfold formatUtc stamp
  generalize civilFromDays (secs / 86400) = date
  obtain ⟨y, m, d⟩ := date
  rfl

/-! ## The calendar of day counts -/

/-- The day counts of timestamps follow the proleptic Gregorian calendar. Day 0 is 1970-01-01,
every day count names a valid date (a month from 1 to 12 and a day within its month, February
having 29 days exactly in the years divisible by 4 and not by 100 unless by 400), and each next
day count is the calendar's next day, so day `n` is the date `n` days after the epoch. On 64-bit
words no step of the computation wraps around for the day count of any 64-bit count of seconds.
A timestamp therefore names the instant its seconds count from the epoch. -/
theorem civilFromDays_gregorian :
    civilFromDays 0 = (1970, 1, 1) ∧
    (∀ days, Valid (civilFromDays days)) ∧
    (∀ days, civilFromDays (days + 1) = nextDay (civilFromDays days)) ∧
    (∀ days, civilFromDays days = nextDay^[days] (1970, 1, 1)) ∧
    (∀ days, days ≤ (2 ^ 64 - 1) / 86400 → civilFromDaysChecked days = some (civilFromDays days)) ∧
    (∀ secs millis, ∃ h mi s, h < 24 ∧ mi < 60 ∧ s < 60 ∧
      secs = 86400 * (secs / 86400) + 3600 * h + 60 * mi + s ∧
      formatUtc secs millis = stamp (nextDay^[secs / 86400] (1970, 1, 1)) h mi s millis) :=
  ⟨rfl, civilFromDays_valid, civilFromDays_succ, civilFromDays_eq_iterate,
    fun _ h => civilFromDaysChecked_eq h, formatUtc_eq_stamp⟩

/-- The last day count of a 64-bit count of seconds is 584554051223-11-09, computed without a
wrap-around; day 11016 is the leap day 2000-02-29. -/
theorem civilFromDays_at_limit :
    (2 ^ 64 - 1) / 86400 ≤ (2 ^ 64 - 1) / 86400 ∧
      civilFromDaysChecked ((2 ^ 64 - 1) / 86400) = some (584554051223, 11, 9) ∧
      civilFromDays 11016 = (2000, 2, 29) := by
  refine ⟨le_rfl, ?_, by decide⟩
  rw [civilFromDays_gregorian.2.2.2.2.1 _ le_rfl]
  decide

end FormatEngine.Clock
