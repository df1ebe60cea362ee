import Mathlib
import Stencil.Calendar.Civil

/-!
# Days and dates

Every number of days is the number of days of its date, and the calendar has that date. An era falls
into centuries, these into spans of four years, and these into years. The leap day is the last day
of a span, and only the last span of a century has none, unless the century is the last one of its
era.
-/

namespace Stencil.Calendar.Civil

/-- A day of an era. The years begin in March, so the leap day has the number 365. -/
structure EraDay where
  century : Int
  span : Int
  year : Int
  day : Int
  century_mem : 0 ≤ century ∧ century ≤ 3
  span_mem : 0 ≤ span ∧ span ≤ 24
  year_mem : 0 ≤ year ∧ year ≤ 3
  day_mem : 0 ≤ day ∧ day ≤ 365
  leap : day = 365 → year = 3 ∧ (span < 24 ∨ century = 3)

namespace EraDay

def dayOfEra (d : EraDay) : Int := 36524 * d.century + 1461 * d.span + 365 * d.year + d.day

def yearOfEra (d : EraDay) : Int := 100 * d.century + 4 * d.span + d.year

/-- Whole centuries first, then whole spans, then whole years. The last part of each kind may be a
day longer than the others. -/
theorem exists_dayOfEra_eq {z : Int} (h0 : 0 ≤ z) (h1 : z < daysPerEra) :
    ∃ d : EraDay, d.dayOfEra = z := by
  rw [daysPerEra] at h1
  obtain ⟨a, ha, hx0, hx1, hLast⟩ : ∃ a : Int, (0 ≤ a ∧ a ≤ 3) ∧ 0 ≤ z - 36524 * a ∧
      z - 36524 * a ≤ 36524 ∧ (z - 36524 * a = 36524 → a = 3) := ⟨min (z / 36524) 3, by omega⟩
  generalize hx : z - 36524 * a = x at hx0 hx1 hLast
  obtain ⟨b, hb, hy0, hy1⟩ : ∃ b : Int, (0 ≤ b ∧ b ≤ 24) ∧ 0 ≤ x - 1461 * b ∧
      x - 1461 * b ≤ 1460 := ⟨x / 1461, by omega⟩
  generalize hy : x - 1461 * b = y at hy0 hy1
  let k := min (y / 365) 3
  have hk : 0 ≤ k ∧ k ≤ 3 := by omega
  have hr : 0 ≤ y - 365 * k ∧ y - 365 * k ≤ 365 := by omega
  have hLeap : y - 365 * k = 365 → k = 3 ∧ (b < 24 ∨ a = 3) := by omega
  refine ⟨⟨a, b, k, y - 365 * k, ha, hb, hk, hr, hLeap⟩, ?_⟩
  simp only [dayOfEra]
  omega

variable (d : EraDay)

theorem dayOfEra_mem : 0 ≤ d.dayOfEra ∧ d.dayOfEra < daysPerEra := by
  obtain ⟨century, span, year, day, hCentury, hSpan, hYear, hDay, hLeap⟩ := d
  simp only [dayOfEra, daysPerEra]
  omega

theorem yearOfEra_mem : 0 ≤ d.yearOfEra ∧ d.yearOfEra < 400 := by
  obtain ⟨century, span, year, day, hCentury, hSpan, hYear, hDay, hLeap⟩ := d
  simp only [yearOfEra]
  omega

/-- The days of the years before, of which every fourth has a leap day and every hundredth not. -/
theorem dayOfEra_eq :
    d.dayOfEra = 365 * d.yearOfEra + d.yearOfEra / 4 - d.yearOfEra / 100 + d.day := by
  obtain ⟨century, span, year, day, hCentury, hSpan, hYear, hDay, hLeap⟩ := d
  simp only [dayOfEra, yearOfEra]
  omega

/-- Without the leap days before it, a day stands 365 days behind the day a year earlier. -/
theorem yearOfEra_eq :
    (d.dayOfEra - d.dayOfEra / 1460 + d.dayOfEra / 36524 - d.dayOfEra / 146096) / 365 =
      d.yearOfEra := by
  obtain ⟨a, b, k, r, ha, hb, hk, hr, hLeap⟩ := d
  simp only [dayOfEra, yearOfEra]
  generalize hz : 36524 * a + 1461 * b + 365 * k + r = z
  have hCenturies : z / 36524 - z / 146096 = a := by
    by_cases hLast : z = 146096
    · omega
    · have hEra : z / 146096 = 0 := by omega
      have hCentury : z / 36524 = a := by omega
      omega
  -- The last days of a span may already count as a leap day that is over.
  have hSpans : (z / 1460 = 25 * a + b ∧ 24 * a + b + 365 * k + r < 1460) ∨
      (z / 1460 = 25 * a + b + 1 ∧ 1460 ≤ 24 * a + b + 365 * k + r) := by omega
  rcases hSpans with ⟨h, hLt⟩ | ⟨h, hLe⟩
  · omega
  · omega

/-- A leap day lies in February of a leap year. -/
theorem isLeapYear_of_day_eq (era : Int) (h : d.day = 365) :
    isLeapYear (d.yearOfEra + era * 400 + 1) = true := by
  obtain ⟨century, span, year, day, hCentury, hSpan, hYear, hDay, hLeap⟩ := d
  obtain ⟨rfl, hLast⟩ := hLeap h
  simp only [yearOfEra, isLeapYear, Bool.and_eq_true, Bool.or_eq_true, beq_iff_eq, bne_iff_ne]
  omega

end EraDay

/-- The months from March on. -/
def monthOfYear (day : Int) : Int := (5 * day + 2) / 153

/-- Every day lies in some era. -/
theorem exists_eraDay (days : Int) :
    ∃ (era : Int) (d : EraDay), days = era * daysPerEra + d.dayOfEra - epochOffset := by
  obtain ⟨d, hd⟩ := EraDay.exists_dayOfEra_eq (z := (days + epochOffset) % daysPerEra)
    (Int.emod_nonneg _ (by decide)) (Int.emod_lt_of_pos _ (by decide))
  refine ⟨(days + epochOffset) / daysPerEra, d, ?_⟩
  rw [hd]
  simp only [daysPerEra, epochOffset]
  omega

/-- The date of a day of an era. Before March a year is counted as the one before. -/
theorem ofDays_eraDay (era : Int) (d : EraDay) :
    ofDays (era * daysPerEra + d.dayOfEra - epochOffset) =
      let m := monthOfYear d.day
      let month := if m < 10 then m + 3 else m - 9
      ⟨if month ≤ 2 then d.yearOfEra + era * 400 + 1 else d.yearOfEra + era * 400, month.toNat,
        (d.day - (153 * m + 2) / 5 + 1).toNat⟩ := by
  obtain ⟨h0, h1⟩ := d.dayOfEra_mem
  have hEra : (era * daysPerEra + d.dayOfEra) / daysPerEra = era := by
    rw [daysPerEra] at *
    omega
  have hDay : (era * daysPerEra + d.dayOfEra) % daysPerEra = d.dayOfEra := by
    rw [daysPerEra] at *
    omega
  have hDayOfYear :
      d.dayOfEra - (365 * d.yearOfEra + d.yearOfEra / 4 - d.yearOfEra / 100) = d.day := by
    rw [d.dayOfEra_eq]
    omega
  simp only [ofDays, Int.sub_add_cancel, hEra, hDay, d.yearOfEra_eq, hDayOfYear, monthOfYear]
  rfl

/-- The months begin after 0, 31, 61, 92, 122, 153, 184, 214, 245, 275, 306 and 337 days. -/
theorem monthOfYear_mem (d : EraDay) :
    0 ≤ monthOfYear d.day ∧ monthOfYear d.day ≤ 11 ∧
      0 ≤ d.day - (153 * monthOfYear d.day + 2) / 5 := by
  have hDay := d.day_mem
  rw [monthOfYear]
  omega

/-- No day is lost on the way to a date and back. -/
theorem days_ofDays (days : Int) : (ofDays days).days = days := by
  obtain ⟨era, d, rfl⟩ := exists_eraDay days
  obtain ⟨h0, h1⟩ := d.yearOfEra_mem
  obtain ⟨hm0, hm1, hDay⟩ := monthOfYear_mem d
  rw [ofDays_eraDay, d.dayOfEra_eq]
  generalize monthOfYear d.day = m at *
  by_cases hm : m < 10
  · have hMonth : ¬ m + 3 ≤ 2 := by omega
    have hMonthNat : ¬ (m + 3).toNat ≤ 2 := by omega
    simp only [Civil.days, hm, hMonth, hMonthNat, ↓reduceIte, daysPerEra]
    omega
  · have hMonth : m - 9 ≤ 2 := by omega
    have hMonthNat : (m - 9).toNat ≤ 2 := by omega
    simp only [Civil.days, hm, hMonth, hMonthNat, ↓reduceIte, daysPerEra]
    omega

theorem daysInMonth_february (year : Int) :
    daysInMonth year 2 = if isLeapYear year then 29 else 28 := rfl

/-- The calendar has the date of every day. -/
theorem exists_ofDays (days : Int) : (ofDays days).exists? = true := by
  obtain ⟨era, d, rfl⟩ := exists_eraDay days
  have hLeap := d.isLeapYear_of_day_eq era
  obtain ⟨hd0, hd1⟩ := d.day_mem
  have hm : monthOfYear d.day = (5 * d.day + 2) / 153 := rfl
  rw [ofDays_eraDay]
  generalize monthOfYear d.day = m at hm
  simp only [exists?, Bool.and_eq_true, decide_eq_true_eq, and_assoc]
  by_cases hMarch : m < 10
  · have hFebruary : (m + 3).toNat ≠ 2 := by omega
    simp only [hMarch, ↓reduceIte, daysInMonth, hFebruary]
    refine ⟨by omega, by omega, by omega, ?_⟩
    split <;> omega
  · have hBefore : m - 9 ≤ 2 := by omega
    simp only [hMarch, hBefore, ↓reduceIte]
    refine ⟨by omega, by omega, by omega, ?_⟩
    obtain rfl | rfl : m = 10 ∨ m = 11 := by omega
    · have hJanuary : daysInMonth (d.yearOfEra + era * 400 + 1) (10 - 9 : Int).toNat = 31 := rfl
      rw [hJanuary]
      omega
    · have hTwo : (11 - 9 : Int).toNat = 2 := rfl
      rw [hTwo, daysInMonth_february]
      by_cases hLast : d.day = 365
      · rw [hLeap hLast, hLast]
        decide
      · split <;> omega

end Stencil.Calendar.Civil
