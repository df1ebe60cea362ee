import Stencil.Filter.Time
import Stencil.Proofs.Numeric.WholeNumbers

/-!
# Whole numbers as dates

A whole number counts seconds since the epoch, or milliseconds when it is large. Every moment of the
calendar is a number of milliseconds that binary64 has, so no date is moved by the way its number is
read. What is rounded or does not fit 64 bits lies outside the calendar and stays there.
-/

namespace Stencil

namespace Calendar

/-- The first millisecond of the calendar. -/
def firstMillis : Int := firstDay * 86400000

/-- The last millisecond of the calendar. -/
def lastMillis : Int := lastDay * 86400000 + 86399999

theorem firstMillis_eq : firstMillis = -8334601228800000 := by decide

theorem lastMillis_eq : lastMillis = 8210266876799999 := by decide

namespace Instant

variable {m : Int}

/-- The calendar has a moment if it has the day of that moment. -/
theorem inCalendar_iff (m : Int) :
    inCalendar (m / 1000 / 86400) = true ↔ firstMillis ≤ m ∧ m ≤ lastMillis := by
  simp only [inCalendar, Bool.and_eq_true, decide_eq_true_eq, firstMillis, lastMillis]
  omega

theorem ofMillis_of_mem (hFirst : firstMillis ≤ m) (hLast : m ≤ lastMillis) :
    ofMillis? m = some ⟨m / 1000, false⟩ := by
  rw [ofMillis?, ofSeconds?, if_pos ((inCalendar_iff m).2 ⟨hFirst, hLast⟩)]

theorem ofMillis_of_not_mem (h : ¬(firstMillis ≤ m ∧ m ≤ lastMillis)) : ofMillis? m = none := by
  rw [ofMillis?, ofSeconds?, if_neg (mt (inCalendar_iff m).1 h)]

/-- The calendar takes less than 53 bits. -/
theorem ofMillis_of_le (h : 2 ^ 53 ≤ m.natAbs) : ofMillis? m = none := by
  apply ofMillis_of_not_mem
  rw [firstMillis_eq, lastMillis_eq]
  omega

end Instant
end Calendar

namespace Filter

open Calendar

/-- The milliseconds since the epoch that a whole number means. -/
def millisOf (n : Int) : Int := if n.natAbs < 10000000000 then 1000 * n else n

/-- Nothing of the calendar is lost by keeping to 64 bits. -/
theorem ofMillis_clamp64 (m : Int) : Instant.ofMillis? (clamp64 m) = Instant.ofMillis? m := by
  have hMin : Int64.minValue.toInt = -2 ^ 63 := by decide
  have hMax : Int64.maxValue.toInt = 2 ^ 63 - 1 := by decide
  by_cases h : m.natAbs < 2 ^ 53
  · have hSame : clamp64 m = m := by
      rw [clamp64, hMin, hMax]
      omega
    rw [hSame]
  · have hFar : 2 ^ 53 ≤ (clamp64 m).natAbs := by
      rw [clamp64, hMin, hMax]
      omega
    rw [Instant.ofMillis_of_le hFar, Instant.ofMillis_of_le (Nat.le_of_not_lt h)]

section

variable {n : Int}

theorem millisThreshold_le_iff (h : n.natAbs ≤ 2 ^ 64) :
    millisThreshold.magnitude ≤ (Binary64.ofInt n).magnitude ↔ 10000000000 ≤ n.natAbs := by
  have hThreshold : millisThreshold.magnitude = 10000000000 * Binary64.unit :=
    Binary64.magnitude_ofNat (by decide)
  rw [hThreshold]
  constructor
  · intro hLe
    by_contra hLt
    rw [Binary64.magnitude_ofInt (by omega)] at hLe
    exact hLt (Nat.le_of_mul_le_mul_right hLe Binary64.unit_pos)
  · intro hLe
    exact Binary64.le_magnitude_ofInt (Binary64.hasWhole_of_le (by decide)) hLe h

/-- A number is rounded only where the calendar has ended. -/
theorem ofMillis_truncate (h : n.natAbs ≤ 2 ^ 64) :
    Instant.ofMillis? (Binary64.ofInt n).truncate = Instant.ofMillis? n := by
  by_cases hShort : n.natAbs ≤ 2 ^ 53
  · rw [Binary64.truncate_ofInt hShort]
  · have hRounded := Binary64.le_magnitude_ofInt (Binary64.hasWhole_of_le (Nat.le_refl (2 ^ 53)))
      (by omega) h
    have hFar : 2 ^ 53 ≤ (Binary64.ofInt n).truncate.natAbs := by
      rw [Binary64.natAbs_truncate]
      exact (Nat.le_div_iff_mul_le Binary64.unit_pos).2 hRounded
    rw [Instant.ofMillis_of_le hFar, Instant.ofMillis_of_le (by omega)]

theorem instantOfNumber_ofInt (h : n.natAbs ≤ 2 ^ 64) :
    instantOfNumber? (Binary64.ofInt n) = Instant.ofMillis? (millisOf n) := by
  simp only [instantOfNumber?, millisThreshold_le_iff h, millisOf, ofMillis_clamp64]
  by_cases hLarge : 10000000000 ≤ n.natAbs
  · rw [if_pos hLarge, if_neg (Nat.not_lt.2 hLarge), Option.bind_some, ofMillis_truncate h]
  · obtain ⟨q, hq, hTruncate⟩ := Binary64.exists_mul_ofNat (n := n) (k := 1000) (by omega)
      (by decide) (by omega)
    rw [if_neg hLarge, if_pos (Nat.lt_of_not_le hLarge), thousand, hq, Option.bind_some, hTruncate,
      Int.mul_comm]
    rfl

theorem instantOf_int (h : n.natAbs ≤ 2 ^ 64) :
    instantOf? (.number (.int n)) = Instant.ofMillis? (millisOf n) := by
  rw [instantOf?, Number.toBinary64, instantOfNumber_ofInt h]

end

/-- An instant written in the format that an argument asks for. -/
def written (argument : Option String) (t : Instant) : Json :=
  .string (String.ofList (t.format ((argument.map String.toList).getD defaultFormat)))

section

variable {n : Int} {v : Json} {t : Instant}

theorem dateOf_of_some (h : instantOf? v = some t) (argument : Option String) :
    dateOf argument v = written argument t := by
  rw [dateOf, h]
  rfl

theorem dateOf_of_none (h : instantOf? v = none) (argument : Option String) :
    dateOf argument v = v := by
  rw [dateOf, h]

theorem dateOf_seconds (h : n.natAbs < 10000000000) (argument : Option String) :
    dateOf argument (.number (.int n)) = written argument ⟨n, false⟩ := by
  apply dateOf_of_some
  have hMem : firstMillis ≤ 1000 * n ∧ 1000 * n ≤ lastMillis := by
    rw [firstMillis_eq, lastMillis_eq]
    omega
  rw [instantOf_int (by omega), millisOf, if_pos h, Instant.ofMillis_of_mem hMem.1 hMem.2,
    Int.mul_ediv_cancel_left _ (by decide)]

theorem dateOf_millis (hLarge : 10000000000 ≤ n.natAbs) (hFirst : firstMillis ≤ n)
    (hLast : n ≤ lastMillis) (argument : Option String) :
    dateOf argument (.number (.int n)) = written argument ⟨n / 1000, false⟩ := by
  apply dateOf_of_some
  have hShort : n.natAbs ≤ 2 ^ 64 := by
    rw [firstMillis_eq] at hFirst
    rw [lastMillis_eq] at hLast
    omega
  rw [instantOf_int hShort, millisOf, if_neg (Nat.not_lt.2 hLarge),
    Instant.ofMillis_of_mem hFirst hLast]

theorem dateOf_outside (h : n.natAbs ≤ 2 ^ 64) (hLarge : 10000000000 ≤ n.natAbs)
    (hOutside : ¬(firstMillis ≤ n ∧ n ≤ lastMillis)) (argument : Option String) :
    dateOf argument (.number (.int n)) = .number (.int n) := by
  apply dateOf_of_none
  rw [instantOf_int h, millisOf, if_neg (Nat.not_lt.2 hLarge),
    Instant.ofMillis_of_not_mem hOutside]

end

/-- A whole number of 64 bits below ten thousand million is written as the moment so many seconds
after the epoch, a larger one as the moment so many milliseconds after it, and it stays as it is
just when the calendar does not have that moment. So seconds and the milliseconds that make them up
are written in the same way. -/
theorem dateOf_int {n : Int} (hLow : -2 ^ 63 ≤ n) (hHigh : n < 2 ^ 64) (argument : Option String) :
    (n.natAbs < 10000000000 →
        dateOf argument (.number (.int n)) = written argument ⟨n, false⟩) ∧
      (10000000000 ≤ n.natAbs → firstMillis ≤ n ∧ n ≤ lastMillis →
        dateOf argument (.number (.int n)) = written argument ⟨n / 1000, false⟩) ∧
      (dateOf argument (.number (.int n)) = .number (.int n) ↔
        10000000000 ≤ n.natAbs ∧ ¬(firstMillis ≤ n ∧ n ≤ lastMillis)) ∧
      ∀ s : Int, 10000000 ≤ s.natAbs → s.natAbs < 10000000000 →
        dateOf argument (.number (.int s)) = written argument ⟨s, false⟩ ∧
          dateOf argument (.number (.int (1000 * s))) = written argument ⟨s, false⟩ := by
  refine ⟨fun h => dateOf_seconds h argument, fun h hMem => dateOf_millis h hMem.1 hMem.2 argument,
    ⟨fun hSame => ?_, fun ⟨hLarge, hOutside⟩ => ?_⟩, fun s hLeast hs => ⟨?_, ?_⟩⟩
  · -- A written moment is a string and no number.
    refine ⟨?_, fun ⟨hFirst, hLast⟩ => ?_⟩
    · by_contra hSmall
      rw [dateOf_seconds (Nat.lt_of_not_le hSmall)] at hSame
      cases hSame
    · by_cases hLarge : 10000000000 ≤ n.natAbs
      · rw [dateOf_millis hLarge hFirst hLast] at hSame
        cases hSame
      · rw [dateOf_seconds (Nat.lt_of_not_le hLarge)] at hSame
        cases hSame
  · exact dateOf_outside (by omega) hLarge hOutside argument
  · exact dateOf_seconds hs argument
  · have hMem : firstMillis ≤ 1000 * s ∧ 1000 * s ≤ lastMillis := by
      rw [firstMillis_eq, lastMillis_eq]
      omega
    rw [dateOf_millis (by omega) hMem.1 hMem.2, Int.mul_ediv_cancel_left _ (by decide)]

/-- The last millisecond of the calendar. -/
theorem dateOf_int_lastMillis :
    let n : Int := 8210266876799999
    n < 2 ^ 64 ∧ -2 ^ 63 ≤ n ∧ 10000000000 ≤ n.natAbs ∧ (firstMillis ≤ n ∧ n ≤ lastMillis) ∧
      dateOf none (.number (.int n)) = .string "+262142-12-31 23:59:59" := by
  intro n
  obtain ⟨-, hMillis, -, -⟩ := dateOf_int (n := n) (by decide) (by decide) none
  have hWritten := hMillis (by decide) (by decide)
  have hText : written none ⟨n / 1000, false⟩ = .string "+262142-12-31 23:59:59" :=
    congrArg Json.string (by decide +kernel)
  exact ⟨by decide, by decide, by decide, by decide, hWritten.trans hText⟩

end Filter
end Stencil
