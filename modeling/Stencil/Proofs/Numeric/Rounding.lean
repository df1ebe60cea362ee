import Mathlib.Data.Nat.Dist
import Stencil.Numeric.Binary64

/-!
# Rounding to the nearest number

`exists_round` says all that is needed of rounding: what is not larger than every number is rounded
to a number, and no other one is nearer. The rest follows from that. What lies above or below a
number is not rounded past it, a number is rounded to itself, and rounding moves nothing further than
half a step of the grid around it.
-/

namespace Stencil.Binary64

/-- No number is nearer to `num / den` units, whatever its sign. -/
def IsNearest (num den : Nat) (x : Binary64) : Prop :=
  ∀ y : Binary64, Nat.dist num (x.magnitude * den) ≤ Nat.dist num (y.magnitude * den)

theorem unit_pos : 0 < unit := by decide +kernel

theorem exists_unit_eq : ∃ s, s = 1074 ∧ unit = 2 ^ s := ⟨1074, rfl, by decide +kernel⟩

theorem magnitude_eq (x : Binary64) : x.magnitude = x.significand * 2 ^ x.shift := rfl

/-! ### Multiples -/

section

variable {num den : Nat}

theorem nearestEven_cases (num den : Nat) :
    (nearestEven num den = num / den ∧ 2 * (num % den) ≤ den) ∨
      (nearestEven num den = num / den + 1 ∧ den ≤ 2 * (num % den)) := by
  simp only [nearestEven]
  split
  · exact .inl ⟨rfl, by omega⟩
  · split
    · exact .inr ⟨rfl, by omega⟩
    · split
      · exact .inl ⟨rfl, by omega⟩
      · exact .inr ⟨rfl, by omega⟩

theorem two_mul_dist_nearestEven_le (num : Nat) (hDen : 0 < den) :
    2 * Nat.dist num (nearestEven num den * den) ≤ den := by
  have hNum := Nat.div_add_mod' num den
  have hMod := Nat.mod_lt num hDen
  simp only [Nat.dist]
  rcases nearestEven_cases num den with ⟨hEq, hHalf⟩ | ⟨hEq, hHalf⟩
  · rw [hEq]
    omega
  · have hNext : (num / den + 1) * den = num / den * den + den := Nat.succ_mul _ _
    rw [hEq, hNext]
    omega

/-- No multiple is nearer. Another one is at least a whole step away from the chosen one. -/
theorem dist_nearestEven_le (num : Nat) (hDen : 0 < den) (k : Nat) :
    Nat.dist num (nearestEven num den * den) ≤ Nat.dist num (k * den) := by
  have hHalf := two_mul_dist_nearestEven_le num hDen
  simp only [Nat.dist] at *
  rcases Nat.lt_trichotomy k (nearestEven num den) with h | h | h
  · have hStep := Nat.mul_le_mul_right den h
    rw [Nat.succ_mul] at hStep
    omega
  · rw [h]
  · have hStep := Nat.mul_le_mul_right den h
    rw [Nat.succ_mul] at hStep
    omega

theorem nearestEven_le {bound : Nat} (hDen : 0 < den) (h : num ≤ bound * den) :
    nearestEven num den ≤ bound := by
  have hDiv : num / den ≤ bound := Nat.div_le_of_le_mul (by rwa [Nat.mul_comm] at h)
  rcases nearestEven_cases num den with ⟨hEq, -⟩ | ⟨hEq, hHalf⟩
  · rwa [hEq]
  · have hNe : num / den ≠ bound := by
      rintro rfl
      have hNum := Nat.div_add_mod' num den
      omega
    omega

theorem le_nearestEven {bound : Nat} (hDen : 0 < den) (h : bound * den ≤ num) :
    bound ≤ nearestEven num den := by
  have hDiv : bound ≤ num / den := (Nat.le_div_iff_mul_le hDen).2 h
  rcases nearestEven_cases num den with ⟨hEq, -⟩ | ⟨hEq, -⟩ <;> omega

end

/-! ### Grids -/

/-- A number is a multiple of a power of two, or else it is below the numbers that have this power
as their last place. -/
theorem magnitude_cases (y : Binary64) (s : Nat) :
    (∃ k, y.magnitude = k * 2 ^ s) ∨ (0 < s ∧ y.magnitude < 2 ^ 52 * 2 ^ s) := by
  rw [magnitude_eq]
  rcases Nat.lt_or_ge y.shift s with h | h
  · refine .inr ⟨Nat.zero_lt_of_lt h, ?_⟩
    calc y.significand * 2 ^ y.shift < 2 ^ 53 * 2 ^ y.shift :=
          Nat.mul_lt_mul_of_pos_right y.significand_lt (Nat.two_pow_pos _)
      _ = 2 ^ 52 * 2 ^ (y.shift + 1) := by rw [Nat.pow_succ]; omega
      _ ≤ 2 ^ 52 * 2 ^ s := Nat.mul_le_mul_left _ (Nat.pow_le_pow_right (by decide) h)
  · refine .inl ⟨y.significand * 2 ^ (y.shift - s), ?_⟩
    rw [Nat.mul_assoc, ← Nat.pow_add, Nat.sub_add_cancel h]

/-- From `2 ^ 53` steps of a grid on, only every second one is taken by a number. -/
theorem dvd_magnitude {x : Binary64} {s : Nat} (h : 2 ^ 53 * 2 ^ s ≤ x.magnitude) :
    2 ^ (s + 1) ∣ x.magnitude := by
  rcases x.magnitude_cases (s + 1) with ⟨k, hk⟩ | ⟨-, hLt⟩
  · exact ⟨k, by rw [hk, Nat.mul_comm]⟩
  · rw [Nat.pow_succ] at hLt
    omega

/-- Every point of a grid is a number as long as it takes no more than 53 bits. -/
theorem exists_magnitude_eq {k s : Nat} (hk : k ≤ 2 ^ 53) (hs : s ≤ 2044) :
    ∃ y : Binary64, y.magnitude = k * 2 ^ s := by
  rcases Nat.eq_zero_or_pos k with rfl | hPos
  · exact ⟨zero false, by simp⟩
  rcases Nat.eq_or_lt_of_le hk with rfl | hLt
  · refine ⟨⟨false, 2 ^ 52, s + 1, by decide, .inl (Nat.le_refl _), by omega⟩, ?_⟩
    simp only [magnitude_eq, Nat.pow_succ]
    omega
  -- The significand is made as long as it can be.
  have hLog : k.log2 < 53 := (Nat.log2_lt hPos.ne').2 hLt
  let j := min (52 - k.log2) s
  have hShort : k * 2 ^ j < 2 ^ 53 :=
    calc k * 2 ^ j < 2 ^ (k.log2 + 1) * 2 ^ j :=
          Nat.mul_lt_mul_of_pos_right Nat.lt_log2_self (Nat.two_pow_pos _)
      _ = 2 ^ (k.log2 + 1 + j) := (Nat.pow_add _ _ _).symm
      _ ≤ 2 ^ 53 := Nat.pow_le_pow_right (by decide) (by omega)
  have hLong : 2 ^ 52 ≤ k * 2 ^ j ∨ s - j = 0 := by
    rcases Nat.lt_or_ge (52 - k.log2) s with h | h
    · left
      calc 2 ^ 52 = 2 ^ k.log2 * 2 ^ j := by rw [← Nat.pow_add]; congr 1; omega
        _ ≤ k * 2 ^ j := Nat.mul_le_mul_right _ (Nat.log2_self_le hPos.ne')
    · right
      omega
  refine ⟨⟨false, k * 2 ^ j, s - j, hShort, hLong, by omega⟩, ?_⟩
  have hShift : j + (s - j) = s := by omega
  simp only [magnitude_eq]
  rw [Nat.mul_assoc, ← Nat.pow_add, hShift]

/-! ### Rounding -/

section

variable {num den : Nat}

/-- The shift is the one for which the quotient takes 53 bits, or zero for a shorter quotient. -/
theorem binade {s : Nat} (hDen : 0 < den) (hs : s = (num / den).log2 - 52) :
    num < 2 ^ 53 * (den * 2 ^ s) ∧ (s = 0 ∨ 2 ^ 52 * (den * 2 ^ s) ≤ num) := by
  have hDiv := Nat.div_mul_le_self num den
  constructor
  · have hLt : num / den < 2 ^ (53 + s) :=
      Nat.lt_of_lt_of_le Nat.lt_log2_self (Nat.pow_le_pow_right (by decide) (by omega))
    rw [Nat.div_lt_iff_lt_mul hDen, Nat.pow_add] at hLt
    rwa [Nat.mul_comm den, ← Nat.mul_assoc]
  · rcases Nat.eq_zero_or_pos s with h | h
    · exact .inl h
    · right
      have hne : num / den ≠ 0 := by
        intro hZero
        rw [hZero, Nat.log2_zero] at hs
        omega
      have hLog : 52 + s = (num / den).log2 := by omega
      have hLe := Nat.log2_self_le hne
      rw [← hLog, Nat.le_div_iff_mul_le hDen, Nat.pow_add] at hLe
      rwa [Nat.mul_comm den, ← Nat.mul_assoc]

theorem exists_ofParts {significand shift : Nat} (negative : Bool) (hLt : significand < 2 ^ 53)
    (hNormal : 2 ^ 52 ≤ significand ∨ shift = 0) (hShift : shift ≤ 2045) :
    ∃ x, ofParts? negative significand shift = some x ∧ x.negative = negative ∧
      x.magnitude = significand * 2 ^ shift :=
  ⟨⟨negative, significand, shift, hLt, hNormal, hShift⟩, dif_pos ⟨hLt, hNormal, hShift⟩, rfl, rfl⟩

/-- The place of the quotient is not past that of a larger number, and before it when the quotient is
carried. -/
theorem le_shift {s : Nat} {y : Binary64} (hDen : 0 < den) (hs : s = (num / den).log2 - 52)
    (hNum : num ≤ y.magnitude * den) :
    s ≤ y.shift ∧ (nearestEven num (den * 2 ^ s) = 2 ^ 53 → s < y.shift) := by
  have hy : y.magnitude * den = y.significand * (den * 2 ^ y.shift) := by
    rw [magnitude_eq, Nat.mul_assoc, Nat.mul_comm (2 ^ y.shift)]
  have hShort : y.significand < 2 ^ 53 := y.significand_lt
  rw [hy] at hNum
  have hLe : s ≤ y.shift := by
    by_contra hLt
    have hGe := (binade hDen hs).2.resolve_left (by omega)
    have hPow : den * 2 ^ (y.shift + 1) ≤ den * 2 ^ s :=
      Nat.mul_le_mul_left _ (Nat.pow_le_pow_right (by decide) (by omega))
    have hStep : 0 < den * 2 ^ y.shift := Nat.mul_pos hDen (Nat.two_pow_pos _)
    have hSum := Nat.mul_lt_mul_of_pos_right hShort hStep
    rw [Nat.pow_succ, ← Nat.mul_assoc] at hPow
    omega
  refine ⟨hLe, fun hCarry => Nat.lt_of_le_of_ne hLe ?_⟩
  rintro rfl
  have hNearest := nearestEven_le (Nat.mul_pos hDen (Nat.two_pow_pos _)) hNum
  omega

/-- What is rounded is the quotient on the grid of its last place. -/
theorem exists_round_eq {y : Binary64} (negative : Bool) (hDen : 0 < den)
    (hNum : num ≤ y.magnitude * den) :
    ∃ (s : Nat) (x : Binary64), s = (num / den).log2 - 52 ∧ round negative num den = some x ∧
      x.negative = negative ∧ x.magnitude = nearestEven num (den * 2 ^ s) * 2 ^ s := by
  obtain ⟨s, hs⟩ : ∃ s, s = (num / den).log2 - 52 := ⟨_, rfl⟩
  obtain ⟨hLt, hGe⟩ := binade hDen hs
  obtain ⟨hLe, hCarried⟩ := le_shift hDen hs hNum
  have hTop := y.shift_le
  have hStep : 0 < den * 2 ^ s := Nat.mul_pos hDen (Nat.two_pow_pos _)
  have hShort := nearestEven_le hStep (Nat.le_of_lt hLt)
  have hLong : 2 ^ 52 ≤ nearestEven num (den * 2 ^ s) ∨ s = 0 :=
    hGe.symm.imp_left (le_nearestEven hStep)
  have hRound : round negative num den =
      if nearestEven num (den * 2 ^ s) = 2 ^ 53 then ofParts? negative (2 ^ 52) (s + 1)
      else ofParts? negative (nearestEven num (den * 2 ^ s)) s := by
    simp only [round, ← hs, Nat.pow_eq]
  rw [hRound]
  by_cases hCarry : nearestEven num (den * 2 ^ s) = 2 ^ 53
  · rw [if_pos hCarry]
    have hNext : s + 1 ≤ 2045 := Nat.le_trans (hCarried hCarry) hTop
    obtain ⟨x, hx, hNegative, hMagnitude⟩ :=
      exists_ofParts negative (by decide) (.inl (Nat.le_refl (2 ^ 52))) hNext
    refine ⟨s, x, hs, hx, hNegative, ?_⟩
    rw [hMagnitude, hCarry, Nat.pow_succ]
    omega
  · rw [if_neg hCarry]
    obtain ⟨x, hx, hNegative, hMagnitude⟩ :=
      exists_ofParts negative (Nat.lt_of_le_of_ne hShort hCarry) hLong (Nat.le_trans hLe hTop)
    exact ⟨s, x, hs, hx, hNegative, hMagnitude⟩

/-- What is not larger than some number is rounded to a number of the given sign, and no number is
nearer. -/
theorem exists_round {y : Binary64} (negative : Bool) (hDen : 0 < den)
    (hNum : num ≤ y.magnitude * den) :
    ∃ x, round negative num den = some x ∧ x.negative = negative ∧ IsNearest num den x := by
  obtain ⟨s, x, hs, hx, hNegative, hMagnitude⟩ := exists_round_eq negative hDen hNum
  refine ⟨x, hx, hNegative, fun z => ?_⟩
  have hStep : 0 < den * 2 ^ s := Nat.mul_pos hDen (Nat.two_pow_pos _)
  rw [hMagnitude, Nat.mul_assoc, Nat.mul_comm (2 ^ s)]
  rcases z.magnitude_cases s with ⟨k, hk⟩ | ⟨hPos, hBelow⟩
  · rw [hk, Nat.mul_assoc, Nat.mul_comm (2 ^ s)]
    exact dist_nearestEven_le num hStep k
  · -- Such a number is too small: the first point of the grid with 53 bits is nearer.
    have hFirst := dist_nearestEven_le num hStep (2 ^ 52)
    have hGe := (binade hDen hs).2.resolve_left (Nat.pos_iff_ne_zero.1 hPos)
    have hLt : z.magnitude * den < 2 ^ 52 * (den * 2 ^ s) := by
      rw [Nat.mul_comm den, ← Nat.mul_assoc]
      exact Nat.mul_lt_mul_of_pos_right hBelow hDen
    refine Nat.le_trans hFirst ?_
    simp only [Nat.dist]
    omega

end

/-! ### The nearest number -/

namespace IsNearest

variable {num den : Nat} {x y : Binary64}

theorem le_of_le (h : IsNearest num den x) (hDen : 0 < den) (hy : num ≤ y.magnitude * den) :
    x.magnitude ≤ y.magnitude := by
  by_contra hLt
  have hMul := Nat.mul_lt_mul_of_pos_right (Nat.lt_of_not_le hLt) hDen
  have hNear := h y
  simp only [Nat.dist] at hNear
  omega

theorem ge_of_ge (h : IsNearest num den x) (hDen : 0 < den) (hy : y.magnitude * den ≤ num) :
    y.magnitude ≤ x.magnitude := by
  by_contra hLt
  have hMul := Nat.mul_lt_mul_of_pos_right (Nat.lt_of_not_le hLt) hDen
  have hNear := h y
  simp only [Nat.dist] at hNear
  omega

/-- A number is rounded to itself. -/
theorem magnitude_eq (h : IsNearest num den x) (hDen : 0 < den) (hy : y.magnitude * den = num) :
    x.magnitude = y.magnitude :=
  Nat.le_antisymm (h.le_of_le hDen hy.ge) (h.ge_of_ge hDen hy.le)

theorem of_mul {c : Nat} (hc : 0 < c) (h : IsNearest (num * c) (den * c) x) :
    IsNearest num den x := by
  intro y
  have hNear := h y
  rw [← Nat.mul_assoc, ← Nat.mul_assoc, Nat.dist_mul_right, Nat.dist_mul_right] at hNear
  exact Nat.le_of_mul_le_mul_right hNear hc

/-- Up to `2 ^ 53` steps of a grid, rounding is by no more than half a step. -/
theorem two_mul_dist_le (h : IsNearest num den x) (hDen : 0 < den) {s : Nat} (hs : s ≤ 2044)
    (hNum : num ≤ 2 ^ 53 * (den * 2 ^ s)) :
    2 * Nat.dist num (x.magnitude * den) ≤ den * 2 ^ s := by
  have hStep : 0 < den * 2 ^ s := Nat.mul_pos hDen (Nat.two_pow_pos _)
  obtain ⟨y, hy⟩ := exists_magnitude_eq (nearestEven_le hStep hNum) hs
  have hNear := h y
  rw [hy, Nat.mul_assoc, Nat.mul_comm (2 ^ s)] at hNear
  have hHalf := two_mul_dist_nearestEven_le num hStep
  omega

end IsNearest

end Stencil.Binary64
