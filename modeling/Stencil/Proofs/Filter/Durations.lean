import Mathlib.Tactic.Ring
import Stencil.Proofs.Filter.Clocks
import Stencil.Proofs.Numeric.WholeNumbers

/-!
# Durations of whole numbers

A duration is rounded twice on its way to the clock: milliseconds of more than 53 bits become a
number of the format, and their thousandth becomes another one. The division alone shows no error up
to `1000 * 2 ^ 47` milliseconds. Both together show none before `2 ^ 53 + 7`, and from there on the
clock is at most four seconds ahead or three seconds behind.
-/

namespace Stencil

namespace Binary64

/-! ### Thousandths -/

section

variable {r : Nat} {q : Binary64}

theorem le_quotient (h : IsNearest (r * unit) 1000 q) (hr : r ≤ 1000 * 2 ^ 53) :
    r / 1000 ≤ q.magnitude / unit := by
  rw [Nat.le_div_iff_mul_le unit_pos]
  exact h.ge_whole (by decide) (hasWhole_of_le (by omega)) (by omega)

/-- Where the thousandth takes 53 bits down to `2 ^ (i - 9)`, it is rounded by no more than half of
that. -/
theorem dist_quotient_le (h : IsNearest (r * unit) 1000 q) {i : Nat} (hi : i ≤ 3)
    (hr : r ≤ 1000 * 2 ^ (44 + i)) :
    1024 * Nat.dist (r * unit) (q.magnitude * 1000) ≤ 1000 * (2 ^ i * unit) := by
  obtain ⟨u, hu, hUnit⟩ := exists_unit_eq
  have hFine : unit = 512 * 2 ^ (u - 9) := by
    have hSplit : 9 + (u - 9) = u := by omega
    rw [hUnit, ← hSplit, Nat.pow_add, Nat.add_sub_cancel_left]
  have hNum : r * unit ≤ 2 ^ 53 * (1000 * 2 ^ (u - 9 + i)) := by
    calc r * unit ≤ 1000 * 2 ^ (44 + i) * (512 * 2 ^ (u - 9)) := Nat.mul_le_mul hr hFine.le
      _ = 2 ^ 53 * (1000 * 2 ^ (u - 9 + i)) := by ring
  have hHalf := h.two_mul_dist_le (by decide) (by omega) hNum
  have hStep : 512 * (1000 * 2 ^ (u - 9 + i)) = 1000 * (2 ^ i * unit) := by
    rw [hFine]
    ring
  omega

/-- The next second is `2 ^ i` milliseconds away or more, which is too far to be rounded up to. -/
theorem quotient_eq_of_dvd (h : IsNearest (r * unit) 1000 q) {i : Nat} (hi : i ≤ 3)
    (hDvd : 2 ^ i ∣ r) (hr : r ≤ 1000 * 2 ^ (44 + i)) : q.magnitude / unit = r / 1000 := by
  have hPow : (2 : Nat) ^ (44 + i) ≤ 2 ^ 47 := Nat.pow_le_pow_right (by decide) (by omega)
  refine Nat.le_antisymm ?_ (le_quotient h (by omega))
  rw [← Nat.lt_succ_iff, Nat.div_lt_iff_lt_mul unit_pos]
  by_contra hNext
  have hGap : r + 2 ^ i ≤ (r / 1000 + 1) * 1000 := by
    have hThousand : 2 ^ i ∣ (r / 1000 + 1) * 1000 :=
      Nat.dvd_trans (Nat.pow_dvd_pow 2 hi) (Nat.dvd_mul_left_of_dvd (by decide) _)
    have hLe := Nat.le_of_dvd (by omega) (Nat.dvd_sub hThousand hDvd)
    omega
  have hReached : r * unit + 2 ^ i * unit ≤ q.magnitude * 1000 :=
    calc r * unit + 2 ^ i * unit = (r + 2 ^ i) * unit := (Nat.add_mul _ _ _).symm
      _ ≤ (r / 1000 + 1) * 1000 * unit := Nat.mul_le_mul_right _ hGap
      _ = (r / 1000 + 1) * unit * 1000 := Nat.mul_right_comm _ _ _
      _ ≤ q.magnitude * 1000 := Nat.mul_le_mul_right _ (Nat.le_of_not_lt hNext)
  have hNear := dist_quotient_le h hi hr
  have hPos : 0 < 2 ^ i * unit := Nat.mul_pos (Nat.two_pow_pos _) unit_pos
  simp only [Nat.dist] at hNear
  omega

/-- A longer number of the format ends in as many zeros as its thousandth has fewer places behind
the point. -/
theorem quotient_eq {x : Binary64} (hx : x.magnitude = r * unit)
    (h : IsNearest x.magnitude 1000 q) (hr : r ≤ 1000 * 2 ^ 47) :
    q.magnitude / unit = r / 1000 := by
  rw [hx] at h
  have hDvd {i : Nat} (hLe : 2 ^ 53 * 2 ^ i ≤ r) : 2 ^ (i + 1) ∣ r := by
    have hUnits : 2 ^ 53 * 2 ^ i * unit ≤ x.magnitude := by
      rw [hx]
      exact Nat.mul_le_mul_right _ hLe
    have hMul := dvd_of_le hUnits
    rw [hx] at hMul
    exact Nat.dvd_of_mul_dvd_mul_right unit_pos hMul
  by_cases h0 : r < 2 ^ 53
  · exact quotient_eq_of_dvd h (i := 0) (by decide) (Nat.one_dvd _) (by omega)
  by_cases h1 : r < 2 ^ 54
  · exact quotient_eq_of_dvd h (i := 1) (by decide) (hDvd (i := 0) (by omega)) (by omega)
  by_cases h2 : r < 2 ^ 55
  · exact quotient_eq_of_dvd h (i := 2) (by decide) (hDvd (i := 1) (by omega)) (by omega)
  · exact quotient_eq_of_dvd h (i := 3) (by decide) (hDvd (i := 2) (by omega)) (by omega)

theorem quotient_le (h : IsNearest (r * unit) 1000 q) (hr : r ≤ 1000 * 2 ^ 55) :
    1000 * (q.magnitude / unit) ≤ r + 2000 := by
  have hHalf := h.two_mul_dist_whole_le (by decide) (i := 2) (by decide) (by omega)
  have hFloor := Nat.div_mul_le_self q.magnitude unit
  simp only [Nat.dist] at hHalf
  refine Nat.le_of_mul_le_mul_right ?_ unit_pos
  rw [Nat.add_mul, Nat.mul_assoc]
  omega

/-- The seconds are whole from `2 ^ 53` on, so that nothing is cut off where the rounding is coarse. -/
theorem le_quotient_add (h : IsNearest (r * unit) 1000 q) (hr : r ≤ 1000 * 2 ^ 55) :
    r ≤ 1000 * (q.magnitude / unit) + 2000 := by
  refine Nat.le_of_mul_le_mul_right ?_ unit_pos
  rw [Nat.add_mul, Nat.mul_assoc]
  by_cases hShort : r ≤ 1000 * 2 ^ 53
  · have hHalf := h.two_mul_dist_whole_le (by decide) (i := 0) (by decide) (by omega)
    have hFloor := Nat.lt_div_mul_add unit_pos (a := q.magnitude)
    simp only [Nat.dist] at hHalf
    omega
  · have hHalf := h.two_mul_dist_whole_le (by decide) (i := 2) (by decide) (by omega)
    have hGe := h.ge_whole (by decide) (hasWhole_of_le (Nat.le_refl (2 ^ 53))) (by omega)
    have hDvd := dvd_of_le (i := 0) (by rwa [Nat.pow_zero, Nat.mul_one])
    have hWhole := Nat.div_mul_cancel (Nat.dvd_trans (Nat.dvd_mul_left unit _) hDvd)
    simp only [Nat.dist] at hHalf
    omega

end

end Binary64

namespace Filter

open Binary64

variable {n : Int}

/-! ### Whole seconds -/

theorem wholeSeconds_of_neg (hLow : -2 ^ 63 ≤ n) (h : n < 0) : wholeSeconds? (ofInt n) = none := by
  have hShort : n.natAbs ≤ 2 ^ 64 := by omega
  have hNegative : (ofInt n).negative = true := by
    rw [negative_ofInt hShort, decide_eq_true h]
  have hPos := le_magnitude_ofInt (hasWhole_of_le (k := 1) (by decide)) (by omega) hShort
  have hUnit := unit_pos
  have hLt : (Binary64.zero false).le (ofInt n) = false := by
    rw [le, scaled_zero, scaled_of_negative hNegative, decide_eq_false_iff_not]
    omega
  rw [wholeSeconds?, hLt, Bool.false_and, if_neg (by decide)]

/-- A whole number of 64 bits that is not negative is always divided, whatever it is rounded to. -/
theorem exists_wholeSeconds (h : 0 ≤ n) (hHigh : n < 2 ^ 64) :
    ∃ q, wholeSeconds? (ofInt n) = some (q.magnitude / unit) ∧
      IsNearest (ofInt n).magnitude 1000 q := by
  have hShort : n.natAbs ≤ 2 ^ 64 := by omega
  have hSign := negative_ofInt_of_nonneg h hShort
  have hWhole : HasWhole (2 ^ 64) := hasWhole_mul_two_pow (k := 1) (by decide) (s := 64) (by decide)
  have hLimitSign : durationLimit.negative = false := by
    rw [durationLimit, Binary64.ofNat]
    exact negative_ofInt_of_nonneg (by decide) (by decide)
  have hLimit : 2 ^ 64 * unit ≤ durationLimit.magnitude := by
    rw [durationLimit, Binary64.ofNat]
    exact le_magnitude_ofInt hWhole (by decide) (by decide)
  have hAbove : (Binary64.zero false).le (ofInt n) = true := by
    rw [le, scaled_zero, scaled_of_not_negative hSign, decide_eq_true_eq]
    omega
  have hBelow : (ofInt n).le durationLimit = true := by
    have hLe := magnitude_ofInt_le hWhole hShort hShort
    rw [le, scaled_of_not_negative hSign, scaled_of_not_negative hLimitSign, decide_eq_true_eq]
    omega
  obtain ⟨q, hq, hNegative, hNearest⟩ := exists_div_ofNat (k := 1000) (by decide) (by decide)
    (ofInt n)
  refine ⟨q, ?_, hNearest⟩
  rw [wholeSeconds?, hAbove, hBelow, Bool.and_self, if_pos rfl, thousand, hq, Option.map_some,
    truncate_of_not_negative (hNegative.trans hSign), Int.toNat_natCast]

/-- Below `2 ^ 53 + 7` what is rounded does not come to another second. -/
theorem thousandth_eq {r : Nat} (h : 0 ≤ n) (hn : n < 9007199254740999)
    (hr : (ofInt n).magnitude = r * unit) : (r : Int) / 1000 = n / 1000 := by
  have hCancel {k : Nat} (hk : (ofInt n).magnitude = k * unit) : r = k :=
    Nat.eq_of_mul_eq_mul_right unit_pos (hr.symm.trans hk)
  by_cases hShort : n.natAbs ≤ 2 ^ 53
  · rw [hCancel (magnitude_ofInt hShort)]
    omega
  · have hLow : 2 ^ 53 * unit ≤ (ofInt n).magnitude :=
      le_magnitude_ofInt (hasWhole_of_le (Nat.le_refl _)) (by omega) (by omega)
    have hHigh : (ofInt n).magnitude ≤ (2 ^ 52 + 3) * 2 ^ 1 * unit :=
      magnitude_ofInt_le (hasWhole_mul_two_pow (by decide) (by decide)) (by omega) (by omega)
    rw [hr] at hLow hHigh
    have hLe := Nat.le_of_mul_le_mul_right hLow unit_pos
    have hGe := Nat.le_of_mul_le_mul_right hHigh unit_pos
    omega

/-- Whole milliseconds of 64 bits are shown on a clock, and negative ones stay as they are. The clock
is right before `2 ^ 53 + 7`. Up to `1000 * 2 ^ 47` it is right for the number nearest to the
milliseconds, and it is never more than four seconds ahead or three seconds behind. -/
theorem durationOf_int (hLow : -2 ^ 63 ≤ n) (hHigh : n < 2 ^ 64) :
    (n < 0 → durationOf (.number (.int n)) = .number (.int n)) ∧
      (0 ≤ n → ∃ (c : Clock) (cs : List Char),
        durationOf (.number (.int n)) = .string (String.ofList cs) ∧ c.IsText cs ∧
          (n < 9007199254740999 → c.total = n / 1000) ∧
          (n ≤ 1000 * 2 ^ 47 → c.total = (ofInt n).truncate / 1000) ∧
          c.total ≤ n / 1000 + 4 ∧ n / 1000 ≤ c.total + 3) := by
  refine ⟨fun h => ?_, fun h => ?_⟩
  · rw [durationOf, Number.toBinary64, wholeSeconds_of_neg hLow h]
  · have hShort : n.natAbs ≤ 2 ^ 64 := by omega
    obtain ⟨q, hq, hNearest⟩ := exists_wholeSeconds h hHigh
    obtain ⟨r, hr, hAbove, hBelow⟩ := exists_whole_ofInt hShort
    have hQuotient := hNearest
    rw [hr] at hQuotient
    have hLate := quotient_le hQuotient (by omega)
    have hEarly := le_quotient_add hQuotient (by omega)
    have hExact (hLe : r ≤ 1000 * 2 ^ 47) : q.magnitude / unit = r / 1000 :=
      quotient_eq hr hNearest hLe
    refine ⟨Clock.ofTotal (q.magnitude / unit), _, ?_, (Clock.isText_iff _ _).2 rfl, ?_⟩
    · rw [durationOf, Number.toBinary64, hq, Clock.total_ofTotal]
    rw [Clock.total_ofTotal]
    refine ⟨fun hn => ?_, fun hn => ?_, by omega, by omega⟩
    · rw [hExact (by omega), Int.natCast_ediv]
      exact thousandth_eq h hn hr
    · have hLe := magnitude_ofInt_le (hasWhole_mul_two_pow (k := 1000) (s := 47) (by decide)
        (by decide)) (by omega) hShort
      rw [hr] at hLe
      rw [hExact (Nat.le_of_mul_le_mul_right hLe unit_pos), truncate_eq hr,
        negative_ofInt_of_nonneg h hShort, if_neg Bool.false_ne_true, Int.natCast_ediv]
      rfl

/-- The last milliseconds before the clock is ahead for the first time. -/
theorem durationOf_int_before :
    let n : Int := 9007199254740998
    n < 2 ^ 64 ∧ -2 ^ 63 ≤ n ∧ 0 ≤ n ∧ n < 9007199254740999 ∧
      durationOf (.number (.int n)) = .string "2501999792:59:00" := by
  intro n
  obtain ⟨c, cs, hShown, hText, hExact, -⟩ :=
    (durationOf_int (n := n) (by decide) (by decide)).2 (by decide)
  have hTotal : c.total = 9007199254740 := by
    have hSeconds := hExact (by decide)
    omega
  rw [(c.isText_iff cs).1 hText, hTotal] at hShown
  refine ⟨by decide, by decide, by decide, by decide, hShown.trans ?_⟩
  exact congrArg Json.string (by decide +kernel)

/-- One millisecond later the milliseconds are rounded up to the next second. -/
theorem durationOf_int_ahead :
    durationOf (.number (.int 9007199254740999)) = .string "2501999792:59:01" ∧
      ¬∃ (c : Clock) (cs : List Char),
        durationOf (.number (.int 9007199254740999)) = .string (String.ofList cs) ∧ c.IsText cs ∧
          c.total = (9007199254740999 : Int) / 1000 := by
  have hSeconds : wholeSeconds? (ofInt 9007199254740999) = some 9007199254741 := by decide +kernel
  have hShown : durationOf (.number (.int 9007199254740999)) = .string "2501999792:59:01" := by
    rw [durationOf, Number.toBinary64, hSeconds]
    exact congrArg Json.string (by decide +kernel)
  refine ⟨hShown, fun ⟨c, cs, hSame, hText, hTotal⟩ => ?_⟩
  have hExact : c.total = 9007199254740 := by omega
  rw [(c.isText_iff cs).1 hText, hExact, hShown] at hSame
  have hNe : "2501999792:59:01" ≠ String.ofList (clockChars 9007199254740) := by decide +kernel
  exact hNe (Json.string.inj hSame)

end Filter

end Stencil
