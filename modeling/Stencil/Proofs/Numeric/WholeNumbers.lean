import Stencil.Proofs.Numeric.Rounding

/-!
# Whole numbers in binary64

The format has every whole number of up to 53 bits, so these become numbers without being rounded,
and so do their products that stay as short. A longer one is rounded and does not pass any whole
number that the format has.
-/

namespace Stencil.Binary64

/-- The format has the whole number. -/
def HasWhole (k : Nat) : Prop := ∃ y : Binary64, y.magnitude = k * unit

theorem hasWhole_mul_two_pow {k s : Nat} (hk : k ≤ 2 ^ 53) (hs : s ≤ 970) :
    HasWhole (k * 2 ^ s) := by
  obtain ⟨u, hu, hUnit⟩ := exists_unit_eq
  obtain ⟨y, hy⟩ := exists_magnitude_eq hk (s := s + u) (by omega)
  refine ⟨y, ?_⟩
  rw [hy, hUnit, Nat.pow_add, Nat.mul_assoc]

theorem hasWhole_of_le {k : Nat} (hk : k ≤ 2 ^ 53) : HasWhole k := by
  have h := hasWhole_mul_two_pow hk (s := 0) (by decide)
  rwa [Nat.pow_zero, Nat.mul_one] at h

/-- Of the numbers that reach `2 ^ 53` times a power of two only multiples of the next power are in
the format. -/
theorem dvd_of_le {x : Binary64} {i : Nat} (h : 2 ^ 53 * 2 ^ i * unit ≤ x.magnitude) :
    2 ^ (i + 1) * unit ∣ x.magnitude := by
  obtain ⟨u, -, hUnit⟩ := exists_unit_eq
  rw [hUnit, Nat.mul_assoc, ← Nat.pow_add] at h
  have hDvd := dvd_magnitude h
  rwa [Nat.add_right_comm, Nat.pow_add, ← hUnit] at hDvd

namespace IsNearest

variable {r d k : Nat} {q : Binary64}

theorem le_whole (h : IsNearest (r * unit) d q) (hd : 0 < d) (hk : HasWhole k) (hr : r ≤ k * d) :
    q.magnitude ≤ k * unit := by
  obtain ⟨y, hy⟩ := hk
  rw [← hy]
  apply h.le_of_le hd
  rw [hy, Nat.mul_right_comm]
  exact Nat.mul_le_mul_right _ hr

theorem ge_whole (h : IsNearest (r * unit) d q) (hd : 0 < d) (hk : HasWhole k) (hr : k * d ≤ r) :
    k * unit ≤ q.magnitude := by
  obtain ⟨y, hy⟩ := hk
  rw [← hy]
  apply h.ge_of_ge hd
  rw [hy, Nat.mul_right_comm]
  exact Nat.mul_le_mul_right _ hr

/-- A quotient that takes 53 bits up to a power of two is rounded by no more than half that power. -/
theorem two_mul_dist_whole_le (h : IsNearest (r * unit) d q) (hd : 0 < d) {i : Nat} (hi : i ≤ 970)
    (hr : r ≤ 2 ^ 53 * (d * 2 ^ i)) :
    2 * Nat.dist (r * unit) (q.magnitude * d) ≤ d * 2 ^ i * unit := by
  obtain ⟨u, hu, hUnit⟩ := exists_unit_eq
  have hStep : d * 2 ^ (i + u) = d * 2 ^ i * unit := by rw [Nat.pow_add, hUnit, Nat.mul_assoc]
  have hLe := h.two_mul_dist_le hd (s := i + u) (by omega)
  rw [hStep, ← Nat.mul_assoc] at hLe
  exact hLe (Nat.mul_le_mul_right _ hr)

end IsNearest

/-! ### Integers -/

section

variable {n : Int} {k : Nat}

theorem isNearest_ofInt (h : n.natAbs ≤ 2 ^ 64) :
    (ofInt n).negative = decide (n < 0) ∧ IsNearest (n.natAbs * unit) 1 (ofInt n) := by
  obtain ⟨y, hy⟩ := hasWhole_mul_two_pow (k := 1) (s := 64) (by decide) (by decide)
  have hNum : n.natAbs * unit ≤ y.magnitude * 1 := by
    rw [hy, Nat.mul_one, Nat.one_mul]
    exact Nat.mul_le_mul_right _ h
  obtain ⟨x, hx, hNegative, hNearest⟩ := exists_round (decide (n < 0)) Nat.one_pos hNum
  have hEq : ofInt n = x := by rw [ofInt, hx, Option.getD_some]
  rw [hEq]
  exact ⟨hNegative, hNearest⟩

theorem negative_ofInt (h : n.natAbs ≤ 2 ^ 64) : (ofInt n).negative = decide (n < 0) :=
  (isNearest_ofInt h).1

theorem negative_ofInt_of_nonneg (hn : 0 ≤ n) (h : n.natAbs ≤ 2 ^ 64) :
    (ofInt n).negative = false := by
  rw [negative_ofInt h, decide_eq_false_iff_not]
  omega

theorem magnitude_ofInt_le (hk : HasWhole k) (h : n.natAbs ≤ k) (h64 : n.natAbs ≤ 2 ^ 64) :
    (ofInt n).magnitude ≤ k * unit :=
  (isNearest_ofInt h64).2.le_whole Nat.one_pos hk (by rwa [Nat.mul_one])

theorem le_magnitude_ofInt (hk : HasWhole k) (h : k ≤ n.natAbs) (h64 : n.natAbs ≤ 2 ^ 64) :
    k * unit ≤ (ofInt n).magnitude :=
  (isNearest_ofInt h64).2.ge_whole Nat.one_pos hk (by rwa [Nat.mul_one])

theorem magnitude_ofInt (h : n.natAbs ≤ 2 ^ 53) : (ofInt n).magnitude = n.natAbs * unit :=
  have h64 : n.natAbs ≤ 2 ^ 64 := by omega
  Nat.le_antisymm (magnitude_ofInt_le (hasWhole_of_le h) (Nat.le_refl _) h64)
    (le_magnitude_ofInt (hasWhole_of_le h) (Nat.le_refl _) h64)

/-- An integer that is rounded becomes a whole number again, and not one far away. -/
theorem exists_whole_ofInt (h : n.natAbs ≤ 2 ^ 64) :
    ∃ r, (ofInt n).magnitude = r * unit ∧ r ≤ n.natAbs + 1024 ∧ n.natAbs ≤ r + 1024 := by
  have hWhole : unit ∣ (ofInt n).magnitude := by
    by_cases hShort : n.natAbs ≤ 2 ^ 53
    · rw [magnitude_ofInt hShort]
      exact Nat.dvd_mul_left _ _
    · have hLe := le_magnitude_ofInt (hasWhole_of_le (Nat.le_refl (2 ^ 53))) (by omega) h
      have hDvd := dvd_of_le (i := 0) (by rwa [Nat.pow_zero, Nat.mul_one])
      exact Nat.dvd_trans (Nat.dvd_mul_left _ _) hDvd
  obtain ⟨r, hr⟩ := hWhole
  rw [Nat.mul_comm] at hr
  have hHalf := (isNearest_ofInt h).2.two_mul_dist_whole_le Nat.one_pos (i := 11) (by decide)
    (by omega)
  rw [hr, Nat.mul_one, Nat.dist_mul_right, ← Nat.mul_assoc] at hHalf
  have hDist := Nat.le_of_mul_le_mul_right hHalf unit_pos
  simp only [Nat.dist] at hDist
  exact ⟨r, hr, by omega, by omega⟩

end

/-! ### Signs -/

section

variable {x : Binary64}

theorem scaled_of_negative (h : x.negative = true) : x.scaled = -(x.magnitude : Int) := by
  rw [scaled, if_pos h]

theorem scaled_of_not_negative (h : x.negative = false) : x.scaled = x.magnitude := by
  rw [scaled, h]
  rfl

theorem scaled_zero : (zero false).scaled = 0 := by
  rw [scaled_of_not_negative rfl, magnitude_zero, Int.natCast_zero]

end

/-! ### Integer parts -/

theorem truncate_of_not_negative {x : Binary64} (h : x.negative = false) :
    x.truncate = (x.magnitude / unit : Nat) := by
  rw [truncate, h]
  rfl

theorem truncate_eq {x : Binary64} {k : Nat} (h : x.magnitude = k * unit) :
    x.truncate = if x.negative then -(k : Int) else k := by
  rw [truncate, h, Nat.mul_div_cancel _ unit_pos]

theorem natAbs_truncate (x : Binary64) : x.truncate.natAbs = x.magnitude / unit := by
  simp only [truncate]
  split
  · rw [Int.natAbs_neg, Int.natAbs_natCast]
  · rw [Int.natAbs_natCast]

theorem truncate_ofInt {n : Int} (h : n.natAbs ≤ 2 ^ 53) : (ofInt n).truncate = n := by
  rw [truncate_eq (magnitude_ofInt h), negative_ofInt (by omega)]
  simp only [decide_eq_true_eq]
  split <;> omega

/-! ### Products and quotients -/

theorem negative_ofNat {k : Nat} (hk : k ≤ 2 ^ 53) : (ofNat k).negative = false :=
  negative_ofInt_of_nonneg (Int.natCast_nonneg k) (by omega)

theorem magnitude_ofNat {k : Nat} (hk : k ≤ 2 ^ 53) : (ofNat k).magnitude = k * unit :=
  magnitude_ofInt hk

theorem exists_mul_ofNat {n : Int} {k : Nat} (hn : n.natAbs ≤ 2 ^ 53) (hk : k ≤ 2 ^ 53)
    (hShort : n.natAbs * k ≤ 2 ^ 53) :
    ∃ q, (ofInt n).mul? (ofNat k) = some q ∧ q.truncate = n * k := by
  obtain ⟨y, hy⟩ := hasWhole_of_le hShort
  have hProduct : y.magnitude * unit = (ofInt n).magnitude * (ofNat k).magnitude := by
    rw [hy, magnitude_ofInt hn, magnitude_ofNat hk, Nat.mul_assoc, Nat.mul_mul_mul_comm]
  obtain ⟨q, hq, hNegative, hNearest⟩ :=
    exists_round ((ofInt n).negative != (ofNat k).negative) unit_pos hProduct.ge
  refine ⟨q, hq, ?_⟩
  rw [truncate_eq ((hNearest.magnitude_eq unit_pos hProduct).trans hy), hNegative,
    negative_ofInt (by omega), negative_ofNat hk, Bool.bne_false, Int.natCast_mul]
  simp only [decide_eq_true_eq]
  split
  · rw [Int.ofNat_natAbs_of_nonpos (by omega), ← Int.neg_mul, Int.neg_neg]
  · rw [Int.natAbs_of_nonneg (by omega)]

/-- A quotient by a whole number is no larger than what is divided, so there is one. -/
theorem exists_div_ofNat {k : Nat} (hPos : 0 < k) (hk : k ≤ 2 ^ 53) (x : Binary64) :
    ∃ q, x.div? (ofNat k) = some q ∧ q.negative = x.negative ∧ IsNearest x.magnitude k q := by
  have hMagnitude := magnitude_ofNat hk
  have hDen : 0 < (ofNat k).magnitude := by
    rw [hMagnitude]
    exact Nat.mul_pos hPos unit_pos
  have hNum : x.magnitude * unit ≤ x.magnitude * (ofNat k).magnitude := by
    rw [hMagnitude]
    exact Nat.mul_le_mul_left _ (Nat.le_mul_of_pos_left _ hPos)
  obtain ⟨q, hq, hNegative, hNearest⟩ :=
    exists_round (x.negative != (ofNat k).negative) hDen hNum
  rw [hMagnitude] at hNearest
  rw [negative_ofNat hk, Bool.bne_false] at hNegative
  exact ⟨q, hq, hNegative, hNearest.of_mul unit_pos⟩

end Stencil.Binary64
