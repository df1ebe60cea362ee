import Mathlib.Algebra.Order.Ring.Nat
import Stencil.Filter.Time
import Stencil.Proofs.Calendar.Numerals

/-!
# Clocks

A clock shows hours, minutes and seconds in decimal with colons between them. `Decimal.Numeral` says
which row of digits a number is written as, without writing it, and there is only one. So what a
clock shows is known from the seconds that it counts, and these from what it shows.
-/

namespace Stencil

/-! ### Numerals -/

namespace Decimal

variable {row : List Char}

theorem valueFrom_lt (h : AllDigits row) (start : Nat) :
    valueFrom start row < (start + 1) * 10 ^ row.length := by
  induction row generalizing start with
  | nil => simp
  | cons c row ih =>
    obtain ⟨hc, hRow⟩ := List.forall_mem_cons.1 h
    have hDigit : digitValue c ≤ 9 := Nat.sub_le_sub_right (toNat_of_isDigit hc).2 48
    rw [valueFrom_cons, List.length_cons, Nat.pow_succ, Nat.mul_comm _ 10, ← Nat.mul_assoc]
    exact Nat.lt_of_lt_of_le (ih hRow _) (Nat.mul_le_mul_right _ (by omega))

theorem value_lt (h : AllDigits row) : value row < 10 ^ row.length := by
  have hLt := valueFrom_lt h 0
  rwa [Nat.zero_add, Nat.one_mul] at hLt

theorem le_valueFrom (row : List Char) (start : Nat) :
    start * 10 ^ row.length ≤ valueFrom start row := by
  induction row generalizing start with
  | nil => simp
  | cons c row ih =>
    rw [valueFrom_cons, List.length_cons, Nat.pow_succ, Nat.mul_comm _ 10, ← Nat.mul_assoc]
    exact Nat.le_trans (Nat.mul_le_mul_right _ (by omega)) (ih _)

/-- The number in decimal, with zeros in front of it up to a width and none beyond. -/
structure Numeral (width n : Nat) (row : List Char) : Prop where
  digits : AllDigits row
  value : value row = n
  width_le : width ≤ row.length
  head : width < row.length → row.head? ≠ some '0'

theorem pow_le_value {c : Char} (hc : isDigit c = true) (hne : c ≠ '0') (row : List Char) :
    10 ^ row.length ≤ value (c :: row) := by
  have hPos : 1 ≤ digitValue c := by
    have hCode : c.toNat ≠ 48 := fun h => hne (Char.toNat_inj.1 h)
    have hLow := (toNat_of_isDigit hc).1
    have hZero : '0'.toNat = 48 := rfl
    rw [digitValue, hZero]
    omega
  have hLe := le_valueFrom row (10 * 0 + digitValue c)
  rw [value, valueFrom_cons]
  refine Nat.le_trans ?_ hLe
  exact Nat.le_mul_of_pos_left _ (by omega)

/-- A row of digits without a needless zero is as short as its value allows. -/
theorem Numeral.length_le {width n k : Nat} (h : Numeral width n row) (hWidth : width ≤ k)
    (hn : n < 10 ^ k) : row.length ≤ k := by
  by_contra hLong
  cases row with
  | nil => exact hLong (Nat.zero_le _)
  | cons c rest =>
    rw [List.length_cons] at hLong
    have hHead := h.head (by rw [List.length_cons]; omega)
    have hne : c ≠ '0' := fun hc => hHead (by rw [hc]; rfl)
    have hLe := pow_le_value (h.digits c List.mem_cons_self) hne rest
    have hPow : 10 ^ k ≤ 10 ^ rest.length := Nat.pow_le_pow_right (by decide) (by omega)
    rw [h.value] at hLe
    omega

/-- Rows of the same length that carry on to the same value start from the same one and are the
same. -/
theorem eq_of_valueFrom_eq {a b : List Char} (ha : AllDigits a) (hb : AllDigits b)
    (hLength : a.length = b.length) {i j : Nat} (h : valueFrom i a = valueFrom j b) :
    i = j ∧ a = b := by
  induction a generalizing b i j with
  | nil =>
    obtain rfl := List.length_eq_zero_iff.1 hLength.symm
    exact ⟨h, rfl⟩
  | cons c a ih =>
    obtain ⟨d, b, rfl⟩ := List.exists_cons_of_length_eq_add_one hLength.symm
    obtain ⟨hc, ha⟩ := List.forall_mem_cons.1 ha
    obtain ⟨hd, hb⟩ := List.forall_mem_cons.1 hb
    rw [valueFrom_cons, valueFrom_cons] at h
    obtain ⟨hStart, rfl⟩ := ih ha hb (Nat.succ.inj hLength) h
    have hZero : '0'.toNat = 48 := rfl
    have hcCode := toNat_of_isDigit hc
    have hdCode := toNat_of_isDigit hd
    rw [digitValue, digitValue, hZero] at hStart
    have hCode : c.toNat = d.toNat := by omega
    exact ⟨by omega, by rw [Char.toNat_inj.1 hCode]⟩

theorem Numeral.unique {width n : Nat} {a b : List Char} (ha : Numeral width n a)
    (hb : Numeral width n b) : a = b := by
  have hLt {row : List Char} (h : Numeral width n row) : n < 10 ^ row.length := by
    have hValue := value_lt h.digits
    rwa [h.value] at hValue
  have hLength : a.length = b.length :=
    Nat.le_antisymm (ha.length_le hb.width_le (hLt hb)) (hb.length_le ha.width_le (hLt ha))
  exact (eq_of_valueFrom_eq ha.digits hb.digits hLength (ha.value.trans hb.value.symm)).2

theorem head?_digits_ne {n : Nat} (h : 1 < (Calendar.digits n).length) :
    (Calendar.digits n).head? ≠ some '0' := by
  intro hHead
  obtain ⟨rest, hRow⟩ := List.head?_eq_some_iff.1 hHead
  have hValue : value (Calendar.digits n) = n :=
    Nat.ofDigitChars_toDigits (by decide) (by decide)
  have hDigits : AllDigits rest := fun c hc =>
    allDigits_toDigits n c (by rw [← Calendar.digits, hRow]; exact List.mem_cons_of_mem _ hc)
  have hRest : value rest = n := by
    rw [hRow, value, valueFrom_cons] at hValue
    exact hValue
  have hLt := value_lt hDigits
  rw [hRest] at hLt
  rw [hRow, List.length_cons] at h
  have hShort := (Nat.length_toDigits_le_iff (by decide) (by omega)).2 hLt
  rw [← Calendar.digits, hRow, List.length_cons] at hShort
  omega

theorem numeral_padded {width : Nat} (h : 0 < width) (n : Nat) :
    Numeral width n (Calendar.padded width n) where
  digits := Calendar.allDigits_padded width n
  value := Calendar.value_padded width n
  width_le := Calendar.le_length_padded width n
  head hLong := by
    rw [Calendar.padded, List.length_append, List.length_replicate] at hLong
    have hNone : width - (Calendar.digits n).length = 0 := by omega
    rw [Calendar.padded, hNone]
    exact head?_digits_ne (by omega)

theorem numeral_iff {width n : Nat} {row : List Char} (h : 0 < width) :
    Numeral width n row ↔ row = Calendar.padded width n :=
  ⟨fun hRow => hRow.unique (numeral_padded h n), fun hRow => hRow ▸ numeral_padded h n⟩

end Decimal

namespace Filter

open Calendar Decimal

structure Clock where
  hours : Nat
  minutes : Nat
  seconds : Nat
  minutes_lt : minutes < 60
  seconds_lt : seconds < 60

namespace Clock

/-- The seconds that a clock counts. -/
def total (c : Clock) : Nat := 3600 * c.hours + 60 * c.minutes + c.seconds

def ofTotal (total : Nat) : Clock :=
  ⟨total / 3600, total % 3600 / 60, total % 60, by omega, Nat.mod_lt _ (by decide)⟩

theorem total_ofTotal (n : Nat) : (ofTotal n).total = n := by
  simp only [total, ofTotal]
  omega

/-- Two digits for the minutes and for the seconds, two or more for the hours. -/
def IsText (c : Clock) (cs : List Char) : Prop :=
  ∃ hours minutes seconds, cs = hours ++ ':' :: minutes ++ ':' :: seconds ∧
    Numeral 2 c.hours hours ∧
    Numeral 2 c.minutes minutes ∧ minutes.length = 2 ∧
    Numeral 2 c.seconds seconds ∧ seconds.length = 2

theorem isText_iff (c : Clock) (cs : List Char) : c.IsText cs ↔ cs = clockChars c.total := by
  have hMinutes := c.minutes_lt
  have hSeconds := c.seconds_lt
  have hHour : c.total / 3600 = c.hours := by rw [total]; omega
  have hMinute : c.total % 3600 / 60 = c.minutes := by rw [total]; omega
  have hSecond : c.total % 60 = c.seconds := by rw [total]; omega
  have hTwo {n : Nat} (hn : n < 60) : (padded 2 n).length = 2 :=
    length_padded (by decide) (Nat.lt_trans hn (by decide))
  rw [clockChars, hHour, hMinute, hSecond]
  constructor
  · rintro ⟨hours, minutes, seconds, rfl, h, m, -, s, -⟩
    rw [(numeral_iff (by decide)).1 h, (numeral_iff (by decide)).1 m,
      (numeral_iff (by decide)).1 s]
  · rintro rfl
    exact ⟨_, _, _, rfl, numeral_padded (by decide) _, numeral_padded (by decide) _,
      hTwo hMinutes, numeral_padded (by decide) _, hTwo hSeconds⟩

end Clock

end Filter

end Stencil
