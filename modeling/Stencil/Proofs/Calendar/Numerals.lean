import Stencil.Calendar.Format
import Stencil.Calendar.Scan
import Stencil.Proofs.Text.Trimming

/-!
# Numbers in dates

A number is written as a row of digits, filled up with zeros. A step that takes a number off the
front of a text takes the whole row when no further digit follows, and reads what was written.
-/

namespace Stencil

namespace Decimal

/-- Nothing but digits. -/
def AllDigits (row : List Char) : Prop := ∀ c ∈ row, isDigit c = true

/-- The text does not begin with a digit. -/
def NoDigitHead (cs : List Char) : Prop := ∀ c ∈ cs.head?, isDigit c = false

theorem noDigitHead_nil : NoDigitHead [] := nofun

theorem noDigitHead_cons {c : Char} (h : isDigit c = false) (cs : List Char) :
    NoDigitHead (c :: cs) := by
  intro d hd
  obtain rfl : c = d := Option.some.inj hd
  exact h

theorem toNat_of_isDigit {c : Char} (h : isDigit c = true) : 48 ≤ c.toNat ∧ c.toNat ≤ 57 := by
  rw [isDigit, Bool.and_eq_true, decide_eq_true_eq, decide_eq_true_eq, Char.le_def, Char.le_def,
    UInt32.le_iff_toNat_le, UInt32.le_iff_toNat_le] at h
  exact h

theorem isBlank_of_isDigit {c : Char} (h : isDigit c = true) : Text.isBlank c = false := by
  obtain ⟨hLow, hHigh⟩ := toNat_of_isDigit h
  simp only [Text.isBlank, Bool.or_eq_false_iff, Bool.and_eq_false_iff, decide_eq_false_iff_not,
    beq_eq_false_iff_ne]
  omega

theorem allDigits_toDigits (n : Nat) : AllDigits (Nat.toDigits 10 n) := by
  intro c hc
  have h := Nat.isDigit_of_mem_toDigits (by decide) (by decide) hc
  rw [Char.isDigit, Bool.and_eq_true, decide_eq_true_eq, decide_eq_true_eq] at h
  rw [isDigit, Bool.and_eq_true, decide_eq_true_eq, decide_eq_true_eq]
  exact h

section

variable {row cs : List Char}

theorem takeWhile_digits (hRow : AllDigits row) (hRest : NoDigitHead cs) :
    (row ++ cs).takeWhile isDigit = row := by
  rw [List.takeWhile_append_of_pos hRow]
  cases cs with
  | nil => simp
  | cons c cs => simp [hRest c rfl]

theorem dropWhile_digits (hRow : AllDigits row) (hRest : NoDigitHead cs) :
    (row ++ cs).dropWhile isDigit = cs := by
  rw [List.dropWhile_append_of_pos hRow]
  cases cs with
  | nil => rfl
  | cons c cs => simp [hRest c rfl]

theorem isDigit_of_append_eq_cons (hRow : AllDigits row) (hne : row ≠ []) {c : Char}
    {rest : List Char} (h : row ++ cs = c :: rest) : isDigit c = true := by
  obtain ⟨d, row, rfl⟩ := List.exists_cons_of_ne_nil hne
  obtain rfl : d = c := (List.cons.inj h).1
  exact hRow d List.mem_cons_self

theorem trimStart_digits (hRow : AllDigits row) (hne : row ≠ []) (cs : List Char) :
    Text.trimStart (row ++ cs) = row ++ cs :=
  Text.trimStart_append_of_head hne cs fun c hc =>
    isBlank_of_isDigit (hRow c (List.mem_of_mem_head? hc))

end

end Decimal

namespace Calendar

open Decimal

/-! ### Written numbers -/

theorem allDigits_padded (width n : Nat) : AllDigits (padded width n) := by
  intro c hc
  rw [padded, List.mem_append] at hc
  rcases hc with hc | hc
  · rw [List.eq_of_mem_replicate hc]
    decide
  · exact allDigits_toDigits n c hc

theorem value_padded (width n : Nat) : value (padded width n) = n := by
  have hZeros (k : Nat) : valueFrom 0 (List.replicate k '0') = 0 := by
    induction k with
    | zero => rfl
    | succ k ih =>
      rw [List.replicate_succ, valueFrom_cons]
      exact ih
  rw [padded, value, valueFrom_append, hZeros]
  exact Nat.ofDigitChars_toDigits (by decide) (by decide)

theorem le_length_padded (width n : Nat) : width ≤ (padded width n).length := by
  rw [padded, List.length_append, List.length_replicate]
  omega

theorem padded_ne_nil {width : Nat} (h : 0 < width) (n : Nat) : padded width n ≠ [] :=
  List.ne_nil_of_length_pos (Nat.lt_of_lt_of_le h (le_length_padded width n))

theorem length_padded {width n : Nat} (hWidth : 0 < width) (hn : n < Nat.pow 10 width) :
    (padded width n).length = width := by
  have h := (Nat.length_toDigits_le_iff (by decide) hWidth).2 hn
  rw [padded, List.length_append, List.length_replicate, digits]
  omega

/-! ### Numbers read -/

section

variable {least width n : Nat} {most : Option Nat} {row cs : List Char}

theorem takeNumber_digits (hRow : AllDigits row) (hRest : NoDigitHead cs)
    (hLeast : least ≤ row.length) (hMost : ∀ m ∈ most, row.length ≤ m)
    (hValue : value row ≤ maxNumber) :
    takeNumber least most (row ++ cs) = some (value row, cs) := by
  have hTaken : (most.map row.take).getD row = row := by
    cases most with
    | none => rfl
    | some m => exact List.take_of_length_le (hMost m rfl)
  rw [takeNumber, takeWhile_digits hRow hRest, hTaken, if_pos ⟨hLeast, hValue⟩, List.drop_left]

/-- A number that fills its row just so. -/
theorem takeNumber_padded (hWidth : 0 < width) (hLeast : least ≤ width) (hn : n < Nat.pow 10 width)
    (hMax : n ≤ maxNumber) (hRest : NoDigitHead cs) :
    takeNumber least (some width) (padded width n ++ cs) = some (n, cs) := by
  have hLength := length_padded hWidth hn
  have hValue := value_padded width n
  rw [takeNumber_digits (allDigits_padded width n) hRest, hValue]
  · rwa [hLength]
  · rintro m ⟨⟩
    exact Nat.le_of_eq hLength
  · rwa [hValue]

/-- A number in a row that may be longer. -/
theorem takeNumber_padded_unbounded (hLeast : least ≤ width) (hMax : n ≤ maxNumber)
    (hRest : NoDigitHead cs) :
    takeNumber least none (padded width n ++ cs) = some (n, cs) := by
  have hValue := value_padded width n
  have hLength := le_length_padded width n
  rw [takeNumber_digits (allDigits_padded width n) hRest (Nat.le_trans hLeast hLength) (by simp),
    hValue]
  rwa [hValue]

/-- Two digits. -/
theorem takeNumber_two (hLeast : least ≤ 2) (hn : n < 100) (hRest : NoDigitHead cs) :
    takeNumber least (some 2) (padded 2 n ++ cs) = some (n, cs) :=
  takeNumber_padded (by decide) hLeast hn (Nat.le_trans (Nat.le_of_lt hn) (by decide)) hRest

theorem takeNumber_eq_none (hLeast : 0 < least) (h : NoDigitHead cs) :
    takeNumber least most cs = none := by
  have hRow : ([] ++ cs).takeWhile isDigit = [] := takeWhile_digits nofun h
  have hTaken : (most.map ([] : List Char).take).getD [] = [] := by
    cases most <;> simp
  rw [List.nil_append] at hRow
  rw [takeNumber, hRow, hTaken, if_neg]
  exact fun hLe => absurd hLe.1 (by simp; omega)

end

end Calendar
end Stencil
