import Mathlib
import Stencil.Filter.Text
import Stencil.Proofs.Text.Braces

/-!
# Spellings that keep braces apart

Changing the case of a text, writing it in HTML and writing it as a JSON string go character by
character. An opening brace is always written for itself, and something without one for anything
else, so calm texts stay calm.
-/

namespace Stencil.Text

/-! ### Upper and lower case -/

/-- What the tables of a case mapping must satisfy to be a spelling. -/
structure KeepsBraces (sequences : List (Nat × List Nat)) (ranges : List CaseRange) : Prop where
  brace : caseImage sequences ranges '\x7b' = ['\x7b']
  ne_nil : ∀ entry ∈ sequences, entry.2 ≠ []
  not_mem : ∀ entry ∈ sequences, '\x7b'.toNat ∉ entry.2
  apart : ∀ r ∈ ranges, '\x7b'.toNat < r.target ∨ r.target + (r.last - r.first) < '\x7b'.toNat

theorem keepsBraces_upper : KeepsBraces upperSequences upperRanges where
  brace := by decide +kernel
  ne_nil := by decide +kernel
  not_mem := by decide +kernel
  apart := by decide +kernel

theorem keepsBraces_lower : KeepsBraces lowerSequences lowerRanges where
  brace := by decide +kernel
  ne_nil := by decide +kernel
  not_mem := by decide +kernel
  apart := by decide +kernel

theorem toNat_of_ofNat_eq {n : Nat} {c : Char} (hc : c.toNat ≠ 0) (h : Char.ofNat n = c) :
    n = c.toNat := by
  rw [Char.ofNat] at h
  split at h
  · rw [← h]
    rfl
  · rw [← h] at hc
    exact absurd rfl hc

theorem CaseRange.image?_ne {r : CaseRange} {n m target : Nat} (h : r.image? n = some target)
    (hApart : m < r.target ∨ r.target + (r.last - r.first) < m) : target ≠ m := by
  rw [image?] at h
  split at h
  · next hRange =>
    cases h
    omega
  · cases h

theorem KeepsBraces.respells {sequences : List (Nat × List Nat)} {ranges : List CaseRange}
    (h : KeepsBraces sequences ranges) : Respells (caseImage sequences ranges) where
  brace := h.brace
  ne_nil c := by
    rw [caseImage]
    split
    · next targets hLookup =>
      intro hNil
      have hTargets := h.ne_nil (c.toNat, targets) (Bindings.mem_of_lookup hLookup)
      exact hTargets (List.map_eq_nil_iff.1 hNil)
    · split
      · simp
      · simp
  not_mem c hc := by
    rw [caseImage]
    split
    · next targets hLookup =>
      intro hMem
      obtain ⟨target, hTarget, hEq⟩ := List.mem_map.1 hMem
      rw [toNat_of_ofNat_eq (by decide) hEq] at hTarget
      exact h.not_mem _ (Bindings.mem_of_lookup hLookup) hTarget
    · split
      · next target hFind =>
        intro hMem
        obtain ⟨r, hr, hImage⟩ := List.exists_of_findSome?_eq_some hFind
        have hEq := toNat_of_ofNat_eq (by decide) (List.mem_singleton.1 hMem).symm
        exact CaseRange.image?_ne hImage (h.apart r hr) hEq
      · intro hMem
        exact hc (List.mem_singleton.1 hMem).symm

theorem respelled_upper (cs : List Char) : Respelled cs (upper cs) :=
  keepsBraces_upper.respells.respelled cs

theorem respelled_lowerAfter (before cs : List Char) : Respelled cs (lowerAfter before cs) := by
  induction cs generalizing before with
  | nil => exact .nil
  | cons c cs ih =>
    have hLower := keepsBraces_lower.respells
    rw [lowerAfter]
    by_cases hc : c = '\x7b'
    · subst hc
      rw [if_neg (by decide), lowerChar, hLower.brace]
      exact .brace (ih _)
    · split
      · exact .other (by simp) (by split <;> decide) (ih _)
      · exact .other (hLower.ne_nil c) (hLower.not_mem c hc) (ih _)

theorem respelled_lower (cs : List Char) : Respelled cs (lower cs) := respelled_lowerAfter [] cs

end Text

/-! ### HTML and JSON -/

theorem Filter.respells_entity : Text.Respells entity where
  brace := rfl
  ne_nil c := by
    rw [entity.eq_def]
    split <;> simp
  not_mem c hc := by
    rw [entity.eq_def]
    split <;> first | decide | exact fun h => hc (List.mem_singleton.1 h).symm

theorem digitChar_ne_brace (n : Nat) : Nat.digitChar n ≠ '\x7b' := by
  by_cases h : n < 16
  · have hSmall : ∀ n < 16, Nat.digitChar n ≠ '\x7b' := by decide
    exact hSmall n h
  · rw [Nat.digitChar_eq_star.2 (Nat.le_of_not_lt h)]
    decide

theorem Json.respells_escapedChar : Text.Respells escapedChar where
  brace := rfl
  ne_nil c := by
    rw [escapedChar]
    repeat' split
    all_goals simp
  not_mem c hc := by
    have hDigits := digitChar_ne_brace
    rw [escapedChar]
    repeat' split
    all_goals simp [Ne.symm hc, Ne.symm (hDigits _)]

end Stencil
