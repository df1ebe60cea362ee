import Stencil.Text.Blank

/-!
# What trimming leaves

Trimming takes a text apart into blanks, a text that neither begins nor ends with a blank, and
blanks. There is only one way to do so, as long as something is left in the middle.
-/

namespace Stencil.Text

/-- The text neither begins nor ends with a blank. -/
structure Unpadded (cs : List Char) : Prop where
  head : ∀ c ∈ cs.head?, isBlank c = false
  last : ∀ c ∈ cs.getLast?, isBlank c = false

/-- Nothing but blanks. -/
def AllBlank (cs : List Char) : Prop := ∀ c ∈ cs, isBlank c = true

theorem unpadded_nil : Unpadded [] := ⟨nofun, nofun⟩

theorem allBlank_nil : AllBlank [] := nofun

theorem allBlank_space : AllBlank [' '] := List.forall_mem_singleton.2 (by decide)

theorem ne_of_isBlank {c d : Char} (hc : isBlank c = true) (hd : isBlank d = false) : c ≠ d := by
  rintro rfl
  rw [hc] at hd
  cases hd

section

variable {before cs after : List Char}

theorem trimStart_append (h : AllBlank before) : trimStart (before ++ cs) = trimStart cs := by
  induction before with
  | nil => rfl
  | cons c before ih =>
    rw [List.cons_append, trimStart_cons_blank (h c List.mem_cons_self)]
    exact ih fun d hd => h d (List.mem_cons_of_mem _ hd)

theorem trimStart_append_of_head (hne : cs ≠ []) (after : List Char)
    (h : ∀ c ∈ cs.head?, isBlank c = false) : trimStart (cs ++ after) = cs ++ after := by
  obtain ⟨c, rest, rfl⟩ := List.exists_cons_of_ne_nil hne
  exact trimStart_cons_ink (h c rfl) _

theorem trimEnd_eq_reverse (cs : List Char) : trimEnd cs = (trimStart cs.reverse).reverse := rfl

theorem allBlank_reverse (h : AllBlank cs) : AllBlank cs.reverse :=
  fun c hc => h c (List.mem_reverse.1 hc)

theorem Unpadded.reverse (h : Unpadded cs) : Unpadded cs.reverse where
  head := by simpa using h.last
  last := by simpa using h.head

/-- Blanks around a text go, and nothing else. -/
theorem trim_padded (hBefore : AllBlank before) (h : Unpadded cs) (hAfter : AllBlank after) :
    trim (before ++ cs ++ after) = cs := by
  rw [trim, List.append_assoc, trimStart_append hBefore]
  by_cases hne : cs = []
  · have hEnd : trimStart (after ++ []) = trimStart [] := trimStart_append hAfter
    rw [List.append_nil, trimStart_nil] at hEnd
    rw [hne, List.nil_append, hEnd, trimEnd_nil]
  · have hStart : trimStart cs.reverse = cs.reverse := by
      have hReverse : cs.reverse ≠ [] := by simpa using hne
      simpa using trimStart_append_of_head hReverse [] h.reverse.head
    rw [trimStart_append_of_head hne after h.head, trimEnd_eq_reverse, List.reverse_append,
      trimStart_append (allBlank_reverse hAfter), hStart, List.reverse_reverse]

theorem Unpadded.trim_eq (h : Unpadded cs) : trim cs = cs := by
  have hTrim := trim_padded allBlank_nil h allBlank_nil
  rwa [List.nil_append, List.append_nil] at hTrim

theorem trim_of_allBlank (h : AllBlank cs) : trim cs = [] := by
  have hTrim := trim_padded h unpadded_nil allBlank_nil
  rwa [List.append_nil, List.append_nil] at hTrim

/-- What is left begins with no blank. -/
theorem isBlank_of_mem_head?_trimStart {c : Char} (h : c ∈ (trimStart cs).head?) :
    isBlank c = false := by
  have hInk := List.head?_dropWhile_not isBlank cs
  rw [trimStart, Option.mem_def] at h
  rw [h] at hInk
  exact hInk

theorem exists_eq_append_trimStart (cs : List Char) :
    ∃ before, AllBlank before ∧ cs = before ++ trimStart cs := by
  have hAll : (cs.takeWhile isBlank).all isBlank = true := List.all_takeWhile
  exact ⟨cs.takeWhile isBlank, List.all_eq_true.1 hAll, List.takeWhile_append_dropWhile.symm⟩

theorem exists_eq_append_trimEnd (cs : List Char) :
    ∃ after, AllBlank after ∧ cs = trimEnd cs ++ after := by
  obtain ⟨after, hAfter, hEnd⟩ := exists_eq_append_trimStart cs.reverse
  refine ⟨after.reverse, allBlank_reverse hAfter, ?_⟩
  rw [trimEnd_eq_reverse, ← List.reverse_append, ← hEnd, List.reverse_reverse]

/-- Trimming takes nothing but blanks. -/
theorem exists_eq_padded_trim (cs : List Char) :
    ∃ before after, AllBlank before ∧ AllBlank after ∧ cs = before ++ trim cs ++ after := by
  obtain ⟨before, hBefore, hStart⟩ := exists_eq_append_trimStart cs
  obtain ⟨after, hAfter, hEnd⟩ := exists_eq_append_trimEnd (trimStart cs)
  refine ⟨before, after, hBefore, hAfter, ?_⟩
  rw [trim, List.append_assoc, ← hEnd]
  exact hStart

/-- What trimming leaves has no blank at either end. -/
theorem unpadded_trim (cs : List Char) : Unpadded (trim cs) := by
  constructor
  · intro c hc
    -- The end is taken off last, and what is left of the text still begins where the text does.
    obtain ⟨after, -, hStart⟩ := exists_eq_append_trimEnd (trimStart cs)
    have hHead : c ∈ (trimStart cs).head? := by
      rw [trim] at hc
      rw [hStart, List.head?_append, Option.mem_def.1 hc]
      rfl
    exact isBlank_of_mem_head?_trimStart hHead
  · intro c hc
    rw [trim, trimEnd_eq_reverse, List.getLast?_reverse] at hc
    exact isBlank_of_mem_head?_trimStart hc

/-- More blanks behind a text do not count. -/
theorem trim_append (cs : List Char) (hAfter : AllBlank after) : trim (cs ++ after) = trim cs := by
  obtain ⟨before, behind, hBefore, hBehind, hWhole⟩ := exists_eq_padded_trim cs
  have hPadded := trim_padded hBefore (unpadded_trim cs)
    (List.forall_mem_append.2 ⟨hBehind, hAfter⟩)
  rw [← List.append_assoc, ← hWhole] at hPadded
  exact hPadded

end

end Stencil.Text
