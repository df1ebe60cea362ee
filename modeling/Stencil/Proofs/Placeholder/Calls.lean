import Mathlib.Data.List.TakeWhile
import Stencil.Expression
import Stencil.Proofs.Text.Trimming

/-!
# What a part tells

A part behind a pipe names a filter, before its first colon, and gives it an argument, behind that
colon. An argument may stand between quotes, which are not part of it and keep the blanks that are.
`Tells` states this without the reader, and the reader follows it.
-/

namespace Stencil.Pipeline

open Text

/-- Stands between two equal quotes. -/
def IsQuoted (cs : List Char) : Prop := ∃ q inner, isQuote q = true ∧ cs = q :: inner ++ [q]

/-- The argument that a text means. Blanks around it do not count, and without anything else there
is no argument. Quotes around it are taken off, once. -/
inductive Means : List Char → Option (List Char) → Prop
  | blank {raw : List Char} : AllBlank raw → Means raw none
  | quoted {before inner after : List Char} {q : Char} : isQuote q = true → AllBlank before →
    AllBlank after → Means (before ++ (q :: inner ++ [q]) ++ after) (some inner)
  | bare {before cs after : List Char} : cs ≠ [] → Unpadded cs → ¬ IsQuoted cs →
    AllBlank before → AllBlank after → Means (before ++ cs ++ after) (some cs)

/-- The name and the argument that a text tells. The first colon, if there is one, ends the name. -/
inductive Tells : List Char → List Char → Option (List Char) → Prop
  | name {cs : List Char} : ':' ∉ cs → Tells cs (trim cs) none
  | call {cs raw : List Char} {argument : Option (List Char)} : ':' ∉ cs → Means raw argument →
    Tells (cs ++ ':' :: raw) (trim cs) argument

/-! ### Arguments -/

theorem isBlank_of_isQuote {q : Char} (h : isQuote q = true) : isBlank q = false := by
  simp only [isQuote, Bool.or_eq_true, beq_iff_eq] at h
  rcases h with rfl | rfl
  · decide
  · decide

theorem unpadded_quoted {q : Char} (h : isQuote q = true) (inner : List Char) :
    Unpadded (q :: inner ++ [q]) := by
  constructor
  · intro c hc
    cases hc
    exact isBlank_of_isQuote h
  · intro c hc
    rw [List.getLast?_append] at hc
    cases hc
    exact isBlank_of_isQuote h

theorem isQuoted_cons_iff {q : Char} {rest : List Char} :
    IsQuoted (q :: rest) ↔ isQuote q = true ∧ rest.getLast? = some q := by
  constructor
  · rintro ⟨p, inner, hQuote, hEq⟩
    rw [List.cons_append, List.cons.injEq] at hEq
    obtain ⟨rfl, rfl⟩ := hEq
    exact ⟨hQuote, by simp⟩
  · rintro ⟨hQuote, hLast⟩
    obtain ⟨inner, rfl⟩ := List.getLast?_eq_some_iff.1 hLast
    exact ⟨q, inner, hQuote, rfl⟩

theorem unquote?_of_isQuoted {raw inner : List Char} {q : Char} (hQuote : isQuote q = true)
    (hTrim : trim raw = q :: inner ++ [q]) : unquote? raw = some inner := by
  rw [unquote?, hTrim]
  simp [hQuote]

theorem unquote?_of_not_isQuoted {raw : List Char} (hNe : trim raw ≠ [])
    (h : ¬ IsQuoted (trim raw)) : unquote? raw = some (trim raw) := by
  rw [unquote?]
  cases hTrim : trim raw with
  | nil => exact absurd hTrim hNe
  | cons q rest =>
    rw [hTrim, isQuoted_cons_iff] at h
    exact if_neg h

theorem Means.unquote?_eq {raw : List Char} {argument : Option (List Char)}
    (h : Means raw argument) : unquote? raw = argument := by
  cases h with
  | blank hBlank =>
    rw [unquote?, trim_of_allBlank hBlank]
  | quoted hQuote hBefore hAfter =>
    exact unquote?_of_isQuoted hQuote (trim_padded hBefore (unpadded_quoted hQuote _) hAfter)
  | bare hNe hUnpadded hPlain hBefore hAfter =>
    have hTrim := trim_padded hBefore hUnpadded hAfter
    rw [unquote?_of_not_isQuoted (by rw [hTrim]; exact hNe) (by rw [hTrim]; exact hPlain), hTrim]

theorem means_unquote? (raw : List Char) : Means raw (unquote? raw) := by
  obtain ⟨before, after, hBefore, hAfter, hWhole⟩ := exists_eq_padded_trim raw
  by_cases hNe : trim raw = []
  · have hBlank : AllBlank raw := by
      rw [hWhole, hNe, List.append_nil]
      exact List.forall_mem_append.2 ⟨hBefore, hAfter⟩
    rw [(Means.blank hBlank).unquote?_eq]
    exact .blank hBlank
  · by_cases hQuoted : IsQuoted (trim raw)
    · obtain ⟨q, inner, hQuote, hTrim⟩ := hQuoted
      rw [unquote?_of_isQuoted hQuote hTrim, hWhole, hTrim]
      exact .quoted hQuote hBefore hAfter
    · rw [unquote?_of_not_isQuoted hNe hQuoted]
      have hBare := Means.bare hNe (unpadded_trim raw) hQuoted hBefore hAfter
      rw [← hWhole] at hBare
      exact hBare

/-! ### Names -/

namespace Part

variable {part : Part} {a b : List Char}

theorem forall_ne_colon (h : ':' ∉ a) : ∀ c ∈ a, decide (c ≠ ':') = true := by
  intro c hc
  rw [decide_eq_true_eq]
  rintro rfl
  exact h hc

/-- The first colon ends the name, and what is behind it is the argument. -/
theorem of_colon (hName : ':' ∉ a) (h : part.chars = a ++ ':' :: b) :
    part.name = trim a ∧ part.rawArgument? = some b := by
  have hAll := forall_ne_colon hName
  constructor
  · rw [Part.name, h, List.takeWhile_append_of_pos hAll]
    simp
  · rw [Part.rawArgument?, h, List.dropWhile_append_of_pos hAll]
    simp

/-- Without a colon all of a part is the name. -/
theorem of_no_colon (h : ':' ∉ part.chars) :
    part.name = trim part.chars ∧ part.rawArgument? = none := by
  have hAll := forall_ne_colon h
  constructor
  · rw [Part.name, List.takeWhile_eq_self_iff.2 hAll]
  · rw [Part.rawArgument?, List.dropWhile_eq_nil_iff.2 hAll]

/-- What is read from a part is what it tells. -/
theorem eq_of_tells {name : List Char} {argument : Option (List Char)}
    (h : Tells part.chars name argument) : part.name = name ∧ part.argument? = argument := by
  generalize hChars : part.chars = cs at h
  cases h with
  | name hNone =>
    obtain ⟨hName, hRaw⟩ := of_no_colon (hChars ▸ hNone)
    rw [hName, hChars, argument?, hRaw]
    exact ⟨rfl, rfl⟩
  | call hFirst hMeans =>
    obtain ⟨hName, hRaw⟩ := of_colon hFirst hChars
    rw [hName, argument?, hRaw]
    exact ⟨rfl, hMeans.unquote?_eq⟩

/-- Every part tells something. -/
theorem tells (part : Part) : Tells part.chars part.name part.argument? := by
  by_cases hColon : ':' ∈ part.chars
  · obtain ⟨a, b, hChars, hFirst⟩ := List.eq_append_cons_of_mem hColon
    obtain ⟨hName, hRaw⟩ := of_colon hFirst hChars
    rw [hName, argument?, hRaw, hChars]
    exact .call hFirst (means_unquote? b)
  · obtain ⟨hName, hRaw⟩ := of_no_colon hColon
    rw [hName, argument?, hRaw]
    exact .name hColon

end Part

/-- A text tells only one thing. -/
theorem Tells.unique {cs name name' : List Char} {argument argument' : Option (List Char)}
    (h : Tells cs name argument) (h' : Tells cs name' argument') :
    name' = name ∧ argument' = argument := by
  let part : Part := ⟨cs, 0⟩
  have hFirst : part.name = name ∧ part.argument? = argument := Part.eq_of_tells h
  have hSecond : part.name = name' ∧ part.argument? = argument' := Part.eq_of_tells h'
  exact ⟨hSecond.1.symm.trans hFirst.1, hSecond.2.symm.trans hFirst.2⟩

end Stencil.Pipeline
