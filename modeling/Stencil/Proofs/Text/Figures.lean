import Stencil.Filter.Time
import Stencil.Json.Printer
import Stencil.Proofs.Calendar.Numerals

/-!
# Numbers and times have no braces

Numbers are written with digits, signs, points and the letter of the exponent, times with digits,
names and what the format has. No opening brace comes up among them.
-/

namespace Stencil

theorem not_mem_of_allDigits {row : List Char} (h : Decimal.AllDigits row) : '\x7b' ∉ row :=
  fun hMem => absurd (h _ hMem) (by decide)

theorem not_mem_toDigits (n : Nat) : '\x7b' ∉ Nat.toDigits 10 n :=
  not_mem_of_allDigits (Decimal.allDigits_toDigits n)

theorem not_mem_replicate_zero (n : Nat) : '\x7b' ∉ List.replicate n '0' := by
  intro h
  exact absurd (List.eq_of_mem_replicate h) (by decide)

/-! ### Numbers -/

theorem not_mem_repr (n : Int) : '\x7b' ∉ (toString n).toList := by
  rw [Int.toString_eq_repr, Int.repr_eq_if]
  split
  · rw [Nat.toList_repr]
    exact not_mem_toDigits _
  · rw [String.toList_append, Nat.toList_repr]
    simp [not_mem_toDigits]

namespace Binary64

theorem not_mem_significantDigits (d : Nat) : '\x7b' ∉ significantDigits d := by
  rw [significantDigits, List.mem_reverse]
  intro h
  exact not_mem_toDigits d (List.mem_reverse.1 ((List.dropWhile_sublist _).subset h))

theorem not_mem_layout {digits : List Char} (h : '\x7b' ∉ digits) (lead : Int) :
    '\x7b' ∉ layout digits lead := by
  have hTake (n : Nat) : '\x7b' ∉ digits.take n := fun hMem => h (List.mem_of_mem_take hMem)
  have hDrop (n : Nat) : '\x7b' ∉ digits.drop n := fun hMem => h (List.mem_of_mem_drop hMem)
  have hFraction (n : Nat) :
      '\x7b' ∉ (if digits.drop n = [] then ['0'] else digits.drop n) := by
    split
    · decide
    · exact hDrop n
  have hPoint (n : Nat) :
      '\x7b' ∉ (if digits.drop n = [] then [] else '.' :: digits.drop n) := by
    split
    · simp
    · simp [hDrop n]
  have hSign : '\x7b' ≠ if lead < 0 then '-' else '+' := by split <;> decide
  rw [layout]
  split
  · simp [h]
  · split
    · simp only [List.mem_append, List.mem_cons, not_or]
      exact ⟨⟨hTake _, not_mem_replicate_zero _⟩, by decide, hFraction _⟩
    · simp only [List.mem_append, List.mem_cons, not_or]
      exact ⟨⟨hTake _, hPoint _⟩, by decide, hSign, not_mem_toDigits _⟩

theorem not_mem_text (x : Binary64) : '\x7b' ∉ x.text := by
  have hSign : '\x7b' ∉ (if x.negative then ['-'] else []) := by split <;> decide
  rw [text]
  split
  · simp only [List.mem_append, not_or]
    exact ⟨hSign, by decide⟩
  · simp only [List.mem_append, not_or]
    exact ⟨hSign, not_mem_layout (not_mem_significantDigits _) _⟩

end Binary64

theorem Number.not_mem_chars (n : Number) : '\x7b' ∉ n.chars := by
  cases n with
  | int n => exact not_mem_repr n
  | float x => exact x.not_mem_text

/-! ### Times -/

namespace Calendar

theorem not_mem_padded (width n : Nat) : '\x7b' ∉ padded width n :=
  not_mem_of_allDigits (allDigits_padded width n)

theorem not_mem_yearChars (year : Int) : '\x7b' ∉ yearChars year := by
  rw [yearChars]
  split
  · simp [not_mem_padded]
  · split
    · simp [not_mem_padded]
    · exact not_mem_padded _ _

theorem not_mem_nameAt {names : List String} (h : ∀ name ∈ names, '\x7b' ∉ name.toList)
    (index : Nat) : '\x7b' ∉ ((names[index]?).getD "").toList := by
  cases hName : names[index]? with
  | none => simp
  | some name => exact h name (List.mem_of_getElem? hName)

theorem not_mem_monthName (month : Nat) : '\x7b' ∉ monthName month :=
  not_mem_nameAt (by decide) _

theorem not_mem_weekdayName (weekday : Nat) : '\x7b' ∉ weekdayName weekday :=
  not_mem_nameAt (by decide) _

theorem not_mem_abbreviated {name : List Char} (h : '\x7b' ∉ name) :
    '\x7b' ∉ abbreviated name := fun hMem => h (List.mem_of_mem_take hMem)

theorem not_mem_fieldChars {t : Instant} {letter : Char} {cs : List Char}
    (h : fieldChars? t letter = some cs) : '\x7b' ∉ cs := by
  rw [fieldChars?.eq_def] at h
  split at h <;> cases h
  · exact not_mem_yearChars _
  · exact not_mem_padded 2 _
  · exact not_mem_padded 2 _
  · exact not_mem_padded 2 _
  · exact not_mem_padded 2 _
  · exact not_mem_padded 2 _
  · exact not_mem_padded 2 _
  · split <;> decide
  · exact not_mem_abbreviated (not_mem_monthName _)
  · exact not_mem_monthName _
  · exact not_mem_abbreviated (not_mem_weekdayName _)
  · exact not_mem_weekdayName _

theorem not_mem_specifierChars {t : Instant} {letter : Char} {cs : List Char}
    (h : specifierChars? t letter = some cs) : '\x7b' ∉ cs := by
  rw [specifierChars?] at h
  split at h
  · cases h
    decide
  · exact not_mem_fieldChars h

theorem not_mem_patternOf {format : List Char} (h : '\x7b' ∉ format) :
    '\x7b' ∉ patternOf format := by
  fun_induction patternOf format with
  | case1 => exact h
  | case2 letter rest ih =>
    simp only [List.mem_cons, not_or] at h
    have hLetter : '\x7b' ≠ letter := h.2.1
    rw [List.mem_append, not_or]
    refine ⟨?_, ih h.2.2⟩
    repeat' split
    all_goals simp [hLetter]
  | case3 => decide
  | case4 c rest _ _ ih =>
    rw [List.mem_cons, not_or] at h ⊢
    exact ⟨h.1, ih h.2⟩

theorem not_mem_writePattern {t : Instant} {pattern cs : List Char} (h : '\x7b' ∉ pattern)
    (hcs : writePattern? t pattern = some cs) : '\x7b' ∉ cs := by
  fun_induction writePattern? t pattern generalizing cs with
  | case1 =>
    cases hcs
    exact h
  | case2 letter rest ih =>
    simp only [List.mem_cons, not_or] at h
    obtain ⟨written, hWritten, hRest⟩ := Option.bind_eq_some_iff.1 hcs
    obtain ⟨more, hMore, rfl⟩ := Option.map_eq_some_iff.1 hRest
    rw [List.mem_append, not_or]
    exact ⟨not_mem_specifierChars hWritten, ih h.2.2 hMore⟩
  | case3 => cases hcs
  | case4 c rest _ _ ih =>
    rw [List.mem_cons, not_or] at h
    obtain ⟨more, hMore, rfl⟩ := Option.map_eq_some_iff.1 hcs
    rw [List.mem_cons, not_or]
    exact ⟨h.1, ih h.2 hMore⟩

theorem not_mem_format (t : Instant) {format : List Char} (h : '\x7b' ∉ format) :
    '\x7b' ∉ t.format format := by
  rw [Instant.format]
  cases hPattern : writePattern? t (patternOf format) with
  | none => simp
  | some cs => exact not_mem_writePattern (not_mem_patternOf h) hPattern

end Calendar

theorem Filter.not_mem_clockChars (seconds : Nat) : '\x7b' ∉ clockChars seconds := by
  simp [clockChars, Calendar.not_mem_padded]

end Stencil
