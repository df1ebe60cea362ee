import Mathlib
import Stencil.Filter.Time

/-!
# What a format shows

`Shows` says what an instant looks like in a format, part by part from the left, without a pattern.
The pattern of a format has no specifiers but the fields and the doubled percent sign, so whatever
can write these can write the pattern, and what it writes is what the format shows.
-/

namespace Stencil.Calendar

/-- The instant in a format. A percent sign with the letter of a field, with the letter of the zone
or with another percent sign behind it is one part, and any other one stands for itself together
with the character behind it. -/
inductive Shows (t : Instant) : List Char → List Char → Prop
  | nil : Shows t [] []
  | plain {c : Char} {format cs : List Char} : c ≠ '%' → Shows t format cs →
    Shows t (c :: format) (c :: cs)
  | field {letter : Char} {field format cs : List Char} : fieldChars? t letter = some field →
    Shows t format cs → Shows t ('%' :: letter :: format) (field ++ cs)
  | zone {format cs : List Char} : Shows t format cs →
    Shows t ('%' :: 'Z' :: format) ('U' :: 'T' :: 'C' :: cs)
  | percent {format cs : List Char} : Shows t format cs → Shows t ('%' :: '%' :: format) ('%' :: cs)
  | other {c : Char} {format cs : List Char} : c ∉ fieldLetters → c ≠ 'Z' → c ≠ '%' →
    Shows t format cs → Shows t ('%' :: c :: format) ('%' :: c :: cs)
  | last : Shows t ['%'] ['%']

/-- Every percent sign is doubled or has the letter of a field behind it. -/
inductive IsPattern : List Char → Prop
  | nil : IsPattern []
  | plain {c : Char} {cs : List Char} : c ≠ '%' → IsPattern cs → IsPattern (c :: cs)
  | field {letter : Char} {cs : List Char} : letter ∈ fieldLetters → IsPattern cs →
    IsPattern ('%' :: letter :: cs)
  | percent {cs : List Char} : IsPattern cs → IsPattern ('%' :: '%' :: cs)

/-- Writes the fields, doubled percent signs and plain characters of a pattern. Nothing is said
about other specifiers. -/
structure Writes (t : Instant) (write : List Char → Option (List Char)) : Prop where
  nil : write [] = some []
  plain : ∀ {c : Char}, c ≠ '%' → ∀ rest, write (c :: rest) = (write rest).map (c :: ·)
  field : ∀ {letter : Char} {field : List Char}, fieldChars? t letter = some field →
    ∀ rest, write ('%' :: letter :: rest) = (write rest).map (field ++ ·)
  percent : ∀ rest, write ('%' :: '%' :: rest) = (write rest).map ('%' :: ·)

/-! ### Fields -/

theorem exists_field {letter : Char} (h : letter ∈ fieldLetters) (t : Instant) :
    ∃ field, fieldChars? t letter = some field := by
  simp only [fieldLetters, List.mem_cons, List.not_mem_nil, or_false] at h
  rcases h with rfl | rfl | rfl | rfl | rfl | rfl | rfl | rfl | rfl | rfl | rfl | rfl <;>
    exact ⟨_, rfl⟩

theorem mem_fieldLetters {t : Instant} {letter : Char} {field : List Char}
    (h : fieldChars? t letter = some field) : letter ∈ fieldLetters := by
  rw [fieldChars?.eq_def] at h
  split at h
  all_goals first | decide | cases h

theorem ne_percent_of_mem {letter : Char} (h : letter ∈ fieldLetters) : letter ≠ '%' := by
  rintro rfl
  exact absurd h (by decide)

/-! ### The parts of a format -/

section

variable {c : Char} (rest : List Char)

theorem patternOf_plain (h : c ≠ '%') : patternOf (c :: rest) = c :: patternOf rest := by
  rw [patternOf.eq_def]
  split <;> simp_all

theorem patternOf_field (h : c ∈ fieldLetters) :
    patternOf ('%' :: c :: rest) = '%' :: c :: patternOf rest := by
  rw [patternOf, if_pos h]
  rfl

theorem patternOf_zone : patternOf ('%' :: 'Z' :: rest) = 'U' :: 'T' :: 'C' :: patternOf rest := by
  rw [patternOf, if_neg (by decide), if_pos rfl]
  rfl

theorem patternOf_percent : patternOf ('%' :: '%' :: rest) = '%' :: '%' :: patternOf rest := by
  rw [patternOf, if_neg (by decide), if_neg (by decide), if_pos rfl]
  rfl

theorem patternOf_other (hField : c ∉ fieldLetters) (hZone : c ≠ 'Z') (hPercent : c ≠ '%') :
    patternOf ('%' :: c :: rest) = '%' :: '%' :: c :: patternOf rest := by
  rw [patternOf, if_neg hField, if_neg hZone, if_neg hPercent]
  rfl

end

/-- Every format can be taken apart. -/
theorem exists_shows (t : Instant) (format : List Char) : ∃ cs, Shows t format cs := by
  fun_induction patternOf format with
  | case1 => exact ⟨[], .nil⟩
  | case2 letter rest ih =>
    obtain ⟨cs, h⟩ := ih
    by_cases hField : letter ∈ fieldLetters
    · obtain ⟨field, hChars⟩ := exists_field hField t
      exact ⟨_, .field hChars h⟩
    by_cases hZone : letter = 'Z'
    · subst hZone
      exact ⟨_, .zone h⟩
    by_cases hPercent : letter = '%'
    · subst hPercent
      exact ⟨_, .percent h⟩
    exact ⟨_, .other hField hZone hPercent h⟩
  | case3 => exact ⟨_, .last⟩
  | case4 c rest hTwo hOne ih =>
    obtain ⟨cs, h⟩ := ih
    have hPlain : c ≠ '%' := by
      rintro rfl
      cases rest with
      | nil => exact hOne rfl rfl
      | cons letter rest => exact hTwo letter rest rfl rfl
    exact ⟨_, .plain hPlain h⟩

section

variable {t : Instant} {format cs : List Char}

theorem Shows.isPattern (h : Shows t format cs) : IsPattern (patternOf format) := by
  induction h with
  | nil => exact .nil
  | plain hc _ ih =>
    rw [patternOf_plain _ hc]
    exact .plain hc ih
  | field hField _ ih =>
    have hMem := mem_fieldLetters hField
    rw [patternOf_field _ hMem]
    exact .field hMem ih
  | zone _ ih =>
    rw [patternOf_zone]
    exact .plain (by decide) (.plain (by decide) (.plain (by decide) ih))
  | percent _ ih =>
    rw [patternOf_percent]
    exact .percent ih
  | other hField hZone hPercent _ ih =>
    rw [patternOf_other _ hField hZone hPercent]
    exact .percent (.plain hPercent ih)
  | last => exact .percent .nil

/-- Written from its pattern, the instant is as the format shows it. -/
theorem Writes.write_patternOf {write : List Char → Option (List Char)} (hWrite : Writes t write)
    (h : Shows t format cs) : write (patternOf format) = some cs := by
  induction h with
  | nil => exact hWrite.nil
  | plain hc _ ih => rw [patternOf_plain _ hc, hWrite.plain hc, ih, Option.map_some]
  | field hField _ ih =>
    rw [patternOf_field _ (mem_fieldLetters hField), hWrite.field hField, ih, Option.map_some]
  | zone _ ih =>
    rw [patternOf_zone, hWrite.plain (by decide), hWrite.plain (by decide),
      hWrite.plain (by decide), ih]
    rfl
  | percent _ ih => rw [patternOf_percent, hWrite.percent, ih, Option.map_some]
  | other hField hZone hPercent _ ih =>
    rw [patternOf_other _ hField hZone hPercent, hWrite.percent, hWrite.plain hPercent, ih]
    rfl
  | last =>
    rw [patternOf, hWrite.percent, hWrite.nil]
    rfl

end

/-! ### Writing patterns -/

theorem writes_writePattern (t : Instant) : Writes t (writePattern? t) where
  nil := rfl
  plain := by
    intro c hc rest
    rw [writePattern?.eq_def]
    split <;> simp_all
  field := by
    intro letter field hField rest
    have hLetter := ne_percent_of_mem (mem_fieldLetters hField)
    rw [writePattern?, specifierChars?, if_neg hLetter, hField, Option.bind_some]
  percent _ := rfl

theorem Instant.format_eq {t : Instant} {format cs : List Char} (h : Shows t format cs) :
    t.format format = cs := by
  rw [Instant.format, (writes_writePattern t).write_patternOf h, Option.getD_some]

end Stencil.Calendar

namespace Stencil.Filter

open Calendar

/-- A value that can be read as an instant is written as its format shows that instant, whatever the
format is. The pattern of the format has no specifiers but the fields and the doubled percent sign,
so writing it cannot fail, and any writer that knows these writes the same. -/
theorem dateOf_shows {v : Json} {t : Instant} (h : instantOf? v = some t) (format : String) :
    IsPattern (patternOf format.toList) ∧
      ∃ cs, Shows t format.toList cs ∧ (∀ ds, Shows t format.toList ds → ds = cs) ∧
        writePattern? t (patternOf format.toList) = some cs ∧
        (∀ write, Writes t write → write (patternOf format.toList) = some cs) ∧
        dateOf (some format) v = .string (String.ofList cs) := by
  obtain ⟨cs, hShows⟩ := exists_shows t format.toList
  refine ⟨hShows.isPattern, cs, hShows, fun ds hOther => ?_,
    (writes_writePattern t).write_patternOf hShows,
    fun write hWrite => hWrite.write_patternOf hShows, ?_⟩
  · rw [← Instant.format_eq hShows, Instant.format_eq hOther]
  · simp only [dateOf, h, Option.map_some, Option.getD_some, Instant.format_eq hShows]

/-- A padding sign, percent signs in a row, an unknown letter and a percent sign at the end. -/
theorem dateOf_shows_percents :
    let format := "%-d %%Y%%%I%p %Z%q 100%"
    let shown := "%-d %Y%12AM UTC%q 100%"
    instantOf? (.ofNat 0) = some ⟨0, false⟩ ∧
      patternOf format.toList = "%%-d %%Y%%%I%p UTC%%q 100%%".toList ∧
      IsPattern (patternOf format.toList) ∧ Shows ⟨0, false⟩ format.toList shown.toList ∧
      dateOf (some format) (.ofNat 0) = .string shown := by
  intro format shown
  have h : instantOf? (.ofNat 0) = some ⟨0, false⟩ := by decide +kernel
  obtain ⟨hPattern, cs, hShows, -, hWritten, -, hDate⟩ := dateOf_shows h format
  have hShown : writePattern? ⟨0, false⟩ (patternOf format.toList) = some shown.toList := by
    decide +kernel
  obtain rfl : shown.toList = cs := Option.some.inj (hShown.symm.trans hWritten)
  rw [String.ofList_toList] at hDate
  exact ⟨h, by decide +kernel, hPattern, hShows, hDate⟩

end Stencil.Filter
