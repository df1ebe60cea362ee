import Mathlib
import Stencil.Proofs.Calendar.Formats
import Stencil.Proofs.Calendar.Numerals

/-!
# The default text of a date and a time of day

The second of the formats without a zone reads a text in the default format back to its fields. The
first one misses its `T`, and nothing that is tried before takes such a text: it goes on behind the
year where a number would end, it has no zone, and the day does not stand in front.
-/

namespace Stencil.Calendar

open Decimal

namespace Plain.Fields

/-- The fields in the default format. -/
def text (f : Fields) : List Char :=
  yearChars f.date.year ++ '-' :: (padded 2 f.date.month ++ '-' :: (padded 2 f.date.day ++
    ' ' :: (padded 2 f.hour ++ ':' :: (padded 2 f.minute ++ ':' :: padded 2 f.second))))

/-- Every field fits into its two digits, and the year can be read. -/
structure Fits (f : Fields) : Prop where
  year : f.date.year.natAbs ≤ maxNumber
  month : f.date.month < 100
  day : f.date.day < 100
  hour : f.hour < 100
  minute : f.minute < 100
  second : f.second < 100

end Plain.Fields

/-- The parts of an instant that the default format shows. -/
def Instant.fields (t : Instant) : Plain.Fields := ⟨t.date, t.hour, t.minute, t.second⟩

theorem Shows.field_last {t : Instant} {letter : Char} {field : List Char}
    (h : fieldChars? t letter = some field) : Shows t ['%', letter] field := by
  have hShows := Shows.field h .nil
  rwa [List.append_nil] at hShows

theorem Instant.format_defaultFormat (t : Instant) : t.format defaultFormat = t.fields.text := by
  have hFormat : defaultFormat =
      ['%', 'Y', '-', '%', 'm', '-', '%', 'd', ' ', '%', 'H', ':', '%', 'M', ':', '%', 'S'] := rfl
  rw [hFormat]
  refine Instant.format_eq (.field rfl (.plain (by decide) ?_))
  refine .field rfl (.plain (by decide) (.field rfl (.plain (by decide) ?_)))
  exact .field rfl (.plain (by decide) (.field rfl (.plain (by decide) (.field_last rfl))))

/-- A year in four digits, or a sign and a year. -/
theorem yearChars_cases (year : Int) :
    (year < 0 ∧ yearChars year = '-' :: padded 4 year.natAbs) ∨
      (0 ≤ year ∧ yearChars year = '+' :: padded 4 year.natAbs) ∨
      (0 ≤ year ∧ year.natAbs < 10000 ∧ yearChars year = padded 4 year.natAbs) := by
  rw [yearChars]
  by_cases hNegative : year < 0
  · exact .inl ⟨hNegative, if_pos hNegative⟩
  · rw [if_neg hNegative]
    by_cases hLong : 9999 < year
    · exact .inr (.inl ⟨by omega, if_pos hLong⟩)
    · exact .inr (.inr ⟨by omega, by omega, if_neg hLong⟩)

theorem takeChar_self (c : Char) (cs : List Char) : takeChar c (c :: cs) = some ((), cs) := by
  rw [takeChar, if_pos rfl]

theorem takeChar_eq_none {c d : Char} (h : d ≠ c) (cs : List Char) :
    takeChar c (d :: cs) = none := by
  rw [takeChar, if_neg h]

theorem noDigitHead_hyphen (cs : List Char) : NoDigitHead ('-' :: cs) :=
  noDigitHead_cons (by decide) cs

theorem noDigitHead_space (cs : List Char) : NoDigitHead (' ' :: cs) :=
  noDigitHead_cons (by decide) cs

theorem noDigitHead_colon (cs : List Char) : NoDigitHead (':' :: cs) :=
  noDigitHead_cons (by decide) cs

/-- The text begins with a sign or a digit and ends with a digit. -/
theorem Plain.Fields.unpadded_text (f : Plain.Fields) : Text.Unpadded f.text where
  head := by
    have hDigits (cs : List Char) : ∀ c ∈ (padded 4 f.date.year.natAbs ++ cs).head?,
        Text.isBlank c = false := by
      intro c hc
      obtain ⟨rest, hCons⟩ := List.head?_eq_some_iff.1 hc
      exact isBlank_of_isDigit (isDigit_of_append_eq_cons (allDigits_padded 4 _)
        (padded_ne_nil (by decide) _) hCons)
    rw [text]
    rcases yearChars_cases f.date.year with ⟨-, hChars⟩ | ⟨-, hChars⟩ | ⟨-, -, hChars⟩
    · rw [hChars]
      rintro c ⟨⟩
      decide
    · rw [hChars]
      rintro c ⟨⟩
      decide
    · rw [hChars]
      exact hDigits _
  last := by
    intro c hc
    have hLast := List.getLast?_eq_some_getLast (padded_ne_nil (by decide : 0 < 2) f.second)
    have hText : f.text.getLast? = (padded 2 f.second).getLast? := by
      simp [text, List.getLast?_append, List.getLast?_cons, hLast]
    rw [hText] at hc
    exact isBlank_of_isDigit (allDigits_padded 2 f.second c (List.mem_of_getLast? hc))

/-! ### Without a zone -/

namespace Plain

theorem takeField_padded {n : Nat} {cs : List Char} (hn : n < 100) (h : NoDigitHead cs) :
    takeField (padded 2 n ++ cs) = some (n, cs) := by
  rw [takeField, trimStart_digits (allDigits_padded 2 n) (padded_ne_nil (by decide) n),
    takeNumber_two (by decide) hn h]

theorem takeYear_yearChars {year : Int} {cs : List Char} (hMax : year.natAbs ≤ maxNumber)
    (h : NoDigitHead cs) : takeYear (yearChars year ++ cs) = some (year, cs) := by
  have hSigned : takeNumber 1 none (padded 4 year.natAbs ++ cs) = some (year.natAbs, cs) :=
    takeNumber_padded_unbounded (by decide) hMax h
  rcases yearChars_cases year with ⟨hYear, hChars⟩ | ⟨hYear, hChars⟩ | ⟨hYear, hLt, hChars⟩
  · have hAbs : -(year.natAbs : Int) = year := by omega
    have hTrim : Text.trimStart ('-' :: (padded 4 year.natAbs ++ cs)) = _ :=
      Text.trimStart_cons_ink (by decide) _
    simp only [takeYear, hChars, List.cons_append, hTrim, hSigned, Option.map_some, hAbs]
  · have hAbs : (year.natAbs : Int) = year := by omega
    have hTrim : Text.trimStart ('+' :: (padded 4 year.natAbs ++ cs)) = _ :=
      Text.trimStart_cons_ink (by decide) _
    simp only [takeYear, hChars, List.cons_append, hTrim, hSigned, Option.map_some, hAbs]
  · have hAbs : (year.natAbs : Int) = year := by omega
    have hRow := allDigits_padded 4 year.natAbs
    have hne := padded_ne_nil (by decide : 0 < 4) year.natAbs
    rw [takeYear, hChars, trimStart_digits hRow hne]
    split
    · next hSign => exact absurd (isDigit_of_append_eq_cons hRow hne hSign) (by decide)
    · next hSign => exact absurd (isDigit_of_append_eq_cons hRow hne hSign) (by decide)
    · have hShort : takeNumber 1 (some 4) (padded 4 year.natAbs ++ cs) = some (year.natAbs, cs) :=
        takeNumber_padded (by decide) (by decide) hLt hMax h
      simp only [hShort, Option.map_some, hAbs]

variable {f : Fields}

/-- The date is read, whatever else the format has. -/
theorem readItems_date (h : f.Fits) (items : List Item) (cs : List Char) :
    readItems? {} (.year :: .char '-' :: .month :: .char '-' :: .day :: items)
        (yearChars f.date.year ++ '-' :: (padded 2 f.date.month ++ '-' ::
          (padded 2 f.date.day ++ ' ' :: cs))) =
      readItems? { date := f.date } items (' ' :: cs) := by
  simp only [readItems?, Item.take, takeYear_yearChars h.year (noDigitHead_hyphen _),
    takeField_padded h.month (noDigitHead_hyphen _), takeField_padded h.day (noDigitHead_space _),
    takeChar_self, Option.map_some, Option.bind_some]

theorem readFormat_text (h : f.Fits) : readFormat? f.text "%Y-%m-%d %H:%M:%S" = f.instant? := by
  have hItems : itemsOf "%Y-%m-%d %H:%M:%S".toList = .year :: .char '-' :: .month :: .char '-' ::
      .day :: [.blanks, .hour, .char ':', .minute, .char ':', .second] := by decide
  have hHour := padded_ne_nil (by decide : 0 < 2) f.hour
  have hSecond : takeField (padded 2 f.second ++ []) = some (f.second, []) :=
    takeField_padded h.second noDigitHead_nil
  rw [List.append_nil] at hSecond
  rw [readFormat?, hItems, Fields.text, readItems_date h]
  simp only [readItems?, Item.take, Text.trimStart_cons_blank (by decide : Text.isBlank ' ' = true),
    trimStart_digits (allDigits_padded 2 f.hour) hHour,
    takeField_padded h.hour (noDigitHead_colon _), takeField_padded h.minute (noDigitHead_colon _),
    hSecond, takeChar_self, Option.map_some, Option.bind_some, ↓reduceIte]

/-- No `T` stands behind the day. -/
theorem readFormat_text_eq_none (h : f.Fits) : readFormat? f.text "%Y-%m-%dT%H:%M:%S" = none := by
  have hItems : itemsOf "%Y-%m-%dT%H:%M:%S".toList = .year :: .char '-' :: .month :: .char '-' ::
      .day :: [.char 'T', .hour, .char ':', .minute, .char ':', .second] := by decide
  rw [readFormat?, hItems, Fields.text, readItems_date h]
  simp only [readItems?, Item.take, takeChar_eq_none (by decide : ' ' ≠ 'T'), Option.map_none,
    Option.bind_none]

theorem read_text (h : f.Fits) {t : Instant} (hInstant : f.instant? = some t) :
    read? f.text = some t := by
  rw [read?, clockFormats, List.findSome?_cons, readFormat_text_eq_none h, List.findSome?_cons,
    readFormat_text h, hInstant]
  rfl

end Plain

/-! ### What is tried before -/

/-- A number may have a sign, but no hyphen behind its digits. -/
theorem readReal_hyphen {row : List Char} (hRow : AllDigits row) (hne : row ≠ []) (cs : List Char) :
    readReal? (row ++ '-' :: cs) = none ∧ readReal? ('-' :: (row ++ '-' :: cs)) = none ∧
      readReal? ('+' :: (row ++ '-' :: cs)) = none := by
  have hTake := takeWhile_digits hRow (noDigitHead_hyphen cs)
  have hDrop := dropWhile_digits hRow (noDigitHead_hyphen cs)
  refine ⟨?_, ?_, ?_⟩
  · obtain ⟨c, row, rfl⟩ := List.exists_cons_of_ne_nil hne
    have hDigit := hRow c List.mem_cons_self
    have hMinus : c ≠ '-' := by rintro rfl; exact absurd hDigit (by decide)
    have hPlus : c ≠ '+' := by rintro rfl; exact absurd hDigit (by decide)
    rw [List.cons_append] at hTake hDrop ⊢
    simp only [readReal?, hTake, hDrop, List.cons.injEq, hMinus, hPlus, reduceCtorEq, false_and,
      imp_self, implies_true, ↓reduceIte]
    rfl
  · simp only [readReal?, hTake, hDrop, hne, false_and, ↓reduceIte]
    rfl
  · simp only [readReal?, hTake, hDrop, hne, false_and, ↓reduceIte]
    rfl

section

variable {f : Plain.Fields}

theorem readReal_text (f : Plain.Fields) : readReal? f.text = none := by
  obtain ⟨hPlain, hMinus, hPlus⟩ := readReal_hyphen (allDigits_padded 4 f.date.year.natAbs)
    (padded_ne_nil (by decide) _) _
  rw [Plain.Fields.text]
  rcases yearChars_cases f.date.year with ⟨-, hChars⟩ | ⟨-, hChars⟩ | ⟨-, -, hChars⟩
  · rw [hChars]
    exact hMinus
  · rw [hChars]
    exact hPlus
  · rw [hChars]
    exact hPlain

/-- A sign does not stand in front of a year there, and a zone must follow the time of day. -/
theorem readRfc3339_text (h : f.Fits) : Rfc3339.read? f.text = none := by
  rcases yearChars_cases f.date.year with ⟨-, hChars⟩ | ⟨-, hChars⟩ | ⟨-, hLt, hChars⟩
  · rw [Plain.Fields.text, hChars, Rfc3339.read?, List.cons_append,
      takeNumber_eq_none (by decide) (noDigitHead_hyphen _)]
    rfl
  · rw [Plain.Fields.text, hChars, Rfc3339.read?, List.cons_append,
      takeNumber_eq_none (by decide) (noDigitHead_cons (by decide) _)]
    rfl
  · have hSecond : takeNumber 2 (some 2) (padded 2 f.second ++ []) = some (f.second, []) :=
      takeNumber_two (by decide) h.second noDigitHead_nil
    rw [List.append_nil] at hSecond
    have hSeparator (cs : List Char) : Rfc3339.takeSeparator (' ' :: cs) = some ((), cs) := rfl
    have hFraction : takeFraction [] = some ((), []) := rfl
    have hZone : Rfc3339.takeZone [] = none := rfl
    simp only [Plain.Fields.text, hChars, Rfc3339.read?, Option.bind_eq_bind, Option.bind_some,
      takeNumber_padded (by decide : 0 < 4) (Nat.le_refl 4) hLt h.year (noDigitHead_hyphen _),
      takeNumber_two (Nat.le_refl 2) h.month (noDigitHead_hyphen _),
      takeNumber_two (Nat.le_refl 2) h.day (noDigitHead_space _),
      takeNumber_two (Nat.le_refl 2) h.hour (noDigitHead_colon _),
      takeNumber_two (Nat.le_refl 2) h.minute (noDigitHead_colon _), hSecond, takeChar_self,
      hSeparator, hFraction, hZone, Option.bind_none]

/-- Weekdays begin with a letter. -/
theorem takeWeekday_of_not_letter {c : Char} (h : c.toLower.isAlpha = false) (cs : List Char) :
    Rfc2822.takeWeekday (c :: cs) = some (none, c :: cs) := by
  have hLetters : ∀ name ∈ weekdayNames,
      ((abbreviated name.toList).map Char.toLower).head?.any Char.isAlpha = true := by decide
  have hNone : takeAbbreviation weekdayNames (c :: cs) = none := by
    rw [takeAbbreviation, ite_eq_left_iff]
    rintro -
    rw [Option.map_eq_none_iff, indexOfAbbreviation?, List.findIdx?_eq_none_iff]
    intro name hName
    rw [beq_eq_false_iff_ne]
    intro hEq
    have hLetter := hLetters name hName
    rw [hEq, List.take_succ_cons, List.map_cons, List.head?_cons, Option.any_some, h] at hLetter
    cases hLetter
  rw [Rfc2822.takeWeekday, hNone]

theorem takeBlanks_digits {row : List Char} (hRow : AllDigits row) (hne : row ≠ [])
    (cs : List Char) : takeBlanks (row ++ cs) = none := by
  rw [takeBlanks, trimStart_digits hRow hne, if_neg (Nat.lt_irrefl _)]

/-- A number that is cut off has a digit behind it, and no blank. -/
theorem takeBlanks_of_takeNumber {least most n : Nat} {row cs rest : List Char}
    (hRow : AllDigits row) (hLong : most < row.length) (hRest : NoDigitHead cs)
    (h : takeNumber least (some most) (row ++ cs) = some (n, rest)) : takeBlanks rest = none := by
  have hLength : (row.take most).length = most := by
    rw [List.length_take]
    omega
  rw [takeNumber, takeWhile_digits hRow hRest, Option.map_some, Option.getD_some, hLength] at h
  split at h
  · obtain ⟨-, rfl⟩ := Prod.mk.inj (Option.some.inj h)
    have hDrop : (row ++ cs).drop most = row.drop most ++ cs :=
      List.drop_append_of_le_length hLong.le
    have hne : row.drop most ≠ [] := by
      rw [Ne, List.drop_eq_nil_iff]
      omega
    rw [hDrop]
    exact takeBlanks_digits (fun c hc => hRow c (List.mem_of_mem_drop hc)) hne cs
  · cases h

theorem isAlpha_toLower_of_isDigit {c : Char} (h : isDigit c = true) :
    c.toLower.isAlpha = false := by
  obtain ⟨hLow, hHigh⟩ := toNat_of_isDigit h
  rw [← Char.ofNat_toNat c]
  interval_cases c.toNat <;> decide

/-- The day comes first there, with a blank behind it. -/
theorem readRfc2822_eq_none {c : Char} {cs : List Char} (hInk : Text.isBlank c = false)
    (hLetter : c.toLower.isAlpha = false)
    (hDay : ∀ day rest, takeNumber 1 (some 2) (c :: cs) = some (day, rest) →
      takeBlanks rest = none) : Rfc2822.read? (c :: cs) = none := by
  have hTrim := Text.trimStart_cons_ink hInk cs
  refine Option.bind_eq_none_iff.2 ?_
  rintro ⟨weekday, rest⟩ hWeekday
  rw [hTrim, takeWeekday_of_not_letter hLetter] at hWeekday
  obtain ⟨rfl, rfl⟩ := Prod.mk.inj (Option.some.inj hWeekday)
  refine Option.bind_eq_none_iff.2 ?_
  rintro ⟨day, rest⟩ hTaken
  rw [hTrim] at hTaken
  refine Option.bind_eq_none_iff.2 ?_
  rintro ⟨_, more⟩ hBlanks
  cases (hDay day rest hTaken).symm.trans hBlanks

theorem readRfc2822_text (f : Plain.Fields) : Rfc2822.read? f.text = none := by
  have hSigned {c : Char} (hDigit : isDigit c = false) (cs : List Char) (day : Nat)
      (rest : List Char) : takeNumber 1 (some 2) (c :: cs) = some (day, rest) →
        takeBlanks rest = none := by
    rw [takeNumber_eq_none (by decide) (noDigitHead_cons hDigit cs)]
    nofun
  rw [Plain.Fields.text]
  rcases yearChars_cases f.date.year with ⟨-, hChars⟩ | ⟨-, hChars⟩ | ⟨-, -, hChars⟩
  · rw [hChars]
    exact readRfc2822_eq_none (by decide) (by decide) (hSigned (by decide) _)
  · rw [hChars]
    exact readRfc2822_eq_none (by decide) (by decide) (hSigned (by decide) _)
  · have hRow := allDigits_padded 4 f.date.year.natAbs
    have hLength := le_length_padded 4 f.date.year.natAbs
    obtain ⟨c, row, hCons⟩ := List.exists_cons_of_ne_nil
      (padded_ne_nil (by decide : 0 < 4) f.date.year.natAbs)
    rw [hChars]
    rw [hCons] at hRow hLength ⊢
    have hDigit := hRow c List.mem_cons_self
    refine readRfc2822_eq_none (isBlank_of_isDigit hDigit) (isAlpha_toLower_of_isDigit hDigit) ?_
    intro day rest hDay
    exact takeBlanks_of_takeNumber hRow (Nat.lt_of_lt_of_le (by decide) hLength)
      (noDigitHead_hyphen _) hDay

end

end Stencil.Calendar
