import Mathlib
import Stencil.Proofs.Calendar.Representable

/-!
# Dates of dates

In its default format the `date` filter writes a text that it reads back as the instant it came
from. So filtering a date once more leaves it as it is.
-/

namespace Stencil.Filter

open Calendar

variable {t : Instant}

theorem representable_of_instantOf {v : Json} (h : instantOf? v = some t) : t.Representable := by
  have hNumber {x : Binary64} (h : instantOfNumber? x = some t) : t.Representable := by
    simp only [instantOfNumber?, Option.bind_eq_some_iff] at h
    obtain ⟨millis, -, hMillis⟩ := h
    exact Instant.representable_ofMillis hMillis
  cases v with
  | number n =>
    rw [instantOf?] at h
    exact hNumber h
  | string s =>
    rw [instantOf?, instantOfChars?] at h
    split at h
    · obtain ⟨x, -, hInstant⟩ := Option.bind_eq_some_iff.1 h
      exact hNumber hInstant
    · simp only [Option.or_eq_some_iff] at h
      obtain hRead | ⟨-, hRead | ⟨-, hRead⟩⟩ := h
      · exact Rfc3339.representable_of_read hRead
      · exact Rfc2822.representable_of_read hRead
      · exact Plain.representable_of_read hRead
  | _ => cases h

theorem instantOf_text (h : t.Representable) :
    instantOf? (.string (String.ofList t.fields.text)) = some t := by
  rw [instantOf?, String.toList_ofList, t.fields.unpadded_text.trim_eq, instantOfChars?,
    readReal_text]
  simp only [readRfc3339_text h.fits, readRfc2822_text, Plain.read_text h.fits h.instant_fields,
    Option.none_or]

/-- Writing an instant in the default format and reading it gives the instant back, and no form of
a date but the one without a zone and with a blank in the middle has a part in it. So a date of a
date is that date. -/
theorem dateOf_dateOf (v : Json) :
    dateOf none (dateOf none v) = dateOf none v ∧
      (∀ t, instantOf? v = some t → t.Representable) ∧
      ∀ t : Instant, t.Representable →
        let text := t.format defaultFormat
        Decimal.readReal? text = none ∧ Rfc3339.read? text = none ∧ Rfc2822.read? text = none ∧
          Plain.readFormat? text "%Y-%m-%dT%H:%M:%S" = none ∧
          Plain.readFormat? text "%Y-%m-%d %H:%M:%S" = some t ∧
          instantOf? (.string (String.ofList text)) = some t := by
  refine ⟨?_, fun t => representable_of_instantOf, fun t h => ?_⟩
  · cases hInstant : instantOf? v with
    | none =>
      have hDate : dateOf none v = v := by rw [dateOf, hInstant]
      rw [hDate, hDate]
    | some t =>
      have hDate : dateOf none v = .string (String.ofList t.fields.text) := by
        rw [dateOf, hInstant, ← t.format_defaultFormat]
        rfl
      have hAgain := instantOf_text (representable_of_instantOf hInstant)
      rw [hDate, dateOf, hAgain, ← t.format_defaultFormat]
      rfl
  · rw [t.format_defaultFormat]
    exact ⟨readReal_text t.fields, readRfc3339_text h.fits, readRfc2822_text t.fields,
      Plain.readFormat_text_eq_none h.fits, (Plain.readFormat_text h.fits).trans h.instant_fields,
      instantOf_text h⟩

/-- A leap second before the year zero: the year has a sign, and the second is the sixtieth. -/
theorem dateOf_dateOf_leap :
    let v := Json.string "-44-3-15T23:59:60"
    let t : Instant := ⟨-63549273601, true⟩
    let text := "-0044-03-15 23:59:60"
    instantOf? v = some t ∧ t.Representable ∧ dateOf none v = .string text ∧
      dateOf none (.string text) = .string text ∧ instantOf? (.string text) = some t := by
  intro v t text
  have hRead : instantOf? v = some t := by decide +kernel
  have hFormat : t.format defaultFormat = text.toList := by decide +kernel
  have hDate : dateOf none v = .string text := by
    simp only [dateOf, hRead, Option.map_none, Option.getD_none, hFormat, String.ofList_toList]
  obtain ⟨hAgain, hMade, hTexts⟩ := dateOf_dateOf v
  obtain ⟨-, -, -, -, -, hText⟩ := hTexts t (hMade t hRead)
  rw [hFormat, String.ofList_toList] at hText
  rw [hDate] at hAgain
  exact ⟨hRead, hMade t hRead, hDate, hAgain, hText⟩

end Stencil.Filter
