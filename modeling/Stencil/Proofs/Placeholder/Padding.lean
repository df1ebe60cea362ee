import Mathlib
import Stencil.Proofs.Placeholder.Bare
import Stencil.Proofs.Placeholder.Chains
import Stencil.Proofs.Placeholder.Paths

/-!
# Blanks behind a body

Blanks behind the body of a placeholder belong to its last part, where they do not count: not behind
a segment of the path, not behind a filter name, and not behind an argument, be it between quotes or
behind a quote that is never closed.
-/

namespace Stencil

open Text Pipeline

variable {pad : List Char} (hPad : AllBlank pad)

include hPad

theorem Path.ofChars_append_blank (cs : List Char) : ofChars (cs ++ pad) = ofChars cs := by
  rw [ofChars, ofChars, segmentsOf_append_blank hPad]

/-! ### Filters -/

namespace Pipeline

theorem Means.append_blank {raw : List Char} {argument : Option (List Char)}
    (h : Means raw argument) : Means (raw ++ pad) argument := by
  cases h with
  | blank hBlank => exact .blank (List.forall_mem_append.2 ⟨hBlank, hPad⟩)
  | quoted hQuote hBefore hAfter =>
    rw [List.append_assoc]
    exact .quoted hQuote hBefore (List.forall_mem_append.2 ⟨hAfter, hPad⟩)
  | bare hne hUnpadded hPlain hBefore hAfter =>
    rw [List.append_assoc]
    exact .bare hne hUnpadded hPlain hBefore (List.forall_mem_append.2 ⟨hAfter, hPad⟩)

theorem Tells.append_blank {cs name : List Char} {argument : Option (List Char)}
    (h : Tells cs name argument) : Tells (cs ++ pad) name argument := by
  cases h with
  | name hNone =>
    have hColon : ':' ∉ pad := fun hMem => ne_of_isBlank (hPad ':' hMem) (by decide) rfl
    rw [← trim_append cs hPad]
    exact .name (by simp [hNone, hColon])
  | call hFirst hMeans =>
    rw [List.append_assoc, List.cons_append]
    exact .call hFirst (hMeans.append_blank hPad)

theorem Part.call?_append_blank (t : List Char) (start : Nat) :
    (⟨t ++ pad, start⟩ : Part).call? = (⟨t, start⟩ : Part).call? := by
  let part : Part := ⟨t, start⟩
  let padded : Part := ⟨t ++ pad, start⟩
  have hTells : Tells padded.chars part.name part.argument? := part.tells.append_blank hPad
  obtain ⟨hName, hArgument⟩ := Part.eq_of_tells hTells
  rw [call?, call?, hName, hArgument]

theorem topPipes_append_blank (quote : Option Char) (cs : List Char) :
    topPipes quote (cs ++ pad) = topPipes quote cs := by
  have hPipe : '|' ∉ pad := fun hMem => ne_of_isBlank (hPad '|' hMem) (by decide) rfl
  rw [topPipes_append, topPipes_of_not_mem hPipe, Nat.add_zero]

end Pipeline

/-- The path and the calls are those of the body without the blanks. -/
theorem Expression.ofChars_append_blank (b : List Char) :
    (ofChars (b ++ pad)).path = (ofChars b).path ∧
      (ofChars (b ++ pad)).calls = (ofChars b).calls := by
  rcases topPipes_cases none b with hOne | ⟨a, t, rfl, ha, ht⟩
  · have hPadded : topPipes none (b ++ pad) = 0 := by rw [topPipes_append_blank hPad, hOne]
    rw [ofChars_of_onePart hOne, ofChars_of_onePart hPadded]
    exact ⟨Path.ofChars_append_blank hPad b, rfl⟩
  · have hPadded : topPipes none (t ++ pad) = 0 := by rw [topPipes_append_blank hPad, ht]
    have hCall := Part.call?_append_blank hPad t (byteLength a + 1)
    rw [List.append_assoc, List.cons_append, ofChars_append_pipe ha ht,
      ofChars_append_pipe ha hPadded]
    exact ⟨rfl, by simp only [hCall]⟩

end Stencil
