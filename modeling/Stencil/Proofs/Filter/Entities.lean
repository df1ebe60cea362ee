import Stencil.Filter.Apply

/-!
# Texts with entities

An escaped text is a row of entities and of characters that need none, so every ampersand in it
begins an entity. That is why one pass from the left gives back what was escaped, also when this
looks like an entity itself.
-/

namespace Stencil.Filter

/-- The entities, and what they stand for. -/
def entities : List (List Char × Char) :=
  [("&amp;".toList, '&'), ("&lt;".toList, '<'), ("&gt;".toList, '>'), ("&quot;".toList, '"'),
    ("&#39;".toList, '\x27')]

/-- The characters for which entities stand. -/
def markup : List Char := entities.map Prod.snd

/-- Puts characters for entities, in one pass from the left. -/
def unescape : List Char → List Char
  | '&' :: 'a' :: 'm' :: 'p' :: ';' :: cs => '&' :: unescape cs
  | '&' :: 'l' :: 't' :: ';' :: cs => '<' :: unescape cs
  | '&' :: 'g' :: 't' :: ';' :: cs => '>' :: unescape cs
  | '&' :: 'q' :: 'u' :: 'o' :: 't' :: ';' :: cs => '"' :: unescape cs
  | '&' :: '#' :: '3' :: '9' :: ';' :: cs => '\x27' :: unescape cs
  | c :: cs => c :: unescape cs
  | [] => []

theorem unescape_plain {c : Char} (h : c ∉ markup) (cs : List Char) :
    unescape (c :: cs) = c :: unescape cs := by
  have hne : c ≠ '&' := by
    rintro rfl
    exact h (by decide)
  rw [unescape.eq_def]
  split <;> simp_all

theorem unescape_entity {e : List Char × Char} (h : e ∈ entities) (cs : List Char) :
    unescape (e.1 ++ cs) = e.2 :: unescape cs := by
  simp only [entities, List.mem_cons, List.not_mem_nil, or_false] at h
  rcases h with rfl | rfl | rfl | rfl | rfl <;> rfl

/-- An entity begins with an ampersand and has no character in it after that which needs one. -/
theorem entity_eq_cons :
    ∀ e ∈ entities, e.1 = '&' :: e.1.tail ∧ ∀ c ∈ e.1.tail, c ∉ markup := by
  -- Deciding the second part as it stands can mean to try every character there is.
  have hChecked : ∀ e ∈ entities, e.1 = '&' :: e.1.tail ∧ e.1.tail.all (· ∉ markup) = true := by
    decide
  intro e he
  obtain ⟨hHead, hTail⟩ := hChecked e he
  exact ⟨hHead, fun c hc => of_decide_eq_true (List.all_eq_true.1 hTail c hc)⟩

/-- A character has an entity or is written as it is. -/
theorem entity_cases (c : Char) : (entity c, c) ∈ entities ∨ (c ∉ markup ∧ entity c = [c]) := by
  fun_cases entity c with
  | case6 _ hAmpersand hLess hGreater hQuote hApostrophe =>
    have hPlain : c ∉ markup := by
      simp only [markup, entities, List.map_cons, List.map_nil, List.mem_cons, List.not_mem_nil,
        or_false, not_or]
      exact ⟨hAmpersand, hLess, hGreater, hQuote, hApostrophe⟩
    exact .inr ⟨hPlain, rfl⟩
  | _ => exact .inl (by decide)

/-! ### Escaped texts -/

/-- Entities, and characters for which there are none. -/
inductive Escaped : List Char → Prop
  | nil : Escaped []
  | plain {c : Char} {cs : List Char} : c ∉ markup → Escaped cs → Escaped (c :: cs)
  | entity {e : List Char × Char} {cs : List Char} : e ∈ entities → Escaped cs →
    Escaped (e.1 ++ cs)

theorem escaped_escapeChars (cs : List Char) :
    Escaped (escapeChars cs) ∧ unescape (escapeChars cs) = cs := by
  induction cs with
  | nil => exact ⟨.nil, rfl⟩
  | cons c cs ih =>
    obtain ⟨hEscaped, hBack⟩ := ih
    have hCons : escapeChars (c :: cs) = entity c ++ escapeChars cs := List.flatMap_cons
    rw [hCons]
    rcases entity_cases c with hEntity | ⟨hPlain, hSelf⟩
    · exact ⟨.entity hEntity hEscaped, by rw [unescape_entity hEntity, hBack]⟩
    · rw [hSelf]
      exact ⟨.plain hPlain hEscaped, by rw [List.singleton_append, unescape_plain hPlain, hBack]⟩

section

variable {cs rest after : List Char}

theorem Escaped.eq_ampersand (h : Escaped cs) {c : Char} (hc : c ∈ cs) (hMarkup : c ∈ markup) :
    c = '&' := by
  induction h with
  | nil => cases hc
  | plain hPlain _ ih =>
    rcases List.mem_cons.1 hc with rfl | hc
    · exact absurd hMarkup hPlain
    · exact ih hc
  | entity he _ ih =>
    obtain ⟨hHead, hTail⟩ := entity_eq_cons _ he
    rcases List.mem_append.1 hc with hc | hc
    · rw [hHead] at hc
      exact (List.mem_cons.1 hc).resolve_right fun hc => hTail c hc hMarkup
    · exact ih hc

theorem suffix_of_not_mem (hNot : '&' ∉ rest) (h : '&' :: after <:+ rest ++ cs) :
    '&' :: after <:+ cs := by
  induction rest with
  | nil => exact h
  | cons c rest ih =>
    rw [List.mem_cons, not_or] at hNot
    rcases List.suffix_cons_iff.1 h with hHead | hTail
    · exact absurd (List.cons.inj hHead).1 hNot.1
    · exact ih hNot.2 hTail

/-- An ampersand is the first character of an entity, since no entity has another one. -/
theorem Escaped.entity_of_suffix (h : Escaped cs) (hSuffix : '&' :: after <:+ cs) :
    ∃ e ∈ entities, e.1 <+: '&' :: after := by
  induction h with
  | nil => cases List.suffix_nil.1 hSuffix
  | plain hPlain _ ih =>
    rcases List.suffix_cons_iff.1 hSuffix with hHead | hTail
    · rw [← (List.cons.inj hHead).1] at hPlain
      exact absurd (by decide) hPlain
    · exact ih hTail
  | @entity e cs he _ ih =>
    obtain ⟨hHead, hTail⟩ := entity_eq_cons e he
    have hNot : '&' ∉ e.1.tail := fun hMem => hTail '&' hMem (by decide)
    rw [hHead, List.cons_append] at hSuffix
    rcases List.suffix_cons_iff.1 hSuffix with hWhole | hRest
    · exact ⟨e, he, cs, by rw [hWhole, ← List.cons_append, ← hHead]⟩
    · exact ih (suffix_of_not_mem hNot hRest)

end

/-- Escaping a string leaves no character in it that has a meaning in HTML, but for ampersands that
begin entities. Nothing is lost: the string is read back from its entities, no other string is
escaped in the same way, and strings may be escaped in parts. -/
theorem apply_escape (argument : Option String) (s : String) :
    ∃ text : String, Filter.escape.apply argument (.string s) = .string text ∧
      (∀ c ∈ text.toList, c ≠ '<' ∧ c ≠ '>' ∧ c ≠ '"' ∧ c ≠ '\x27') ∧
      (∀ before after, text.toList = before ++ '&' :: after →
        ∃ e ∈ entities, e.1 <+: '&' :: after) ∧
      String.ofList (unescape text.toList) = s ∧
      (∀ t, Filter.escape.apply argument (.string t) = .string text → t = s) ∧
      ∀ t other, Filter.escape.apply argument (.string t) = .string other →
        Filter.escape.apply argument (.string (s ++ t)) = .string (text ++ other) := by
  have hApply (t : String) : Filter.escape.apply argument (.string t) =
      .string (String.ofList (escapeChars t.toList)) := rfl
  have hBack (t : String) : String.ofList (unescape (escapeChars t.toList)) = t := by
    rw [(escaped_escapeChars t.toList).2, String.ofList_toList]
  refine ⟨_, hApply s, ?_⟩
  rw [String.toList_ofList]
  have hEscaped := (escaped_escapeChars s.toList).1
  refine ⟨fun c hc => ?_, fun before after h => ?_, hBack s, fun t h => ?_, fun t other h => ?_⟩
  · have hMarkup (d : Char) (hd : d ∈ markup) (hne : d ≠ '&') : c ≠ d := by
      rintro rfl
      exact hne (hEscaped.eq_ampersand hc hd)
    exact ⟨hMarkup '<' (by decide) (by decide), hMarkup '>' (by decide) (by decide),
      hMarkup '"' (by decide) (by decide), hMarkup '\x27' (by decide) (by decide)⟩
  · exact hEscaped.entity_of_suffix ⟨before, h.symm⟩
  · rw [hApply] at h
    have hSame := String.ofList_injective (Json.string.inj h)
    rw [← hBack t, hSame, hBack s]
  · rw [hApply] at h
    obtain rfl := Json.string.inj h
    rw [hApply, String.toList_append, escapeChars_append, String.ofList_append]

/-- What looks like an entity already is escaped all the same. -/
example : escapeChars "a&lt;b & c".toList = "a&amp;lt;b &amp; c".toList := by decide

end Stencil.Filter
