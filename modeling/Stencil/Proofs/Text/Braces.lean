import Stencil.Interpolation

/-!
# Texts without placeholders

A text is calm when something other than an opening brace stands right behind each of its opening
braces. Calm texts have no doubled opening brace, and none comes up where two of them meet; so a
text has no placeholder when it is calm but for an end that has none. That is what a scan for
placeholders leaves: what stands before a placeholder is calm, and what stands behind the last one
has no placeholder.
-/

namespace Stencil.Text

/-- A doubled opening brace occurs and behind it a doubled closing brace. -/
def HasPlaceholder (cs : List Char) : Prop :=
  ∃ before body after, cs = before ++ '\x7b' :: '\x7b' :: body ++ '\x7d' :: '\x7d' :: after

/-- Each opening brace has something else right behind it. -/
inductive Calm : List Char → Prop
  | nil : Calm []
  | other {c : Char} {cs : List Char} : c ≠ '\x7b' → Calm cs → Calm (c :: cs)
  | brace {c : Char} {cs : List Char} : c ≠ '\x7b' → Calm cs → Calm ('\x7b' :: c :: cs)

section Calm

variable {a b cs : List Char} {c : Char}

theorem Calm.append (ha : Calm a) (hb : Calm b) : Calm (a ++ b) := by
  induction ha with
  | nil => exact hb
  | other hc _ ih => exact .other hc ih
  | brace hc _ ih => exact .brace hc ih

theorem calm_of_not_mem (h : '\x7b' ∉ cs) : Calm cs := by
  induction cs with
  | nil => exact .nil
  | cons c cs ih =>
    rw [List.mem_cons, not_or] at h
    exact .other (Ne.symm h.1) (ih h.2)

theorem calm_singleton (hc : c ≠ '\x7b') : Calm [c] := .other hc .nil

theorem Calm.tail (h : Calm (c :: cs)) (hc : c ≠ '\x7b') : Calm cs := by
  cases h with
  | other _ h => exact h
  | brace _ _ => exact absurd rfl hc

/-- An opening brace may come before a calm text that does not begin with one. -/
theorem Calm.after_brace (h : Calm (c :: cs)) (hc : c ≠ '\x7b') : Calm ('\x7b' :: c :: cs) :=
  .brace hc (h.tail hc)

/-- The start of a calm text is calm once there is something other than a brace behind it. -/
theorem Calm.take_append (h : Calm cs) (n : Nat) (hc : c ≠ '\x7b') (hb : Calm b) :
    Calm (cs.take n ++ c :: b) := by
  induction h generalizing n with
  | nil => exact (calm_of_not_mem (by simp)).append (.other hc hb)
  | other hd _ ih =>
    cases n with
    | zero => exact .other hc hb
    | succ n => exact .other hd (ih n)
  | brace hd _ ih =>
    match n with
    | 0 => exact .other hc hb
    | 1 => exact .brace hc hb
    | n + 2 => exact .brace hd (ih n)

theorem Calm.join {sep : List Char} (hSep : Calm sep) {parts : List (List Char)}
    (h : ∀ part ∈ parts, Calm part) : Calm (join sep parts) := by
  induction parts with
  | nil => exact .nil
  | cons part rest ih =>
    have hPart := h part List.mem_cons_self
    have hRest := ih fun p hp => h p (List.mem_cons_of_mem _ hp)
    cases rest with
    | nil => exact hPart
    | cons next rest =>
      rw [join_cons_cons]
      exact (hPart.append hSep).append hRest

end Calm

/-! ### Texts that are spelled differently -/

/-- The second text comes from the first by writing something else for each character. Opening
braces stay, and for nothing else a brace is written or nothing at all. -/
inductive Respelled : List Char → List Char → Prop
  | nil : Respelled [] []
  | brace {cs ds : List Char} : Respelled cs ds → Respelled ('\x7b' :: cs) ('\x7b' :: ds)
  | other {c : Char} {image cs ds : List Char} : image ≠ [] → '\x7b' ∉ image →
    Respelled cs ds → Respelled (c :: cs) (image ++ ds)

theorem Respelled.calm {cs ds : List Char} (h : Respelled cs ds) (hCalm : Calm cs) : Calm ds := by
  induction h with
  | nil => exact .nil
  | @brace cs ds h ih =>
    cases hCalm with
    | other hc _ => exact absurd rfl hc
    | brace hc hCalm =>
      have hds := ih (.other hc hCalm)
      cases h with
      | brace _ => exact absurd rfl hc
      | @other _ image _ ds hne hNot h =>
        obtain ⟨d, image, rfl⟩ := List.exists_cons_of_ne_nil hne
        exact hds.after_brace fun hd => hNot (hd ▸ List.mem_cons_self)
  | other hne hNot _ ih =>
    cases hCalm with
    | other _ hCalm => exact (calm_of_not_mem hNot).append (ih hCalm)
    | brace hc hCalm => exact (calm_of_not_mem hNot).append (ih (.other hc hCalm))

/-- Writes an opening brace for itself, and for anything else something without one. -/
structure Respells (f : Char → List Char) : Prop where
  brace : f '\x7b' = ['\x7b']
  ne_nil : ∀ c, f c ≠ []
  not_mem : ∀ c, c ≠ '\x7b' → '\x7b' ∉ f c

theorem Respells.respelled {f : Char → List Char} (hf : Respells f) (cs : List Char) :
    Respelled cs (cs.flatMap f) := by
  induction cs with
  | nil => exact .nil
  | cons c cs ih =>
    rw [List.flatMap_cons]
    by_cases hc : c = '\x7b'
    · subst hc
      rw [hf.brace]
      exact .brace ih
    · exact .other (hf.ne_nil c) (hf.not_mem c hc) ih

/-! ### Placeholders -/

theorem hasPlaceholder_of_cons {c : Char} {cs : List Char} (h : HasPlaceholder (c :: cs))
    (hc : c = '\x7b' → cs.head? ≠ some '\x7b') : HasPlaceholder cs := by
  obtain ⟨before, body, after, hEq⟩ := h
  cases before with
  | nil =>
    simp only [List.nil_append, List.cons_append, List.cons.injEq] at hEq
    exact absurd (by rw [hEq.2]; rfl) (hc hEq.1)
  | cons d before =>
    simp only [List.cons_append, List.cons.injEq] at hEq
    exact ⟨before, body, after, by rw [hEq.2]⟩

/-- A calm text in front makes no placeholder. -/
theorem Calm.not_hasPlaceholder_append {a cs : List Char} (ha : Calm a)
    (h : ¬ HasPlaceholder cs) : ¬ HasPlaceholder (a ++ cs) := by
  induction ha with
  | nil => exact h
  | other hc _ ih => exact fun hHas => ih (hasPlaceholder_of_cons hHas fun hEq => absurd hEq hc)
  | @brace c a hc _ ih =>
    intro hHas
    have hInner : HasPlaceholder (c :: (a ++ cs)) := by
      apply hasPlaceholder_of_cons hHas
      intro _ hHead
      exact hc (Option.some.inj hHead)
    exact ih (hasPlaceholder_of_cons hInner fun hEq => absurd hEq hc)

theorem not_hasPlaceholder_nil : ¬ HasPlaceholder [] := by
  rintro ⟨before, body, after, hEq⟩
  simp at hEq

theorem Calm.not_hasPlaceholder {cs : List Char} (h : Calm cs) : ¬ HasPlaceholder cs := by
  rw [← List.append_nil cs]
  exact h.not_hasPlaceholder_append not_hasPlaceholder_nil

end Text

/-- What stands before the first doubled opening brace is calm. -/
theorem calm_of_cutAtDouble {cs before after : List Char}
    (h : cutAtDouble '\x7b' cs = some (before, after)) : Text.Calm before := by
  fun_induction cutAtDouble '\x7b' cs generalizing before with
  | case1 a b rest hab =>
    cases h
    exact .nil
  | case2 a b rest hab ih =>
    obtain ⟨⟨p, q⟩, hp, hq⟩ := Option.map_eq_some_iff.1 h
    cases hq
    have hCalm := ih hp
    have hWhole := eq_append_of_cutAtDouble hp
    by_cases ha : a = '\x7b'
    · have hb : b ≠ '\x7b' := fun hb => hab ⟨ha, hb⟩
      rw [ha]
      cases p with
      | nil =>
        rw [List.nil_append, List.cons.injEq] at hWhole
        exact absurd hWhole.1 hb
      | cons d p =>
        rw [List.cons_append, List.cons.injEq] at hWhole
        exact hCalm.after_brace (hWhole.1 ▸ hb)
    · exact .other ha hCalm
  | case3 => cases h

/-- A doubled character is found where it stands or before, so what comes behind it is kept. -/
theorem cutAtDouble_append (c : Char) (before after : List Char) :
    ∃ p q, cutAtDouble c (before ++ c :: c :: after) = some (p, q ++ after) := by
  induction before with
  | nil => exact ⟨[], [], by simp [cutAtDouble]⟩
  | cons a before ih =>
    obtain ⟨p, q, hCut⟩ := ih
    cases before with
    | nil =>
      rw [List.cons_append, List.nil_append, cutAtDouble]
      split
      · exact ⟨[], [c], rfl⟩
      · exact ⟨a :: p, q, by rw [List.nil_append] at hCut; rw [hCut]; rfl⟩
    | cons b before =>
      rw [List.cons_append, List.cons_append, cutAtDouble]
      split
      · exact ⟨[], before ++ [c, c], by simp⟩
      · exact ⟨a :: p, q, by rw [List.cons_append] at hCut; rw [hCut]; rfl⟩

theorem not_hasPlaceholder_of_cutPlaceholder {cs : List Char} (h : cutPlaceholder cs = none) :
    ¬ Text.HasPlaceholder cs := by
  rintro ⟨before, body, after, rfl⟩
  rw [List.append_assoc] at h
  obtain ⟨p, q, hOpen⟩ := cutAtDouble_append '\x7b' before (body ++ '\x7d' :: '\x7d' :: after)
  obtain ⟨p', q', hClose⟩ := cutAtDouble_append '\x7d' (q ++ body) after
  rw [List.append_assoc] at hClose
  simp only [List.cons_append, cutPlaceholder, hOpen, Option.bind_some, hClose, Option.map_some,
    reduceCtorEq] at h

/-- What stands before the first placeholder is calm. -/
theorem calm_of_cutPlaceholder {cs before body after : List Char}
    (h : cutPlaceholder cs = some (before, body, after)) : Text.Calm before := by
  obtain ⟨⟨p, opened⟩, hp, hq⟩ := Option.bind_eq_some_iff.1 h
  obtain ⟨⟨b, a⟩, hb, he⟩ := Option.map_eq_some_iff.1 hq
  cases he
  exact calm_of_cutAtDouble hp

section Scan

variable {display : Segment → String}

theorem Segment.toList_join_ofChars (hText : ∀ s, display (.text s) = s) (cs : List Char) :
    (String.join ((Segment.ofChars cs).map display)).toList = cs := by
  cases cs with
  | nil => rfl
  | cons c cs =>
    have hPiece : ofChars (c :: cs) = [.text (String.ofList (c :: cs))] := rfl
    rw [hPiece, List.map_singleton, hText, String.toList_join]
    simp

/-- With calm texts in place of its placeholders, a text has no placeholder left. -/
theorem Segment.not_hasPlaceholder_join_scan (hText : ∀ s, display (.text s) = s) {cs : List Char}
    (hCalm : ∀ e, .placeholder e ∈ Segment.scan cs →
      Text.Calm (display (.placeholder e)).toList) :
    ¬ Text.HasPlaceholder (String.join ((Segment.scan cs).map display)).toList := by
  induction cs using Segment.scan.induct with
  | case1 cs hCut =>
    rw [Segment.scan_of_none hCut, toList_join_ofChars hText]
    exact not_hasPlaceholder_of_cutPlaceholder hCut
  | case2 cs before body after hCut ih =>
    rw [Segment.scan_of_some hCut] at hCalm ⊢
    have hHere := hCalm (Expression.ofChars body) (by simp)
    have hAfter := ih fun e he => hCalm e (by simp [he])
    rw [List.map_append, List.map_cons, String.join_append, String.join_cons, String.toList_append,
      String.toList_append, toList_join_ofChars hText, ← List.append_assoc]
    exact ((calm_of_cutPlaceholder hCut).append hHere).not_hasPlaceholder_append hAfter

end Scan

end Stencil
