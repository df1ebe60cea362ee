import Mathlib
import Stencil.Proofs.Evaluation.Values
import Stencil.Proofs.Placeholder.Grammar

/-!
# Placeholders behind text

A text that is one placeholder is read from both ends, and one with something in front of the
placeholder from the left. The two readings give the same body as long as no brace stands in front
of the closing ones. Then text in front of a placeholder changes nothing but that the value is
displayed behind that text. A third closing brace is part of the body for the one reading, and for
the other it is text behind the placeholder.
-/

namespace Stencil

open Text

/-! ### First places -/

/-- A character stands twice for the first time behind `before` when it does not stand twice in
`before`, nor at the end of `before` and once more. -/
theorem firstDouble_iff {c : Char} {cs before after : List Char} :
    FirstDouble c cs before after ↔
      cs = before ++ c :: c :: after ∧ ¬ [c, c] <:+: before ++ [c] := by
  constructor
  · intro h
    refine ⟨h.eq_append, ?_⟩
    rintro ⟨p, r, hEq⟩
    have hEarlier : cs = p ++ c :: c :: (r ++ c :: after) := by
      have hSplit : before ++ c :: c :: after = before ++ [c] ++ c :: after := by simp
      rw [h.eq_append, hSplit, ← hEq]
      simp
    have hFirst := h.first _ _ hEarlier
    have hLength := congrArg List.length hEq
    simp only [List.length_append, List.length_cons, List.length_nil] at hLength
    omega
  · rintro ⟨rfl, hNot⟩
    refine ⟨rfl, fun p q hEq => ?_⟩
    by_contra hLess
    have hLonger : before ++ [c] <+: before ++ c :: c :: after := ⟨c :: after, by simp⟩
    have hShorter : p ++ [c, c] <+: before ++ c :: c :: after := ⟨q, by simp [hEq]⟩
    have hInside : p ++ [c, c] <+: before ++ [c] :=
      List.prefix_of_prefix_length_le hShorter hLonger (by simp; omega)
    obtain ⟨r, hr⟩ := hInside
    exact hNot ⟨p, r, hr⟩

theorem not_double_of_not_mem {c : Char} {cs : List Char} (h : c ∉ cs) :
    ¬ [c, c] <:+: cs ++ [c] := by
  intro hInfix
  have hCount := hInfix.sublist.count_le c
  rw [List.count_append, List.count_eq_zero_of_not_mem h] at hCount
  simp at hCount

/-- Where another character stands, no character stands twice. -/
theorem double_append_cons_iff {c d : Char} (hd : d ≠ c) {a b : List Char} :
    [c, c] <:+: a ++ d :: b ↔ [c, c] <:+: a ∨ [c, c] <:+: b := by
  induction a with
  | nil => simp [List.infix_cons_iff, Ne.symm hd]
  | cons e a ih =>
    rw [List.cons_append, List.infix_cons_iff, ih, List.infix_cons_iff]
    cases a with
    | nil => simp [Ne.symm hd]
    | cons f a => simp [or_assoc]

theorem not_double_concat {c : Char} {cs : List Char} (h : ¬ [c, c] <:+: cs)
    (hLast : ∀ inner, cs ≠ inner ++ [c]) : ¬ [c, c] <:+: cs ++ [c] := by
  rcases List.eq_nil_or_concat' cs with rfl | ⟨inner, d, rfl⟩
  · exact not_double_of_not_mem List.not_mem_nil
  · have hd : d ≠ c := by
      rintro rfl
      exact hLast inner rfl
    rw [List.append_assoc, List.singleton_append, double_append_cons_iff hd, not_or]
    exact ⟨fun hInner => h (hInner.trans (List.prefix_append inner [d]).isInfix),
      not_double_of_not_mem List.not_mem_nil⟩

/-! ### Mixed texts -/

theorem Segment.ofChars_toList {s : String} (h : s.toList ≠ []) :
    ofChars s.toList = [.text s] := by
  obtain ⟨c, cs, hs⟩ := List.exists_cons_of_ne_nil h
  rw [hs, ofChars, ← hs, String.ofList_toList]
  exact List.cons_ne_nil c cs

theorem Segment.scan_of_not_hasPlaceholder {cs : List Char} (h : ¬ HasPlaceholder cs) :
    scan cs = ofChars cs := scan_of_none (cutPlaceholder_eq_none_iff.2 h)

/-- Three closing braces at the end of a placeholder leave one in its body. -/
theorem exists_body_of_suffix {body : List Char}
    (h : ['\x7d', '\x7d', '\x7d'] <:+ '\x7b' :: '\x7b' :: body ++ ['\x7d', '\x7d']) :
    ∃ inner, body = inner ++ ['\x7d'] := by
  obtain ⟨before, hBefore⟩ := h
  have hWhole : before ++ ['\x7d'] ++ ['\x7d', '\x7d'] =
      '\x7b' :: '\x7b' :: body ++ ['\x7d', '\x7d'] := by simpa using hBefore
  have hEnd := List.append_cancel_right hWhole
  rcases List.eq_nil_or_concat' body with rfl | ⟨inner, d, rfl⟩
  · have hLast := congrArg List.getLast? hEnd
    simp at hLast
  · have hSplit : before ++ ['\x7d'] = ('\x7b' :: '\x7b' :: inner) ++ [d] := hEnd
    obtain ⟨-, hLast⟩ := List.append_inj' hSplit rfl
    exact ⟨inner, by rw [hLast]⟩

namespace Interpolation

/-- A text is mixed when it has a placeholder and is not one. -/
theorem ofText?_of_sections {s : String} {before body after : List Char}
    (hs : s.toList = before ++ '\x7b' :: '\x7b' :: (body ++ '\x7d' :: '\x7d' :: after))
    (hNot : ∀ inner, ¬ IsPlaceholder s.toList inner)
    (hBefore : ¬ ['\x7b', '\x7b'] <:+: before ++ ['\x7b'])
    (hBody : ¬ ['\x7d', '\x7d'] <:+: body ++ ['\x7d']) :
    ofText? s = some (.mixed
      (Segment.ofChars before ++ .placeholder (Expression.ofChars body) :: Segment.scan after)) := by
  have hOpen : FirstDouble '\x7b' s.toList before (body ++ '\x7d' :: '\x7d' :: after) :=
    firstDouble_iff.2 ⟨hs, hBefore⟩
  have hClose : FirstDouble '\x7d' (body ++ '\x7d' :: '\x7d' :: after) body after :=
    firstDouble_iff.2 ⟨rfl, hBody⟩
  have hCut := cutPlaceholder_eq_some_iff.2 ⟨_, hOpen, hClose⟩
  rw [ofText?_of_not_isPlaceholder hNot, hCut, Segment.scan_of_some hCut]
  rfl

/-- What stands between the braces of a pure text. -/
theorem exists_body_of_pure {t : String} {e : Expression} (h : ofText? t = some (.pure e))
    (ht : Unpadded t.toList) :
    ∃ body, t.toList = '\x7b' :: '\x7b' :: body ++ ['\x7d', '\x7d'] ∧
      ¬ ['\x7d', '\x7d'] <:+: body ∧ e = Expression.ofChars body := by
  rw [ofText?, ofChars?, ht.trim_eq] at h
  cases hBody : pureBody? t.toList with
  | none =>
    rw [hBody] at h
    by_cases hCut : (cutPlaceholder t.toList).isSome = true <;> simp [hCut] at h
  | some body =>
    rw [hBody] at h
    cases h
    obtain ⟨hWhole, -, hClose⟩ := pureBody?_eq_some_iff.1 hBody
    exact ⟨body, hWhole, hClose, rfl⟩

end Interpolation

/-- Text in front of a placeholder is not part of it. -/
theorem not_isPlaceholder_append {p cs : List Char} (hInk : ∃ c ∈ p, isBlank c = false)
    (hPlain : '\x7b' ∉ p) (body : List Char) : ¬ IsPlaceholder (p ++ cs) body := by
  rintro ⟨⟨before, after, hBefore, -, hEq⟩, -, -⟩
  obtain ⟨c, hc, hNotBlank⟩ := hInk
  have hNot : c ∉ before := fun hMem => by simp [hBefore c hMem] at hNotBlank
  rw [List.append_assoc] at hEq
  rcases List.append_eq_append_iff.1 hEq with ⟨more, hMore, -⟩ | ⟨more, hMore, hRest⟩
  · rw [hMore] at hNot
    exact hNot (List.mem_append_left _ hc)
  · cases more with
    | nil =>
      rw [List.append_nil] at hMore
      exact hNot (hMore ▸ hc)
    | cons d more =>
      have hHead : '\x7b' = d := (List.cons.inj hRest).1
      apply hPlain
      rw [hMore, hHead]
      simp

/-! ### Evaluation -/

namespace Context

variable {α β : Type}

/-- What is done with a value can be done after the value was found one level deeper. -/
theorem descend_map (action : Action (Option α)) (f : α → β) (c : Context) :
    descend (fun d => ((action d).1.map f, (action d).2)) c =
      ((descend action c).1.map f, (descend action c).2) := by
  by_cases h : c.limits.maxDepth ≤ c.depth
  · rw [descend_of_le h, descend_of_le h]
    rfl
  · rw [descend_of_lt (Nat.lt_of_not_le h), descend_of_lt (Nat.lt_of_not_le h)]

end Context

/-- Text in front of a placeholder is text in front of the displayed value, and nothing else is
different. -/
theorem Node.evaluate_text_behind (p : String) (e : Expression) (c : Context) :
    (Node.text (.mixed [.text p, .placeholder e])).evaluate c =
      (((Node.text (.pure e)).evaluate c).1.map fun v => .string (p ++ v.display),
        ((Node.text (.pure e)).evaluate c).2) := by
  rw [evaluate_text, evaluate_text, ← Context.descend_map]
  apply congrFun
  apply congrArg
  funext d
  have hValue : Interpolation.value d (.mixed [.text p, .placeholder e]) =
      .string (p ++ (e.value d).display) := by
    simp [Interpolation.value, Segment.display, String.join]
  simp only [Context.andThen, Context.give, Interpolation.evaluate_eq, Context.reading, hValue]
  rfl

namespace Interpolation

section

variable {p t : String} (hInk : ∃ c ∈ p.toList, isBlank c = false) (hPlain : '\x7b' ∉ p.toList)

include hInk hPlain

/-- Behind other text a placeholder ends at the first two closing braces. -/
theorem ofText?_append {body after : List Char}
    (ht : t.toList = '\x7b' :: '\x7b' :: body ++ '\x7d' :: '\x7d' :: after)
    (hBody : ¬ ['\x7d', '\x7d'] <:+: body ++ ['\x7d']) :
    ofText? (p ++ t) = some (.mixed
      (.text p :: .placeholder (Expression.ofChars body) :: Segment.scan after)) := by
  have hNot : ∀ inner, ¬ IsPlaceholder (p ++ t).toList inner := by
    rw [String.toList_append]
    exact not_isPlaceholder_append hInk hPlain
  have hText : Segment.ofChars p.toList = [.text p] := by
    obtain ⟨c, hc, -⟩ := hInk
    exact Segment.ofChars_toList (List.ne_nil_of_mem hc)
  have hWhole : (p ++ t).toList =
      p.toList ++ '\x7b' :: '\x7b' :: (body ++ '\x7d' :: '\x7d' :: after) := by
    simp [ht]
  rw [ofText?_of_sections hWhole hNot (not_double_of_not_mem hPlain) hBody, hText]
  rfl

/-- A text that is one placeholder, with text in front of it that is not blank and has no opening
brace. Unless a third brace closes the placeholder, the whole has the same expression behind that
text, and its value is the text and then the displayed value of the placeholder alone. A third
closing brace is not part of the expression any more but text. -/
theorem ofText?_behind_text {e : Expression} (ht : Unpadded t.toList)
    (hPure : ofText? t = some (.pure e)) :
    (ofText? (p ++ t) = some (.mixed [.text p, .placeholder e]) ↔
      ¬ ['\x7d', '\x7d', '\x7d'] <:+ t.toList) ∧
    (¬ ['\x7d', '\x7d', '\x7d'] <:+ t.toList → ∀ c : Context,
      (Node.ofString (p ++ t)).evaluate c =
        (((Node.ofString t).evaluate c).1.map fun v => .string (p ++ v.display),
          ((Node.ofString t).evaluate c).2)) ∧
    (∀ body, t.toList = '\x7b' :: '\x7b' :: body ++ ['\x7d', '\x7d', '\x7d'] →
      ofText? (p ++ t) = some (.mixed
        [.text p, .placeholder (Expression.ofChars body), .text "\x7d"])) := by
  obtain ⟨body, hWhole, hClose, rfl⟩ := exists_body_of_pure hPure ht
  have hSame : ¬ ['\x7d', '\x7d', '\x7d'] <:+ t.toList →
      ofText? (p ++ t) = some (.mixed [.text p, .placeholder (Expression.ofChars body)]) := by
    intro hSuffix
    have hLast : ∀ inner, body ≠ inner ++ ['\x7d'] := by
      rintro inner rfl
      exact hSuffix ⟨'\x7b' :: '\x7b' :: inner, by simp [hWhole]⟩
    rw [ofText?_append hInk hPlain hWhole (not_double_concat hClose hLast),
      Segment.scan_of_not_hasPlaceholder not_hasPlaceholder_nil]
    rfl
  have hThird : ∀ inner, t.toList = '\x7b' :: '\x7b' :: inner ++ ['\x7d', '\x7d', '\x7d'] →
      ofText? (p ++ t) = some (.mixed
        [.text p, .placeholder (Expression.ofChars inner), .text "\x7d"]) := by
    intro inner hInner
    have hEnd : '\x7b' :: '\x7b' :: body ++ ['\x7d', '\x7d'] =
        '\x7b' :: '\x7b' :: (inner ++ ['\x7d']) ++ ['\x7d', '\x7d'] := by
      rw [← hWhole, hInner]
      simp
    have hBody : body = inner ++ ['\x7d'] := by
      have hInside := List.append_cancel_right hEnd
      simpa using hInside
    have hCalm : Calm ['\x7d'] := calm_singleton (by decide)
    rw [ofText?_append hInk hPlain hInner (hBody ▸ hClose),
      Segment.scan_of_not_hasPlaceholder hCalm.not_hasPlaceholder]
    rfl
  refine ⟨⟨?_, hSame⟩, ?_, hThird⟩
  · intro hMixed hSuffix
    obtain ⟨inner, hInner⟩ := exists_body_of_suffix (hWhole ▸ hSuffix)
    rw [hThird inner (by simp [hWhole, hInner])] at hMixed
    simp at hMixed
  · intro hSuffix c
    rw [Node.ofString, Node.ofString, hSame hSuffix, hPure]
    exact Node.evaluate_text_behind p _ c

end

/-- A third opening brace is part of the body, alone and behind other text. -/
theorem ofText?_behind_label :
    let p := " to: "
    let t := "\x7b\x7b\x7ba | append: '!'\x7d\x7d"
    let e := Expression.ofText "\x7ba | append: '!'"
    let c := Context.start (.object [("\x7ba", .string "b")]) .standard
    (∃ d ∈ p.toList, isBlank d = false) ∧ '\x7b' ∉ p.toList ∧ Unpadded t.toList ∧
      ofText? t = some (.pure e) ∧ ¬ ['\x7d', '\x7d', '\x7d'] <:+ t.toList ∧
      ofText? (p ++ t) = some (.mixed [.text p, .placeholder e]) ∧
      ((Node.ofString t).evaluate c).1 = some (.string "b!") ∧
      ((Node.ofString (p ++ t)).evaluate c).1 = some (.string " to: b!") := by
  intro p t e c
  have hInk : ∃ d ∈ p.toList, isBlank d = false := ⟨'t', by decide, by decide⟩
  have hPlain : '\x7b' ∉ p.toList := by decide
  have ht : Unpadded t.toList := ⟨by simp [t, isBlank], by simp [t, isBlank]⟩
  have hPure : ofText? t = some (.pure e) := by cbv
  have hSuffix : ¬ ['\x7d', '\x7d', '\x7d'] <:+ t.toList := by decide
  have hAlone : ((Node.ofString t).evaluate c).1 = some (.string "b!") := by cbv
  obtain ⟨hMixed, hValue, -⟩ := ofText?_behind_text hInk hPlain ht hPure
  have hBehind := congrArg Prod.fst (hValue hSuffix c)
  rw [hAlone] at hBehind
  exact ⟨hInk, hPlain, ht, hPure, hSuffix, hMixed.2 hSuffix, hAlone, hBehind.trans (by cbv)⟩

/-- A third closing brace is part of the body when the placeholder stands alone, and behind other
text it is not. The expression is another one then, and so is what is displayed. -/
theorem ofText?_third_brace :
    let t := "\x7b\x7ba\x7d\x7d\x7d"
    let c := Context.start (.object [("a", .ofNat 2)]) .standard
    (∃ d ∈ "x".toList, isBlank d = false) ∧ '\x7b' ∉ "x".toList ∧ Unpadded t.toList ∧
      ofText? t = some (.pure (Expression.ofText "a\x7d")) ∧
      ofText? ("x" ++ t) ≠ some (.mixed [.text "x", .placeholder (Expression.ofText "a\x7d")]) ∧
      ofText? ("x" ++ t) =
        some (.mixed [.text "x", .placeholder (Expression.ofText "a"), .text "\x7d"]) ∧
      ((Node.ofString t).evaluate c).1 = some .null ∧
      ((Node.ofString ("x" ++ t)).evaluate c).1 = some (.string "x2\x7d") := by
  intro t c
  have hMixed : ofText? ("x" ++ t) =
      some (.mixed [.text "x", .placeholder (Expression.ofText "a"), .text "\x7d"]) := by cbv
  have hOther : ofText? ("x" ++ t) ≠
      some (.mixed [.text "x", .placeholder (Expression.ofText "a\x7d")]) := by
    rw [hMixed]
    simp
  have ht : Unpadded t.toList := ⟨by simp [t, isBlank], by simp [t, isBlank]⟩
  exact ⟨⟨'x', by decide, by decide⟩, by decide, ht, by cbv, hOther, hMixed, by cbv, by cbv⟩

end Interpolation

end Stencil
