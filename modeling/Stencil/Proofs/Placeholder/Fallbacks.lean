import Stencil.Proofs.Placeholder.Bare
import Stencil.Proofs.Placeholder.Chains
import Stencil.Proofs.Placeholder.Delimiters

/-!
# Quoted arguments in a text

In the body of a placeholder nothing between two quotes counts, but the body itself ends at the
first doubled closing brace, and quotes do not protect it there. So a text to fall back to stands
for itself as long as it has no doubled closing brace. With one, the body ends inside the quotes.
The quote that is open then belongs to the argument, and what is behind the braces is text.
-/

namespace Stencil

open Text Pipeline

/-- A name, and a filter that needs an argument. -/
def fallbackLead : String := "missing | default: "

/-- The body of a placeholder for the name, with something to fall back to. -/
def fallbackBody (raw : List Char) : List Char := fallbackLead.toList ++ raw

/-- A placeholder for the name, with a text between quotes to fall back to. -/
def fallbackText (q : Char) (a : String) : String :=
  "\x7b\x7b" ++ fallbackLead ++ String.singleton q ++ a ++ String.singleton q ++ "\x7d\x7d"

/-! ### The body -/

theorem toList_fallbackText (q : Char) (a : String) :
    (fallbackText q a).toList =
      '\x7b' :: '\x7b' :: fallbackBody (q :: a.toList ++ [q]) ++ ['\x7d', '\x7d'] := by
  simp [fallbackText, fallbackBody]

/-- Only behind the quote a brace can stand twice. -/
theorem double_fallbackBody_iff {q b : Char} {raw : List Char} (hq : isQuote q = true)
    (hb : isQuote b = false) (hLead : b ∉ fallbackLead.toList) :
    [b, b] <:+: fallbackBody (q :: raw) ↔ [b, b] <:+: raw := by
  have hNone : ¬ [b, b] <:+: fallbackLead.toList := by
    intro h
    have hMem : b ∈ [b, b] := List.mem_cons_self
    exact hLead (h.subset hMem)
  rw [fallbackBody, double_append_cons_iff (ne_of_isQuote hq hb), or_iff_right hNone]

namespace Expression

/-- The argument begins behind the colon, whatever the quotes in it do. -/
theorem ofChars_fallbackBody {raw : List Char} (h : topPipes none raw = 0) :
    (ofChars (fallbackBody raw)).path = ⟨["missing"]⟩ ∧
      (ofChars (fallbackBody raw)).calls =
        [.new "default" ((unquote? (' ' :: raw)).map String.ofList)] := by
  let t := " default: ".toList ++ raw
  have hSplit : fallbackLead.toList = "missing ".toList ++ '|' :: " default: ".toList := by decide
  have hBody : fallbackBody raw = "missing ".toList ++ '|' :: t := by
    rw [fallbackBody, hSplit, List.append_assoc]
    rfl
  have hb : quoteBehind none "missing ".toList = none := by decide
  have hLead : OnePart " default: ".toList := ⟨by decide, by decide⟩
  have ht : topPipes none t = 0 := by rw [topPipes_append, hLead.topPipes, hLead.closed, h]
  have hName : ofChars "missing ".toList = ⟨⟨["missing"]⟩, [], "missing", []⟩ := by decide
  let part : Part := ⟨t, byteLength "missing ".toList + 1⟩
  have hChars : part.chars = " default".toList ++ ':' :: (' ' :: raw) := by simp [part, t]
  have hTells : Tells part.chars (trim " default".toList) (unquote? (' ' :: raw)) := by
    rw [hChars]
    exact .call (by decide) (means_unquote? _)
  obtain ⟨hPart, hArgument⟩ := Part.eq_of_tells hTells
  have hDefault : trim " default".toList = "default".toList := by decide
  have hCall : part.call? = some (.new "default" ((unquote? (' ' :: raw)).map String.ofList)) := by
    rw [Part.call?, hPart, hArgument, hDefault]
    rfl
  rw [hBody, ofChars_append_pipe hb ht, hName, hCall]
  exact ⟨rfl, rfl⟩

variable {raw : List Char} (h : topPipes none raw = 0)

include h

/-- The value is the argument when the name leads nowhere. -/
theorem value_fallbackBody {c : Context} (hMissing : c.lookup? "missing" = none) :
    (ofChars (fallbackBody raw)).value c =
      Filter.argumentValue ((unquote? (' ' :: raw)).map String.ofList) := by
  obtain ⟨hPath, hCalls⟩ := ofChars_fallbackBody h
  have hNull : (c.resolve? ⟨["missing"]⟩).getD .null = .null := by
    simp [Context.resolve?, hMissing]
  rw [value, hPath, hCalls, hNull]
  rfl

theorem evaluationNotices_fallbackBody :
    (ofChars (fallbackBody raw)).evaluationNotices = [] := by
  rw [evaluationNotices, unknownNames, (ofChars_fallbackBody h).2]
  rfl

end Expression

section

variable {q : Char} (hq : isQuote q = true)

include hq

/-- Between two quotes the argument is the text that stands there. -/
theorem Expression.value_fallbackBody_closed {a : String} (ha : q ∉ a.toList) {c : Context}
    (hMissing : c.lookup? "missing" = none) :
    (ofChars (fallbackBody (q :: a.toList ++ [q]))).value c = .string a := by
  have hMeans : Means ([' '] ++ (q :: a.toList ++ [q]) ++ []) (some a.toList) :=
    .quoted hq allBlank_space allBlank_nil
  have hArgument := hMeans.unquote?_eq
  rw [List.append_nil, List.singleton_append] at hArgument
  rw [value_fallbackBody (onePart_quoted hq ha).topPipes hMissing, hArgument, Option.map_some,
    String.ofList_toList]
  rfl

/-- A quote that is not closed is part of the argument. -/
theorem Pipeline.unquote?_of_open {cs : List Char} (h : q ∉ cs) :
    ∃ rest, unquote? (' ' :: q :: cs) = some (q :: rest) := by
  have hInk : isBlank q = false := isBlank_of_isQuote hq
  have hTrim : trim (' ' :: q :: cs) = trimEnd (q :: cs) := by
    rw [trim, trimStart_cons_blank (by decide), trimStart_cons_ink hInk]
  obtain ⟨after, hAfter, hWhole⟩ := exists_eq_append_trimEnd (q :: cs)
  cases hEnd : trimEnd (q :: cs) with
  | nil =>
    rw [hEnd, List.nil_append] at hWhole
    exact absurd rfl (ne_of_isBlank (hAfter q (hWhole ▸ List.mem_cons_self)) hInk)
  | cons d rest =>
    rw [hEnd, List.cons_append, List.cons.injEq] at hWhole
    obtain ⟨rfl, hRest⟩ := hWhole
    have hNotQuoted : ¬ IsQuoted (q :: rest) := by
      rw [isQuoted_cons_iff]
      rintro ⟨-, hLast⟩
      apply h
      rw [hRest]
      exact List.mem_append_left _ (List.mem_of_getLast? hLast)
    rw [hEnd] at hTrim
    refine ⟨rest, ?_⟩
    rw [unquote?_of_not_isQuoted (by simp [hTrim]) (by rw [hTrim]; exact hNotQuoted), hTrim]

/-- Behind a quote that is not closed the argument begins with that quote. -/
theorem Expression.value_fallbackBody_open {inside : List Char} (hInside : q ∉ inside) :
    ∃ rest, ∀ c : Context, c.lookup? "missing" = none →
      (ofChars (fallbackBody (q :: inside))).value c = .string (String.ofList (q :: rest)) := by
  obtain ⟨rest, hRest⟩ := unquote?_of_open hq hInside
  refine ⟨rest, fun c hMissing => ?_⟩
  rw [value_fallbackBody (topPipes_of_open hq hInside).1 hMissing, hRest]
  rfl

end

/-! ### The text -/

/-- Only its own body stands between the braces of a placeholder. -/
theorem Text.IsPlaceholder.eq_body {body inner : List Char}
    (h : IsPlaceholder ('\x7b' :: '\x7b' :: body ++ ['\x7d', '\x7d']) inner) : inner = body := by
  have hPure := isPlaceholder_iff.1 h
  rw [(unpadded_placeholder body).trim_eq] at hPure
  obtain ⟨hWhole, -, -⟩ := pureBody?_eq_some_iff.1 hPure
  simpa using hWhole.symm

/-- A text that has the same value as a literal and nothing to note is as good as the literal. -/
theorem Node.evaluate_text_of_value {content : Interpolation} {v : Json} {c : Context}
    (hNotices : content.evaluationNotices = [])
    (hValue : content.value { c with depth := c.depth + 1 } = v) :
    (Node.text content).evaluate c = (Node.literal v).evaluate c := by
  rw [evaluate_text, evaluate_literal]
  by_cases h : c.limits.maxDepth ≤ c.depth
  · rw [Context.descend_of_le h, Context.descend_of_le h]
  · rw [Context.descend_of_lt (Nat.lt_of_not_le h), Context.descend_of_lt (Nat.lt_of_not_le h)]
    simp only [Context.andThen, Context.give, content.evaluate_eq, Context.reading, hNotices, hValue,
      Context.noteAll_nil]

namespace Interpolation

/-- A body that ends at the first doubled closing brace is the whole of what is evaluated. A doubled
opening brace in it makes a mixed text, which changes nothing when the value is a text anyway. -/
theorem exists_content_of_body {s : String} {body : List Char}
    (hs : s.toList = '\x7b' :: '\x7b' :: body ++ ['\x7d', '\x7d'])
    (hClose : ¬ ['\x7d', '\x7d'] <:+: body) (hLast : ∀ inner, body ≠ inner ++ ['\x7d']) :
    ∃ content, ofText? s = some content ∧
      content.evaluationNotices = (Expression.ofChars body).evaluationNotices ∧
      ∀ (c : Context) (a : String), (Expression.ofChars body).value c = .string a →
        content.value c = .string a := by
  by_cases hOpen : ['\x7b', '\x7b'] <:+: body
  · have hMixed : ∀ inner, ¬ IsPlaceholder s.toList inner := by
      rw [hs]
      intro inner hInner
      exact hInner.not_open (hInner.eq_body ▸ hOpen)
    have hSections : s.toList = [] ++ '\x7b' :: '\x7b' :: (body ++ '\x7d' :: '\x7d' :: []) := by
      rw [hs]
      rfl
    have hRead := ofText?_of_sections hSections hMixed (not_double_of_not_mem List.not_mem_nil)
      (not_double_concat hClose hLast)
    rw [Segment.scan_of_not_hasPlaceholder not_hasPlaceholder_nil] at hRead
    refine ⟨_, hRead, ?_, fun c a hValue => ?_⟩
    · simp [evaluationNotices, expressions, Segment.ofChars]
    · simp [value, Segment.ofChars, Segment.display, hValue, Json.display]
  · have hPure : IsPlaceholder s.toList body :=
      ⟨⟨[], [], allBlank_nil, allBlank_nil, by simpa using hs⟩, hOpen, hClose⟩
    exact ⟨_, ofText?_of_isPlaceholder hPure, evaluationNotices_pure _, fun c a hValue => hValue⟩

section

variable {q : Char} {a : String} (hq : isQuote q = true) (ha : q ∉ a.toList)

include hq ha

/-- Without a doubled closing brace the argument is what is read, displayed or not. -/
theorem exists_content_of_closed (h : ¬ ['\x7d', '\x7d'] <:+: a.toList) :
    ∃ content, ofText? (fallbackText q a) = some content ∧ content.evaluationNotices = [] ∧
      ∀ c : Context, c.lookup? "missing" = none → content.value c = .string a := by
  have hBrace : q ≠ '\x7d' := ne_of_isQuote hq (by decide)
  have hNotices := Expression.evaluationNotices_fallbackBody (onePart_quoted hq ha).topPipes
  have hClose : ¬ ['\x7d', '\x7d'] <:+: fallbackBody (q :: a.toList ++ [q]) := by
    rw [List.cons_append, double_fallbackBody_iff hq (by decide) (by decide),
      double_append_cons_iff hBrace]
    simp [h]
  have hLast : ∀ inner, fallbackBody (q :: a.toList ++ [q]) ≠ inner ++ ['\x7d'] := by
    intro inner hInner
    rw [fallbackBody, ← List.append_assoc] at hInner
    obtain ⟨-, hEnd⟩ := List.append_inj' hInner rfl
    exact hBrace (List.cons.inj hEnd).1
  obtain ⟨content, hRead, hSame, hValue⟩ :=
    exists_content_of_body (toList_fallbackText q a) hClose hLast
  refine ⟨content, hRead, hSame.trans hNotices, fun c hMissing => hValue c a ?_⟩
  exact Expression.value_fallbackBody_closed hq ha hMissing

/-- A doubled closing brace in the argument ends the body, and the quote in front of the argument is
displayed. -/
theorem exists_content_of_cut (h : ['\x7d', '\x7d'] <:+: a.toList) :
    ∃ content, ofText? (fallbackText q a) = some content ∧
      ∀ c : Context, c.lookup? "missing" = none → content.value c ≠ .string a := by
  obtain ⟨⟨inside, after⟩, hCut⟩ := Option.isSome_iff_exists.1 (cutAtDouble_isSome_iff.2 h)
  obtain ⟨hArgument, hFirst⟩ := firstDouble_iff.1 (firstDouble_of_cutAtDouble hCut)
  have hInside : q ∉ inside := fun hMem => ha (hArgument ▸ List.mem_append_left _ hMem)
  have hWhole := toList_fallbackText q a
  have hMixed : ∀ inner, ¬ IsPlaceholder (fallbackText q a).toList inner := by
    rw [hWhole]
    intro inner hInner
    apply hInner.not_close
    rw [hInner.eq_body]
    exact h.trans ⟨fallbackLead.toList ++ [q], [q], by simp [fallbackBody]⟩
  have hSections : (fallbackText q a).toList = [] ++ '\x7b' :: '\x7b' ::
      (fallbackBody (q :: inside) ++ '\x7d' :: '\x7d' :: (after ++ [q, '\x7d', '\x7d'])) := by
    rw [hWhole, hArgument]
    simp [fallbackBody]
  have hBody : ¬ ['\x7d', '\x7d'] <:+: fallbackBody (q :: inside) ++ ['\x7d'] := by
    have hOnce : fallbackBody (q :: inside) ++ ['\x7d'] =
        fallbackBody (q :: (inside ++ ['\x7d'])) := by simp [fallbackBody]
    rw [hOnce, double_fallbackBody_iff hq (by decide) (by decide)]
    exact hFirst
  have hRead := ofText?_of_sections hSections hMixed (not_double_of_not_mem List.not_mem_nil) hBody
  refine ⟨_, hRead, fun c hMissing hEq => ?_⟩
  -- The quote is never closed, so it is displayed with what stands behind it.
  obtain ⟨rest, hValue⟩ := Expression.value_fallbackBody_open hq hInside
  have hText : String.ofList (q :: rest) ++ String.join
      ((Segment.scan (after ++ [q, '\x7d', '\x7d'])).map (·.display c)) = a := by
    simpa [value, Segment.ofChars, Segment.display, hValue c hMissing, Json.display] using hEq
  apply ha
  rw [← hText]
  simp

end

/-- A text to fall back to, between quotes that it does not contain, for a name that leads nowhere.
The whole is a placeholder whose value is that text if and only if the text has no doubled closing
brace, and then evaluating it is evaluating the text as a literal. -/
theorem ofText?_fallbackText {q : Char} {a : String} (hq : isQuote q = true) (ha : q ∉ a.toList)
    {c : Context} (hMissing : c.lookup? "missing" = none) :
    ∃ content, ofText? (fallbackText q a) = some content ∧
      ((content.evaluate c).1 = .string a ↔ ¬ ['\x7d', '\x7d'] <:+: a.toList) ∧
      (¬ ['\x7d', '\x7d'] <:+: a.toList →
        (Node.ofString (fallbackText q a)).evaluate c = (Node.literal (.string a)).evaluate c) := by
  by_cases hDouble : ['\x7d', '\x7d'] <:+: a.toList
  · obtain ⟨content, hRead, hValue⟩ := exists_content_of_cut hq ha hDouble
    refine ⟨content, hRead, ?_, fun h => absurd hDouble h⟩
    rw [content.evaluate_eq]
    exact iff_of_false (hValue c hMissing) (not_not_intro hDouble)
  · obtain ⟨content, hRead, hNotices, hValue⟩ := exists_content_of_closed hq ha hDouble
    refine ⟨content, hRead, ?_, fun _ => ?_⟩
    · rw [content.evaluate_eq]
      exact iff_of_true (hValue c hMissing) hDouble
    · rw [Node.ofString, hRead]
      exact Node.evaluate_text_of_value hNotices (hValue _ hMissing)

/-- Bars, colons, other quotes, blanks at the end and braces that open are all part of the text. -/
theorem ofText?_fallback_opaque :
    let a := "a|b: \"\x7b\x7bc \x7d "
    let c := Context.start (.object []) .standard
    isQuote '\'' = true ∧ '\'' ∉ a.toList ∧ c.lookup? "missing" = none ∧
      ¬ ['\x7d', '\x7d'] <:+: a.toList ∧
      (∃ content, ofText? (fallbackText '\'' a) = some content ∧
        (content.evaluate c).1 = .string a) ∧
      ((Node.ofString (fallbackText '\'' a)).evaluate c).1 = some (.string a) := by
  intro a c
  have hOutside : '\'' ∉ a.toList := by decide
  have hMissing : c.lookup? "missing" = none := by cbv
  have hDouble : ¬ ['\x7d', '\x7d'] <:+: a.toList := by decide
  obtain ⟨content, hRead, hValue, hSame⟩ :=
    ofText?_fallbackText (q := '\'') (by decide) hOutside hMissing
  refine ⟨by decide, hOutside, hMissing, hDouble, ⟨content, hRead, hValue.2 hDouble⟩, ?_⟩
  exact (congrArg Prod.fst (hSame hDouble)).trans (by cbv)

/-- A placeholder in the argument ends the body. The quote in front of it is displayed, and so is
what stands behind the closing braces. -/
theorem ofText?_fallback_cut :
    let a := "\x7b\x7bother\x7d\x7d"
    let c := Context.start (.object []) .standard
    isQuote '\'' = true ∧ '\'' ∉ a.toList ∧ c.lookup? "missing" = none ∧
      fallbackText '\'' a = "\x7b\x7bmissing | default: '\x7b\x7bother\x7d\x7d'\x7d\x7d" ∧
      ((Node.ofString (fallbackText '\'' a)).evaluate c).1 =
        some (.string "'\x7b\x7bother'\x7d\x7d") ∧
      ((Node.ofString (fallbackText '\'' a)).evaluate c).1 ≠ some (.string a) := by
  intro a c
  have hValue : ((Node.ofString (fallbackText '\'' a)).evaluate c).1 =
      some (.string "'\x7b\x7bother'\x7d\x7d") := by cbv
  refine ⟨by decide, by decide, by cbv, by cbv, hValue, ?_⟩
  rw [hValue]
  simp [a]

end Interpolation

end Stencil
