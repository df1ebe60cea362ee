import Mathlib
import Stencil.Node
import Stencil.Proofs.Text.Braces
import Stencil.Proofs.Text.Trimming

/-!
# The grammar of placeholders

A placeholder begins at the first doubled opening brace that there is and ends at the first doubled
closing brace behind it. `Sections.Of` takes a text apart in this way, which goes in exactly one
way, and says nothing of how a text is read. Reading a text gives a pure placeholder when the text
is one and has no other doubled brace, else the sections of the text, and nothing when the text has
no placeholder.
-/

namespace Stencil

namespace Text

/-- A character stands twice for the first time behind `before`, and `after` is what follows. -/
structure FirstDouble (c : Char) (cs before after : List Char) : Prop where
  eq_append : cs = before ++ c :: c :: after
  first : ∀ p q, cs = p ++ c :: c :: q → before.length ≤ p.length

/-- There is only one first place. -/
theorem FirstDouble.unique {c : Char} {cs before after before' after' : List Char}
    (h : FirstDouble c cs before after) (h' : FirstDouble c cs before' after') :
    before = before' ∧ after = after' := by
  have hLength : before.length = before'.length :=
    Nat.le_antisymm (h.first _ _ h'.eq_append) (h'.first _ _ h.eq_append)
  have hEq := h.eq_append.symm.trans h'.eq_append
  obtain ⟨hBefore, hAfter⟩ := List.append_inj hEq hLength
  simp only [List.cons.injEq, true_and] at hAfter
  exact ⟨hBefore, hAfter⟩

/-- The text is one placeholder with blanks around it and no other doubled brace. -/
structure IsPlaceholder (cs body : List Char) : Prop where
  padded : ∃ before after, AllBlank before ∧ AllBlank after ∧
    cs = before ++ ('\x7b' :: '\x7b' :: body ++ ['\x7d', '\x7d']) ++ after
  not_open : ¬ ['\x7b', '\x7b'] <:+: body
  not_close : ¬ ['\x7d', '\x7d'] <:+: body

end Text

open Text

/-! ### Doubled characters -/

theorem firstDouble_of_cutAtDouble {c : Char} {cs before after : List Char}
    (h : cutAtDouble c cs = some (before, after)) : FirstDouble c cs before after := by
  refine ⟨eq_append_of_cutAtDouble h, ?_⟩
  fun_induction cutAtDouble c cs generalizing before with
  | case1 a b rest hab =>
    cases h
    exact fun p q _ => Nat.zero_le _
  | case2 a b rest hab ih =>
    obtain ⟨⟨p, q⟩, hp, hq⟩ := Option.map_eq_some_iff.1 h
    cases hq
    intro p' q' hEq
    -- At the front no doubled character stands, or the cut would be there.
    cases p' with
    | nil =>
      simp only [List.nil_append, List.cons.injEq] at hEq
      exact absurd ⟨hEq.1, hEq.2.1⟩ hab
    | cons d p' =>
      rw [List.cons_append, List.cons.injEq] at hEq
      exact Nat.succ_le_succ (ih hp p' q' hEq.2)
  | case3 => cases h

theorem cutAtDouble_eq_some_iff {c : Char} {cs before after : List Char} :
    cutAtDouble c cs = some (before, after) ↔ FirstDouble c cs before after := by
  constructor
  · exact firstDouble_of_cutAtDouble
  · intro h
    -- There is a doubled character, so the cut is somewhere, and the first place is only one.
    obtain ⟨p, q, hCut⟩ := cutAtDouble_append c before after
    rw [← h.eq_append] at hCut
    obtain ⟨hBefore, hAfter⟩ := h.unique (firstDouble_of_cutAtDouble hCut)
    rw [hCut, hBefore, ← hAfter]

theorem cutAtDouble_isSome_iff {c : Char} {cs : List Char} :
    (cutAtDouble c cs).isSome = true ↔ [c, c] <:+: cs := by
  constructor
  · intro h
    obtain ⟨⟨before, after⟩, hCut⟩ := Option.isSome_iff_exists.1 h
    exact ⟨before, after, by simp [eq_append_of_cutAtDouble hCut]⟩
  · rintro ⟨before, after, rfl⟩
    obtain ⟨p, q, hCut⟩ := cutAtDouble_append c before after
    simp [hCut]

/-- The first placeholder of a text is where the first doubled braces are. -/
theorem cutPlaceholder_eq_some_iff {cs before body after : List Char} :
    cutPlaceholder cs = some (before, body, after) ↔
      ∃ opened, FirstDouble '\x7b' cs before opened ∧ FirstDouble '\x7d' opened body after := by
  constructor
  · intro h
    obtain ⟨⟨p, opened⟩, hOpen, hRest⟩ := Option.bind_eq_some_iff.1 h
    obtain ⟨⟨b, a⟩, hClose, hEq⟩ := Option.map_eq_some_iff.1 hRest
    cases hEq
    exact ⟨opened, cutAtDouble_eq_some_iff.1 hOpen, cutAtDouble_eq_some_iff.1 hClose⟩
  · rintro ⟨opened, hOpen, hClose⟩
    simp only [cutPlaceholder, cutAtDouble_eq_some_iff.2 hOpen, Option.bind_some,
      cutAtDouble_eq_some_iff.2 hClose, Option.map_some]

theorem cutPlaceholder_eq_none_iff {cs : List Char} :
    cutPlaceholder cs = none ↔ ¬ HasPlaceholder cs := by
  constructor
  · exact not_hasPlaceholder_of_cutPlaceholder
  · intro h
    cases hCut : cutPlaceholder cs with
    | none => rfl
    | some cut =>
      obtain ⟨before, body, after⟩ := cut
      exact absurd ⟨before, body, after, eq_append_of_cutPlaceholder hCut⟩ h

/-! ### Texts taken apart -/

/-- The placeholders of a text, each body with the text before it, and the text behind the last. -/
structure Sections where
  placeholders : List (List Char × List Char)
  tail : List Char

namespace Sections

/-- The whole text. -/
def chars (s : Sections) : List Char :=
  s.placeholders.flatMap (fun (before, body) =>
    before ++ '\x7b' :: '\x7b' :: body ++ ['\x7d', '\x7d']) ++ s.tail

/-- The texts and the expressions in their order, without the empty texts. -/
def segments (s : Sections) : List Segment :=
  let all : List Segment := s.placeholders.flatMap (fun (before, body) =>
    [.text (String.ofList before), .placeholder (Expression.ofChars body)]) ++
      [.text (String.ofList s.tail)]
  all.filter (· ≠ .text "")

/-- The sections of a text: a placeholder opens where the first doubled opening brace is and closes
where the first doubled closing brace behind it is, until there is no placeholder any more. -/
inductive Of : List Char → Sections → Prop
  | tail {cs : List Char} : ¬ HasPlaceholder cs → Of cs ⟨[], cs⟩
  | placeholder {cs before opened body rest : List Char} {s : Sections} :
    FirstDouble '\x7b' cs before opened → FirstDouble '\x7d' opened body rest → Of rest s →
    Of cs ⟨(before, body) :: s.placeholders, s.tail⟩

theorem hasPlaceholder_of_firstDouble {cs before opened body rest : List Char}
    (hOpen : FirstDouble '\x7b' cs before opened) (hClose : FirstDouble '\x7d' opened body rest) :
    HasPlaceholder cs := by
  refine ⟨before, body, rest, ?_⟩
  rw [hOpen.eq_append, hClose.eq_append]
  simp

/-- Nothing is lost, doubled or moved. -/
theorem Of.chars_eq {cs : List Char} {s : Sections} (h : Of cs s) : s.chars = cs := by
  induction h with
  | tail _ => rfl
  | @placeholder cs before opened body rest s hOpen hClose _ ih =>
    rw [hOpen.eq_append, hClose.eq_append, ← ih]
    simp [chars]

theorem Of.unique {cs : List Char} {s t : Sections} (hs : Of cs s) (ht : Of cs t) : s = t := by
  induction hs generalizing t with
  | tail hNone =>
    cases ht with
    | tail _ => rfl
    | placeholder hOpen hClose _ =>
      exact absurd (hasPlaceholder_of_firstDouble hOpen hClose) hNone
  | placeholder hOpen hClose _ ih =>
    cases ht with
    | tail hNone => exact absurd (hasPlaceholder_of_firstDouble hOpen hClose) hNone
    | placeholder hOpen' hClose' hRest' =>
      obtain ⟨rfl, rfl⟩ := hOpen.unique hOpen'
      obtain ⟨rfl, rfl⟩ := hClose.unique hClose'
      rw [ih hRest']

theorem segments_nil (cs : List Char) : segments ⟨[], cs⟩ = Segment.ofChars cs := by
  cases cs with
  | nil => rfl
  | cons c cs => simp [segments, Segment.ofChars]

theorem segments_cons (before body : List Char) (s : Sections) :
    segments ⟨(before, body) :: s.placeholders, s.tail⟩ =
      Segment.ofChars before ++ .placeholder (Expression.ofChars body) :: s.segments := by
  cases before with
  | nil => simp [segments, Segment.ofChars]
  | cons c before => simp [segments, Segment.ofChars]

/-- A scan for placeholders finds the sections. -/
theorem exists_of_scan (cs : List Char) : ∃ s, Of cs s ∧ Segment.scan cs = s.segments := by
  induction cs using Segment.scan.induct with
  | case1 cs hCut =>
    refine ⟨⟨[], cs⟩, .tail (cutPlaceholder_eq_none_iff.1 hCut), ?_⟩
    rw [Segment.scan_of_none hCut, segments_nil]
  | case2 cs before body after hCut ih =>
    obtain ⟨s, hOf, hScan⟩ := ih
    obtain ⟨opened, hOpen, hClose⟩ := cutPlaceholder_eq_some_iff.1 hCut
    refine ⟨_, .placeholder hOpen hClose hOf, ?_⟩
    rw [Segment.scan_of_some hCut, hScan, segments_cons]

theorem Of.placeholders_ne_nil {cs : List Char} {s : Sections} (h : Of cs s)
    (hHas : HasPlaceholder cs) : s.placeholders ≠ [] := by
  cases h with
  | tail hNone => exact absurd hHas hNone
  | placeholder _ _ _ => exact List.cons_ne_nil _ _

end Sections

/-! ### Pure texts -/

theorem pureBody?_eq_some_iff {cs body : List Char} :
    pureBody? cs = some body ↔ cs = '\x7b' :: '\x7b' :: body ++ ['\x7d', '\x7d'] ∧
      ¬ ['\x7b', '\x7b'] <:+: body ∧ ¬ ['\x7d', '\x7d'] <:+: body := by
  rw [← cutAtDouble_isSome_iff, ← cutAtDouble_isSome_iff]
  constructor
  · intro h
    rw [pureBody?.eq_def] at h
    split at h
    · next rest =>
      split at h
      · next inner hRest =>
        split at h
        · cases h
        · next hPlain =>
          cases h
          rw [not_or] at hPlain
          have hWhole := congrArg List.reverse hRest
          refine ⟨?_, hPlain⟩
          simpa using hWhole
      · cases h
    · cases h
  · rintro ⟨rfl, hOpen, hClose⟩
    simp [pureBody?, opensPlaceholder, closesPlaceholder, hOpen, hClose]

theorem unpadded_placeholder (body : List Char) :
    Unpadded ('\x7b' :: '\x7b' :: body ++ ['\x7d', '\x7d']) := by
  constructor
  · intro c hc
    cases hc
    decide
  · intro c hc
    rw [List.getLast?_append] at hc
    cases hc
    decide

/-- A text is pure when it is a placeholder after trimming. -/
theorem isPlaceholder_iff {cs body : List Char} :
    IsPlaceholder cs body ↔ pureBody? (trim cs) = some body := by
  rw [pureBody?_eq_some_iff]
  constructor
  · rintro ⟨⟨before, after, hBefore, hAfter, rfl⟩, hOpen, hClose⟩
    exact ⟨trim_padded hBefore (unpadded_placeholder body) hAfter, hOpen, hClose⟩
  · rintro ⟨hTrim, hOpen, hClose⟩
    obtain ⟨before, after, hBefore, hAfter, hEq⟩ := exists_eq_padded_trim cs
    rw [hTrim] at hEq
    exact ⟨⟨before, after, hBefore, hAfter, hEq⟩, hOpen, hClose⟩

theorem Text.IsPlaceholder.hasPlaceholder {cs body : List Char} (h : IsPlaceholder cs body) :
    HasPlaceholder cs := by
  obtain ⟨before, after, -, -, rfl⟩ := h.padded
  exact ⟨before, body, after, by simp⟩

namespace Interpolation

theorem ofText?_of_isPlaceholder {s : String} {body : List Char}
    (h : IsPlaceholder s.toList body) : ofText? s = some (.pure (Expression.ofChars body)) := by
  rw [ofText?, ofChars?, isPlaceholder_iff.1 h]

theorem ofText?_of_not_isPlaceholder {s : String} (h : ∀ body, ¬ IsPlaceholder s.toList body) :
    ofText? s =
      if (cutPlaceholder s.toList).isSome then some (.mixed (Segment.scan s.toList)) else none := by
  have hPure : pureBody? (trim s.toList) = none := by
    rw [Option.eq_none_iff_forall_ne_some]
    exact fun body hBody => h body (isPlaceholder_iff.2 hBody)
  rw [ofText?, ofChars?, hPure]

theorem ofText?_eq_none_iff {s : String} : ofText? s = none ↔ ¬ HasPlaceholder s.toList := by
  by_cases hPure : ∃ body, IsPlaceholder s.toList body
  · obtain ⟨body, hBody⟩ := hPure
    rw [ofText?_of_isPlaceholder hBody]
    simp [hBody.hasPlaceholder]
  · rw [ofText?_of_not_isPlaceholder fun body hBody => hPure ⟨body, hBody⟩,
      ← cutPlaceholder_eq_none_iff]
    cases cutPlaceholder s.toList <;> simp

/-- Reading a text for placeholders. Without a placeholder it is a literal text or a path. Else it
is pure if it is a placeholder, and mixed from its sections if not. -/
theorem ofText?_grammar (s : String) :
    (ofText? s = none ↔ ¬ HasPlaceholder s.toList) ∧
    (Node.ofString s = .literal (.string s) ↔ ¬ HasPlaceholder s.toList) ∧
    (Source.ofJson (.string s) = .path (Path.ofText s) ↔ ¬ HasPlaceholder s.toList) ∧
    (∀ body, IsPlaceholder s.toList body → ofText? s = some (.pure (Expression.ofChars body))) ∧
    (HasPlaceholder s.toList → (∀ body, ¬ IsPlaceholder s.toList body) →
      ∃ t : Sections, Sections.Of s.toList t ∧ (∀ u, Sections.Of s.toList u → u = t) ∧
        t.placeholders ≠ [] ∧ t.chars = s.toList ∧ ofText? s = some (.mixed t.segments)) := by
  refine ⟨ofText?_eq_none_iff, ?_, ?_, fun body hBody => ofText?_of_isPlaceholder hBody, ?_⟩
  · rw [← ofText?_eq_none_iff, Node.ofString]
    cases ofText? s <;> simp
  · rw [← ofText?_eq_none_iff, Source.ofJson]
    cases ofText? s <;> simp
  · intro hHas hPure
    obtain ⟨t, hOf, hScan⟩ := Sections.exists_of_scan s.toList
    have hCut : (cutPlaceholder s.toList).isSome := by
      rw [Option.isSome_iff_ne_none, ne_eq, cutPlaceholder_eq_none_iff]
      exact not_not_intro hHas
    refine ⟨t, hOf, fun u hu => hu.unique hOf, hOf.placeholders_ne_nil hHas, hOf.chars_eq, ?_⟩
    rw [ofText?_of_not_isPlaceholder hPure, if_pos hCut, hScan]

/-- Blanks around a placeholder do not count. Where braces run together the first two open or
close, and what is not closed is text. -/
theorem ofText?_overlapping :
    let single := " \x7b\x7b items \x7d\x7d  "
    let several := "x \x7b\x7b\x7ba\x7d\x7d\x7d\x7b\x7bb\x7d\x7d \x7b\x7bc"
    let segments : List Segment := [.text "x ", .placeholder (Expression.ofText "\x7ba"),
      .text "\x7d", .placeholder (Expression.ofText "b"), .text " \x7b\x7bc"]
    IsPlaceholder single.toList " items ".toList ∧
      ofText? single = some (.pure (Expression.ofText " items ")) ∧
      HasPlaceholder several.toList ∧ (∀ body, ¬ IsPlaceholder several.toList body) ∧
      ofText? several = some (.mixed segments) ∧
      ∃ t, Sections.Of several.toList t ∧ t.segments = segments := by
  intro single several segments
  obtain ⟨-, -, -, hSingle, -⟩ := ofText?_grammar single
  obtain ⟨-, -, -, -, hSeveral⟩ := ofText?_grammar several
  have hPure : IsPlaceholder single.toList " items ".toList := isPlaceholder_iff.2 (by cbv)
  have hNotPure : pureBody? (trim several.toList) = none := by cbv
  have hMixed : ∀ body, ¬ IsPlaceholder several.toList body := by
    intro body hBody
    rw [isPlaceholder_iff, hNotPure] at hBody
    cases hBody
  have hHas : HasPlaceholder several.toList :=
    ⟨"x ".toList, "\x7ba".toList, "\x7d\x7b\x7bb\x7d\x7d \x7b\x7bc".toList, by cbv⟩
  have hSegments : ofText? several = some (.mixed segments) := by cbv
  obtain ⟨t, hOf, -, -, -, hText⟩ := hSeveral hHas hMixed
  rw [hSegments] at hText
  have hSame := Interpolation.mixed.inj (Option.some.inj hText)
  exact ⟨hPure, hSingle _ hPure, hHas, hMixed, hSegments, t, hOf, hSame.symm⟩

end Interpolation

end Stencil
