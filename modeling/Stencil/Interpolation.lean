import Stencil.Expression

/-!
# Texts with placeholders

A placeholder is the text between a doubled opening brace and the next doubled closing brace. A text
that is one placeholder and nothing else but blanks around it is pure and stands for a value. Any
other text with placeholders is mixed and stands for a text. A text without one is neither.
-/

namespace Stencil

/-- The text before and the text after the first place where a character stands twice. -/
def cutAtDouble (c : Char) : List Char → Option (List Char × List Char)
  | a :: b :: rest =>
    if a = c ∧ b = c then some ([], rest)
    else (cutAtDouble c (b :: rest)).map fun (before, after) => (a :: before, after)
  | _ => none

theorem eq_append_of_cutAtDouble {c : Char} {cs before after : List Char}
    (h : cutAtDouble c cs = some (before, after)) : cs = before ++ c :: c :: after := by
  fun_induction cutAtDouble c cs generalizing before with
  | case1 a b rest hab => simp_all
  | case2 a b rest hab ih =>
    obtain ⟨⟨p, q⟩, hp, hq⟩ := Option.map_eq_some_iff.1 h
    obtain ⟨rfl, rfl⟩ := Prod.mk.inj hq
    simp [ih hp]
  | case3 => simp at h

/-- Whether a doubled opening brace occurs. -/
def opensPlaceholder (cs : List Char) : Bool := (cutAtDouble '\x7b' cs).isSome

def closesPlaceholder (cs : List Char) : Bool := (cutAtDouble '\x7d' cs).isSome

/-- The text before the first placeholder, the body of the placeholder and the text after it. -/
def cutPlaceholder (cs : List Char) : Option (List Char × List Char × List Char) :=
  (cutAtDouble '\x7b' cs).bind fun (before, opened) =>
    (cutAtDouble '\x7d' opened).map fun (body, after) => (before, body, after)

theorem eq_append_of_cutPlaceholder {cs before body after : List Char}
    (h : cutPlaceholder cs = some (before, body, after)) :
    cs = before ++ '\x7b' :: '\x7b' :: body ++ '\x7d' :: '\x7d' :: after := by
  obtain ⟨⟨p, opened⟩, hp, hq⟩ := Option.bind_eq_some_iff.1 h
  obtain ⟨⟨b, a⟩, hb, he⟩ := Option.map_eq_some_iff.1 hq
  simp only [Prod.mk.injEq] at he
  obtain ⟨rfl, rfl, rfl⟩ := he
  rw [eq_append_of_cutAtDouble hp, eq_append_of_cutAtDouble hb]
  simp

theorem length_lt_of_cutPlaceholder {cs before body after : List Char}
    (h : cutPlaceholder cs = some (before, body, after)) : after.length < cs.length := by
  rw [eq_append_of_cutPlaceholder h]
  simp only [List.length_append, List.length_cons]
  omega

/-- A piece of a mixed text. -/
inductive Segment where
  | text (s : String)
  | placeholder (e : Expression)
  deriving DecidableEq, Inhabited

/-- A piece of text, left out when there is nothing in it. -/
def Segment.ofChars : List Char → List Segment
  | [] => []
  | cs => [.text (String.ofList cs)]

/-- The pieces of a text: placeholders from left to right and what stands between them. -/
def Segment.scan (cs : List Char) : List Segment :=
  match _h : cutPlaceholder cs with
  | none => ofChars cs
  | some (before, body, after) =>
    ofChars before ++ .placeholder (Expression.ofChars body) :: scan after
  termination_by cs.length
  decreasing_by exact length_lt_of_cutPlaceholder _h

theorem Segment.scan_of_none {cs : List Char} (h : cutPlaceholder cs = none) :
    scan cs = ofChars cs := by
  rw [scan.eq_def]
  split
  · rfl
  · next hCut => simp [h] at hCut

theorem Segment.scan_of_some {cs before body after : List Char}
    (h : cutPlaceholder cs = some (before, body, after)) :
    scan cs = ofChars before ++ .placeholder (Expression.ofChars body) :: scan after := by
  rw [scan.eq_def]
  split
  · next hCut => simp [h] at hCut
  · next hCut =>
    rw [h] at hCut
    cases hCut
    rfl

/-- A text with at least one placeholder. -/
inductive Interpolation where
  | pure (e : Expression)
  | mixed (segments : List Segment)
  deriving DecidableEq, Inhabited

/-- The body of a text that is one placeholder. -/
def pureBody? : List Char → Option (List Char)
  | '\x7b' :: '\x7b' :: rest =>
    match rest.reverse with
    | '\x7d' :: '\x7d' :: body =>
      if opensPlaceholder body.reverse ∨ closesPlaceholder body.reverse then none
      else some body.reverse
    | _ => none
  | _ => none

namespace Interpolation

def ofChars? (cs : List Char) : Option Interpolation :=
  match pureBody? (Text.trim cs) with
  | some body => some (.pure (Expression.ofChars body))
  | none => if (cutPlaceholder cs).isSome then some (.mixed (Segment.scan cs)) else none

/-- The placeholders of a text, `none` when it has none. -/
def ofText? (text : String) : Option Interpolation := ofChars? text.toList

def expressions : Interpolation → List Expression
  | .pure e => [e]
  | .mixed segments => segments.filterMap fun
    | .placeholder e => some e
    | .text _ => none

end Interpolation
end Stencil
