import Mathlib
import Stencil.Proofs.Evaluation.Values
import Stencil.Proofs.Placeholder.Calls
import Stencil.Proofs.Placeholder.Cursor

/-!
# One more filter

A pipe outside of quotes and a text behind it add one step to the end of a chain of filters. What
stands in front of that pipe is read as if it stood alone, so the value of the longer chain is the
value of the shorter one with the last filter applied to it. A text that names no filter of the
catalog adds a step that changes nothing.
-/

namespace Stencil

open Text Pipeline

/-! ### The parts -/

namespace Pipeline.Part

/-- Parts that come behind others start one byte behind the last of them. -/
theorem place_append {ps : List (List Char)} (h : ps ≠ []) (start : Nat) (qs : List (List Char)) :
    place start (ps ++ qs) =
      place start ps ++ place (start + byteLength (join ['|'] ps) + 1) qs := by
  induction ps generalizing start with
  | nil => exact absurd rfl h
  | cons cs rest ih =>
    cases rest with
    | nil => rfl
    | cons next rest =>
      have hRest := ih (List.cons_ne_nil _ _) (start + byteLength cs + 1)
      have hPipe : byteLength ['|'] = 1 := rfl
      have hStart : start + byteLength cs + 1 + byteLength (join ['|'] (next :: rest)) + 1 =
          start + byteLength (join ['|'] (cs :: next :: rest)) + 1 := by
        rw [join_cons_cons, byteLength_append, byteLength_append, hPipe]
        omega
      rw [List.cons_append, place, hRest, hStart]
      rfl

theorem scan_ne_nil (body : List Char) : scan body ≠ [] := by
  rw [scan_eq_place]
  obtain ⟨first, rest, hParts⟩ := List.exists_cons_of_ne_nil (parts_ne_nil none body)
  rw [hParts, place]
  exact List.cons_ne_nil _ _

theorem scan_append_pipe {b t : List Char} (hb : quoteBehind none b = none)
    (ht : topPipes none t = 0) : scan (b ++ '|' :: t) = scan b ++ [⟨t, byteLength b + 1⟩] := by
  rw [scan_eq_place, scan_eq_place, parts_append_pipe hb, parts_eq_singleton ht,
    place_append (parts_ne_nil none b), join_parts, Nat.zero_add]
  rfl

end Pipeline.Part

/-! ### The chain -/

/-- The step that a part of a catalog name stands for. -/
theorem Pipeline.Part.foldl_call?_of_some {part : Part} {f : Filter}
    (h : Filter.ofName? (String.ofList part.name) = some f) (v : Json) :
    part.call?.toList.foldl (fun v call => call.apply v) v =
      f.apply (part.argument?.map String.ofList) v := by
  have hName : part.name ≠ [] := by
    intro hBlank
    rw [hBlank] at h
    cases h
  rw [Part.call?, if_neg hName, Option.toList_some, List.foldl_cons, List.foldl_nil,
    FilterCall.apply, FilterCall.new, h]

/-- A part without a name is no step, and one of another name is a step that changes nothing. -/
theorem Pipeline.Part.foldl_call?_of_none {part : Part}
    (h : part.name = [] ∨ Filter.ofName? (String.ofList part.name) = none) (v : Json) :
    part.call?.toList.foldl (fun v call => call.apply v) v = v := by
  rw [Part.call?]
  split
  · rfl
  · next hName =>
    rw [Option.toList_some, List.foldl_cons, List.foldl_nil, FilterCall.apply, FilterCall.new,
      h.resolve_left hName]

namespace Expression

section

variable {b t : List Char}

/-- Nothing that is read in front of the last pipe depends on what stands behind it. -/
theorem ofChars_append_pipe (hb : quoteBehind none b = none) (ht : topPipes none t = 0) :
    let part : Part := ⟨t, byteLength b + 1⟩
    ofChars (b ++ '|' :: t) =
      { path := (ofChars b).path
        calls := (ofChars b).calls ++ part.call?.toList
        source := String.ofList (trim (b ++ '|' :: t))
        blanks := (ofChars b).blanks ++ if part.name = [] then [part.start] else [] } := by
  intro part
  obtain ⟨first, rest, hScan⟩ := List.exists_cons_of_ne_nil (Part.scan_ne_nil b)
  have hWhole : Part.scan (b ++ '|' :: t) = first :: (rest ++ [part]) := by
    rw [Part.scan_append_pipe hb ht, hScan, List.cons_append]
  have hCalls : [part].filterMap (·.call?) = part.call?.toList := by
    cases h : part.call? <;> simp [h]
  have hBlanks : ([part].filter (·.name = [])).map (·.start) =
      if part.name = [] then [part.start] else [] := by
    by_cases h : part.name = [] <;> simp [h]
  simp only [ofChars, hScan, hWhole, List.head?_cons, Option.map_some, Option.getD_some,
    List.tail_cons, List.filterMap_append, List.filter_append, List.map_append, hCalls, hBlanks]

/-- The last step is taken after all others. -/
theorem value_append_pipe (hb : quoteBehind none b = none) (ht : topPipes none t = 0)
    (c : Context) :
    (ofChars (b ++ '|' :: t)).value c =
      (⟨t, byteLength b + 1⟩ : Part).call?.toList.foldl (fun v call => call.apply v)
        ((ofChars b).value c) := by
  rw [ofChars_append_pipe hb ht, value, List.foldl_append, value]

end

/-- A pipe and a text without a pipe, behind a body that has closed its quotes. The text tells one
name and one argument. The path and the calls of the body stay, and behind them comes the call that
the text tells, if its name is not blank. So the value is that of the body with the filter of that
name applied to it, and the value of the body itself when there is no such filter. -/
theorem evaluate_append_pipe {b t : String} (hb : quoteBehind none b.toList = none)
    (ht : topPipes none t.toList = 0) :
    let e := ofText b
    let whole := ofText (b ++ "|" ++ t)
    ∃ name argument, Tells t.toList name argument ∧
      (∀ n a, Tells t.toList n a → n = name ∧ a = argument) ∧
      whole.path = e.path ∧
      whole.calls = e.calls ++
        (if name = [] then [] else [.new (String.ofList name) (argument.map String.ofList)]) ∧
      (∀ f, Filter.ofName? (String.ofList name) = some f → ∀ c,
        (whole.evaluate c).1 = f.apply (argument.map String.ofList) (e.evaluate c).1) ∧
      (name = [] ∨ Filter.ofName? (String.ofList name) = none → ∀ c,
        (whole.evaluate c).1 = (e.evaluate c).1) := by
  intro e whole
  let part : Part := ⟨t.toList, byteLength b.toList + 1⟩
  have hTells : Tells t.toList part.name part.argument? := part.tells
  have hChars : (b ++ "|" ++ t).toList = b.toList ++ '|' :: t.toList := by simp
  have hWhole : whole = ofChars (b.toList ++ '|' :: t.toList) := congrArg ofChars hChars
  have hValue : ∀ c, (whole.evaluate c).1 =
      part.call?.toList.foldl (fun v call => call.apply v) (e.evaluate c).1 := by
    intro c
    rw [hWhole, evaluate_eq, evaluate_eq]
    exact value_append_pipe hb ht c
  refine ⟨part.name, part.argument?, hTells, fun n a => hTells.unique, ?_, ?_, ?_, ?_⟩
  · rw [hWhole, ofChars_append_pipe hb ht]
    rfl
  · have hCall : part.call?.toList = if part.name = [] then []
        else [.new (String.ofList part.name) (part.argument?.map String.ofList)] := by
      rw [Part.call?]
      split <;> rfl
    rw [hWhole, ofChars_append_pipe hb ht, ← hCall]
    rfl
  · intro f hFilter c
    rw [hValue, Part.foldl_call?_of_some hFilter]
  · intro hNone c
    rw [hValue, Part.foldl_call?_of_none hNone]

/-- The pipe between the quotes is part of the body, and the one behind it adds a step. -/
theorem evaluate_joinThenPrepend :
    let b := "tags | join: '|'"
    let t := " prepend: \"a: \" "
    let c := Context.start (.object [("tags", .array [.string "x", .string "yz"])]) .standard
    quoteBehind none b.toList = none ∧ topPipes none t.toList = 0 ∧
      Tells t.toList "prepend".toList (some "a: ".toList) ∧
      (ofText (b ++ "|" ++ t)).calls =
        [⟨"join", some .join, some "|"⟩, ⟨"prepend", some .prepend, some "a: "⟩] ∧
      ((ofText b).evaluate c).1 = .string "x|yz" ∧
      ((ofText (b ++ "|" ++ t)).evaluate c).1 = .string "a: x|yz" := by
  intro b t c
  have hb : quoteBehind none b.toList = none := by decide
  have ht : topPipes none t.toList = 0 := by decide
  have hTells : Tells t.toList "prepend".toList (some "a: ".toList) := by
    let part : Part := ⟨t.toList, 0⟩
    have hName : part.name = "prepend".toList := by decide
    have hArgument : part.argument? = some "a: ".toList := by decide
    rw [← hName, ← hArgument]
    exact part.tells
  have hShort : ((ofText b).evaluate c).1 = .string "x|yz" := by cbv
  obtain ⟨name, argument, -, hUnique, -, hCalls, hKnown, -⟩ := evaluate_append_pipe hb ht
  obtain ⟨rfl, rfl⟩ := hUnique _ _ hTells
  have hLong := hKnown .prepend (by decide) c
  rw [hShort] at hLong
  exact ⟨hb, ht, hTells, hCalls.trans (by decide +kernel), hShort, hLong.trans (by cbv)⟩

end Expression

end Stencil
