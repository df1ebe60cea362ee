import Mathlib
import Stencil.Proofs.Placeholder.Calls
import Stencil.Proofs.Placeholder.Cursor
import Stencil.Proofs.Placeholder.Grammar
import Stencil.Proofs.Placeholder.Paths

/-!
# Writing expressions

An expression can be written so that it is read back as it was: the segments of its path with points
between them, and then each filter call behind a pipe, with its argument between quotes. Nothing in
an argument has to be avoided but the quote that it stands between. What is written has a type of
its own that rules out names that cannot be read back.
-/

namespace Stencil

open Text Pipeline

/-- A segment of a path that can be written as it is. -/
structure WrittenSegment where
  text : String
  ne_nil : text.toList ≠ []
  unpadded : Unpadded text.toList
  plain : ∀ c ∈ text.toList, Path.isSeparator c = false ∧ c ≠ '|' ∧ isQuote c = false

/-- An argument with a quote that it does not contain. -/
structure QuotedArgument where
  quote : Char
  text : String
  isQuote : isQuote quote = true
  not_mem : quote ∉ text.toList

/-- A filter call with a name that can be written as it is. -/
structure WrittenCall where
  name : String
  argument : Option QuotedArgument
  ne_nil : name.toList ≠ []
  unpadded : Unpadded name.toList
  plain : ∀ c ∈ name.toList, c ≠ '|' ∧ c ≠ ':' ∧ Pipeline.isQuote c = false

structure WrittenExpression where
  segments : List WrittenSegment
  calls : List WrittenCall

def QuotedArgument.chars (a : QuotedArgument) : List Char := a.quote :: a.text.toList ++ [a.quote]

namespace WrittenCall

/-- A name, or a name with a colon, a blank and the argument. -/
def chars (call : WrittenCall) : List Char :=
  call.name.toList ++
    match call.argument with
    | none => []
    | some a => ':' :: ' ' :: a.chars

/-- The call that is meant. -/
def meaning (call : WrittenCall) : FilterCall := .new call.name (call.argument.map (·.text))

end WrittenCall

namespace WrittenExpression

def pathChars (w : WrittenExpression) : List Char :=
  join ['.'] (w.segments.map (·.text.toList))

/-- The path and then each call, a blank, a pipe and a blank in front of it. -/
def chars (w : WrittenExpression) : List Char :=
  w.pathChars ++ w.calls.flatMap fun call => ' ' :: '|' :: ' ' :: call.chars

def text (w : WrittenExpression) : String := String.ofList w.chars

end WrittenExpression

/-! ### The path -/

theorem WrittenSegment.isSegment (s : WrittenSegment) : Path.IsSegment s.text.toList :=
  ⟨s.ne_nil, s.unpadded, fun c hc => (s.plain c hc).1⟩

namespace WrittenExpression

theorem onePart_join (segments : List WrittenSegment) :
    OnePart (join ['.'] (segments.map (·.text.toList))) := by
  induction segments with
  | nil => exact onePart_nil
  | cons s rest ih =>
    have hHere : OnePart s.text.toList := onePart_of_plain fun c hc => (s.plain c hc).2
    cases rest with
    | nil => exact hHere
    | cons t rest =>
      have hPoint : OnePart ['.'] := onePart_of_plain (by simp [isQuote])
      simp only [List.map_cons] at ih ⊢
      rw [join_cons_cons]
      exact (hHere.append hPoint).append ih

end WrittenExpression

/-! ### The calls -/

namespace WrittenCall

/-- A call is one part, whatever its argument is. -/
theorem onePart_chars (call : WrittenCall) : OnePart call.chars := by
  have hName : OnePart call.name.toList := by
    apply onePart_of_plain
    intro c hc
    obtain ⟨hPipe, -, hQuote⟩ := call.plain c hc
    exact ⟨hPipe, hQuote⟩
  rw [chars]
  apply hName.append
  cases call.argument with
  | none => exact onePart_nil
  | some a =>
    have hColon : OnePart [':', ' '] := onePart_of_plain (by simp [Pipeline.isQuote])
    exact hColon.append (onePart_quoted a.isQuote a.not_mem)

end WrittenCall

namespace WrittenCall

variable {call : WrittenCall} {pad : List Char}

theorem colon_not_mem_name (hPad : AllBlank pad) : ':' ∉ ' ' :: call.name.toList ++ pad := by
  intro hMem
  rcases List.mem_append.1 hMem with hName | hBlank
  · rcases List.mem_cons.1 hName with hSpace | hName
    · cases hSpace
    · exact (call.plain ':' hName).2.1 rfl
  · exact ne_of_isBlank (hPad ':' hBlank) (by decide) rfl

/-- Blanks behind a call do not count. -/
theorem call?_eq {part : Part} (hPad : AllBlank pad) (h : part.chars = ' ' :: call.chars ++ pad) :
    part.name ≠ [] ∧ part.call? = some call.meaning := by
  have hTells : Tells part.chars call.name.toList (call.argument.map (·.text.toList)) := by
    cases hArgument : call.argument with
    | none =>
      have hTrim : trim (' ' :: call.name.toList ++ pad) = call.name.toList :=
        trim_padded allBlank_space call.unpadded hPad
      have hNoColon : ':' ∉ ' ' :: call.name.toList ++ pad := colon_not_mem_name hPad
      have hName := Tells.name hNoColon
      rw [hTrim] at hName
      simpa [h, chars, hArgument] using hName
    | some a =>
      have hTrim : trim (' ' :: call.name.toList ++ []) = call.name.toList :=
        trim_padded allBlank_space call.unpadded allBlank_nil
      have hMeans : Means (' ' :: a.chars ++ pad) (some a.text.toList) :=
        .quoted a.isQuote allBlank_space hPad
      have hNoColon : ':' ∉ ' ' :: call.name.toList ++ [] := colon_not_mem_name allBlank_nil
      have hCall := Tells.call hNoColon hMeans
      rw [hTrim] at hCall
      simpa [h, chars, hArgument] using hCall
  obtain ⟨hName, hArgument⟩ := Part.eq_of_tells hTells
  have hNe : part.name ≠ [] := by
    rw [hName]
    exact call.ne_nil
  refine ⟨hNe, ?_⟩
  rw [Part.call?, if_neg hNe, hName, hArgument, meaning]
  simp [Function.comp_def]

end WrittenCall

/-! ### The whole expression -/

/-- A text that holds a call, but for blanks. -/
def WrittenCall.Holds (call : WrittenCall) (cs : List Char) : Prop :=
  ∃ pad, AllBlank pad ∧ cs = ' ' :: call.chars ++ pad

namespace WrittenExpression

/-- The first part is the text in front of the calls, and each call is one part. -/
theorem exists_parts (calls : List WrittenCall) {first : List Char} (h : OnePart first) :
    ∃ pad rest, AllBlank pad ∧ List.Forall₂ WrittenCall.Holds calls rest ∧
      parts none (first ++ calls.flatMap fun call => ' ' :: '|' :: ' ' :: call.chars) =
        (first ++ pad) :: rest := by
  -- The blank in front of a pipe belongs to the part before it, which is `first` for the path and
  -- the call itself for each call that has another one behind it.
  induction calls generalizing first with
  | nil =>
    refine ⟨[], [], nofun, .nil, ?_⟩
    rw [List.flatMap_nil, parts_eq_singleton (by rw [List.append_nil]; exact h.topPipes)]
  | cons call calls ih =>
    have hSpace : OnePart [' '] := onePart_of_plain (by simp [isQuote])
    have hFirst : OnePart (first ++ [' ']) := h.append hSpace
    obtain ⟨pad, rest, hPad, hRest, hParts⟩ := ih (hSpace.append call.onePart_chars)
    have hHolds : call.Holds (' ' :: call.chars ++ pad) := ⟨pad, hPad, rfl⟩
    refine ⟨[' '], (' ' :: call.chars ++ pad) :: rest, allBlank_space, .cons hHolds hRest, ?_⟩
    have hSplit : first ++ (call :: calls).flatMap (fun c => ' ' :: '|' :: ' ' :: c.chars) =
        (first ++ [' ']) ++ '|' ::
          ([' '] ++ call.chars ++ calls.flatMap fun c => ' ' :: '|' :: ' ' :: c.chars) := by
      simp
    rw [hSplit, parts_append_pipe hFirst.closed, parts_eq_singleton hFirst.topPipes, hParts]
    rfl

/-- Texts that hold calls stand for these calls, and none of them is blank. -/
theorem calls_of_holds {calls : List WrittenCall} {texts : List (List Char)}
    (h : List.Forall₂ WrittenCall.Holds calls texts) (start : Nat) :
    (Part.place start texts).filterMap (·.call?) = calls.map WrittenCall.meaning ∧
      (Part.place start texts).filter (·.name = []) = [] := by
  induction h generalizing start with
  | nil => exact ⟨rfl, rfl⟩
  | @cons call cs calls texts hHere _ ih =>
    obtain ⟨pad, hPad, hChars⟩ := hHere
    have hPart : (⟨cs, start⟩ : Part).chars = ' ' :: call.chars ++ pad := hChars
    obtain ⟨hName, hCall⟩ := WrittenCall.call?_eq hPad hPart
    obtain ⟨hCalls, hBlanks⟩ := ih (start + byteLength cs + 1)
    constructor
    · rw [Part.place, List.filterMap_cons_some hCall, hCalls, List.map_cons]
    · rw [Part.place, List.filter_cons_of_neg (by simpa using hName), hBlanks]

theorem ofChars_chars (w : WrittenExpression) :
    let e := Expression.ofChars w.chars
    e.path.segments = w.segments.map (·.text) ∧ e.calls = w.calls.map WrittenCall.meaning ∧
      e.blanks = [] := by
  intro e
  obtain ⟨pad, rest, hPad, hRest, hParts⟩ := exists_parts w.calls (onePart_join w.segments)
  obtain ⟨hCalls, hBlanks⟩ := calls_of_holds hRest (0 + byteLength (w.pathChars ++ pad) + 1)
  have hScan : Part.scan w.chars =
      ⟨w.pathChars ++ pad, 0⟩ :: Part.place (0 + byteLength (w.pathChars ++ pad) + 1) rest :=
    (Part.scan_eq_place _).trans (congrArg (Part.place 0) hParts)
  refine ⟨?_, ?_, ?_⟩
  · have hPath : e.path = Path.ofChars (w.pathChars ++ pad) := by
      simp only [e, Expression.ofChars, hScan, List.head?_cons, Option.map_some, Option.getD_some]
    have hSegments : ∀ cs ∈ w.segments.map (·.text.toList), Path.IsSegment cs := by
      simpa using fun s _ => s.isSegment
    rw [hPath, Path.ofChars, pathChars, Path.segmentsOf_append_blank hPad,
      Path.segmentsOf_join hSegments]
    simp
  · simp only [e, Expression.ofChars, hScan, List.tail_cons, hCalls]
  · simp only [e, Expression.ofChars, hScan, List.tail_cons, hBlanks, List.map_nil]

/-- What is written is read back: the segments of the path, and the calls in their order with their
names, the filters that these stand for and their arguments. Between doubled braces it is a pure
placeholder, if it does not bring doubled braces along. -/
theorem ofText_text (w : WrittenExpression) :
    let e := Expression.ofText w.text
    e.path.segments = w.segments.map (·.text) ∧
      e.calls.map (·.name) = w.calls.map (·.name) ∧
      e.calls.map (·.filter?) = w.calls.map (fun call => Filter.ofName? call.name) ∧
      e.calls.map (·.argument) = w.calls.map (fun call => call.argument.map (·.text)) ∧
      e.blanks = [] ∧
      (¬ ['\x7b', '\x7b'] <:+: w.chars → ¬ ['\x7d', '\x7d'] <:+: w.chars →
        Interpolation.ofText? ("\x7b\x7b" ++ w.text ++ "\x7d\x7d") = some (.pure e)) := by
  intro e
  have hChars : e = Expression.ofChars w.chars := by
    simp only [e, Expression.ofText, text, String.toList_ofList]
  obtain ⟨hPath, hCalls, hBlanks⟩ := w.ofChars_chars
  rw [hChars, hCalls]
  refine ⟨hPath, ?_, ?_, ?_, hBlanks, ?_⟩
  · simp [WrittenCall.meaning, FilterCall.new]
  · simp [WrittenCall.meaning, FilterCall.new]
  · simp [WrittenCall.meaning, FilterCall.new]
  · intro hOpen hClose
    apply Interpolation.ofText?_of_isPlaceholder
    refine ⟨⟨[], [], nofun, nofun, ?_⟩, hOpen, hClose⟩
    simp [text]

/-- A bar between blanks is an argument here, and so is a text with a colon and the other quote. -/
def barsBetween : WrittenExpression where
  segments := [⟨"items", by simp, ⟨by simp [isBlank], by simp [isBlank]⟩,
      by simp [Path.isSeparator, isQuote]⟩,
    ⟨"0", by simp, ⟨by simp [isBlank], by simp [isBlank]⟩, by simp [Path.isSeparator, isQuote]⟩]
  calls := [⟨"join", some ⟨'"', " | ", by simp [isQuote], by simp⟩, by simp,
      ⟨by simp [isBlank], by simp [isBlank]⟩, by simp [isQuote]⟩,
    ⟨"upcase", none, by simp, ⟨by simp [isBlank], by simp [isBlank]⟩, by simp [isQuote]⟩,
    ⟨"no such", some ⟨'"', "it's: 1", by simp [isQuote], by simp⟩, by simp,
      ⟨by simp [isBlank], by simp [isBlank]⟩, by simp [isQuote]⟩]

theorem ofText_barsBetween :
    let text := "items.0 | join: \" | \" | upcase | no such: \"it's: 1\""
    let e := Expression.ofText text
    barsBetween.text = text ∧ e.path.segments = ["items", "0"] ∧
      e.calls.map (·.name) = ["join", "upcase", "no such"] ∧
      e.calls.map (·.filter?) = [some .join, some .upcase, none] ∧
      e.calls.map (·.argument) = [some " | ", none, some "it's: 1"] ∧
      Interpolation.ofText? ("\x7b\x7b" ++ text ++ "\x7d\x7d") = some (.pure e) := by
  intro text e
  have hText : barsBetween.text = text := by decide
  obtain ⟨hPath, hNames, hFilters, hArguments, -, hPure⟩ := ofText_text barsBetween
  rw [hText] at hPath hNames hFilters hArguments hPure
  have hOpen : ¬ ['\x7b', '\x7b'] <:+: barsBetween.chars := by
    rw [← cutAtDouble_isSome_iff]
    decide
  have hClose : ¬ ['\x7d', '\x7d'] <:+: barsBetween.chars := by
    rw [← cutAtDouble_isSome_iff]
    decide
  exact ⟨hText, hPath, hNames, hFilters, hArguments, hPure hOpen hClose⟩

end WrittenExpression

end Stencil
