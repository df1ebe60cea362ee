import Mathlib
import Stencil.Context
import Stencil.Proofs.Text.Trimming

/-!
# The segments of paths

A path can be written in many ways and has one canonical form, its segments with a point between
them. What is read from a text is always in that form: no segment is empty, begins or ends with a
blank or has a separator in it. It does not matter which separators a text has, and a text that is
written behind another one with a separator between them leads on from where the first one leads.
-/

namespace Stencil

open Text

namespace Path

theorem not_isSeparator_of_isBlank {c : Char} (h : isBlank c = true) : isSeparator c = false := by
  have hPoint : c ≠ '.' := ne_of_isBlank h (by decide)
  have hOpen : c ≠ '[' := ne_of_isBlank h (by decide)
  have hClose : c ≠ ']' := ne_of_isBlank h (by decide)
  simp [isSeparator, hPoint, hOpen, hClose]

/-- A text that is one segment as it stands. -/
structure IsSegment (cs : List Char) : Prop where
  ne_nil : cs ≠ []
  unpadded : Unpadded cs
  plain : ∀ c ∈ cs, isSeparator c = false

theorem IsSegment.segmentsOf_eq {cs : List Char} (h : IsSegment cs) : segmentsOf cs = [cs] := by
  rw [segmentsOf_of_no_sep h.plain, h.unpadded.trim_eq, if_neg h.ne_nil]

theorem ofText_of_isSegment {s : String} (h : IsSegment s.toList) : ofText s = ⟨[s]⟩ := by
  rw [ofText, ofChars, h.segmentsOf_eq, List.map_singleton, String.ofList_toList]

/-! ### Reading and writing -/

/-- Whatever is read is a segment. -/
theorem isSegment_of_mem_segmentsOf {cs segment : List Char} (h : segment ∈ segmentsOf cs) :
    IsSegment segment := by
  obtain ⟨hMem, hNe⟩ := List.mem_filter.1 h
  obtain ⟨piece, hPiece, rfl⟩ := List.mem_map.1 hMem
  refine ⟨by simpa using hNe, unpadded_trim piece, ?_⟩
  obtain ⟨before, after, -, -, hWhole⟩ := exists_eq_padded_trim piece
  intro c hc
  apply not_sep_of_mem_pieces piece hPiece
  rw [hWhole]
  simp [hc]

theorem isSegment_of_mem_ofText {s segment : String} (h : segment ∈ (ofText s).segments) :
    IsSegment segment.toList := by
  obtain ⟨cs, hcs, rfl⟩ := List.mem_map.1 h
  rw [String.toList_ofList]
  exact isSegment_of_mem_segmentsOf hcs

/-- Either no separator is there, or what is behind the last one has none. -/
theorem sep_cases (cs : List Char) :
    (∀ c ∈ cs, isSeparator c = false) ∨
      ∃ a d t, cs = a ++ d :: t ∧ isSeparator d = true ∧ ∀ c ∈ t, isSeparator c = false := by
  induction cs with
  | nil => exact .inl nofun
  | cons c cs ih =>
    rcases ih with hNone | ⟨a, d, t, rfl, hd, ht⟩
    · cases hc : isSeparator c with
      | true => exact .inr ⟨[], c, cs, rfl, hc, hNone⟩
      | false => exact .inl (List.forall_mem_cons.2 ⟨hc, hNone⟩)
    · exact .inr ⟨c :: a, d, t, rfl, hd, ht⟩

/-- Blanks behind a path do not count. -/
theorem segmentsOf_append_blank {pad : List Char} (hPad : AllBlank pad) (cs : List Char) :
    segmentsOf (cs ++ pad) = segmentsOf cs := by
  -- Blanks are no separators, so they are part of the last piece.
  have hPiece : ∀ t : List Char, (∀ c ∈ t, isSeparator c = false) →
      segmentsOf (t ++ pad) = segmentsOf t := by
    intro t ht
    have hBoth : ∀ c ∈ t ++ pad, isSeparator c = false :=
      List.forall_mem_append.2 ⟨ht, fun c hc => not_isSeparator_of_isBlank (hPad c hc)⟩
    rw [segmentsOf_of_no_sep hBoth, segmentsOf_of_no_sep ht, trim_append t hPad]
  rcases sep_cases cs with hNone | ⟨a, d, t, rfl, hd, ht⟩
  · exact hPiece cs hNone
  · rw [List.append_assoc, List.cons_append, segmentsOf_append_sep hd, segmentsOf_append_sep hd,
      hPiece t ht]

/-- Segments that are written with points between them are read back. -/
theorem segmentsOf_join {segments : List (List Char)} (h : ∀ cs ∈ segments, IsSegment cs) :
    segmentsOf (join ['.'] segments) = segments := by
  induction segments with
  | nil => rfl
  | cons cs rest ih =>
    have hHere : IsSegment cs := h cs List.mem_cons_self
    have hRest := ih fun ds hds => h ds (List.mem_cons_of_mem _ hds)
    cases rest with
    | nil => exact hHere.segmentsOf_eq
    | cons ds rest =>
      rw [join_cons_cons, List.append_assoc, List.singleton_append,
        segmentsOf_append_sep (by decide), hHere.segmentsOf_eq, hRest, List.singleton_append]

/-- A path whose segments can be read is read back from its text. -/
theorem ofText_text_eq {p : Path} (h : ∀ segment ∈ p.segments, IsSegment segment.toList) :
    ofText p.text = p := by
  have hChars : ∀ cs ∈ p.segments.map String.toList, IsSegment cs := by
    simpa using h
  rw [ofText, ofChars, text, String.toList_ofList, segmentsOf_join hChars]
  simp

/-! ### Separators -/

/-- Two texts that differ at most in which separators they have. -/
def SameButSeparators (s t : List Char) : Prop :=
  List.Forall₂ (fun c d => c = d ∨ isSeparator c = true ∧ isSeparator d = true) s t

theorem SameButSeparators.pieces_eq {s t : List Char} (h : SameButSeparators s t) :
    pieces isSeparator s = pieces isSeparator t := by
  induction h with
  | nil => rfl
  | cons hHere _ ih =>
    rcases hHere with rfl | ⟨hc, hd⟩
    · rw [pieces, pieces, ih]
    · rw [pieces, pieces, if_pos hc, if_pos hd, ih]

theorem SameButSeparators.ofText_eq {s t : String} (h : SameButSeparators s.toList t.toList) :
    ofText s = ofText t := by
  rw [ofText, ofText, ofChars, ofChars, segmentsOf, segmentsOf, h.pieces_eq]

theorem segments_ofText_append {d : Char} (hd : isSeparator d = true) (a b : String) :
    (ofText (a ++ String.singleton d ++ b)).segments =
      (ofText a).segments ++ (ofText b).segments := by
  simp [ofText, ofChars, segmentsOf_append_sep hd]

end Path

/-! ### Where a path leads -/

/-- A walk goes one step after the other. -/
theorem Json.walk?_eq_foldlM (v : Json) (steps : List String) :
    v.walk? steps = steps.foldlM Json.child? v := by
  induction steps generalizing v with
  | nil => rfl
  | cons step rest ih =>
    rw [walk?_cons, List.foldlM_cons]
    cases v.child? step with
    | none => rfl
    | some w => exact ih w

/-- A longer path leads on from where its beginning leads. -/
theorem Context.resolve?_append (c : Context) {a : List String} (h : a ≠ []) (b : List String) :
    c.resolve? ⟨a ++ b⟩ = (c.resolve? ⟨a⟩).bind fun v => b.foldlM Json.child? v := by
  obtain ⟨head, rest, rfl⟩ := List.exists_cons_of_ne_nil h
  simp only [resolve?, List.cons_append]
  cases c.lookup? head with
  | none => rfl
  | some v =>
    simp only [Option.bind_some, Json.walk?_append, ← Json.walk?_eq_foldlM]

namespace Path

/-- The laws of paths as they are written. A separator between two texts puts the segments of the
one before those of the other; what is read is in canonical form and is read back from its text;
which separators a text has does not matter to where it leads; and a text behind a separator leads
on, step by step, from where the text in front of it leads, if that is a path at all. -/
theorem ofText_canonical (a b : String) {d : Char} (hd : isSeparator d = true) :
    let whole := ofText (a ++ String.singleton d ++ b)
    whole.segments = (ofText a).segments ++ (ofText b).segments ∧
      (∀ segment ∈ (ofText a).segments, IsSegment segment.toList) ∧
      ofText (ofText a).text = ofText a ∧
      (∀ t : String, SameButSeparators a.toList t.toList →
        ∀ c : Context, c.resolve? (ofText t) = c.resolve? (ofText a)) ∧
      ∀ c : Context, c.resolve? whole =
        if (ofText a).isEmpty then c.resolve? (ofText b)
        else (c.resolve? (ofText a)).bind fun v => (ofText b).segments.foldlM Json.child? v := by
  intro whole
  have hSegments : whole.segments = (ofText a).segments ++ (ofText b).segments :=
    segments_ofText_append hd a b
  have hAll : ∀ segment ∈ (ofText a).segments, IsSegment segment.toList :=
    fun segment => isSegment_of_mem_ofText
  refine ⟨hSegments, hAll, ofText_text_eq hAll, ?_, ?_⟩
  · intro t hSame c
    rw [hSame.ofText_eq]
  · intro c
    have hWhole : whole = ⟨(ofText a).segments ++ (ofText b).segments⟩ := by rw [← hSegments]
    rw [hWhole]
    by_cases hEmpty : (ofText a).segments = []
    · rw [if_pos (by simp [isEmpty, hEmpty]), hEmpty]
      rfl
    · rw [if_neg (by simpa [isEmpty] using hEmpty)]
      exact c.resolve?_append hEmpty _

/-- A bracket that is never opened and another one that is never closed are separators as any. -/
theorem ofText_unbalanced :
    let a := " rows]"
    let b := "1[ name ."
    let row : Json := .object [("name", .string "Ann")]
    let c := Context.start (.object [("rows", .object [("1", row)])]) .standard
    isSeparator '[' = true ∧
      (ofText (a ++ String.singleton '[' ++ b)).segments = ["rows", "1", "name"] ∧
      ofText (ofText a).text = ofText a ∧
      SameButSeparators a.toList " rows.".toList ∧
      c.resolve? (ofText " rows.") = c.resolve? (ofText a) ∧
      c.resolve? (ofText (a ++ String.singleton '[' ++ b)) = some (.string "Ann") := by
  intro a b row c
  have hSep : isSeparator '[' = true := by decide
  obtain ⟨hSegments, -, hText, hSame, hResolve⟩ := ofText_canonical a b hSep
  have hPoint : SameButSeparators a.toList " rows.".toList := by
    simp [SameButSeparators, a, isSeparator]
  exact ⟨hSep, hSegments.trans (by cbv), hText, hPoint, hSame _ hPoint c,
    (hResolve c).trans (by cbv)⟩

end Path
end Stencil
