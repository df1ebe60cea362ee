import Mathlib
import Stencil.Proofs.Evaluation.Verbatim

/-!
# How much depth an evaluation takes

A tree with so many levels fits every bound on the depth that leaves it as many levels, and under
two such bounds it does the same. The tree of a template has no more levels than the template
itself, and a text is refused where its containers are nested too deep. These two limits fit
together: under the standard bound nothing is ever cut off that was read from a text.
-/

namespace Stencil

open Context Surroundings

namespace Node

mutual

/-- The number of levels of a tree. -/
def levels : Node → Nat
  | .literal _ | .text _ => 1
  | .object entries => entriesLevels entries + 1
  | .array items => itemsLevels items + 1
  | .loop ⟨_, _, body, empty⟩ => max (branchLevels body) (branchLevels empty) + 1
  | .conditional ⟨_, thenBranch, elseBranch⟩ =>
    max (branchLevels thenBranch) (branchLevels elseBranch) + 1

def itemsLevels : List Node → Nat
  | [] => 0
  | item :: rest => max item.levels (itemsLevels rest)

def entriesLevels : List (String × Node) → Nat
  | [] => 0
  | (_, child) :: rest => max child.levels (entriesLevels rest)

def branchLevels : Option Node → Nat
  | none => 0
  | some node => node.levels

end

theorem levels_pos (node : Node) : 0 < node.levels := by
  cases node with
  | loop l => cases l; simp [levels]
  | conditional k => cases k; simp [levels]
  | _ => simp [levels]

theorem itemsLevels_le_iff {items : List Node} {k : Nat} :
    itemsLevels items ≤ k ↔ ∀ item ∈ items, item.levels ≤ k := by
  induction items with
  | nil => simp [itemsLevels]
  | cons item rest ih => simp [itemsLevels, ih]

theorem entriesLevels_eq (entries : List (String × Node)) :
    entriesLevels entries = itemsLevels (entries.map Prod.snd) := by
  induction entries with
  | nil => rfl
  | cons e rest ih => rw [entriesLevels, ih, List.map_cons, itemsLevels]

theorem branchLevels_le_iff {branch : Option Node} {k : Nat} :
    branchLevels branch ≤ k ↔ ∀ n ∈ branch.toList, n.levels ≤ k := by
  cases branch <;> simp [branchLevels]

/-- A tree has one level more than what stands right below its root. -/
theorem levels_le_iff {node : Node} {k : Nat} :
    node.levels ≤ k + 1 ↔ ∀ child ∈ node.children, child.levels ≤ k := by
  cases node with
  | literal v => simp [levels, children]
  | text content => simp [levels, children]
  | object entries =>
    rw [levels, Nat.add_le_add_iff_right, entriesLevels_eq, itemsLevels_le_iff, children]
  | array items => rw [levels, Nat.add_le_add_iff_right, itemsLevels_le_iff, children]
  | loop l =>
    obtain ⟨binding, collection, body, empty⟩ := l
    rw [levels, Nat.add_le_add_iff_right, Nat.max_le, branchLevels_le_iff, branchLevels_le_iff,
      children, List.forall_mem_append]
  | conditional k =>
    obtain ⟨condition, thenBranch, elseBranch⟩ := k
    rw [levels, Nat.add_le_add_iff_right, Nat.max_le, branchLevels_le_iff, branchLevels_le_iff,
      children, List.forall_mem_append]

/-- Control objects, texts and literals take no more levels than they are written with. -/
theorem levels_ofJson_le (v : Json) : (ofJson v).levels ≤ v.height := by
  induction v using Json.induction_children with
  | step v ih =>
    obtain ⟨k, hk⟩ := Nat.exists_eq_succ_of_ne_zero (Nat.ne_of_gt v.height_pos)
    rw [hk, levels_le_iff]
    intro child hChild
    obtain ⟨w, hw, rfl⟩ := exists_eq_ofJson_of_mem_children hChild
    have hLess := Json.height_lt hw
    exact (ih w hw).trans (by omega)

end Node

namespace Surroundings

/-- The same but for the bounds on the depth, which leave `k` levels on either side. -/
structure RoomFor (k : Nat) (s t : Surroundings) : Prop where
  root : s.root = t.root
  scopes : s.scopes = t.scopes
  maxIterations : s.limits.maxIterations = t.limits.maxIterations
  left : s.depth + k ≤ s.limits.maxDepth
  right : t.depth + k ≤ t.limits.maxDepth

variable {k : Nat} {s t : Surroundings}

theorem RoomFor.deeper (h : RoomFor (k + 1) s t) : RoomFor k s.deeper t.deeper where
  root := h.root
  scopes := h.scopes
  maxIterations := h.maxIterations
  left := by
    have hLeft := h.left
    change s.depth + 1 + k ≤ s.limits.maxDepth
    omega
  right := by
    have hRight := h.right
    change t.depth + 1 + k ≤ t.limits.maxDepth
    omega

theorem RoomFor.push (h : RoomFor k s t) (frame : List (String × Json)) :
    RoomFor k (s.push frame) (t.push frame) :=
  { h with scopes := congrArg (frame :: ·) h.scopes }

end Surroundings

/-- Under bounds with room for its levels a node does the same and is nowhere too deep. -/
theorem Pairing.alike_of_levels_le {k : Nat} {s t : Surroundings} (h : RoomFor k s t) {node : Node}
    (hLevels : node.levels ≤ k) : shallow.Alike Likeness.same s t node node := by
  induction k generalizing node s t with
  | zero =>
    have hPos := node.levels_pos
    omega
  | succ k ih =>
    have hChildren := Node.levels_le_iff.1 hLevels
    have hLeft := h.left
    have hRight := h.right
    have hSame := alike_mapChildren (f := fun child => child) (g := fun child => child)
      (descends_of_lt (s := s) (t := t) (by omega) (by omega))
      (shallow_iterates (L := Likeness.same) (s := s.deeper) (t := t.deeper) h.maxIterations)
      (agreeOn_of_eq h.root h.scopes) node
      (fun child hChild => ih h.deeper (hChildren child hChild))
      fun child hChild frame => ih (h.deeper.push frame) (hChildren child hChild)
    rw [Node.mapChildren_id] at hSame
    exact hSame

theorem Json.resolved_tower (k : Nat) : (tower k).Resolved := by
  induction k with
  | zero => exact .null
  | succ k ih => exact .array (List.forall_mem_singleton.2 ih)

namespace Template

/-- What an evaluation gives is its value and its usage. -/
theorem evaluate_eq_of_usage {t u : Template} {d e : Json}
    (hValue : (t.root.evaluate (.start d t.limits)).1 = (u.root.evaluate (.start e u.limits)).1)
    (hUsage : (t.root.evaluate (.start d t.limits)).2.usage =
      (u.root.evaluate (.start e u.limits)).2.usage) : t.evaluate d = u.evaluate e := by
  rw [usage, usage, Usage.mk.injEq] at hUsage
  obtain ⟨hIterations, -, hLog⟩ := hUsage
  simp only [evaluate, notices, hValue, hIterations, hLog]

theorem tooDeep_of_mem {t : Template} {data : Json} {limit : Nat}
    (h : .depthExceeded limit ∈ (t.evaluate data).notices) :
    (t.root.evaluate (.start data t.limits)).2.usage.TooDeep := by
  rcases List.mem_append.1 h with hLog | hEnd
  · exact ⟨limit, List.mem_reverse.1 hLog⟩
  · simp at hEnd

/-- Where the levels of the tree fit, a bound on the depth makes no difference. -/
theorem evaluate_of_levels_le {source : Json} {bound other : Nat}
    (h : (Node.ofJson source).levels ≤ bound) (hOther : (Node.ofJson source).levels ≤ other)
    (budget : Nat) (data : Json) :
    let run := (ofJson source ⟨bound, budget⟩).evaluate data
    run = (ofJson source ⟨other, budget⟩).evaluate data ∧
      ∀ limit, .depthExceeded limit ∉ run.notices := by
  intro run
  have hRoom : RoomFor (Node.ofJson source).levels (.start data ⟨bound, budget⟩)
      (.start data ⟨other, budget⟩) := by
    refine ⟨rfl, rfl, rfl, ?_, ?_⟩
    · simpa [Surroundings.start] using h
    · simpa [Surroundings.start] using hOther
  have hMatches := (Pairing.alike_of_levels_le hRoom (Nat.le_refl _)).evaluate
    (.start data ⟨bound, budget⟩) (.start data ⟨other, budget⟩) rfl rfl ⟨rfl, nofun⟩
  obtain ⟨hAnswer, hUsage, hShallow⟩ := hMatches.resolve_left id
  refine ⟨evaluate_eq_of_usage (eq_of_optionRel hAnswer) hUsage, fun limit hMem => ?_⟩
  have hDeep := tooDeep_of_mem hMem
  change ((Node.ofJson source).evaluate (.start data ⟨bound, budget⟩)).2.usage.TooDeep at hDeep
  rw [hUsage] at hDeep
  exact hShallow hDeep

theorem read_eq_ok_iff {text : String} {limits : Limits} {t : Template} :
    read text limits = .ok t ↔
      ∃ source, Json.read text = .ok source ∧ t = ofJson source limits := by
  rw [read]
  cases Json.read text with
  | ok source => simp [eq_comm]
  | error cause => simp

/-- Nothing is too deep for the standard bound in a template that was read from a text, whatever the
data model, and no larger bound makes a difference. -/
theorem evaluate_of_standard_depth {text : String} {budget : Nat} {t : Template}
    (h : read text ⟨Limits.standard.maxDepth, budget⟩ = .ok t) (data : Json) :
    (∀ limit, .depthExceeded limit ∉ (t.evaluate data).notices) ∧
      ∀ bound, Limits.standard.maxDepth ≤ bound →
        ∃ larger, read text ⟨bound, budget⟩ = .ok larger ∧
          t.evaluate data = larger.evaluate data := by
  obtain ⟨source, hSource, rfl⟩ := read_eq_ok_iff.1 h
  have hFits : (Node.ofJson source).levels ≤ Limits.standard.maxDepth :=
    (Node.levels_ofJson_le source).trans (Json.height_le_of_read hSource)
  refine ⟨(evaluate_of_levels_le hFits hFits budget data).2, fun bound hBound => ?_⟩
  exact ⟨ofJson source ⟨bound, budget⟩, read_eq_ok_iff.2 ⟨source, hSource, rfl⟩,
    (evaluate_of_levels_le hFits (hFits.trans hBound) budget data).1⟩

/-- Arrays that are nested as deep as a text may nest them. One level less would cut them off, and
how deep the data is has no part in it. -/
theorem evaluate_tower_of_standard_depth :
    let data := Json.tower 1000
    let run (bound : Nat) := (ofJson (.tower Json.maxNesting) ⟨bound, 10⟩).evaluate data
    (∀ limit, .depthExceeded limit ∉ (run Limits.standard.maxDepth).notices) ∧
      run Limits.standard.maxDepth = run Limits.unbounded.maxDepth ∧
      .depthExceeded 127 ∈ (run 127).notices := by
  intro data run
  have hRead (bound : Nat) : read (String.ofList (Json.towerChars Json.maxNesting)) ⟨bound, 10⟩ =
      .ok (ofJson (.tower Json.maxNesting) ⟨bound, 10⟩) :=
    read_eq_ok_iff.2 ⟨_, Json.read_tower (Nat.le_refl _), rfl⟩
  obtain ⟨hShallow, hSame⟩ := evaluate_of_standard_depth (hRead _) data
  obtain ⟨larger, hLarger, hRun⟩ := hSame Limits.unbounded.maxDepth (by decide)
  rw [← Except.ok.inj ((hRead _).symm.trans hLarger)] at hRun
  have hHigh : 127 < (Json.tower Json.maxNesting).height := by
    rw [Json.height_tower]
    decide
  exact ⟨hShallow, hRun, depthExceeded_of_height_lt (Json.resolved_tower _) hHigh data⟩

end Template
end Stencil
