import Mathlib
import Stencil.Proofs.Evaluation.SideBySide

/-!
# The depth bound as a pruning

What a bound on the depth cuts off is decided by the template alone. Evaluating a node under the
bound `k` is evaluating the node that has nothing from its level `k` on, with as much depth as it
takes. What stood below that level has no influence on anything else.
-/

namespace Stencil

open Context Surroundings

namespace Node

/-- A conditional that never holds and has no branches. -/
def nothing : Node := .conditional ⟨.literal .null, none, none⟩

/-- Every child of a node replaced, that is members, items, bodies, fallbacks and branches. -/
def mapChildren (f : Node → Node) : Node → Node
  | .literal v => .literal v
  | .text content => .text content
  | .object entries => .object (entries.map fun (key, child) => (key, f child))
  | .array items => .array (items.map f)
  | .loop ⟨binding, collection, body, empty⟩ =>
    .loop ⟨binding, collection, body.map f, empty.map f⟩
  | .conditional ⟨condition, thenBranch, elseBranch⟩ =>
    .conditional ⟨condition, thenBranch.map f, elseBranch.map f⟩

/-- The levels of a tree above a given one, with nothing below them. -/
def prune : Nat → Node → Node
  | 0, _ => nothing
  | k + 1, node => node.mapChildren (prune k)

theorem mapChildren_id (node : Node) : node.mapChildren (fun child => child) = node := by
  cases node with
  | literal v => rfl
  | text content => rfl
  | object entries => exact congrArg _ (List.map_id' entries)
  | array items => exact congrArg _ (List.map_id' items)
  | loop l =>
    obtain ⟨binding, collection, body, empty⟩ := l
    rw [mapChildren, Option.map_id', Option.map_id']
  | conditional k =>
    obtain ⟨condition, thenBranch, elseBranch⟩ := k
    rw [mapChildren, Option.map_id', Option.map_id']

/-- Too deep down, every node gives nothing, whatever kind it is of. -/
theorem evaluate_of_le {c : Context} (h : c.limits.maxDepth ≤ c.depth) (node : Node) :
    node.evaluate c = (none, c.note (.depthExceeded c.limits.maxDepth)) := by
  cases node with
  | literal v => rw [evaluate_literal, descend_of_le h]
  | text content => rw [evaluate_text, descend_of_le h]
  | object entries => rw [evaluate_object, descend_of_le h]
  | array items => rw [evaluate_array, descend_of_le h]
  | loop l => rw [evaluate_loop, descend_of_le h]
  | conditional k => rw [evaluate_conditional, descend_of_le h]

theorem contribute_of_le {c : Context} (h : c.limits.maxDepth ≤ c.depth) (node : Node) :
    node.contribute c = ([], c.note (.depthExceeded c.limits.maxDepth)) := by
  by_cases hLoop : ∃ l, node = .loop l
  · obtain ⟨l, rfl⟩ := hLoop
    rw [contribute_loop, andThen, descend_of_le h]
    rfl
  · rw [contribute_of_ne_loop fun l hl => hLoop ⟨l, hl⟩, andThen, evaluate_of_le h]
    cases node <;> rfl

theorem evaluate_nothing {c : Context} (h : c.depth < c.limits.maxDepth) :
    nothing.evaluate c = (none, c) := by
  rw [nothing, evaluate_conditional, descend_of_lt h, Conditional.evaluate_eq]
  rfl

theorem contribute_nothing {c : Context} (h : c.depth < c.limits.maxDepth) :
    nothing.contribute c = ([], c) := by
  have hNoLoop : ∀ l, nothing ≠ .loop l := by simp [nothing]
  rw [contribute_of_ne_loop hNoLoop, andThen, evaluate_nothing h]
  rfl

end Node

theorem optionRel_map {α β γ : Type} {R : β → γ → Prop} {f : α → β} {g : α → γ} {o : Option α}
    (h : ∀ a ∈ o, R (f a) (g a)) : Option.Rel R (o.map f) (o.map g) := by
  cases o with
  | none => exact .none
  | some a => exact .some (h a rfl)

theorem forall₂_map {α β γ : Type} {R : β → γ → Prop} {f : α → β} {g : α → γ} {as : List α}
    (h : ∀ a ∈ as, R (f a) (g a)) : List.Forall₂ R (as.map f) (as.map g) := by
  rw [List.forall₂_map_left_iff, List.forall₂_map_right_iff]
  exact List.forall₂_same.2 h

namespace Usage

/-- Whether there was a node that the depth did not allow. -/
def TooDeep (u : Usage) : Prop := ∃ limit, Notice.depthExceeded limit ∈ u.log

theorem tooDeep_of_grows {u v : Usage} (hGrows : u.Grows v) (h : u.TooDeep) : v.TooDeep := by
  obtain ⟨limit, hMem⟩ := h
  exact ⟨limit, hGrows.log.subset hMem⟩

theorem tooDeep_noteAll {u : Usage} {ns : List Notice} (hRemarks : ∀ n ∈ ns, n.isRemark = true)
    (h : (u.noteAll ns).TooDeep) : u.TooDeep := by
  obtain ⟨limit, hMem⟩ := h
  rcases List.mem_append.1 hMem with hNew | hOld
  · have hRemark := hRemarks _ (List.mem_reverse.1 hNew)
    simp [Notice.isRemark] at hRemark
  · exact ⟨limit, hOld⟩

theorem tooDeep_refuse {u : Usage} {n : Nat} (h : (u.refuse n).TooDeep) : u.TooDeep := by
  obtain ⟨limit, hMem⟩ := h
  rw [refuse] at hMem
  split at hMem
  · exact ⟨limit, hMem⟩
  · rcases List.mem_cons.1 hMem with hHere | hOld
    · cases hHere
    · exact ⟨limit, hOld⟩

end Usage

namespace Pairing

variable {P : Pairing} {L : Likeness} {s t : Surroundings}

/-- Replacing every child on either side keeps nodes matched if it keeps the children matched. -/
theorem alike_mapChildren {f g : Node → Node} (hDescends : P.Descends s t)
    (hIterates : P.Iterates L s.deeper t.deeper) (hAgree : ∀ names, AgreeOn names s t) (node : Node)
    (hChild : ∀ child ∈ node.children, P.Alike L s.deeper t.deeper (f child) (g child))
    (hBody : ∀ child ∈ node.children, ∀ frame, P.Alike L (s.deeper.push frame)
      (t.deeper.push frame) (f child) (g child)) :
    P.Alike L s t (node.mapChildren f) (node.mapChildren g) := by
  cases node with
  | literal v => exact alike_literal hDescends v
  | text content => exact alike_text hDescends (hAgree _)
  | object entries =>
    apply alike_object hDescends
    exact forall₂_map fun e he => ⟨rfl, hChild e.2 (List.mem_map_of_mem he)⟩
  | array items => exact alike_array hDescends (forall₂_map hChild)
  | loop l =>
    obtain ⟨binding, collection, body, empty⟩ := l
    apply alike_loop hDescends
    apply matches_loop hIterates (fun source _ => hAgree _)
    · apply optionRel_map
      intro child hMem name _ index length element
      exact hBody child (List.mem_append_left _ (Option.mem_toList.2 hMem)) _
    · apply optionRel_map
      intro child hMem
      exact hChild child (List.mem_append_right _ (Option.mem_toList.2 hMem))
  | conditional k =>
    obtain ⟨condition, thenBranch, elseBranch⟩ := k
    apply alike_conditional hDescends (hAgree _)
    · apply optionRel_map
      intro child hMem
      exact hChild child (List.mem_append_left _ (Option.mem_toList.2 hMem))
    · apply optionRel_map
      intro child hMem
      exact hChild child (List.mem_append_right _ (Option.mem_toList.2 hMem))

/-! ### Cut off or pruned -/

/-- The same number of iterations, as long as the second evaluation meets no bound on the depth. -/
def uncut : Pairing where
  related u v := u.iterations = v.iterations
  spoiled v := v.TooDeep
  spoiled_of_grows := Usage.tooDeep_of_grows
  related_noteAll _ h := h

/-- `k` levels are left on the first side, and all else but the depth is the same. -/
structure LevelsLeft (k : Nat) (s t : Surroundings) : Prop where
  root : s.root = t.root
  scopes : s.scopes = t.scopes
  maxIterations : s.limits.maxIterations = t.limits.maxIterations
  left : s.depth + k = s.limits.maxDepth

theorem LevelsLeft.deeper {k : Nat} (h : LevelsLeft (k + 1) s t) :
    LevelsLeft k s.deeper t.deeper := by
  have hLeft : s.depth + 1 + k = s.limits.maxDepth := by rw [← h.left]; omega
  exact { h with left := hLeft }

theorem LevelsLeft.push {k : Nat} (h : LevelsLeft k s t) (frame : List (String × Json)) :
    LevelsLeft k (s.push frame) (t.push frame) :=
  { h with scopes := congrArg (frame :: ·) h.scopes }

/-- Where the second evaluation has no depth left any more, it is spoiled. -/
theorem matches_uncut_of_granted {α β : Type} {V : α → β → Prop} {a : Action α} {b : Action β}
    (hRefused : ∀ d : Context, d.limits.maxDepth ≤ d.depth →
      (b d).2 = d.note (.depthExceeded d.limits.maxDepth))
    (hGranted : t.depth < t.limits.maxDepth → uncut.Matches V s t a b) :
    uncut.Matches V s t a b := by
  intro c d hc hd hRel
  by_cases hLt : t.depth < t.limits.maxDepth
  · exact hGranted hLt c d hc hd hRel
  · left
    subst hd
    rw [hRefused d (Nat.le_of_not_lt hLt)]
    exact ⟨_, List.mem_cons_self⟩

theorem uncut_descends {k : Nat} (h : LevelsLeft (k + 1) s t) : uncut.Descends s t := by
  refine ⟨fun {α β V a b} hNone hMatches => ?_⟩
  apply matches_uncut_of_granted
  · intro d hLe
    rw [descend_of_le hLe]
  · intro hLt
    have hs : s.depth < s.limits.maxDepth := by rw [← h.left]; omega
    exact (descends_of_lt hs hLt).descend hNone hMatches

theorem uncut_iterates {k : Nat} (h : LevelsLeft k s t) : uncut.Iterates L s t := by
  apply iterates_of_consume
  apply matches_consume h.maxIterations
  · exact fun hRel => hRel
  · exact fun hRel => congrArg (· + 1) hRel
  · intro u v n hRel
    change (u.refuse n).iterations = (v.refuse n).iterations
    rw [Usage.refuse_iterations, Usage.refuse_iterations]
    exact hRel

/-- With `k` levels left, a node does what it does when pruned at its level `k`. -/
theorem alike_prune {k : Nat} (h : LevelsLeft k s t) (node : Node) :
    uncut.Alike Likeness.same s t node (node.prune k) := by
  induction k generalizing node s t with
  | zero =>
    have hs : s.limits.maxDepth ≤ s.depth := Nat.le_of_eq h.left.symm
    constructor
    · apply matches_uncut_of_granted
      · intro d hLe
        rw [Node.evaluate_of_le hLe]
      · rintro hLt c d rfl rfl hRel
        rw [Node.evaluate_of_le hs, Node.prune, Node.evaluate_nothing hLt]
        exact .inr ⟨.none, hRel⟩
    · apply matches_uncut_of_granted
      · intro d hLe
        rw [Node.contribute_of_le hLe]
      · rintro hLt c d rfl rfl hRel
        rw [Node.contribute_of_le hs, Node.prune, Node.contribute_nothing hLt]
        exact .inr ⟨rfl, hRel⟩
  | succ k ih =>
    have hSame := alike_mapChildren (f := fun child => child) (g := Node.prune k)
      (uncut_descends h) (uncut_iterates h.deeper) (agreeOn_of_eq h.root h.scopes) node
      (fun child _ => ih h.deeper child) fun child _ frame => ih (h.deeper.push frame) child
    rw [Node.mapChildren_id] at hSame
    exact hSame

/-! ### How much depth a pruned node takes -/

/-- Two evaluations that go the same way and are nowhere too deep. -/
def shallow : Pairing where
  related u v := u = v ∧ ¬ v.TooDeep
  spoiled _ := False
  spoiled_of_grows _ h := h
  related_noteAll hRemarks h :=
    ⟨congrArg _ h.1, fun hDeep => h.2 (Usage.tooDeep_noteAll hRemarks hDeep)⟩

theorem shallow_iterates (h : s.limits.maxIterations = t.limits.maxIterations) :
    shallow.Iterates L s t := by
  apply iterates_of_consume
  apply matches_consume h
  · exact fun hRel => congrArg _ hRel.1
  · exact fun hRel => ⟨congrArg _ hRel.1, hRel.2⟩
  · exact fun hRel => ⟨congrArg _ hRel.1, fun hDeep => hRel.2 (Usage.tooDeep_refuse hDeep)⟩

theorem alike_shallow {k : Nat} (h : s.depth + k < s.limits.maxDepth) (node : Node) :
    shallow.Alike Likeness.same s s (node.prune k) (node.prune k) := by
  induction k generalizing node s with
  | zero =>
    apply alike_conditional (descends_of_lt h h) (agreeOn_of_eq rfl rfl _) .none .none
  | succ k ih =>
    have hs : s.depth < s.limits.maxDepth := by omega
    have hBelow : s.deeper.depth + k < s.deeper.limits.maxDepth := by
      change s.depth + 1 + k < s.limits.maxDepth
      omega
    exact alike_mapChildren (descends_of_lt hs hs) (shallow_iterates rfl) (agreeOn_of_eq rfl rfl)
      node (fun child _ => ih hBelow child)
      fun child _ frame => ih (s := s.deeper.push frame) hBelow child

end Pairing

/-- A bound on the depth does what pruning does, for a node and for every other that is the same
above the bound. Pruned, a node is nowhere too deep under any larger bound. -/
theorem Node.evaluate_prune (node : Node) (data : Json) (k budget : Nat) :
    let cut := node.evaluate (.start data ⟨k, budget⟩)
    (∀ bound, let pruned := (node.prune k).evaluate (.start data ⟨bound, budget⟩)
      ¬ pruned.2.usage.TooDeep → cut.1 = pruned.1 ∧ cut.2.iterations = pruned.2.iterations) ∧
    (∀ bound, k < bound →
      ¬ ((node.prune k).evaluate (.start data ⟨bound, budget⟩)).2.usage.TooDeep) ∧
    (∀ other : Node, other.prune k = node.prune k →
      let otherCut := other.evaluate (.start data ⟨k, budget⟩)
      otherCut.1 = cut.1 ∧ otherCut.2.iterations = cut.2.iterations) := by
  have hPrune (node : Node) (bound : Nat) :
      let cut := node.evaluate (.start data ⟨k, budget⟩)
      let pruned := (node.prune k).evaluate (.start data ⟨bound, budget⟩)
      ¬ pruned.2.usage.TooDeep → cut.1 = pruned.1 ∧ cut.2.iterations = pruned.2.iterations := by
    intro cut pruned hFits
    have hLeft : Pairing.LevelsLeft k (.start data ⟨k, budget⟩) (.start data ⟨bound, budget⟩) :=
      ⟨rfl, rfl, rfl, Nat.zero_add k⟩
    have hMatches := (Pairing.alike_prune hLeft node).evaluate
      (.start data ⟨k, budget⟩) (.start data ⟨bound, budget⟩) rfl rfl rfl
    obtain ⟨hAnswer, hIterations⟩ := hMatches.resolve_left hFits
    exact ⟨eq_of_optionRel hAnswer, hIterations⟩
  have hFits (bound : Nat) (hLt : k < bound) :
      ¬ ((node.prune k).evaluate (.start data ⟨bound, budget⟩)).2.usage.TooDeep := by
    have hDepth : (Surroundings.start data ⟨bound, budget⟩).depth + k < bound := by
      change 0 + k < bound
      omega
    have hMatches := (Pairing.alike_shallow hDepth node).evaluate
      (.start data ⟨bound, budget⟩) (.start data ⟨bound, budget⟩) rfl rfl ⟨rfl, nofun⟩
    exact (hMatches.resolve_left id).2.2
  refine ⟨hPrune node, hFits, fun other hOther => ?_⟩
  have hEnough := hFits (k + 1) (Nat.lt_succ_self k)
  obtain ⟨hValue, hIterations⟩ := hPrune node (k + 1) hEnough
  obtain ⟨hValue', hIterations'⟩ := hPrune other (k + 1) (hOther ▸ hEnough)
  rw [hOther] at hValue' hIterations'
  exact ⟨hValue'.trans hValue.symm, hIterations'.trans hIterations.symm⟩

/-- A member beside an array with one item. -/
def Node.besideItem (item : Node) : Node :=
  .object [("kept", .literal (.bool true)), ("list", .array [item])]

/-- Two levels down, an item is left out whatever it is, and the member beside it stays. -/
theorem Node.besideItem_prune :
    let value : Json := .object [("kept", .bool true), ("list", .array [])]
    let cut := (besideItem (.array [])).evaluate (.start .null ⟨2, 10⟩)
    let pruned := ((besideItem (.array [])).prune 2).evaluate (.start .null ⟨3, 10⟩)
    let otherCut := (besideItem (.literal .null)).evaluate (.start .null ⟨2, 10⟩)
    cut.1 = some value ∧ ¬ pruned.2.usage.TooDeep ∧ pruned.1 = some value ∧
      otherCut.1 = some value := by
  intro value cut pruned otherCut
  have hCut : cut.1 = some value := by cbv
  obtain ⟨hPruned, hFits, hOther⟩ := Node.evaluate_prune (besideItem (.array [])) .null 2 10
  have hDeep := hFits 3 (by decide)
  refine ⟨hCut, hDeep, (hPruned 3 hDeep).1.symm.trans hCut, ?_⟩
  exact (hOther (besideItem (.literal .null)) rfl).1.trans hCut

end Stencil
