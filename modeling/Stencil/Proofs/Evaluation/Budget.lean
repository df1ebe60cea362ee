import Mathlib
import Stencil.Proofs.Evaluation.SideBySide

/-!
# What a smaller loop budget changes

With a smaller budget an evaluation goes the same way until the budget is used up and runs no body
of a loop from there on. So it uses the smaller of the two numbers of iterations, and its value is
the other value with elements of arrays taken out, at any depth. If the larger budget was not
needed, nothing is taken out.
-/

namespace Stencil

open Context Surroundings

/-- The first value is the second one with elements of arrays taken out. -/
inductive Json.Thinned : Json → Json → Prop
  | null : Thinned .null .null
  | bool (b : Bool) : Thinned (.bool b) (.bool b)
  | number (n : Number) : Thinned (.number n) (.number n)
  | string (s : String) : Thinned (.string s) (.string s)
  /-- The elements that are left stand in their order, each thinned itself. -/
  | array {xs ys : List Json} : List.SublistForall₂ Thinned xs ys → Thinned (.array xs) (.array ys)
  /-- The keys are the same in the same order. -/
  | object {ms ns : List (String × Json)} : ms.map Prod.fst = ns.map Prod.fst →
    List.Forall₂ Thinned (ms.map Prod.snd) (ns.map Prod.snd) → Thinned (.object ms) (.object ns)

namespace Json

theorem thinned_object {ms ns : List (String × Json)}
    (h : List.Forall₂ (fun m n => m.1 = n.1 ∧ m.2.Thinned n.2) ms ns) :
    Thinned (.object ms) (.object ns) := by
  apply Thinned.object
  · induction h with
    | nil => rfl
    | cons hHead _ ih => rw [List.map_cons, List.map_cons, hHead.1, ih]
  · induction h with
    | nil => exact .nil
    | cons hHead _ ih => exact .cons hHead.2 ih

theorem sublistForall₂_same {xs : List Json} (h : ∀ x ∈ xs, x.Thinned x) :
    List.SublistForall₂ Thinned xs xs :=
  List.sublistForall₂_iff.2 ⟨xs, List.forall₂_same.2 h, List.Sublist.refl xs⟩

theorem Thinned.refl (v : Json) : v.Thinned v := by
  induction v with
  | null => exact .null
  | bool b => exact .bool b
  | number n => exact .number n
  | string s => exact .string s
  | array items ih => exact .array (sublistForall₂_same ih)
  | object members ih => exact thinned_object (List.forall₂_same.2 fun m hm => ⟨rfl, ih m hm⟩)

theorem sublistForall₂_append {xs ys xs' ys' : List Json} (h : List.SublistForall₂ Thinned xs ys)
    (h' : List.SublistForall₂ Thinned xs' ys') :
    List.SublistForall₂ Thinned (xs ++ xs') (ys ++ ys') := by
  induction h with
  | @nil ys =>
    induction ys with
    | nil => exact h'
    | cons y ys ih => exact .cons_right ih
  | cons hHead _ ih => exact .cons hHead ih
  | cons_right _ ih => exact .cons_right ih

theorem Thinned.spliced {x y : Json} (h : x.Thinned y) :
    List.SublistForall₂ Thinned (LoopResult.empty (some x)).spliced
      (LoopResult.empty (some y)).spliced := by
  cases h with
  | null => exact .nil
  | array h => exact h
  | bool b => exact .cons (.bool b) .nil
  | number n => exact .cons (.number n) .nil
  | string s => exact .cons (.string s) .nil
  | object hKeys h => exact .cons (.object hKeys h) .nil

theorem Thinned.null_iff {x y : Json} (h : x.Thinned y) : x = .null ↔ y = .null := by
  cases h <;> simp

end Json

def Likeness.thinned : Likeness where
  value := Json.Thinned
  items := List.SublistForall₂ Json.Thinned
  value_refl := .refl
  value_array := .array
  value_object := Json.thinned_object
  items_nil := .nil
  items_append := Json.sublistForall₂_append
  items_singleton h := .cons h .nil
  items_spliced := Json.Thinned.spliced
  null_iff := Json.Thinned.null_iff

namespace Surroundings

/-- The same but for the loop budget, which is `m` on the one side and `n` on the other. -/
structure DifferInBudget (m n : Nat) (s t : Surroundings) : Prop where
  root : s.root = t.root
  scopes : s.scopes = t.scopes
  depth : s.depth = t.depth
  maxDepth : s.limits.maxDepth = t.limits.maxDepth
  left : s.limits.maxIterations = m
  right : t.limits.maxIterations = n

variable {m n : Nat} {s t : Surroundings}

theorem DifferInBudget.deeper (h : DifferInBudget m n s t) :
    DifferInBudget m n s.deeper t.deeper :=
  { h with depth := congrArg (· + 1) h.depth }

theorem DifferInBudget.push (h : DifferInBudget m n s t) (frame : List (String × Json)) :
    DifferInBudget m n (s.push frame) (t.push frame) :=
  { h with scopes := congrArg (frame :: ·) h.scopes }

theorem DifferInBudget.agreeOn (h : DifferInBudget m n s t) (names : List String) :
    AgreeOn names s t := agreeOn_of_eq h.root h.scopes names

end Surroundings

namespace Pairing

variable {P : Pairing} {L : Likeness} {m n : Nat} {s t : Surroundings}

/-- Every node matches itself under two budgets once descending and running over elements do. -/
theorem alike_of_differInBudget
    (hDescends : ∀ {s t}, DifferInBudget m n s t → P.Descends s t)
    (hIterates : ∀ {s t}, DifferInBudget m n s t → P.Iterates L s t)
    (h : DifferInBudget m n s t) (node : Node) : P.Alike L s t node node := by
  induction node generalizing s t with
  | literal v => exact alike_literal (hDescends h) v
  | text content => exact alike_text (hDescends h) (h.agreeOn _)
  | object entries ih =>
    apply alike_object (hDescends h)
    exact List.forall₂_same.2 fun e he => ⟨rfl, ih e he h.deeper⟩
  | array items ih =>
    apply alike_array (hDescends h)
    exact List.forall₂_same.2 fun item hi => ih item hi h.deeper
  | loop binding collection body empty ihBody ihEmpty =>
    apply alike_loop (hDescends h)
    apply matches_loop (hIterates h.deeper) (fun source _ => h.deeper.agreeOn _)
    · apply optionRel_same
      intro node hNode name _ index length element
      exact ihBody node hNode (h.deeper.push _)
    · exact optionRel_same fun node hNode => ihEmpty node hNode h.deeper
  | conditional condition thenBranch elseBranch ihThen ihElse =>
    apply alike_conditional (hDescends h) (h.agreeOn _)
    · exact optionRel_same fun node hNode => ihThen node hNode h.deeper
    · exact optionRel_same fun node hNode => ihElse node hNode h.deeper

/-! ### Up to the smaller budget -/

/-- The same number of iterations, as long as the second evaluation gets by with `m`. -/
def upTo (m : Nat) : Pairing where
  related u v := u.iterations = v.iterations
  spoiled v := m < v.iterations
  spoiled_of_grows hGrows h := Nat.lt_of_lt_of_le h hGrows.iterations
  related_noteAll _ h := h

/-- Where the smaller budget refuses an iteration, so does the larger one or it gives more than
the smaller one has. -/
theorem matches_consume_upTo (hLe : m ≤ n) (h : DifferInBudget m n s t) :
    (upTo m).Matches Eq s t consume consume := by
  intro c d hc hd hRel
  subst hc hd
  have hm : c.limits.maxIterations = m := h.left
  have hn : d.limits.maxIterations = n := h.right
  have hRel : c.iterations = d.iterations := hRel
  by_cases hRefused : n ≤ d.iterations
  · right
    rw [consume_of_le (by omega), consume_of_le (by omega)]
    have hRefused : c.refused.iterations = d.refused.iterations := by
      rw [refused_iterations, refused_iterations, hRel]
    exact ⟨rfl, hRefused⟩
  · by_cases hFull : m ≤ c.iterations
    · left
      rw [consume_of_lt (c := d) (by omega)]
      exact show m < d.iterations + 1 by omega
    · right
      rw [consume_of_lt (by omega), consume_of_lt (by omega)]
      exact ⟨rfl, congrArg (· + 1) hRel⟩

theorem alike_upTo (hLe : m ≤ n) (h : DifferInBudget m n s t) (node : Node) :
    (upTo m).Alike Likeness.same s t node node := by
  apply alike_of_differInBudget _ _ h
  · intro s t h
    exact descends_of_eq h.depth h.maxDepth fun hRel => hRel
  · intro s t h
    exact iterates_of_consume (matches_consume_upTo hLe h)

/-! ### Past the smaller budget -/

/-- The first evaluation uses what the second one does, but at most `m`. -/
def capped (m : Nat) : Pairing where
  related u v := u.iterations = min m v.iterations
  spoiled _ := False
  spoiled_of_grows _ h := h
  related_noteAll _ h := h

/-- Once the smaller budget is used up the first evaluation runs no more bodies, and all that the
second one adds is missing there. -/
theorem iterates_capped (hLe : m ≤ n) (h : DifferInBudget m n s t) :
    (capped m).Iterates .thinned s t := by
  refine ⟨fun {binding length body body'} _ _ index elements hBody => ?_⟩
  induction elements generalizing index with
  | nil =>
    rw [Loop.iterate_nil, Loop.iterate_nil]
    exact matches_give .nil
  | cons element rest ih =>
    intro c d hc hd hRel
    have hm : c.limits.maxIterations = m := by rw [← h.left, ← hc]; rfl
    have hn : d.limits.maxIterations = n := by rw [← h.right, ← hd]; rfl
    have hRel' : c.iterations = min m d.iterations := hRel
    by_cases hFull : m ≤ c.iterations
    · have hGrows := usage_grows (Loop.iterate binding length body' index (element :: rest)) d
      have hMore := hGrows.iterations
      change d.iterations ≤ _ at hMore
      rw [Loop.iterate_of_le (c := c) (by omega)]
      refine .inr ⟨.nil, ?_⟩
      change c.refused.iterations = min m _
      rw [refused_iterations]
      omega
    · have hStep := matches_iteration (hBody index element) (ih (index + 1))
      have hNext : c.iterations + 1 = min m (d.iterations + 1) := by omega
      rw [Loop.iterate_of_lt (by omega), Loop.iterate_of_lt (by omega)]
      exact hStep { c with iterations := c.iterations + 1 }
        { d with iterations := d.iterations + 1 } hc hd hNext

theorem alike_capped (hLe : m ≤ n) (h : DifferInBudget m n s t) (node : Node) :
    (capped m).Alike .thinned s t node node := by
  apply alike_of_differInBudget _ _ h
  · intro s t h
    exact descends_of_eq h.depth h.maxDepth fun hRel => hRel
  · intro s t h
    exact iterates_capped hLe h

end Pairing

/-- The value under the smaller budget, set against the value under the larger one. -/
theorem Node.evaluate_of_budget_le (node : Node) (data : Json) (maxDepth : Nat) {m n : Nat}
    (hLe : m ≤ n) :
    let small := node.evaluate (.start data ⟨maxDepth, m⟩)
    let large := node.evaluate (.start data ⟨maxDepth, n⟩)
    small.2.iterations = min m large.2.iterations ∧
      (small.1 = none ↔ large.1 = none) ∧
      (∀ v w, small.1 = some v → large.1 = some w → v.Thinned w) ∧
      (large.2.iterations ≤ m → small.1 = large.1) := by
  intro small large
  have hDiffer : DifferInBudget m n (.start data ⟨maxDepth, m⟩) (.start data ⟨maxDepth, n⟩) :=
    ⟨rfl, rfl, rfl, rfl, rfl, rfl⟩
  have hCapped := (Pairing.alike_capped hLe hDiffer node).evaluate
    (.start data ⟨maxDepth, m⟩) (.start data ⟨maxDepth, n⟩) rfl rfl
    (Nat.min_zero m).symm
  have hUpTo := (Pairing.alike_upTo hLe hDiffer node).evaluate
    (.start data ⟨maxDepth, m⟩) (.start data ⟨maxDepth, n⟩) rfl rfl rfl
  obtain ⟨hAnswer, hIterations⟩ := hCapped.resolve_left id
  change Option.Rel Json.Thinned small.1 large.1 at hAnswer
  refine ⟨hIterations, ?_, ?_, ?_⟩
  · exact optionRel_none_iff hAnswer
  · intro v w hv hw
    rw [hv, hw] at hAnswer
    cases hAnswer with
    | some h => exact h
  · intro hEnough
    exact eq_of_optionRel (hUpTo.resolve_left (Nat.not_lt.2 hEnough)).1

/-- Two loops over the same array, one after the other, run with a budget. -/
def Node.runTwoLoops (items : Json) (budget : Nat) : Option Json × Context :=
  let copy : Node :=
    .loop ⟨.name "x", some (.path ⟨["items"]⟩), some (.text (.pure ⟨⟨["x"]⟩, [], "x", []⟩)), none⟩
  (Node.object [("first", copy), ("second", copy)]).evaluate
    (.start (.object [("items", items)]) ⟨128, budget⟩)

/-- A budget that ends inside the second loop leaves the first one whole. -/
theorem Node.runTwoLoops_of_budget :
    let items : Json := .array [.string "a", .string "b", .string "c"]
    let cut : Json := .object [("first", items), ("second", .array [.string "a"])]
    let whole : Json := .object [("first", items), ("second", items)]
    (runTwoLoops items 4).1 = some cut ∧ (runTwoLoops items 100).1 = some whole ∧
      cut.Thinned whole ∧ (runTwoLoops items 4).2.iterations = 4 ∧
      (runTwoLoops items 100).2.iterations = 6 := by
  intro items cut whole
  have hSmall : (runTwoLoops items 4).1 = some cut := by cbv
  have hLarge : (runTwoLoops items 100).1 = some whole := by cbv
  obtain ⟨-, -, hThinned, -⟩ :=
    Node.evaluate_of_budget_le _ (.object [("items", items)]) 128 (show 4 ≤ 100 by decide)
  exact ⟨hSmall, hLarge, hThinned _ _ hSmall hLarge, by decide +kernel, by decide +kernel⟩

end Stencil
