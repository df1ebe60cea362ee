import Mathlib
import Stencil.Proofs.Evaluation.FreeHeads
import Stencil.Proofs.Evaluation.Pruning

/-!
# Loops over parts of an array

In an array, a loop over some elements and then the same loop over more elements add the items that
one loop over all the elements adds, and take as many iterations. Only the counter tells the parts
from the whole, so this holds for a body that does not use it. It does not matter where the budget
runs out, since nothing of the later part is run once it is used up.
-/

namespace Stencil

open Context Surroundings

/-- Where there is a level left, going there for one part after the other is going there once. -/
theorem Context.descendItems_append {c : Context} (h : c.depth < c.limits.maxDepth)
    (a b : Action (List Json)) [Steady a] :
    andThen (descendItems a) (fun vs => andThen (descendItems b) fun ws => give (vs ++ ws)) c =
      descendItems (andThen a fun vs => andThen b fun ws => give (vs ++ ws)) c := by
  have hSteady := surroundings_after a { c with depth := c.depth + 1 }
  simp only [surroundings, Surroundings.mk.injEq] at hSteady
  obtain ⟨-, hLimits, -, hDepth⟩ := hSteady
  rw [descendItems_of_lt h]
  simp only [andThen]
  rw [descendItems_of_lt h]
  generalize a { c with depth := c.depth + 1 } = middle at *
  obtain ⟨vs, d⟩ := middle
  simp only at hLimits hDepth
  have hBack : d.depth - 1 + 1 = d.depth := by omega
  have hLeft : d.depth - 1 < d.limits.maxDepth := by
    rw [hLimits]
    omega
  rw [descendItems_of_lt (c := { d with depth := d.depth - 1 }) hLeft]
  simp only [hBack]
  rfl

namespace Node

/-- Too deep down, items give nothing but notices. -/
theorem evaluateItems_of_le {c : Context} (h : c.limits.maxDepth ≤ c.depth) (items : List Node) :
    ∃ ns, evaluateItems items c = ([], c.noteAll ns) := by
  induction items generalizing c with
  | nil => exact ⟨[], by rw [evaluateItems_nil]; rfl⟩
  | cons item rest ih =>
    let notice := Notice.depthExceeded c.limits.maxDepth
    obtain ⟨ns, hRest⟩ := ih (c := c.note notice) h
    refine ⟨notice :: ns, ?_⟩
    rw [evaluateItems_cons, andThen, contribute_of_le h]
    simp only [andThen]
    rw [hRest]
    simp [give, noteAll, note]

end Node

namespace Loop

/-- A loop with a literal array as its collection and no fallback. -/
def overLiteral (binding : String) (body : Node) (elements : List Json) : Loop :=
  ⟨.name binding, some (.literal (.array elements)), some body, none⟩

/-- In an array such a loop adds what its iterations give, also if there are none. -/
theorem contribute_overLiteral (binding : String) (body : Node) (elements : List Json) :
    (Node.loop (overLiteral binding body elements)).contribute =
      descendItems (iterate binding elements.length body.evaluate 0 elements) := by
  rw [Node.contribute_loop_eq_descendItems]
  congr 1
  funext c
  rw [overLiteral, evaluate_complete]
  cases elements with
  | nil => rw [iterate_nil]; rfl
  | cons element rest => rfl

/-- Once the budget is used up, no iteration is run any more. -/
theorem iterate_refused {c : Context} (h : c.limits.maxIterations ≤ c.iterations)
    (binding : String) (length index : Nat) (body : Action (Option Json)) (elements : List Json) :
    iterate binding length body index elements c.refused = ([], c.refused) := by
  cases elements with
  | nil => rw [iterate_nil]; rfl
  | cons element rest =>
    have hRefused : c.refused.limits.maxIterations ≤ c.refused.iterations := by
      rw [refused_limits, refused_iterations]
      exact h
    rw [iterate_of_le hRefused, refused_refused]

/-- To run over two lists as one is to run over the first and then, with the index going on, over
the second. -/
theorem iterate_append (binding : String) (length index : Nat) (body : Action (Option Json))
    (xs ys : List Json) :
    iterate binding length body index (xs ++ ys) =
      andThen (iterate binding length body index xs) fun vs =>
        andThen (iterate binding length body (index + xs.length) ys) fun ws => give (vs ++ ws) := by
  induction xs generalizing index with
  | nil => rw [iterate_nil]; rfl
  | cons x xs ih =>
    funext c
    by_cases h : c.limits.maxIterations ≤ c.iterations
    · rw [List.cons_append, iterate_of_le h, andThen, iterate_of_le h, andThen, iterate_refused h]
      rfl
    · have hLt := Nat.lt_of_not_le h
      have hIndex : index + (x :: xs).length = index + 1 + xs.length := by
        rw [List.length_cons]
        omega
      rw [List.cons_append, hIndex]
      simp only [andThen, iterate_of_lt hLt, ih (index + 1), give, List.append_assoc]

end Loop

/-- The scopes of two iterations with the same element differ in the counter alone. -/
theorem Surroundings.agreeOn_frames {names : List String} (h : Loop.counterName ∉ names)
    (s : Surroundings) (binding : String) (element : Json) (i j n m : Nat) :
    AgreeOn names (s.push (Loop.frame binding i n element))
      (s.push (Loop.frame binding j m element)) := by
  intro name hName
  have hCounter : name ≠ Loop.counterName := by
    rintro rfl
    exact h hName
  rw [lookup?_push, lookup?_push, Loop.lookup_frame, Loop.lookup_frame, if_neg hCounter,
    if_neg hCounter]

namespace Pairing

variable {L : Likeness} {binding : String} {body : Node}

/-- Without the counter it makes no difference where in a loop the elements stand. -/
theorem matches_iterate_moved {P : Pairing} [InStep P] (h : Loop.counterName ∉ body.freeHeads)
    (s : Surroundings) (length length' index index' : Nat) (elements : List Json) :
    P.Matches L.items s s (Loop.iterate binding length body.evaluate index elements)
      (Loop.iterate binding length' body.evaluate index' elements) := by
  have hBounds : SameBounds s s := ⟨rfl, rfl⟩
  apply matches_iterate (InStep.matches_consume hBounds)
  intro k element
  have hAgree := agreeOn_frames h s binding element (index + k) (index' + k) length length'
  exact (alike_of_agreeOn_freeHeads (hBounds.push _ _) hAgree).evaluate

/-- As items, a loop over each part is a loop over the whole. -/
theorem matches_items_append (h : Loop.counterName ∉ body.freeHeads) (s : Surroundings)
    (xs ys : List Json) :
    evenly.Matches Likeness.same.items s s
      (Node.evaluateItems
        [.loop (.overLiteral binding body xs), .loop (.overLiteral binding body ys)])
      (Node.evaluateItems [.loop (.overLiteral binding body (xs ++ ys))]) := by
  by_cases hDeep : s.limits.maxDepth ≤ s.depth
  · rintro c d rfl hd hRel
    have hDeep' : d.limits.maxDepth ≤ d.depth := by
      rw [← hd] at hDeep
      exact hDeep
    obtain ⟨ns, hParts⟩ := Node.evaluateItems_of_le hDeep
      [.loop (.overLiteral binding body xs), .loop (.overLiteral binding body ys)]
    obtain ⟨ms, hWhole⟩ := Node.evaluateItems_of_le hDeep'
      [.loop (.overLiteral binding body (xs ++ ys))]
    rw [hParts, hWhole]
    exact .inr ⟨rfl, hRel⟩
  · have hLevel := Nat.lt_of_not_le hDeep
    have hRuns : evenly.Matches Likeness.same.items s.deeper s.deeper
        (andThen (Loop.iterate binding xs.length body.evaluate 0 xs) fun vs =>
          andThen (Loop.iterate binding ys.length body.evaluate 0 ys) fun ws => give (vs ++ ws))
        (Loop.iterate binding (xs ++ ys).length body.evaluate 0 (xs ++ ys)) := by
      rw [Loop.iterate_append]
      apply matches_andThen (matches_iterate_moved (L := .same) h s.deeper _ _ _ _ xs)
      intro vs vs' hFirst
      apply matches_andThen (matches_iterate_moved (L := .same) h s.deeper _ _ _ _ ys)
      intro ws ws' hSecond
      exact matches_give (Likeness.same.items_append hFirst hSecond)
    rw [Node.evaluateItems_pair, Node.evaluateItems_singleton, Loop.contribute_overLiteral,
      Loop.contribute_overLiteral, Loop.contribute_overLiteral]
    rintro c d rfl hd hRel
    rw [descendItems_append hLevel]
    exact (descends_of_lt hLevel hLevel).descendItems hRuns c d rfl hd hRel

end Pairing

/-- In an array, a loop over each of two parts gives what a loop over the whole gives, and takes as
many iterations, if its body does not use the counter. -/
theorem Loop.evaluate_parts (binding : String) {body : Node}
    (h : counterName ∉ body.freeHeads) (xs ys : List Json) (c : Context) :
    let parts := (Node.array
      [.loop (overLiteral binding body xs), .loop (overLiteral binding body ys)]).evaluate c
    let whole := (Node.array [.loop (overLiteral binding body (xs ++ ys))]).evaluate c
    parts.1 = whole.1 ∧ parts.2.iterations = whole.2.iterations := by
  intro parts whole
  have hBounds : SameBounds c.surroundings c.surroundings := ⟨rfl, rfl⟩
  have hArrays : Pairing.evenly.Matches Likeness.same.answer c.surroundings c.surroundings
      (Node.array [.loop (overLiteral binding body xs),
        .loop (overLiteral binding body ys)]).evaluate
      (Node.array [.loop (overLiteral binding body (xs ++ ys))]).evaluate := by
    rw [Node.evaluate_array, Node.evaluate_array]
    apply (Pairing.InStep.descends hBounds).descend .none
    apply Pairing.matches_andThen (Pairing.matches_items_append h _ xs ys)
    intro vs ws hItems
    exact Pairing.matches_give (.some (Likeness.same.value_array hItems))
  obtain ⟨hValue, hIterations⟩ := (hArrays c c rfl rfl rfl).resolve_left id
  exact ⟨eq_of_optionRel hValue, hIterations⟩

/-- A loop over the element at hand that says of each cell whether it is the last one. -/
def Node.lastCells : Node :=
  .loop ⟨.name "cell", some (.path ⟨["row"]⟩),
    some (.text (.pure ⟨⟨["loop", "last"]⟩, [], "loop.last", []⟩)), none⟩

/-- The value of an array with these items under a budget of five iterations. -/
def Node.evaluateBriefly (items : List Node) : Option Json × Context :=
  (Node.array items).evaluate (.start .null ⟨8, 5⟩)

/-- The loop inside may use its own counter, and the budget may run out in it. -/
theorem Loop.evaluate_parts_lastCells :
    let pair : Json := .array [.null, .null]
    let value : Json := .array [.array [.bool false, .bool true], .array [.bool false]]
    counterName ∉ Node.lastCells.freeHeads ∧
      (Node.evaluateBriefly [.loop (overLiteral "row" .lastCells [pair]),
        .loop (overLiteral "row" .lastCells [pair, pair])]).1 = some value ∧
      (Node.evaluateBriefly [.loop (overLiteral "row" .lastCells [pair]),
        .loop (overLiteral "row" .lastCells [pair, pair])]).2.iterations = 5 := by
  intro pair value
  have hCounter : counterName ∉ Node.lastCells.freeHeads := by decide
  have hValue : (Node.evaluateBriefly
      [.loop (overLiteral "row" .lastCells ([pair] ++ [pair, pair]))]).1 = some value := by cbv
  have hIterations : (Node.evaluateBriefly
      [.loop (overLiteral "row" .lastCells ([pair] ++ [pair, pair]))]).2.iterations = 5 := by
    decide +kernel
  have hSame := Loop.evaluate_parts "row" hCounter [pair] [pair, pair] (.start .null ⟨8, 5⟩)
  simp only [← Node.evaluateBriefly.eq_def] at hSame
  exact ⟨hCounter, hSame.1.trans hValue, hSame.2.trans hIterations⟩

end Stencil
