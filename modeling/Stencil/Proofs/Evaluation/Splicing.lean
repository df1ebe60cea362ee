import Stencil.Proofs.Evaluation.Rules

/-!
# Items of an array as nodes by themselves

Among the items of an array a loop is not evaluated as it is anywhere else: the array goes into the
loop itself and takes over what the loop gives. The outcome is the same as if every item were
evaluated by itself, in order, and its value then joined to the array, where only the value of a
loop is taken apart. So a loop gives the same items wherever it stands, and leaves the same context.
-/

namespace Stencil

open Context

namespace Node

/-- Evaluates nodes one after the other, each in the context that the one before it leaves. -/
def evaluateEach : List Node → Action (List (Option Json))
  | [] => give []
  | node :: rest =>
    andThen node.evaluate fun v => andThen (evaluateEach rest) fun vs => give (v :: vs)

/-- What the value of a node adds to an array around it. The array that a loop gives is taken
apart, that of any other node is one item. -/
def joined : Node → Option Json → List Json
  | .loop _, some .null | .conditional _, some .null => []
  | .loop _, some (.array vs) => vs
  | _, v => v.toList

/-- What a loop adds to an array can be read off its value elsewhere. -/
theorem joined_nested (l : Loop) (r : LoopResult) : (Node.loop l).joined r.nested = r.spliced := by
  cases r with
  | items vs => rfl
  | empty fallback =>
    cases fallback with
    | none => rfl
    | some v => cases v <;> rfl
  | skipped => rfl

theorem joined_eq_contribution {node : Node} (h : ∀ l, node ≠ .loop l) (v : Option Json) :
    node.joined v = node.contribution v := by
  cases node with
  | loop l => exact absurd rfl (h l)
  | conditional k =>
    cases v with
    | none => rfl
    | some v => cases v <;> rfl
  | _ => rfl

/-- As a member a loop that gives nothing is `null`, and neither adds anything to an array. -/
theorem joined_getD (l : Loop) (v : Option Json) :
    (Node.loop l).joined (some (v.getD .null)) = (Node.loop l).joined v := by
  cases v <;> rfl

/-- A node as an item is the node by itself and then its value joined to the array. -/
theorem contribute_eq_joined (node : Node) :
    node.contribute = andThen node.evaluate fun v => give (node.joined v) := by
  by_cases hLoop : ∃ l, node = .loop l
  · obtain ⟨l, rfl⟩ := hLoop
    funext c
    rw [contribute_loop, evaluate_loop, andThen, andThen]
    -- The array goes one level down for a loop, just as a loop by itself does.
    by_cases hLe : c.limits.maxDepth ≤ c.depth
    · rw [descend_of_le hLe, descend_of_le hLe]
      rfl
    · have hLt := Nat.lt_of_not_le hLe
      rw [descend_of_lt hLt, descend_of_lt hLt]
      simp only [andThen, give, joined_nested, Option.map_some, Option.getD_some]
  · have hNode : ∀ l, node ≠ .loop l := fun l hl => hLoop ⟨l, hl⟩
    rw [contribute_of_ne_loop hNode]
    congr 1
    funext v
    rw [joined_eq_contribution hNode]

theorem evaluateItems_eq_joined (items : List Node) :
    evaluateItems items =
      andThen (evaluateEach items) fun vs => give (List.zipWith joined items vs).flatten := by
  induction items with
  | nil => rw [evaluateItems_nil]; rfl
  | cons item rest ih =>
    rw [evaluateItems_cons, contribute_eq_joined, ih]
    rfl

/-- The members of an object are the same nodes in the same order, with `null` for nothing. -/
theorem evaluateEntries_eq_each (entries : List (String × Node)) :
    evaluateEntries entries =
      andThen (evaluateEach (entries.map Prod.snd)) fun vs =>
        give (List.zipWith (fun e v => (e.1, v.getD .null)) entries vs) := by
  induction entries with
  | nil => rw [evaluateEntries_nil]; rfl
  | cons e rest ih =>
    rw [evaluateEntries_cons, ih]
    rfl

/-- The run of an array with one item and that of an object with one member. -/
theorem evaluate_item_and_member (l : Loop) (key : String) {c : Context}
    (h : c.depth < c.limits.maxDepth) :
    let run := (Node.loop l).evaluate { c with depth := c.depth + 1 }
    let after : Context := { run.2 with depth := run.2.depth - 1 }
    (array [.loop l]).evaluate c = (some (.array ((Node.loop l).joined run.1)), after) ∧
      (object [(key, .loop l)]).evaluate c = (some (.object [(key, run.1.getD .null)]), after) := by
  intro run after
  rw [evaluate_array, evaluate_object, descend_of_lt h, descend_of_lt h, evaluateItems_eq_joined,
    evaluateEntries_eq_each]
  refine ⟨?_, rfl⟩
  change (some (Json.array [(Node.loop l).joined run.1].flatten), after) = _
  rw [List.flatten_singleton]

/-- An array is its items by themselves with their values joined. A loop that is the one item of an
array and one that is the one member of an object are cut off at the same depth, leave the same
context and give the same items. -/
theorem evaluateItems_as_nodes :
    (∀ (items : List Node) (c : Context),
      let run := evaluateEach items c
      evaluateItems items c = ((List.zipWith joined items run.1).flatten, run.2)) ∧
    (∀ (entries : List (String × Node)) (c : Context),
      let run := evaluateEach (entries.map Prod.snd) c
      evaluateEntries entries c =
        (List.zipWith (fun e v => (e.1, v.getD .null)) entries run.1, run.2)) ∧
    (∀ (l : Loop) (key : String) (c : Context),
      let item := (array [.loop l]).evaluate c
      let member := (object [(key, .loop l)]).evaluate c
      item.2 = member.2 ∧
        (item.1 = none ∧ member.1 = none ∨
          ∃ v, member.1 = some (.object [(key, v)]) ∧
            item.1 = some (.array ((Node.loop l).joined (some v))))) := by
  refine ⟨fun items c => ?_, fun entries c => ?_, fun l key c => ?_⟩
  · rw [evaluateItems_eq_joined]
    rfl
  · rw [evaluateEntries_eq_each]
    rfl
  · by_cases hLe : c.limits.maxDepth ≤ c.depth
    · rw [evaluate_array, evaluate_object, descend_of_le hLe, descend_of_le hLe]
      exact ⟨rfl, .inl ⟨rfl, rfl⟩⟩
    · obtain ⟨hItem, hMember⟩ := evaluate_item_and_member l key (Nat.lt_of_not_le hLe)
      rw [hItem, hMember, ← joined_getD]
      exact ⟨rfl, .inr ⟨_, rfl, rfl⟩⟩

end Node
end Stencil
