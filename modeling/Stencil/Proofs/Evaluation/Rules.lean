import Stencil.Evaluation

/-!
# The rules of evaluation

Every part of an evaluation is an action: it answers a value and leaves a context. Two combinators
put actions together, and the rules say of each kind of node which actions it is made of. Proofs
about evaluations go through these rules and not through the definitions.
-/

namespace Stencil
namespace Context

variable {α β γ : Type}

abbrev Action (α : Type) := Context → α × Context

/-- Answers what is read off the context and adds notices. -/
def reading (f : Context → α) (ns : List Notice) : Action α := fun c => (f c, c.noteAll ns)

/-- Answers a value and does nothing. -/
def give (a : α) : Action α := fun c => (a, c)

/-- Runs an action and then the one that its answer calls for. -/
def andThen (first : Action α) (next : α → Action β) : Action β :=
  fun c => next (first c).1 (first c).2

/-- Goes one level deeper for items, and answers none where that is too deep. -/
def descendItems (a : Action (List β)) : Action (List β) :=
  andThen (descend (andThen a fun vs => give (some vs))) fun vs => give (vs.getD [])

theorem descendItems_of_lt {c : Context} (h : c.depth < c.limits.maxDepth) (a : Action (List β)) :
    descendItems a c =
      let (vs, after) := a { c with depth := c.depth + 1 }
      (vs, { after with depth := after.depth - 1 }) := by
  rw [descendItems, andThen, descend_of_lt h]
  rfl

/-- What leaves everything as it was does so one level deeper. -/
theorem descend_unchanged {action : Action (Option α)} {o : Option α} {c : Context}
    (hLt : c.depth < c.limits.maxDepth)
    (h : action { c with depth := c.depth + 1 } = (o, { c with depth := c.depth + 1 })) :
    c.descend action = (o, c) := by
  rw [descend_of_lt hLt, h]
  rfl

theorem withScope_unchanged {frame : List (String × Json)} {action : Action α} {a : α} {c : Context}
    (h : action { c with scopes := frame :: c.scopes } =
      (a, { c with scopes := frame :: c.scopes })) :
    c.withScope frame action = (a, c) := by
  rw [withScope, h]
  rfl

/-- What an iteration that is not granted leaves. -/
def refused (c : Context) : Context :=
  if c.budgetReported then c
  else { c.note (.budgetExhausted c.limits.maxIterations) with budgetReported := true }

@[simp] theorem refused_iterations (c : Context) : c.refused.iterations = c.iterations := by
  rw [refused]
  split <;> rfl

@[simp] theorem refused_limits (c : Context) : c.refused.limits = c.limits := by
  rw [refused]
  split <;> rfl

/-- To be refused twice is to be refused once. -/
@[simp] theorem refused_refused (c : Context) : c.refused.refused = c.refused := by
  by_cases h : c.budgetReported = true <;> simp [refused, h]

theorem consume_of_le {c : Context} (h : c.limits.maxIterations ≤ c.iterations) :
    c.consume = (false, c.refused) := by
  rw [consume, if_pos h, refused]
  split <;> rfl

theorem consume_of_lt {c : Context} (h : c.iterations < c.limits.maxIterations) :
    c.consume = (true, { c with iterations := c.iterations + 1 }) := by
  rw [consume, if_neg (Nat.not_le.2 h)]

end Context

open Context

/-- What a node adds to an array around it. -/
def Node.contribute : Node → Action (List Json)
  | .loop l =>
    andThen (Context.descend (andThen l.evaluate fun result => give (some result)))
      fun result => give ((result.map LoopResult.spliced).getD [])
  | other => andThen other.evaluate fun v => give (other.contribution v)

theorem Node.contribute_loop (l : Loop) :
    (Node.loop l).contribute =
      andThen (Context.descend (andThen l.evaluate fun result => give (some result)))
        fun result => give ((result.map LoopResult.spliced).getD []) := rfl

theorem Node.contribute_loop_eq_descendItems (l : Loop) :
    (Node.loop l).contribute = descendItems (andThen l.evaluate fun r => give r.spliced) := by
  funext c
  rw [contribute_loop, descendItems, andThen, andThen]
  by_cases h : c.limits.maxDepth ≤ c.depth
  · rw [descend_of_le h, descend_of_le h]
    rfl
  · rw [descend_of_lt (Nat.lt_of_not_le h), descend_of_lt (Nat.lt_of_not_le h)]
    rfl

theorem Node.contribute_of_ne_loop {node : Node} (h : ∀ l, node ≠ .loop l) :
    node.contribute = andThen node.evaluate fun v => give (node.contribution v) := by
  cases node with
  | loop l => exact absurd rfl (h l)
  | _ => rfl

theorem Node.evaluateBranch_none : Node.evaluateBranch none = give none := by
  funext c
  rw [Node.evaluateBranch, give]

theorem Node.evaluateBranch_some (node : Node) :
    Node.evaluateBranch (some node) = node.evaluate := by
  funext c
  rw [Node.evaluateBranch]

namespace Node

variable {β : Type}

theorem evaluate_literal (v : Json) :
    (Node.literal v).evaluate = Context.descend (give (some v)) := by
  rw [evaluate]
  rfl

theorem evaluate_text (content : Interpolation) :
    (Node.text content).evaluate =
      Context.descend (andThen content.evaluate fun v => give (some v)) := by
  rw [evaluate]
  rfl

theorem evaluate_object (entries : List (String × Node)) :
    (Node.object entries).evaluate =
      Context.descend (andThen (evaluateEntries entries) fun ms => give (some (.object ms))) := by
  rw [evaluate]
  rfl

theorem evaluate_array (items : List Node) :
    (Node.array items).evaluate =
      Context.descend (andThen (evaluateItems items) fun vs => give (some (.array vs))) := by
  rw [evaluate]
  rfl

theorem evaluate_loop (l : Loop) :
    (Node.loop l).evaluate =
      Context.descend (andThen l.evaluate fun result => give result.nested) := by
  rw [evaluate]
  rfl

theorem evaluate_conditional (k : Conditional) :
    (Node.conditional k).evaluate = Context.descend k.evaluate := by
  rw [evaluate]

theorem evaluateEntries_nil : evaluateEntries [] = give [] := by
  funext c
  rw [evaluateEntries, give]

theorem evaluateEntries_cons (key : String) (child : Node) (rest : List (String × Node)) :
    evaluateEntries ((key, child) :: rest) =
      andThen child.evaluate fun v =>
        andThen (evaluateEntries rest) fun ms => give ((key, v.getD .null) :: ms) := by
  funext c
  rw [evaluateEntries]
  rfl

/-- Members that leave everything as it was, each with its value. -/
theorem evaluateEntries_unchanged (node : β → Node) (value : β → Json) {rows : List (String × β)}
    {c : Context} (h : ∀ r ∈ rows, (node r.2).evaluate c = (some (value r.2), c)) :
    evaluateEntries (rows.map fun (key, a) => (key, node a)) c =
      (rows.map fun (key, a) => (key, value a), c) := by
  induction rows with
  | nil => rw [List.map_nil, evaluateEntries_nil]; rfl
  | cons r rest ih =>
    have hRest := ih fun r hr => h r (List.mem_cons_of_mem _ hr)
    rw [List.map_cons, evaluateEntries_cons, andThen, h r List.mem_cons_self, andThen, hRest]
    rfl

theorem evaluateItems_nil : evaluateItems [] = give [] := by
  funext c
  rw [evaluateItems, give]

theorem evaluateItems_cons (item : Node) (rest : List Node) :
    evaluateItems (item :: rest) =
      andThen item.contribute fun here =>
        andThen (evaluateItems rest) fun vs => give (here ++ vs) := by
  funext c
  cases item <;> rfl

theorem evaluateItems_singleton (item : Node) : evaluateItems [item] = item.contribute := by
  funext c
  simp only [evaluateItems_cons, evaluateItems_nil, andThen, give, List.append_nil]

theorem evaluateItems_pair (first second : Node) :
    evaluateItems [first, second] =
      andThen first.contribute fun vs => andThen second.contribute fun ws => give (vs ++ ws) := by
  rw [evaluateItems_cons, evaluateItems_singleton]

end Node

namespace Loop

theorem iterate_nil (binding : String) (length index : Nat) (body : Action (Option Json)) :
    iterate binding length body index [] = give [] := by
  funext c
  rw [iterate, give]

theorem iterate_cons (binding : String) (length index : Nat) (body : Action (Option Json))
    (element : Json) (rest : List Json) :
    iterate binding length body index (element :: rest) =
      andThen Context.consume fun granted =>
        if granted then
          andThen (Context.withScope (frame binding index length element) body) fun v =>
            andThen (iterate binding length body (index + 1) rest) fun vs => give (v.toList ++ vs)
        else give [] := by
  funext c
  rw [iterate, andThen]
  rcases h : c.consume with ⟨granted, c'⟩
  cases granted <;> rfl

theorem iterate_of_le {c : Context} (h : c.limits.maxIterations ≤ c.iterations) (binding : String)
    (length index : Nat) (body : Action (Option Json)) (element : Json) (rest : List Json) :
    iterate binding length body index (element :: rest) c = ([], c.refused) := by
  rw [iterate_cons, andThen, consume_of_le h]
  rfl

theorem iterate_of_lt {c : Context} (h : c.iterations < c.limits.maxIterations) (binding : String)
    (length index : Nat) (body : Action (Option Json)) (element : Json) (rest : List Json) :
    iterate binding length body index (element :: rest) c =
      andThen (Context.withScope (frame binding index length element) body) (fun v =>
        andThen (iterate binding length body (index + 1) rest) fun vs => give (v.toList ++ vs))
        { c with iterations := c.iterations + 1 } := by
  rw [iterate_cons, andThen, consume_of_lt h]
  rfl

/-- A loop over a value that is a nonempty array. -/
def overElements (binding : String) (body : Node) (elements : List Json) : Action LoopResult :=
  andThen (iterate binding elements.length body.evaluate 0 elements) fun vs => give (.items vs)

/-- A loop over any other value. -/
def overNothing (binding : String) (empty : Option Node) (v : Json) : Action LoopResult :=
  andThen (reading (fun _ => ()) (collectionNotices binding v)) fun _ =>
    andThen (Node.evaluateBranch empty) fun fallback => give (.empty fallback)

/-- A loop that has all that it needs, given the value of its collection. -/
def runOver (binding : String) (body : Node) (empty : Option Node) : Json → Action LoopResult
  | .array (element :: rest) => overElements binding body (element :: rest)
  | v => overNothing binding empty v

/-- Which of the two it is. -/
theorem runOver_cases (binding : String) (body : Node) (empty : Option Node) (v : Json) :
    (∃ elements, elements ≠ [] ∧ v = .array elements ∧
      runOver binding body empty v = overElements binding body elements) ∨
    ((∀ elements, elements ≠ [] → v ≠ .array elements) ∧
      runOver binding body empty v = overNothing binding empty v) := by
  cases v with
  | array items =>
    cases items with
    | nil =>
      have hOther : ∀ elements, elements ≠ [] → Json.array [] ≠ .array elements := by
        intro elements hne h
        cases h
        exact hne rfl
      exact .inr ⟨hOther, rfl⟩
    | cons element rest => exact .inl ⟨element :: rest, nofun, rfl, rfl⟩
  | _ => exact .inr ⟨nofun, rfl⟩

theorem evaluate_complete (binding : String) (collection : Source) (body : Node)
    (empty : Option Node) :
    Loop.evaluate ⟨.name binding, some collection, some body, empty⟩ =
      andThen collection.evaluate (runOver binding body empty) := by
  funext c
  rw [evaluate, andThen]
  rcases h : collection.evaluate c with ⟨v, c'⟩
  cases v with
  | array items => cases items <;> rfl
  | _ => rfl

theorem complete_or_missing (l : Loop) :
    (∃ binding collection body empty, l = ⟨.name binding, some collection, some body, empty⟩) ∨
      l.missing ≠ [] := by
  obtain ⟨binding, collection, body, empty⟩ := l
  cases binding with
  | unusable found =>
    right
    simp [missing, Loop.binding, Binding.name?]
  | name binding =>
    cases collection with
    | none =>
      right
      simp [missing, Loop.collection]
    | some collection =>
      cases body with
      | none =>
        right
        simp [missing, Loop.body]
      | some body => exact .inl ⟨binding, collection, body, empty, rfl⟩

theorem evaluate_incomplete {l : Loop} (h : l.missing ≠ []) :
    l.evaluate = reading (fun _ => .skipped) [.skippedLoop l.missing] := by
  funext c
  rw [evaluate.eq_def]
  split
  · exact absurd rfl h
  · rfl

end Loop

theorem Conditional.evaluate_eq (condition : Source) (thenBranch elseBranch : Option Node) :
    Conditional.evaluate ⟨condition, thenBranch, elseBranch⟩ =
      andThen condition.test fun holds =>
        Node.evaluateBranch (if holds then thenBranch else elseBranch) := by
  funext c
  rw [evaluate, andThen]
  rcases h : condition.test c with ⟨holds, c'⟩
  cases holds <;> rfl

end Stencil
