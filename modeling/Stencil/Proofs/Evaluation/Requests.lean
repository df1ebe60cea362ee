import Stencil.Proofs.Evaluation.Rules

/-!
# Requests for iterations

A loop asks the context for each of its iterations, and once an iteration is refused it stops.
`Node.requests` lists the contexts in which an evaluation asks, whatever it makes of the answers.
-/

namespace Stencil

open Context

/-- The contexts in which an evaluation asks for an iteration, in order. -/
abbrev Requests := Context → List Context

namespace Requests

variable {α : Type}

/-- Asks for nothing. -/
def silent : Requests := fun _ => []

/-- First the requests of an action, then those of the action that its answer calls for. -/
def andThen (asked : Requests) (a : Action α) (next : α → Requests) : Requests :=
  fun c => asked c ++ next (a c).1 (a c).2

def withScope (frame : List (String × Json)) (asked : Requests) : Requests :=
  fun c => asked { c with scopes := frame :: c.scopes }

def descend (asked : Requests) : Requests :=
  fun c => if c.limits.maxDepth ≤ c.depth then [] else asked { c with depth := c.depth + 1 }

theorem descend_silent : silent.descend = silent := by
  funext c
  simp [descend, silent]

end Requests

/-- The requests of the iterations of a loop, given the requests of its body. -/
def Loop.iterateRequests (binding : String) (length : Nat) (body : Action (Option Json))
    (asked : Requests) : Nat → List Json → Requests
  | _, [], _ => []
  | index, element :: rest, c =>
    c :: match c.consume with
      | (false, _) => []
      | (true, c) =>
        asked.withScope (frame binding index length element) c ++
          iterateRequests binding length body asked (index + 1) rest
            (c.withScope (frame binding index length element) body).2

mutual

def Node.requests : Node → Requests
  | .literal _ | .text _ => .silent
  | .object entries => .descend fun c => Node.entriesRequests entries c
  | .array items => .descend fun c => Node.itemsRequests items c
  | .loop l => .descend fun c => l.requests c
  | .conditional k => .descend fun c => k.requests c

def Node.entriesRequests : List (String × Node) → Requests
  | [], _ => []
  | (_, child) :: rest, c =>
    child.requests c ++ Node.entriesRequests rest (child.evaluate c).2

def Node.itemsRequests : List Node → Requests
  | [], _ => []
  | item :: rest, c => item.requests c ++ Node.itemsRequests rest (item.evaluate c).2

def Node.branchRequests : Option Node → Requests
  | none, _ => []
  | some node, c => node.requests c

def Loop.requests : Loop → Requests
  | ⟨.name binding, some collection, some body, empty⟩, c =>
    let (value, c) := collection.evaluate c
    match value with
    | .array (element :: rest) =>
      let elements := element :: rest
      Loop.iterateRequests binding elements.length body.evaluate (fun c => body.requests c) 0
        elements c
    | other => Node.branchRequests empty (c.noteAll (Loop.collectionNotices binding other))
  | _, _ => []

def Conditional.requests : Conditional → Requests
  | ⟨condition, thenBranch, elseBranch⟩, c =>
    let (holds, c) := condition.test c
    if holds then Node.branchRequests thenBranch c else Node.branchRequests elseBranch c

end

/-! ### The rules -/

/-- The requests of a loop that has all that it needs, given the value of its collection. -/
def Loop.requestsOver (binding : String) (body : Node) (empty : Option Node) : Json → Requests
  | .array (element :: rest) =>
    iterateRequests binding (element :: rest).length body.evaluate body.requests 0 (element :: rest)
  | v =>
    Requests.silent.andThen (reading (fun _ => ()) (collectionNotices binding v)) fun _ =>
      Node.branchRequests empty

namespace Node

theorem requests_object (entries : List (String × Node)) :
    (Node.object entries).requests = (entriesRequests entries).descend := by
  rw [requests]

theorem requests_array (items : List Node) :
    (Node.array items).requests = (itemsRequests items).descend := by
  rw [requests]

theorem requests_loop (l : Loop) : (Node.loop l).requests = l.requests.descend := by
  rw [requests]

theorem requests_conditional (k : Conditional) :
    (Node.conditional k).requests = k.requests.descend := by
  rw [requests]

theorem entriesRequests_cons (key : String) (child : Node) (rest : List (String × Node)) :
    entriesRequests ((key, child) :: rest) =
      child.requests.andThen child.evaluate fun _ => entriesRequests rest := by
  funext c
  rw [entriesRequests]
  rfl

theorem itemsRequests_cons (item : Node) (rest : List Node) :
    itemsRequests (item :: rest) =
      item.requests.andThen item.evaluate fun _ => itemsRequests rest := by
  funext c
  rw [itemsRequests]
  rfl

end Node

namespace Loop

theorem iterateRequests_cons (binding : String) (length index : Nat) (body : Action (Option Json))
    (asked : Requests) (element : Json) (rest : List Json) :
    iterateRequests binding length body asked index (element :: rest) =
      Requests.andThen (fun c => [c]) Context.consume fun granted =>
        if granted then
          (asked.withScope (frame binding index length element)).andThen
            (Context.withScope (frame binding index length element) body) fun _ =>
              iterateRequests binding length body asked (index + 1) rest
        else .silent := by
  funext c
  rw [iterateRequests, Requests.andThen]
  rcases h : c.consume with ⟨granted, c'⟩
  cases granted <;> rfl

theorem requests_complete (binding : String) (collection : Source) (body : Node)
    (empty : Option Node) :
    Loop.requests ⟨.name binding, some collection, some body, empty⟩ =
      Requests.silent.andThen collection.evaluate (requestsOver binding body empty) := by
  funext c
  rw [requests, Requests.andThen]
  rcases h : collection.evaluate c with ⟨v, c'⟩
  cases v with
  | array items => cases items <;> rfl
  | _ => rfl

theorem requests_incomplete {l : Loop} (h : l.missing ≠ []) : l.requests = .silent := by
  funext c
  rw [requests.eq_def]
  split
  · exact absurd rfl h
  · rfl

end Loop

theorem Conditional.requests_eq (condition : Source) (thenBranch elseBranch : Option Node) :
    Conditional.requests ⟨condition, thenBranch, elseBranch⟩ =
      Requests.silent.andThen condition.test fun holds =>
        Node.branchRequests (if holds then thenBranch else elseBranch) := by
  funext c
  rw [requests, Requests.andThen]
  rcases h : condition.test c with ⟨holds, c'⟩
  cases holds <;> rfl

end Stencil
