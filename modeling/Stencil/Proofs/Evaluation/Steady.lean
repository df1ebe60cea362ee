import Stencil.Proofs.Evaluation.Values
import Stencil.Proofs.Trees

/-!
# What an evaluation leaves alone

A context falls into its surroundings, which are the data model, the limits, the scopes and the
depth, and into its usage. Every part of an evaluation puts the surroundings back as it found them,
and the usage only grows: the iterations do not get fewer, and notices are added and never removed.
-/

namespace Stencil

open Context

/-- What a part of an evaluation finds around it. -/
structure Surroundings where
  root : Json
  limits : Limits
  scopes : List (List (String × Json))
  depth : Nat

/-- What an evaluation has used and said so far. -/
structure Usage where
  iterations : Nat
  budgetReported : Bool
  /-- Newest first. -/
  log : List Notice

namespace Surroundings

def deeper (s : Surroundings) : Surroundings := { s with depth := s.depth + 1 }

def push (frame : List (String × Json)) (s : Surroundings) : Surroundings :=
  { s with scopes := frame :: s.scopes }

/-- The surroundings in which an evaluation starts. -/
def start (root : Json) (limits : Limits) : Surroundings := ⟨root, limits, [], 0⟩

end Surroundings

namespace Usage

def noteAll (ns : List Notice) (u : Usage) : Usage := { u with log := ns.reverse ++ u.log }

/-- One more iteration. -/
def grant (u : Usage) : Usage := { u with iterations := u.iterations + 1 }

/-- After an iteration that the budget did not allow. -/
def refuse (limit : Nat) (u : Usage) : Usage :=
  if u.budgetReported then u
  else { u with budgetReported := true, log := .budgetExhausted limit :: u.log }

theorem refuse_iterations (u : Usage) (limit : Nat) :
    (u.refuse limit).iterations = u.iterations := by
  rw [refuse]
  split <;> rfl

/-- One usage comes before another in some evaluation. -/
structure Grows (u v : Usage) : Prop where
  iterations : u.iterations ≤ v.iterations
  log : u.log <:+ v.log

theorem Grows.refl (u : Usage) : u.Grows u := ⟨Nat.le_refl _, List.suffix_refl _⟩

theorem Grows.trans {u v w : Usage} (h : u.Grows v) (h' : v.Grows w) : u.Grows w :=
  ⟨Nat.le_trans h.iterations h'.iterations, h.log.trans h'.log⟩

theorem grows_noteAll (ns : List Notice) (u : Usage) : u.Grows (u.noteAll ns) :=
  ⟨Nat.le_refl _, List.suffix_append _ _⟩

end Usage

namespace Context

def surroundings (c : Context) : Surroundings := ⟨c.root, c.limits, c.scopes, c.depth⟩

def usage (c : Context) : Usage := ⟨c.iterations, c.budgetReported, c.log⟩

theorem usage_refused (c : Context) : c.refused.usage = c.usage.refuse c.limits.maxIterations := by
  rw [refused, Usage.refuse]
  change (if c.budgetReported = true then _ else _ : Context).usage =
    if c.budgetReported = true then _ else _
  split <;> rfl

/-- An action that puts back what is around it and whose usage only adds up. -/
class Steady {α : Type} (action : Action α) : Prop where
  surroundings_eq : ∀ c : Context, (action c).2.surroundings = c.surroundings
  grows : ∀ c : Context, c.usage.Grows (action c).2.usage

variable {α β : Type}

theorem surroundings_after (action : Action α) [Steady action] (c : Context) :
    (action c).2.surroundings = c.surroundings := Steady.surroundings_eq c

theorem usage_grows (action : Action α) [Steady action] (c : Context) :
    c.usage.Grows (action c).2.usage := Steady.grows c

instance (f : Context → α) (ns : List Notice) : Steady (reading f ns) where
  surroundings_eq _ := rfl
  grows c := c.usage.grows_noteAll ns

instance (a : α) : Steady (give a) where
  surroundings_eq _ := rfl
  grows c := .refl c.usage

instance (first : Action α) (next : α → Action β) [Steady first] [∀ a, Steady (next a)] :
    Steady (andThen first next) where
  surroundings_eq c :=
    (surroundings_after (next (first c).1) (first c).2).trans (surroundings_after first c)
  grows c := (usage_grows first c).trans (usage_grows (next (first c).1) (first c).2)

instance (p : Bool) (a b : Action α) [Steady a] [Steady b] : Steady (if p then a else b) := by
  cases p <;> simp only [Bool.false_eq_true, ↓reduceIte] <;> infer_instance

instance (frame : List (String × Json)) (action : Action α) [Steady action] :
    Steady (withScope frame action) where
  surroundings_eq c := by
    have h := surroundings_after action { c with scopes := frame :: c.scopes }
    simp only [surroundings, Surroundings.mk.injEq] at h
    obtain ⟨hRoot, hLimits, hScopes, hDepth⟩ := h
    simp [withScope, surroundings, hRoot, hLimits, hScopes, hDepth]
  grows c := usage_grows action { c with scopes := frame :: c.scopes }

instance (action : Action (Option α)) [Steady action] : Steady (descend action) where
  surroundings_eq c := by
    by_cases hLe : c.limits.maxDepth ≤ c.depth
    · rw [descend_of_le hLe]
      rfl
    · have h := surroundings_after action { c with depth := c.depth + 1 }
      simp only [surroundings, Surroundings.mk.injEq] at h
      obtain ⟨hRoot, hLimits, hScopes, hDepth⟩ := h
      rw [descend_of_lt (Nat.lt_of_not_le hLe)]
      simp [surroundings, hRoot, hLimits, hScopes, hDepth]
  grows c := by
    by_cases hLe : c.limits.maxDepth ≤ c.depth
    · rw [descend_of_le hLe]
      exact c.usage.grows_noteAll [.depthExceeded c.limits.maxDepth]
    · rw [descend_of_lt (Nat.lt_of_not_le hLe)]
      exact usage_grows action { c with depth := c.depth + 1 }

instance : Steady consume where
  surroundings_eq c := by
    rw [consume]
    split
    · split <;> rfl
    · rfl
  grows c := by
    rw [consume]
    split
    · split
      · exact .refl c.usage
      · exact ⟨Nat.le_refl _, List.suffix_cons _ _⟩
    · exact ⟨Nat.le_succ _, List.suffix_refl _⟩

end Context

instance (s : Source) : Steady s.evaluate := by
  rw [s.evaluate_eq]
  infer_instance

instance (content : Interpolation) : Steady content.evaluate := by
  rw [content.evaluate_eq]
  infer_instance

instance (s : Source) : Steady s.test := by
  rw [s.test_eq]
  infer_instance

theorem Node.steady_evaluateBranch {branch : Option Node}
    (h : ∀ n ∈ branch, Steady n.evaluate) : Steady (Node.evaluateBranch branch) := by
  cases branch with
  | none =>
    rw [evaluateBranch_none]
    infer_instance
  | some node =>
    rw [evaluateBranch_some]
    exact h node rfl

namespace Loop

instance (binding : String) (length : Nat) (body : Action (Option Json)) [Steady body]
    (index : Nat) (elements : List Json) : Steady (iterate binding length body index elements) := by
  induction elements generalizing index with
  | nil =>
    rw [iterate_nil]
    infer_instance
  | cons element rest ih =>
    rw [iterate_cons]
    infer_instance

theorem steady_runOver (binding : String) {body : Node} {empty : Option Node}
    (hBody : Steady body.evaluate) (hEmpty : ∀ n ∈ empty, Steady n.evaluate) (v : Json) :
    Steady (runOver binding body empty v) := by
  have hBranch := Node.steady_evaluateBranch hEmpty
  rcases runOver_cases binding body empty v with ⟨elements, -, -, h⟩ | ⟨-, h⟩
  · rw [h, overElements]
    infer_instance
  · rw [h, overNothing]
    infer_instance

/-- A loop is steady when its body and its fallback are. -/
theorem steady_evaluate {l : Loop} (hBody : ∀ n ∈ l.body, Steady n.evaluate)
    (hEmpty : ∀ n ∈ l.empty, Steady n.evaluate) : Steady l.evaluate := by
  rcases l.complete_or_missing with ⟨binding, collection, body, empty, rfl⟩ | hMissing
  · have (v : Json) : Steady (runOver binding body empty v) :=
      steady_runOver binding (hBody body rfl) hEmpty v
    rw [evaluate_complete]
    infer_instance
  · rw [evaluate_incomplete hMissing]
    infer_instance

end Loop

namespace Node

theorem steady_evaluateEntries {entries : List (String × Node)}
    (h : ∀ e ∈ entries, Steady e.2.evaluate) : Steady (evaluateEntries entries) := by
  induction entries with
  | nil =>
    rw [evaluateEntries_nil]
    infer_instance
  | cons e rest ih =>
    have hHere := h e List.mem_cons_self
    have hRest := ih fun e he => h e (List.mem_cons_of_mem _ he)
    rw [evaluateEntries_cons]
    infer_instance

theorem steady_evaluateItems {items : List Node}
    (h : ∀ item ∈ items, Steady item.contribute) : Steady (evaluateItems items) := by
  induction items with
  | nil =>
    rw [evaluateItems_nil]
    infer_instance
  | cons item rest ih =>
    have hHere := h item List.mem_cons_self
    have hRest := ih fun x hx => h x (List.mem_cons_of_mem _ hx)
    rw [evaluateItems_cons]
    infer_instance

theorem steady_contribute {node : Node} (h : ∀ l, node ≠ .loop l) [Steady node.evaluate] :
    Steady node.contribute := by
  rw [contribute_of_ne_loop h]
  infer_instance

/-- Both ways to use a node are steady: by itself and as an item of an array. -/
theorem steady (node : Node) : Steady node.evaluate ∧ Steady node.contribute := by
  induction node with
  | literal v =>
    have h : Steady (literal v).evaluate := by
      rw [evaluate_literal]
      infer_instance
    exact ⟨h, steady_contribute nofun⟩
  | text content =>
    have h : Steady (text content).evaluate := by
      rw [evaluate_text]
      infer_instance
    exact ⟨h, steady_contribute nofun⟩
  | object entries ih =>
    have hEntries := steady_evaluateEntries fun e he => (ih e he).1
    have h : Steady (object entries).evaluate := by
      rw [evaluate_object]
      infer_instance
    exact ⟨h, steady_contribute nofun⟩
  | array items ih =>
    have hItems := steady_evaluateItems fun item hi => (ih item hi).2
    have h : Steady (array items).evaluate := by
      rw [evaluate_array]
      infer_instance
    exact ⟨h, steady_contribute nofun⟩
  | loop binding collection body empty ihBody ihEmpty =>
    have hLoop : Steady (Loop.evaluate ⟨binding, collection, body, empty⟩) :=
      Loop.steady_evaluate (fun n hn => (ihBody n hn).1) fun n hn => (ihEmpty n hn).1
    rw [evaluate_loop, contribute]
    exact ⟨inferInstance, inferInstance⟩
  | conditional condition thenBranch elseBranch ihThen ihElse =>
    have hThen := steady_evaluateBranch fun n hn => (ihThen n hn).1
    have hElse := steady_evaluateBranch fun n hn => (ihElse n hn).1
    have h : Steady (conditional ⟨condition, thenBranch, elseBranch⟩).evaluate := by
      rw [evaluate_conditional, Conditional.evaluate_eq]
      have hBranches (holds : Bool) :
          Steady (evaluateBranch (if holds then thenBranch else elseBranch)) := by
        cases holds
        · exact hElse
        · exact hThen
      infer_instance
    exact ⟨h, steady_contribute nofun⟩

instance (node : Node) : Steady node.evaluate := node.steady.1

instance (node : Node) : Steady node.contribute := node.steady.2

instance (entries : List (String × Node)) : Steady (evaluateEntries entries) :=
  steady_evaluateEntries fun _ _ => inferInstance

instance (items : List Node) : Steady (evaluateItems items) :=
  steady_evaluateItems fun _ _ => inferInstance

instance (branch : Option Node) : Steady (evaluateBranch branch) :=
  steady_evaluateBranch fun _ _ => inferInstance

end Node

instance (binding : String) (body : Node) (empty : Option Node) (v : Json) :
    Steady (Loop.runOver binding body empty v) :=
  Loop.steady_runOver binding inferInstance (fun _ _ => inferInstance) v

instance (l : Loop) : Steady l.evaluate :=
  Loop.steady_evaluate (fun _ _ => inferInstance) fun _ _ => inferInstance

instance (k : Conditional) : Steady k.evaluate := by
  obtain ⟨condition, thenBranch, elseBranch⟩ := k
  rw [Conditional.evaluate_eq]
  infer_instance

end Stencil
