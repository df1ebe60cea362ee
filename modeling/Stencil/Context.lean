import Stencil.Limits
import Stencil.Node

/-!
# The state of an evaluation

A context holds the data model and what an evaluation has around it and has used so far. An action
on a context answers a value and the context that it leaves. `withScope` and `descend` put back what
they changed, whatever the action inside them does; the lemmas here say what each operation leaves
alone.
-/

namespace Stencil

structure Context where
  /-- The data model. -/
  root : Json
  limits : Limits
  /-- The named values of the loops around, innermost first. -/
  scopes : List (List (String × Json))
  depth : Nat
  iterations : Nat
  /-- Whether it was said that the loop budget is used up. -/
  budgetReported : Bool
  /-- The notices so far, newest first. -/
  log : List Notice

namespace Context

variable {α : Type}

/-- The context in which an evaluation starts. -/
def start (root : Json) (limits : Limits) : Context := ⟨root, limits, [], 0, 0, false, []⟩

/-- The notices so far, oldest first. -/
def notices (c : Context) : List Notice := c.log.reverse

def note (n : Notice) (c : Context) : Context := { c with log := n :: c.log }

/-- Adds notices in their order. -/
def noteAll (ns : List Notice) (c : Context) : Context := { c with log := ns.reverse ++ c.log }

@[simp] theorem noteAll_nil (c : Context) : c.noteAll [] = c := rfl

/-- The value of a name: of the innermost scope that has it, else of the data model. -/
def lookup? (c : Context) (name : String) : Option Json :=
  (c.scopes.findSome? (·.lookup name)).or (c.root.child? name)

/-- The value at the end of a path, if every segment leads somewhere. The empty path leads
nowhere. -/
def resolve? (c : Context) (path : Path) : Option Json :=
  match path.segments with
  | [] => none
  | head :: rest => (c.lookup? head).bind (·.walk? rest)

/-- Runs an action with one more scope. -/
def withScope (frame : List (String × Json)) (action : Context → α × Context) (c : Context) :
    α × Context :=
  let (a, after) := action { c with scopes := frame :: c.scopes }
  (a, { after with scopes := after.scopes.tail })

/-- Runs an action one level deeper, or gives nothing when that is too deep. -/
def descend (action : Context → Option α × Context) (c : Context) : Option α × Context :=
  if c.limits.maxDepth ≤ c.depth then (none, c.note (.depthExceeded c.limits.maxDepth))
  else
    let (a, after) := action { c with depth := c.depth + 1 }
    (a, { after with depth := after.depth - 1 })

/-- Takes one iteration out of the budget, if it is not used up. That it is used up is said once. -/
def consume (c : Context) : Bool × Context :=
  if c.limits.maxIterations ≤ c.iterations then
    if c.budgetReported then (false, c)
    else
      (false, { c.note (.budgetExhausted c.limits.maxIterations) with budgetReported := true })
  else (true, { c with iterations := c.iterations + 1 })

theorem descend_of_le {c : Context} (h : c.limits.maxDepth ≤ c.depth)
    (action : Context → Option α × Context) :
    c.descend action = (none, c.note (.depthExceeded c.limits.maxDepth)) := by
  simp [descend, h]

theorem descend_of_lt {c : Context} (h : c.depth < c.limits.maxDepth)
    (action : Context → Option α × Context) :
    c.descend action =
      let (a, after) := action { c with depth := c.depth + 1 }
      (a, { after with depth := after.depth - 1 }) := by
  simp [descend, Nat.not_le.2 h]

end Context
end Stencil
