import Stencil.Proofs.Evaluation.Steady

/-!
# What the values of placeholders depend on

The value of a placeholder or of a source depends on what its heads mean, the first segments of its
paths, and on nothing else in the context. What is noted along the way are remarks about the
template and the data, never that a limit was met.
-/

namespace Stencil

/-- The name that a path starts from, if the path has a segment. -/
def Path.heads (p : Path) : List String := p.segments.head?.toList

def Expression.heads (e : Expression) : List String := e.path.heads

def Interpolation.heads (content : Interpolation) : List String :=
  content.expressions.flatMap Expression.heads

def Source.heads : Source → List String
  | .path p => p.heads
  | .text content => content.heads
  | .literal _ => []

namespace Surroundings

/-- The value of a name: of the innermost scope that has it, else of the data model. -/
def lookup? (s : Surroundings) (name : String) : Option Json :=
  (s.scopes.findSome? (·.lookup name)).or (s.root.child? name)

/-- The names mean the same in both surroundings. -/
def AgreeOn (names : List String) (s t : Surroundings) : Prop :=
  ∀ name ∈ names, s.lookup? name = t.lookup? name

theorem AgreeOn.mono {names more : List String} {s t : Surroundings} (h : AgreeOn more s t)
    (hSub : names ⊆ more) : AgreeOn names s t := fun name hName => h name (hSub hName)

theorem AgreeOn.deeper {names : List String} {s t : Surroundings} (h : AgreeOn names s t) :
    AgreeOn names s.deeper t.deeper := h

/-- Nothing more is needed for names to mean the same than the same data model and scopes. -/
theorem agreeOn_of_eq {s t : Surroundings} (hRoot : s.root = t.root) (hScopes : s.scopes = t.scopes)
    (names : List String) : AgreeOn names s t := by
  intro name _
  rw [lookup?, lookup?, hRoot, hScopes]

theorem lookup?_push (frame : List (String × Json)) (s : Surroundings) (name : String) :
    (s.push frame).lookup? name = (frame.lookup name).or (s.lookup? name) := by
  rw [lookup?, lookup?, push, List.findSome?_cons]
  cases frame.lookup name <;> rfl

end Surroundings

/-- The scope of an iteration binds the counter and the variable, which the counter hides. -/
theorem Loop.lookup_frame (binding name : String) (index length : Nat) (element : Json) :
    (frame binding index length element).lookup name =
      if name = counterName then some (counter index length)
      else if name = binding then some element else none := by
  rw [frame, Bindings.lookup_put, Bindings.lookup_put, List.lookup_nil]

open Surroundings

theorem Context.lookup?_eq (c : Context) (name : String) :
    c.lookup? name = c.surroundings.lookup? name := rfl

section Congruence

variable {c d : Context}

theorem Context.resolve?_congr {p : Path} (h : AgreeOn p.heads c.surroundings d.surroundings) :
    c.resolve? p = d.resolve? p := by
  obtain ⟨segments⟩ := p
  cases segments with
  | nil => rfl
  | cons head rest =>
    have hHead : c.lookup? head = d.lookup? head := by
      rw [lookup?_eq, lookup?_eq]
      exact h head (by simp [Path.heads])
    simp only [resolve?, hHead]

theorem Expression.value_congr {e : Expression}
    (h : AgreeOn e.heads c.surroundings d.surroundings) : e.value c = e.value d := by
  rw [value, value, Context.resolve?_congr h]

theorem Interpolation.value_congr {content : Interpolation}
    (h : AgreeOn content.heads c.surroundings d.surroundings) :
    content.value c = content.value d := by
  cases content with
  | pure e => exact Expression.value_congr (h.mono (by simp [heads, expressions]))
  | mixed segments =>
    have hSegments : segments.map (·.display c) = segments.map (·.display d) := by
      apply List.map_congr_left
      intro segment hMem
      cases segment with
      | text s => rfl
      | placeholder e =>
        have hSub : e.heads ⊆ (mixed segments).heads := by
          intro name hName
          exact List.mem_flatMap.2
            ⟨e, List.mem_filterMap.2 ⟨.placeholder e, hMem, rfl⟩, hName⟩
        rw [Segment.display, Segment.display, Expression.value_congr (h.mono hSub)]
    rw [value, value, hSegments]

theorem Source.value_congr {s : Source} (h : AgreeOn s.heads c.surroundings d.surroundings) :
    s.value c = s.value d := by
  cases s with
  | path p => rw [value, value, Context.resolve?_congr h]
  | text content => exact Interpolation.value_congr h
  | literal v => rfl

end Congruence

/-- Whether a notice is about the template and the data, and not about a limit. -/
def Notice.isRemark : Notice → Bool
  | .depthExceeded _ | .budgetExhausted _ => false
  | _ => true

theorem Interpolation.isRemark_of_mem {content : Interpolation} {n : Notice}
    (h : n ∈ content.evaluationNotices) : n.isRemark = true := by
  obtain ⟨e, -, hn⟩ := List.mem_flatMap.1 h
  obtain ⟨name, -, rfl⟩ := List.mem_map.1 hn
  rfl

theorem Source.isRemark_of_mem {s : Source} {n : Notice} (h : n ∈ s.evaluationNotices) :
    n.isRemark = true := by
  cases s with
  | text content => exact Interpolation.isRemark_of_mem h
  | _ => cases h

theorem Loop.isRemark_of_mem {binding : String} {v : Json} {n : Notice}
    (h : n ∈ collectionNotices binding v) : n.isRemark = true := by
  cases v <;> simp_all [collectionNotices, Notice.isRemark]

end Stencil
