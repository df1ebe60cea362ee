import Mathlib
import Stencil.Proofs.Evaluation.SideBySide
import Stencil.Template

/-!
# The free names of a template

The free heads of a node are the names that its paths start from, less those that a loop around them
binds. Two data models that give the same values to the free heads of a template cannot be told
apart by evaluating it, neither by the value nor by the iterations nor by the notices.
-/

namespace Stencil

open Context Surroundings

namespace Node

mutual

/-- The names that a node looks up in the data model when no loop is around it. An incomplete loop
looks up nothing. -/
def freeHeads : Node → List String
  | .literal _ => []
  | .text content => content.heads
  | .object entries => entriesHeads entries
  | .array items => itemsHeads items
  | .loop ⟨.name binding, some collection, some body, empty⟩ =>
    collection.heads ++ branchHeads empty ++
      (freeHeads body).filter fun name => name ≠ binding ∧ name ≠ Loop.counterName
  | .loop _ => []
  | .conditional ⟨condition, thenBranch, elseBranch⟩ =>
    condition.heads ++ branchHeads thenBranch ++ branchHeads elseBranch

def itemsHeads : List Node → List String
  | [] => []
  | item :: rest => freeHeads item ++ itemsHeads rest

def entriesHeads : List (String × Node) → List String
  | [] => []
  | (_, child) :: rest => freeHeads child ++ entriesHeads rest

def branchHeads : Option Node → List String
  | none => []
  | some node => freeHeads node

end

theorem itemsHeads_eq_flatMap (items : List Node) :
    itemsHeads items = items.flatMap freeHeads := by
  induction items with
  | nil => rfl
  | cons item rest ih => rw [itemsHeads, ih, List.flatMap_cons]

theorem branchHeads_eq_flatMap (branch : Option Node) :
    branchHeads branch = branch.toList.flatMap freeHeads := by
  cases branch with
  | none => rfl
  | some node => rw [branchHeads, Option.toList_some, List.flatMap_singleton]

theorem freeHeads_of_missing {l : Loop} (h : l.missing ≠ []) : (loop l).freeHeads = [] := by
  rw [freeHeads]
  rintro binding collection body empty rfl
  exact h rfl

theorem freeHeads_subset_itemsHeads {items : List Node} {item : Node} (h : item ∈ items) :
    item.freeHeads ⊆ itemsHeads items := by
  rw [itemsHeads_eq_flatMap]
  exact fun name hName => List.mem_flatMap.2 ⟨item, h, hName⟩

theorem entriesHeads_eq_itemsHeads (entries : List (String × Node)) :
    entriesHeads entries = itemsHeads (entries.map Prod.snd) := by
  induction entries with
  | nil => rfl
  | cons e rest ih => rw [entriesHeads, ih, List.map_cons, itemsHeads]

theorem freeHeads_subset_entriesHeads {entries : List (String × Node)} {e : String × Node}
    (h : e ∈ entries) : e.2.freeHeads ⊆ entriesHeads entries := by
  rw [entriesHeads_eq_itemsHeads]
  exact freeHeads_subset_itemsHeads (List.mem_map_of_mem h)

theorem freeHeads_subset_branchHeads {branch : Option Node} {node : Node} (h : node ∈ branch) :
    node.freeHeads ⊆ branchHeads branch := by
  cases h
  exact List.Subset.refl _

end Node

namespace Surroundings

variable {s t : Surroundings}

theorem agreeOn_append {names more : List String} :
    AgreeOn (names ++ more) s t ↔ AgreeOn names s t ∧ AgreeOn more s t := List.forall_mem_append

/-- In one and the same new scope, names mean the same if those do that the scope does not have. -/
theorem AgreeOn.push {names : List String} {frame : List (String × Json)}
    (h : ∀ name ∈ names, frame.lookup name = none → s.lookup? name = t.lookup? name) :
    AgreeOn names (s.push frame) (t.push frame) := by
  intro name hName
  rw [lookup?_push, lookup?_push]
  cases hFrame : frame.lookup name with
  | some v => rfl
  | none => exact h name hName hFrame

theorem ne_of_lookup_frame {binding name : String} {index length : Nat} {element : Json}
    (h : (Loop.frame binding index length element).lookup name = none) :
    name ≠ binding ∧ name ≠ Loop.counterName := by
  rw [Loop.lookup_frame] at h
  split at h
  · cases h
  · next hCounter =>
    split at h
    · cases h
    · next hBinding => exact ⟨hBinding, hCounter⟩

/-- The body of a loop finds the same under its free heads if the loop around it does. -/
theorem AgreeOn.body {binding : String} {heads : List String}
    (h : AgreeOn (heads.filter fun name => name ≠ binding ∧ name ≠ Loop.counterName) s t)
    (index length : Nat) (element : Json) :
    AgreeOn heads (s.push (Loop.frame binding index length element))
      (t.push (Loop.frame binding index length element)) := by
  apply AgreeOn.push
  intro name hName hFrame
  apply h name
  rw [List.mem_filter]
  exact ⟨hName, decide_eq_true (ne_of_lookup_frame hFrame)⟩

/-- The same limits and depth; the data models and the scopes may differ. -/
structure SameBounds (s t : Surroundings) : Prop where
  limits : s.limits = t.limits
  depth : s.depth = t.depth

theorem SameBounds.deeper (h : SameBounds s t) : SameBounds s.deeper t.deeper :=
  { h with depth := congrArg (· + 1) h.depth }

theorem SameBounds.push (h : SameBounds s t) (frame frame' : List (String × Json)) :
    SameBounds (s.push frame) (t.push frame') := ⟨h.limits, h.depth⟩

end Surroundings

namespace Pairing

variable {P : Pairing} {L : Likeness} {s t : Surroundings}

/-- Evaluations that use the same number of iterations stay related when both meet a bound. -/
class InStep (P : Pairing) : Prop where
  iterations_eq : ∀ {u v : Usage}, P.related u v → u.iterations = v.iterations
  related_depthExceeded : ∀ {u v : Usage} {n : Nat}, P.related u v →
    P.related (u.noteAll [.depthExceeded n]) (v.noteAll [.depthExceeded n])
  related_grant : ∀ {u v : Usage}, P.related u v → P.related u.grant v.grant
  related_refuse : ∀ {u v : Usage} {n : Nat}, P.related u v → P.related (u.refuse n) (v.refuse n)

theorem InStep.descends [InStep P] (h : SameBounds s t) : P.Descends s t :=
  descends_of_eq h.depth (congrArg _ h.limits) related_depthExceeded

theorem InStep.matches_consume [InStep P] (h : SameBounds s t) :
    P.Matches Eq s t consume consume :=
  Pairing.matches_consume (congrArg _ h.limits) iterations_eq related_grant related_refuse

theorem InStep.iterates [InStep P] (h : SameBounds s t) : P.Iterates L s t :=
  iterates_of_consume (InStep.matches_consume h)

/-- Two evaluations that use and say exactly the same. -/
def lockstep : Pairing where
  related u v := u = v
  spoiled _ := False
  spoiled_of_grows _ h := h
  related_noteAll _ h := congrArg _ h

instance : InStep lockstep where
  iterations_eq h := congrArg _ h
  related_depthExceeded h := congrArg _ h
  related_grant h := congrArg _ h
  related_refuse h := congrArg _ h

/-- Two evaluations that use the same number of iterations, whatever they say. -/
def evenly : Pairing where
  related u v := u.iterations = v.iterations
  spoiled _ := False
  spoiled_of_grows _ h := h
  related_noteAll _ h := h

instance : InStep evenly where
  iterations_eq h := h
  related_depthExceeded h := h
  related_grant h := congrArg (· + 1) h
  related_refuse {u v n} h := by
    have hSame : u.iterations = v.iterations := h
    change (u.refuse n).iterations = (v.refuse n).iterations
    rw [Usage.refuse_iterations, Usage.refuse_iterations, hSame]

theorem alike_branch {branch : Option Node} (h : AgreeOn (Node.branchHeads branch) s t)
    (hChild : ∀ child ∈ branch, AgreeOn child.freeHeads s t →
      P.Alike L s.deeper t.deeper child child) :
    Option.Rel (P.Alike L s.deeper t.deeper) branch branch := by
  apply optionRel_same
  intro child hMem
  exact hChild child hMem (h.mono (Node.freeHeads_subset_branchHeads hMem))

/-- Where its free heads mean the same, a node does the same. -/
theorem alike_of_agreeOn_freeHeads [InStep P] (hBounds : SameBounds s t) {node : Node}
    (h : AgreeOn node.freeHeads s t) : P.Alike L s t node node := by
  induction node generalizing s t with
  | literal v => exact alike_literal (InStep.descends hBounds) v
  | text content => exact alike_text (InStep.descends hBounds) h
  | object entries ih =>
    apply alike_object (InStep.descends hBounds)
    apply List.forall₂_same.2
    intro e he
    exact ⟨rfl, ih e he hBounds.deeper (h.mono (Node.freeHeads_subset_entriesHeads he))⟩
  | array items ih =>
    apply alike_array (InStep.descends hBounds)
    apply List.forall₂_same.2
    intro item hItem
    exact ih item hItem hBounds.deeper (h.mono (Node.freeHeads_subset_itemsHeads hItem))
  | loop binding collection body empty ihBody ihEmpty =>
    apply alike_loop (InStep.descends hBounds)
    rcases Loop.complete_or_missing ⟨binding, collection, body, empty⟩ with
      ⟨name, source, node, fallback, hComplete⟩ | hMissing
    · cases hComplete
      rw [Node.freeHeads, agreeOn_append, agreeOn_append] at h
      obtain ⟨⟨hSource, hEmpty⟩, hBody⟩ := h
      apply matches_loop (InStep.iterates hBounds.deeper)
      · rintro _ ⟨⟩
        exact hSource
      · apply Option.Rel.some
        rintro _ ⟨⟩ index length element
        exact ihBody node rfl (hBounds.deeper.push _ _) (hBody.body index length element)
      · exact alike_branch hEmpty fun child hChild h => ihEmpty child hChild hBounds.deeper h
    · exact matches_loop_of_missing hMissing rfl
  | conditional condition thenBranch elseBranch ihThen ihElse =>
    rw [Node.freeHeads, agreeOn_append, agreeOn_append] at h
    obtain ⟨⟨hCondition, hThen⟩, hElse⟩ := h
    apply alike_conditional (InStep.descends hBounds) hCondition
    · exact alike_branch hThen fun child hChild h => ihThen child hChild hBounds.deeper h
    · exact alike_branch hElse fun child hChild h => ihElse child hChild hBounds.deeper h

theorem alike_of_freeHeads (hBounds : SameBounds s t) {node : Node}
    (h : AgreeOn node.freeHeads s t) : lockstep.Alike Likeness.same s t node node :=
  alike_of_agreeOn_freeHeads hBounds h

end Pairing

/-- Data models that have the same under the free heads of a template are the same to it. -/
theorem Template.evaluate_congr (t : Template) (d₁ d₂ : Json)
    (h : ∀ name ∈ t.root.freeHeads, d₁.child? name = d₂.child? name) :
    t.evaluate d₁ = t.evaluate d₂ := by
  have hBounds : SameBounds (.start d₁ t.limits) (.start d₂ t.limits) := ⟨rfl, rfl⟩
  have hMatches := (Pairing.alike_of_freeHeads hBounds h).evaluate
    (.start d₁ t.limits) (.start d₂ t.limits) rfl rfl rfl
  obtain ⟨hAnswer, hUsage⟩ := hMatches.resolve_left id
  have hValue := eq_of_optionRel hAnswer
  have hUsage : (t.root.evaluate (.start d₁ t.limits)).2.usage =
      (t.root.evaluate (.start d₂ t.limits)).2.usage := hUsage
  rw [usage, usage, Usage.mk.injEq] at hUsage
  obtain ⟨hIterations, -, hLog⟩ := hUsage
  simp only [evaluate, notices, hValue, hIterations, hLog]

/-- A loop over `items` whose body shows the counter and the variable. -/
def Template.listing : Template :=
  .ofJson (.object [(forKey, .string "x"), (inKey, .string "items"),
    (templateKey, .string "\x7b\x7bloop.index\x7d\x7d: \x7b\x7bx\x7d\x7d")]) .standard

/-- What a data model has under the names that the loop binds makes no difference. -/
theorem Template.evaluate_listing :
    let items : Json := .array [.string "a", .string "b"]
    listing.root.freeHeads = ["items"] ∧
      listing.evaluate (.object [("x", .null), ("items", items)]) =
        listing.evaluate (.object [("items", items), ("loop", .bool true)]) := by
  intro items
  have hHeads : listing.root.freeHeads = ["items"] := by cbv
  refine ⟨hHeads, Template.evaluate_congr listing _ _ ?_⟩
  intro name hName
  rw [hHeads, List.mem_singleton] at hName
  rw [hName]
  rfl

end Stencil
