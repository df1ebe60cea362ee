import Mathlib
import Stencil.Proofs.Evaluation.FreeHeads

/-!
# The name of a loop variable

A loop may call its variable by any name that its body does not use otherwise. `Node.rename`
replaces a name where a path starts from it, but not inside the body of a loop that binds the name
itself. A body in which the variable was replaced gives the same, in the scope of the new name, as
the body before it in the scope of the old one.
-/

namespace Stencil

open Context Surroundings

/-! ### Renaming -/

/-- The name with `y` in place of `x`. -/
def renamed (x y name : String) : String := if name = x then y else name

def Path.rename (x y : String) : Path → Path
  | ⟨[]⟩ => ⟨[]⟩
  | ⟨head :: rest⟩ => ⟨renamed x y head :: rest⟩

/-- The text that notices quote stays as it was written. -/
def Expression.rename (x y : String) (e : Expression) : Expression :=
  { e with path := e.path.rename x y }

def Segment.rename (x y : String) : Segment → Segment
  | .text s => .text s
  | .placeholder e => .placeholder (e.rename x y)

def Interpolation.rename (x y : String) : Interpolation → Interpolation
  | .pure e => .pure (e.rename x y)
  | .mixed segments => .mixed (segments.map (·.rename x y))

def Source.rename (x y : String) : Source → Source
  | .path p => .path (p.rename x y)
  | .text content => .text (content.rename x y)
  | .literal v => .literal v

namespace Node

mutual

/-- The node with `y` for the free name `x`. In the body of a loop that binds `x` it is not free. -/
def rename (x y : String) : Node → Node
  | .literal v => .literal v
  | .text content => .text (content.rename x y)
  | .object entries => .object (renameEntries x y entries)
  | .array items => .array (renameItems x y items)
  | .loop ⟨.name binding, some collection, some body, empty⟩ =>
    .loop ⟨.name binding, some (collection.rename x y),
      some (if binding = x then body else rename x y body), renameBranch x y empty⟩
  | .loop ⟨binding, collection, body, empty⟩ =>
    .loop ⟨binding, collection.map (·.rename x y), renameBranch x y body, renameBranch x y empty⟩
  | .conditional ⟨condition, thenBranch, elseBranch⟩ =>
    .conditional ⟨condition.rename x y, renameBranch x y thenBranch, renameBranch x y elseBranch⟩

def renameItems (x y : String) : List Node → List Node
  | [] => []
  | item :: rest => rename x y item :: renameItems x y rest

def renameEntries (x y : String) : List (String × Node) → List (String × Node)
  | [] => []
  | (key, child) :: rest => (key, rename x y child) :: renameEntries x y rest

def renameBranch (x y : String) : Option Node → Option Node
  | none => none
  | some node => some (rename x y node)

end

theorem renameItems_eq_map (x y : String) (items : List Node) :
    renameItems x y items = items.map (rename x y) := by
  induction items with
  | nil => rfl
  | cons item rest ih => rw [renameItems, ih, List.map_cons]

theorem renameEntries_eq_map (x y : String) (entries : List (String × Node)) :
    renameEntries x y entries = entries.map fun (key, child) => (key, child.rename x y) := by
  induction entries with
  | nil => rfl
  | cons e rest ih => rw [renameEntries, ih, List.map_cons]

/-- A loop that lacks something lacks it under other names as well. -/
theorem exists_rename_of_missing (x y : String) {l : Loop} (h : l.missing ≠ []) :
    ∃ l' : Loop, (loop l).rename x y = .loop l' ∧ l'.missing = l.missing := by
  obtain ⟨binding, collection, body, empty⟩ := l
  refine ⟨⟨binding, collection.map (·.rename x y), renameBranch x y body,
    renameBranch x y empty⟩, ?_, ?_⟩
  · rw [rename]
    rintro name source node rfl rfl rfl
    exact h rfl
  · cases collection <;> cases body <;> rfl

/-- The names that the paths of a node start from, those of its children aside. -/
def ownHeads : Node → List String
  | .text content => content.heads
  | .loop l => (l.collection.map Source.heads).getD []
  | .conditional k => k.condition.heads
  | .literal _ | .object _ | .array _ => []

/-- The name of the variable, if the node is a loop that has one. -/
def ownVariable? : Node → Option String
  | .loop l => l.binding.name?
  | _ => none

/-- No path in the node starts from the name, and no loop in it binds the name. -/
structure Avoids (name : String) (node : Node) : Prop where
  not_read : ∀ n ∈ node.subnodes, name ∉ n.ownHeads
  not_bound : ∀ n ∈ node.subnodes, n.ownVariable? ≠ some name

/-- A free head is a head of the node itself or free in one of its children. -/
theorem freeHeads_subset (node : Node) :
    node.freeHeads ⊆ node.ownHeads ++ node.children.flatMap freeHeads := by
  cases node with
  | literal v => exact List.nil_subset _
  | text content =>
    rw [freeHeads]
    exact List.subset_append_left _ _
  | object entries =>
    rw [freeHeads, entriesHeads_eq_itemsHeads, itemsHeads_eq_flatMap]
    exact List.subset_append_right _ _
  | array items =>
    rw [freeHeads, itemsHeads_eq_flatMap]
    exact List.subset_append_right _ _
  | loop l =>
    rcases l.complete_or_missing with ⟨binding, collection, body, empty, rfl⟩ | hMissing
    · rw [freeHeads, branchHeads_eq_flatMap, children, List.flatMap_append]
      intro name hName
      simp only [List.mem_append, List.mem_filter] at hName
      simp only [List.mem_append, ownHeads, Loop.collection, Option.map_some, Option.getD_some,
        Option.toList_some, List.flatMap_singleton]
      tauto
    · rw [freeHeads_of_missing hMissing]
      exact List.nil_subset _
  | conditional k =>
    obtain ⟨condition, thenBranch, elseBranch⟩ := k
    rw [freeHeads, branchHeads_eq_flatMap, branchHeads_eq_flatMap, children, List.flatMap_append,
      ownHeads, Conditional.condition, List.append_assoc]
    exact List.Subset.refl _

namespace Avoids

variable {name : String} {node : Node}

theorem child {child : Node} (h : node.Avoids name) (hChild : child ∈ node.children) :
    child.Avoids name where
  not_read n hn := h.not_read n (subnodes_subset hChild hn)
  not_bound n hn := h.not_bound n (subnodes_subset hChild hn)

theorem not_mem_ownHeads (h : node.Avoids name) : name ∉ node.ownHeads :=
  h.not_read node node.self_mem_subnodes

theorem ownVariable?_ne (h : node.Avoids name) : node.ownVariable? ≠ some name :=
  h.not_bound node node.self_mem_subnodes

theorem not_mem_freeHeads (h : node.Avoids name) : name ∉ node.freeHeads := by
  induction node using Node.induction_children with
  | step node ih =>
    intro hName
    rcases List.mem_append.1 (node.freeHeads_subset hName) with hOwn | hChildren
    · exact h.not_mem_ownHeads hOwn
    · obtain ⟨child, hChild, hName⟩ := List.mem_flatMap.1 hChildren
      exact ih child hChild (h.child hChild) hName

end Avoids

end Node

/-! ### Names that mean the same under another name -/

namespace Surroundings

variable {x y : String} {s t : Surroundings}

/-- What `x` means on the one side `y` means on the other, and other names mean the same. -/
def Renames (x y : String) (s t : Surroundings) : Prop :=
  ∀ name, name ≠ y → s.lookup? name = t.lookup? (renamed x y name)

theorem Renames.deeper (h : Renames x y s t) : Renames x y s.deeper t.deeper := h

/-- A scope that binds neither of the two names leaves them as they are. -/
theorem Renames.push (h : Renames x y s t) {binding : String} (hx : x ≠ Loop.counterName)
    (hy : y ≠ Loop.counterName) (hbx : binding ≠ x) (hby : binding ≠ y) (index length : Nat)
    (element : Json) : Renames x y (s.push (Loop.frame binding index length element))
      (t.push (Loop.frame binding index length element)) := by
  intro name hName
  rw [lookup?_push, lookup?_push, h name hName]
  have hFrame : (Loop.frame binding index length element).lookup name =
      (Loop.frame binding index length element).lookup (renamed x y name) := by
    by_cases hx' : name = x
    · subst hx'
      simp [renamed, Loop.lookup_frame, hx, hy, hbx.symm, hby.symm]
    · simp [renamed, hx']
  rw [hFrame]

/-- The scopes of one loop under two names. -/
theorem renames_frame (s : Surroundings) (hx : x ≠ Loop.counterName) (hy : y ≠ Loop.counterName)
    (index length : Nat) (element : Json) :
    Renames x y (s.push (Loop.frame x index length element))
      (s.push (Loop.frame y index length element)) := by
  intro name hName
  rw [lookup?_push, lookup?_push]
  by_cases hx' : name = x
  · subst hx'
    simp [renamed, Loop.lookup_frame, hx, hy]
  · simp [renamed, Loop.lookup_frame, hx', hName]

/-- In a scope that binds `x` itself, all names but `y` mean the same. -/
theorem Renames.shadowed (h : Renames x y s t) {names : List String} (hNames : y ∉ names)
    (index length : Nat) (element : Json) :
    AgreeOn names (s.push (Loop.frame x index length element))
      (t.push (Loop.frame x index length element)) := by
  apply AgreeOn.push
  intro name hMem hFrame
  obtain ⟨hx, -⟩ := ne_of_lookup_frame hFrame
  have hName : name ≠ y := by
    rintro rfl
    exact hNames hMem
  rw [h name hName, renamed, if_neg hx]

end Surroundings

/-! ### The values of renamed placeholders -/

section Values

variable {x y : String} {c d : Context}

theorem Context.resolve?_rename {p : Path} (h : Renames x y c.surroundings d.surroundings)
    (hHeads : y ∉ p.heads) : c.resolve? p = d.resolve? (p.rename x y) := by
  obtain ⟨segments⟩ := p
  cases segments with
  | nil => rfl
  | cons head rest =>
    have hHead : c.lookup? head = d.lookup? (renamed x y head) := by
      rw [lookup?_eq, lookup?_eq]
      apply h
      rintro rfl
      exact hHeads (List.mem_singleton_self _)
    simp only [resolve?, Path.rename, hHead]

theorem Expression.value_rename {e : Expression} (h : Renames x y c.surroundings d.surroundings)
    (hHeads : y ∉ e.heads) : e.value c = (e.rename x y).value d := by
  rw [value, value, Context.resolve?_rename h hHeads]
  rfl

theorem Interpolation.expressions_rename (content : Interpolation) :
    (content.rename x y).expressions = content.expressions.map (·.rename x y) := by
  cases content with
  | pure e => rfl
  | mixed segments =>
    simp only [rename, expressions, List.filterMap_map, List.map_filterMap]
    apply List.filterMap_congr
    intro segment _
    cases segment <;> rfl

theorem Interpolation.evaluationNotices_rename (content : Interpolation) :
    (content.rename x y).evaluationNotices = content.evaluationNotices := by
  rw [evaluationNotices, evaluationNotices, expressions_rename, List.flatMap_map]
  rfl

theorem Interpolation.value_rename {content : Interpolation}
    (h : Renames x y c.surroundings d.surroundings) (hHeads : y ∉ content.heads) :
    content.value c = (content.rename x y).value d := by
  have hExpression (e : Expression) (he : e ∈ content.expressions) :
      e.value c = (e.rename x y).value d :=
    e.value_rename h fun hMem => hHeads (List.mem_flatMap.2 ⟨e, he, hMem⟩)
  cases content with
  | pure e => exact hExpression e (List.mem_singleton_self e)
  | mixed segments =>
    have hSegments : segments.map (·.display c) = (segments.map (·.rename x y)).map (·.display d) := by
      rw [List.map_map]
      apply List.map_congr_left
      intro segment hMem
      cases segment with
      | text s => rfl
      | placeholder e =>
        have hValue := hExpression e (List.mem_filterMap.2 ⟨.placeholder e, hMem, rfl⟩)
        simp only [Function.comp_apply, Segment.rename, Segment.display, hValue]
    rw [rename, value, value, hSegments]

theorem Source.evaluationNotices_rename (source : Source) :
    (source.rename x y).evaluationNotices = source.evaluationNotices := by
  cases source with
  | text content => exact content.evaluationNotices_rename
  | _ => rfl

theorem Source.value_rename {source : Source} (h : Renames x y c.surroundings d.surroundings)
    (hHeads : y ∉ source.heads) : source.value c = (source.rename x y).value d := by
  cases source with
  | path p => rw [rename, value, value, Context.resolve?_rename h hHeads]
  | text content => exact Interpolation.value_rename h hHeads
  | literal v => rfl

end Values

/-! ### Evaluating renamed nodes -/

namespace Pairing

variable {P : Pairing} {L : Likeness} {x y : String} {s t : Surroundings}

theorem matches_interpolation_rename (h : Renames x y s t) {content : Interpolation}
    (hHeads : y ∉ content.heads) :
    P.Matches Eq s t content.evaluate (content.rename x y).evaluate := by
  rw [Interpolation.evaluate_eq, Interpolation.evaluate_eq, content.evaluationNotices_rename]
  apply matches_reading
  · rintro c d rfl rfl
    exact Interpolation.value_rename h hHeads
  · exact fun n hn => Interpolation.isRemark_of_mem hn

theorem matches_source_rename (h : Renames x y s t) {source : Source} (hHeads : y ∉ source.heads) :
    P.Matches Eq s t source.evaluate (source.rename x y).evaluate := by
  rw [Source.evaluate_eq, Source.evaluate_eq, source.evaluationNotices_rename]
  apply matches_reading
  · rintro c d rfl rfl
    exact Source.value_rename h hHeads
  · exact fun n hn => Source.isRemark_of_mem hn

theorem optionRel_renameBranch {branch : Option Node}
    (h : ∀ child ∈ branch, P.Alike L s t child (child.rename x y)) :
    Option.Rel (P.Alike L s t) branch (Node.renameBranch x y branch) := by
  cases branch with
  | none => exact .none
  | some child => exact .some (h child rfl)

/-- A node does the same under a name that it avoids, where that name means what the old one did. -/
theorem alike_rename [InStep P] (hx : x ≠ Loop.counterName) (hy : y ≠ Loop.counterName)
    (hBounds : SameBounds s t) (h : Renames x y s t) {node : Node} (hAvoids : node.Avoids y) :
    P.Alike L s t node (node.rename x y) := by
  induction node generalizing s t with
  | literal v => exact alike_literal (InStep.descends hBounds) v
  | text content =>
    apply alike_texts (InStep.descends hBounds)
    exact matches_interpolation_rename h.deeper hAvoids.not_mem_ownHeads
  | object entries ih =>
    rw [Node.rename, Node.renameEntries_eq_map]
    apply alike_object (InStep.descends hBounds)
    rw [List.forall₂_map_right_iff]
    apply List.forall₂_same.2
    intro e he
    exact ⟨rfl, ih e he hBounds.deeper h.deeper (hAvoids.child (List.mem_map_of_mem he))⟩
  | array items ih =>
    rw [Node.rename, Node.renameItems_eq_map]
    apply alike_array (InStep.descends hBounds)
    rw [List.forall₂_map_right_iff]
    apply List.forall₂_same.2
    intro item hItem
    exact ih item hItem hBounds.deeper h.deeper (hAvoids.child hItem)
  | loop binding collection body empty ihBody ihEmpty =>
    rcases Loop.complete_or_missing ⟨binding, collection, body, empty⟩ with
      ⟨name, source, node, fallback, hComplete⟩ | hMissing
    · cases hComplete
      have hBodyAvoids : node.Avoids y := hAvoids.child List.mem_cons_self
      have hName : name ≠ y := fun hName => hAvoids.ownVariable?_ne (congrArg some hName)
      rw [Node.rename]
      apply alike_loop (InStep.descends hBounds)
      apply matches_loops (InStep.iterates hBounds.deeper)
      · exact .some (matches_source_rename h.deeper hAvoids.not_mem_ownHeads)
      · apply Option.Rel.some
        rintro _ ⟨⟩ index length element
        -- The body of a loop that binds `x` itself stays as it is, and there `x` is its own.
        by_cases hShadow : name = x
        · subst hShadow
          rw [if_pos rfl]
          exact alike_of_agreeOn_freeHeads (hBounds.deeper.push _ _)
            (h.deeper.shadowed hBodyAvoids.not_mem_freeHeads index length element)
        · rw [if_neg hShadow]
          exact ihBody node rfl (hBounds.deeper.push _ _)
            (h.deeper.push hx hy hShadow hName index length element) hBodyAvoids
      · apply optionRel_renameBranch
        intro child hChild
        exact ihEmpty child hChild hBounds.deeper h.deeper
          (hAvoids.child (List.mem_cons_of_mem _ (Option.mem_toList.2 hChild)))
    · obtain ⟨l', hRename, hSame⟩ := Node.exists_rename_of_missing x y hMissing
      rw [hRename]
      exact alike_loop (InStep.descends hBounds) (matches_loop_of_missing hMissing hSame)
  | conditional condition thenBranch elseBranch ihThen ihElse =>
    rw [Node.rename]
    apply alike_conditionals (InStep.descends hBounds)
    · exact matches_source_rename h.deeper hAvoids.not_mem_ownHeads
    · apply optionRel_renameBranch
      intro child hChild
      exact ihThen child hChild hBounds.deeper h.deeper
        (hAvoids.child (List.mem_append_left _ (Option.mem_toList.2 hChild)))
    · apply optionRel_renameBranch
      intro child hChild
      exact ihElse child hChild hBounds.deeper h.deeper
        (hAvoids.child (List.mem_append_right _ (Option.mem_toList.2 hChild)))

/-- Under two names a loop runs evenly over the same value. Of a value that is no array it says
under which name it was to be run over. -/
theorem matches_runOver_rename (hx : x ≠ Loop.counterName) (hy : y ≠ Loop.counterName)
    {body : Node} (hAvoids : body.Avoids y) (empty : Option Node) (s : Surroundings) (v : Json) :
    evenly.Matches Likeness.same.Result s s (Loop.runOver x body empty v)
      (Loop.runOver y (body.rename x y) empty v) := by
  have hBounds : SameBounds s s := ⟨rfl, rfl⟩
  apply matches_runOvers
  · intro elements
    apply matches_iterate (InStep.matches_consume hBounds)
    intro k element
    have hRenames := renames_frame s hx hy (0 + k) elements.length element
    exact (alike_rename hx hy (hBounds.push _ _) hRenames hAvoids).evaluate
  · exact fun v c d _ _ hRel => .inr ⟨rfl, hRel⟩
  · exact optionRel_same fun node _ => alike_of_agreeOn_freeHeads hBounds fun _ _ => rfl

end Pairing

theorem Likeness.Result.eq_of_same {r r' : LoopResult} (h : Likeness.same.Result r r') :
    r = r' := by
  cases h with
  | items h => exact congrArg _ h
  | empty h => exact congrArg _ (eq_of_optionRel h)
  | skipped => rfl

/-- The name of the variable makes no difference to what a loop gives and how many iterations it
takes, as long as the body does not use the new name otherwise. -/
theorem Loop.evaluate_rename {x y : String} (hx : x ≠ counterName) (hy : y ≠ counterName)
    (collection : Source) (body : Node) (empty : Option Node) (hAvoids : body.Avoids y)
    (c : Context) :
    let original := Loop.evaluate ⟨.name x, some collection, some body, empty⟩ c
    let other := Loop.evaluate ⟨.name y, some collection, some (body.rename x y), empty⟩ c
    other.1 = original.1 ∧ other.2.iterations = original.2.iterations := by
  intro original other
  -- Both loops read the same collection before the name is bound for the first time.
  obtain ⟨v, after, hRead⟩ : ∃ v after, collection.evaluate c = (v, after) := ⟨_, _, rfl⟩
  have hRun := Pairing.matches_runOver_rename hx hy hAvoids empty after.surroundings v after after
    rfl rfl rfl
  obtain ⟨hResult, hIterations⟩ := hRun.resolve_left id
  have hOriginal : original = runOver x body empty v after := by
    simp only [original, evaluate_complete, andThen, hRead]
  have hOther : other = runOver y (body.rename x y) empty v after := by
    simp only [other, evaluate_complete, andThen, hRead]
  rw [hOriginal, hOther]
  exact ⟨hResult.eq_of_same.symm, hIterations.symm⟩

/-- The label of a row and its cells, which are run over under the name `x`. -/
def Node.labelAndCells (row : String) : Node :=
  .object [("label", .text (.pure ⟨⟨[row, "label"]⟩, [], "x.label", []⟩)),
    ("cells", .loop ⟨.name "x", some (.path ⟨[row, "cells"]⟩),
      some (.text (.pure ⟨⟨["x"]⟩, [], "x", []⟩)), none⟩)]

/-- A loop over rows under a name, where a loop around has bound the name `row`. -/
def Loop.overRows (rows : List Json) (name : String) : LoopResult × Context :=
  Loop.evaluate ⟨.name name, some (.path ⟨["rows"]⟩), some (.labelAndCells name), none⟩
    { Context.start (.object [("rows", .array rows)]) ⟨8, 5⟩ with
      scopes := [[("row", .string "outer")]] }

/-- The row may be called `x` as its cells are, or have a name of its own that is bound outside. -/
theorem Loop.evaluate_labelAndCells :
    let rows : List Json := [
      .object [("label", .string "a"), ("cells", .array [.null, .string "b"])],
      .object [("label", .string "c"), ("cells", .array [])]]
    (Node.labelAndCells "x").Avoids "row" ∧
      (Node.labelAndCells "x").rename "x" "row" = .labelAndCells "row" ∧
      (overRows rows "x").1 = .items rows ∧ (overRows rows "row").1 = .items rows ∧
      (overRows rows "row").2.iterations = 4 := by
  intro rows
  have hAvoids : (Node.labelAndCells "x").Avoids "row" := ⟨by decide, by decide⟩
  have hRename : (Node.labelAndCells "x").rename "x" "row" = .labelAndCells "row" := by cbv
  have hItems : (overRows rows "x").1 = .items rows := by cbv
  have hIterations : (overRows rows "x").2.iterations = 4 := by decide +kernel
  have hSame := Loop.evaluate_rename (x := "x") (y := "row") (by decide) (by decide)
    (.path ⟨["rows"]⟩) (.labelAndCells "x") none hAvoids
    { Context.start (.object [("rows", .array rows)]) ⟨8, 5⟩ with
      scopes := [[("row", .string "outer")]] }
  simp only [hRename, ← overRows.eq_def] at hSame
  exact ⟨hAvoids, hRename, hItems, hSame.1.trans hItems, hSame.2.trans hIterations⟩

end Stencil
