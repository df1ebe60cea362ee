import Mathlib
import Stencil.Proofs.Evaluation.Splicing
import Stencil.Proofs.Evaluation.Values
import Stencil.Proofs.Trees
import Stencil.Template

/-!
# Notices that were given before

Building a template and evaluating it find unknown filters and incomplete loops in different ways.
Whatever an evaluation says about them has a forerunner among the notices of the template: every
text and every loop that an evaluation comes to was seen when the template was built.
-/

namespace Stencil

open Context

namespace Notice

/-- What is said of a template for the same reason when it is built. -/
def forerunner? : Notice → Option Notice
  | .passedUnknownFilter name source => some (.unknownFilter name source)
  | .skippedLoop missing => some (.incompleteLoop missing)
  | _ => none

/-- The forerunner, if there has to be one, is among the given notices. -/
def Foretold (said : List Notice) (n : Notice) : Prop := ∀ m ∈ n.forerunner?, m ∈ said

theorem foretold_of_none {said : List Notice} {n : Notice} (h : n.forerunner? = none) :
    n.Foretold said := by
  intro m hm
  rw [h] at hm
  cases hm

end Notice

/-- Everything that an action notes was foretold. -/
def Context.Repeats {α : Type} (said : List Notice) (a : Action α) : Prop :=
  ∀ c : Context, ∀ n ∈ (a c).2.log, n ∈ c.log ∨ n.Foretold said

section Rules

variable {α β : Type} {said more : List Notice} {a : Action α}

theorem Context.Repeats.mono (h : Repeats said a) (hMore : said ⊆ more) : Repeats more a :=
  fun c n hn => (h c n hn).imp_right fun hForetold m hm => hMore (hForetold m hm)

theorem repeats_reading {f : Context → α} {ns : List Notice} (h : ∀ n ∈ ns, n.Foretold said) :
    Repeats said (reading f ns) := by
  intro c n hn
  rcases List.mem_append.1 hn with hNew | hOld
  · exact .inr (h n (List.mem_reverse.1 hNew))
  · exact .inl hOld

theorem repeats_give (x : α) : Repeats said (give x) := fun _ _ hn => .inl hn

theorem repeats_andThen {next : α → Action β} (h : Repeats said a)
    (hNext : ∀ x, Repeats said (next x)) : Repeats said (andThen a next) := by
  intro c n hn
  rcases hNext (a c).1 (a c).2 n hn with hFirst | hForetold
  · exact h c n hFirst
  · exact .inr hForetold

theorem repeats_withScope (h : Repeats said a) (frame : List (String × Json)) :
    Repeats said (withScope frame a) :=
  fun c => h { c with scopes := frame :: c.scopes }

theorem repeats_descend {a : Action (Option α)} (h : Repeats said a) :
    Repeats said (descend a) := by
  intro c n hn
  by_cases hLe : c.limits.maxDepth ≤ c.depth
  · rw [descend_of_le hLe] at hn
    rcases List.mem_cons.1 hn with rfl | hOld
    · exact .inr (Notice.foretold_of_none rfl)
    · exact .inl hOld
  · rw [descend_of_lt (Nat.lt_of_not_le hLe)] at hn
    exact h { c with depth := c.depth + 1 } n hn

theorem repeats_consume : Repeats said consume := by
  intro c n hn
  rw [consume] at hn
  split at hn
  · split at hn
    · exact .inl hn
    · rcases List.mem_cons.1 hn with rfl | hOld
      · exact .inr (Notice.foretold_of_none rfl)
      · exact .inl hOld
  · exact .inl hn

end Rules

/-! ### Texts -/

theorem Interpolation.foretold_evaluationNotices (content : Interpolation) :
    ∀ n ∈ content.evaluationNotices, n.Foretold content.notices := by
  intro n hn
  obtain ⟨e, he, hName⟩ := List.mem_flatMap.1 hn
  obtain ⟨name, hUnknown, rfl⟩ := List.mem_map.1 hName
  rintro m ⟨⟩
  apply List.mem_append_right
  exact List.mem_flatMap.2 ⟨e, he, List.mem_map_of_mem hUnknown⟩

theorem Source.foretold_evaluationNotices (s : Source) :
    ∀ n ∈ s.evaluationNotices, n.Foretold s.notices := by
  cases s with
  | text content => exact content.foretold_evaluationNotices
  | path p => exact List.forall_mem_nil _
  | literal v => exact List.forall_mem_nil _

theorem Source.repeats_evaluate (s : Source) : Repeats s.notices s.evaluate := by
  rw [s.evaluate_eq]
  exact repeats_reading s.foretold_evaluationNotices

theorem Source.repeats_test (s : Source) : Repeats s.notices s.test := by
  rw [s.test_eq]
  exact repeats_andThen s.repeats_evaluate fun v => repeats_give _

/-! ### Nodes -/

variable {said : List Notice}

namespace Node

theorem repeats_evaluateEach {nodes : List Node} (h : ∀ n ∈ nodes, Repeats said n.evaluate) :
    Repeats said (evaluateEach nodes) := by
  induction nodes with
  | nil => exact repeats_give []
  | cons node rest ih =>
    apply repeats_andThen (h node List.mem_cons_self)
    intro v
    apply repeats_andThen (ih fun n hn => h n (List.mem_cons_of_mem _ hn))
    exact fun vs => repeats_give _

theorem repeats_evaluateBranch {branch : Option Node} (h : ∀ n ∈ branch, Repeats said n.evaluate) :
    Repeats said (evaluateBranch branch) := by
  cases branch with
  | none =>
    rw [evaluateBranch_none]
    exact repeats_give none
  | some node =>
    rw [evaluateBranch_some]
    exact h node rfl

end Node

namespace Loop

theorem repeats_iterate {body : Action (Option Json)} (h : Repeats said body) (binding : String)
    (length index : Nat) (elements : List Json) :
    Repeats said (iterate binding length body index elements) := by
  induction elements generalizing index with
  | nil =>
    rw [iterate_nil]
    exact repeats_give []
  | cons element rest ih =>
    rw [iterate_cons]
    apply repeats_andThen repeats_consume
    intro granted
    cases granted with
    | false => exact repeats_give []
    | true =>
      rw [if_pos rfl]
      apply repeats_andThen (repeats_withScope h _)
      intro v
      exact repeats_andThen (ih (index + 1)) fun vs => repeats_give _

theorem foretold_collectionNotices (binding : String) (v : Json) :
    ∀ n ∈ collectionNotices binding v, n.Foretold said := by
  have hNone (kind : String) : ∀ n ∈ [Notice.notAnArray binding kind], n.Foretold said :=
    List.forall_mem_singleton.2 (Notice.foretold_of_none rfl)
  cases v with
  | null => exact List.forall_mem_nil _
  | array items => exact List.forall_mem_nil _
  | _ => exact hNone _

theorem repeats_runOver {body : Node} {empty : Option Node} (hBody : Repeats said body.evaluate)
    (hEmpty : ∀ n ∈ empty, Repeats said n.evaluate) (binding : String) (v : Json) :
    Repeats said (runOver binding body empty v) := by
  rcases runOver_cases binding body empty v with ⟨elements, -, -, h⟩ | ⟨-, h⟩
  · rw [h, overElements]
    exact repeats_andThen (repeats_iterate hBody _ _ _ _) fun vs => repeats_give _
  · rw [h, overNothing]
    apply repeats_andThen (repeats_reading (foretold_collectionNotices binding v))
    intro _
    exact repeats_andThen (Node.repeats_evaluateBranch hEmpty) fun v => repeats_give _

/-- A loop repeats what was said of it, of its body and of its fallback. -/
theorem repeats_evaluate {l : Loop} (hOwn : (Node.loop l).ownNotices ⊆ said)
    (hBody : ∀ n ∈ l.body, Repeats said n.evaluate)
    (hEmpty : ∀ n ∈ l.empty, Repeats said n.evaluate) : Repeats said l.evaluate := by
  rcases l.complete_or_missing with ⟨binding, collection, body, empty, rfl⟩ | hMissing
  · rw [evaluate_complete]
    apply repeats_andThen
    · apply collection.repeats_evaluate.mono
      intro n hn
      exact hOwn (List.mem_append_left _ (List.mem_append_right _ hn))
    · exact repeats_runOver (hBody body rfl) hEmpty binding
  · rw [evaluate_incomplete hMissing]
    apply repeats_reading
    rw [List.forall_mem_singleton]
    rintro m ⟨⟩
    -- The same keys are missing in both notices, and there are some.
    apply hOwn
    apply List.mem_append_right
    rw [missingNotices, if_neg hMissing]
    exact List.mem_singleton_self _

end Loop

namespace Node

theorem ownNotices_subset (node : Node) : node.ownNotices ⊆ node.notices :=
  fun _ hn => mem_notices_iff.2 (.inl hn)

theorem notices_subset {node child : Node} (h : child ∈ node.children) :
    child.notices ⊆ node.notices :=
  fun _ hn => mem_notices_iff.2 (.inr ⟨child, h, hn⟩)

/-- An evaluation repeats what was said of the tree. -/
theorem repeats_evaluate {node : Node} (h : node.notices ⊆ said) : Repeats said node.evaluate := by
  -- Children are evaluated in several ways, but what was said of them was said of the tree.
  have hChild {node child : Node} (h : node.notices ⊆ said) (hMem : child ∈ node.children) :
      child.notices ⊆ said := fun n hn => h (notices_subset hMem hn)
  induction node with
  | literal v =>
    rw [evaluate_literal]
    exact repeats_descend (repeats_give _)
  | text content =>
    rw [evaluate_text, content.evaluate_eq]
    apply repeats_descend
    apply repeats_andThen
    · exact (repeats_reading content.foretold_evaluationNotices).mono h
    · exact fun v => repeats_give _
  | object entries ih =>
    have hEach : ∀ n ∈ entries.map Prod.snd, Repeats said n.evaluate := by
      rw [List.forall_mem_map]
      exact fun e he => ih e he (hChild h (List.mem_map_of_mem he))
    rw [evaluate_object, evaluateEntries_eq_each]
    apply repeats_descend
    apply repeats_andThen
    · exact repeats_andThen (repeats_evaluateEach hEach) fun vs => repeats_give _
    · exact fun ms => repeats_give _
  | array items ih =>
    have hEach : ∀ n ∈ items, Repeats said n.evaluate :=
      fun item hItem => ih item hItem (hChild h hItem)
    rw [evaluate_array, evaluateItems_eq_joined]
    apply repeats_descend
    apply repeats_andThen
    · exact repeats_andThen (repeats_evaluateEach hEach) fun vs => repeats_give _
    · exact fun vs => repeats_give _
  | loop binding collection body empty ihBody ihEmpty =>
    rw [evaluate_loop]
    apply repeats_descend
    apply repeats_andThen
    · apply Loop.repeats_evaluate fun n hn => h (ownNotices_subset _ hn)
      · intro n hn
        exact ihBody n hn (hChild h (List.mem_append_left _ (Option.mem_toList.2 hn)))
      · intro n hn
        exact ihEmpty n hn (hChild h (List.mem_append_right _ (Option.mem_toList.2 hn)))
    · exact fun r => repeats_give _
  | conditional condition thenBranch elseBranch ihThen ihElse =>
    have hThen : ∀ n ∈ thenBranch, Repeats said n.evaluate := fun n hn =>
      ihThen n hn (hChild h (List.mem_append_left _ (Option.mem_toList.2 hn)))
    have hElse : ∀ n ∈ elseBranch, Repeats said n.evaluate := fun n hn =>
      ihElse n hn (hChild h (List.mem_append_right _ (Option.mem_toList.2 hn)))
    rw [evaluate_conditional, Conditional.evaluate_eq]
    apply repeats_descend
    apply repeats_andThen
    · apply condition.repeats_test.mono
      exact fun n hn => h (ownNotices_subset _ hn)
    · intro holds
      cases holds with
      | false => exact repeats_evaluateBranch hElse
      | true => exact repeats_evaluateBranch hThen

end Node

namespace Template

theorem foretold_of_mem {t : Template} {data : Json} {n : Notice}
    (hn : n ∈ (t.evaluate data).notices) : n.Foretold t.buildNotices := by
  intro m hm
  rcases List.mem_append.1 hn with hLog | hEnd
  · have hRepeats := Node.repeats_evaluate (List.Subset.refl t.root.notices)
      (.start data t.limits) n (List.mem_reverse.1 hLog)
    exact List.mem_append_left _ (hRepeats.resolve_left List.not_mem_nil m hm)
  · cases List.mem_singleton.1 hEnd
    cases hm

/-- Whatever an evaluation says of an unknown filter or of an incomplete loop, the same was said
when the template was built. A template that was built without a warning leaves nothing to say. -/
theorem notices_foretold (t : Template) (data : Json) :
    (∀ name source, .passedUnknownFilter name source ∈ (t.evaluate data).notices →
      .unknownFilter name source ∈ t.buildNotices) ∧
    (∀ missing, .skippedLoop missing ∈ (t.evaluate data).notices →
      .incompleteLoop missing ∈ t.buildNotices) ∧
    ((∀ n ∈ t.buildNotices, n.level ≠ .warn) →
      (∀ name source, .passedUnknownFilter name source ∉ (t.evaluate data).notices) ∧
        ∀ missing, .skippedLoop missing ∉ (t.evaluate data).notices) := by
  have hFilter (name source : String)
      (h : .passedUnknownFilter name source ∈ (t.evaluate data).notices) :
      .unknownFilter name source ∈ t.buildNotices := foretold_of_mem h _ rfl
  have hLoop (missing : List String) (h : .skippedLoop missing ∈ (t.evaluate data).notices) :
      .incompleteLoop missing ∈ t.buildNotices := foretold_of_mem h _ rfl
  refine ⟨hFilter, hLoop, fun hQuiet => ⟨fun name source h => ?_, fun missing h => ?_⟩⟩
  · exact hQuiet _ (hFilter name source h) rfl
  · exact hQuiet _ (hLoop missing h) rfl

/-- A loop with an unknown filter in its collection, one in its body, and in its body also a loop
that lacks what to do. -/
def careless : Template :=
  .ofJson (.object [(forKey, .string "x"), (inKey, .string "\x7b\x7b names | shuffle \x7d\x7d"),
    (templateKey, .array [.string "\x7b\x7bx | louder\x7d\x7d!",
      .object [(forKey, .string "y"), (inKey, .string "x")]])]) .standard

/-- A data model with one name. -/
def oneName : Json := .object [("names", .array [.string "a"])]

/-- Everything that an evaluation has to say of it was said before. -/
theorem notices_careless :
    (careless.evaluate oneName).notices = [.passedUnknownFilter "shuffle" "names | shuffle",
        .passedUnknownFilter "louder" "x | louder", .skippedLoop [templateKey], .evaluated 1] ∧
      .unknownFilter "shuffle" "names | shuffle" ∈ careless.buildNotices ∧
      .unknownFilter "louder" "x | louder" ∈ careless.buildNotices ∧
      .incompleteLoop [templateKey] ∈ careless.buildNotices := by
  have hNotices : (careless.evaluate oneName).notices =
      [.passedUnknownFilter "shuffle" "names | shuffle",
        .passedUnknownFilter "louder" "x | louder", .skippedLoop [templateKey], .evaluated 1] := by
    cbv
  obtain ⟨hFilter, hLoop, -⟩ := notices_foretold careless oneName
  rw [hNotices] at hFilter hLoop
  refine ⟨hNotices, hFilter _ _ ?_, hFilter _ _ ?_, hLoop _ ?_⟩
  · exact List.mem_cons_self
  · exact List.mem_cons_of_mem _ List.mem_cons_self
  · exact List.mem_cons_of_mem _ (List.mem_cons_of_mem _ List.mem_cons_self)

end Template
end Stencil
