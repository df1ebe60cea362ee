import Stencil.Proofs.Evaluation.Steady

/-!
# What evaluations answer

`Context.Answers` says that an action always answers a value with some property, as long as it runs
in given surroundings. As for two evaluations side by side, there is one rule for each combinator
and for each kind of node.
-/

namespace Stencil

open Context Surroundings

namespace Context

variable {α β : Type}

/-- In these surroundings the action answers nothing but values with the property. -/
structure Answers (V : α → Prop) (s : Surroundings) (a : Action α) : Prop where
  holds : ∀ c : Context, c.surroundings = s → V (a c).1

variable {V : α → Prop} {W : β → Prop} {s : Surroundings}

theorem answers_reading {f : Context → α} (h : ∀ c : Context, c.surroundings = s → V (f c))
    (ns : List Notice) : Answers V s (reading f ns) := ⟨h⟩

theorem answers_give {x : α} (h : V x) : Answers V s (give x) := ⟨fun _ _ => h⟩

theorem answers_andThen {a : Action α} {f : α → Action β} [Steady a] (h : Answers V s a)
    (hNext : ∀ x, V x → Answers W s (f x)) : Answers W s (andThen a f) := by
  refine ⟨fun c hc => ?_⟩
  exact (hNext _ (h.holds c hc)).holds _ ((surroundings_after a c).trans hc)

/-- Whatever the first action answers. -/
theorem answers_after {a : Action α} {f : α → Action β} [Steady a]
    (hNext : ∀ x, Answers W s (f x)) : Answers W s (andThen a f) :=
  answers_andThen (V := fun _ => True) ⟨fun _ _ => trivial⟩ fun x _ => hNext x

theorem answers_withScope {frame : List (String × Json)} {a : Action α}
    (h : Answers V (s.push frame) a) : Answers V s (withScope frame a) := by
  refine ⟨fun c hc => ?_⟩
  subst hc
  exact h.holds { c with scopes := frame :: c.scopes } rfl

theorem answers_descend {V : Option α → Prop} {a : Action (Option α)} (hNone : V none)
    (h : Answers V s.deeper a) : Answers V s (Context.descend a) := by
  refine ⟨fun c hc => ?_⟩
  subst hc
  by_cases hLe : c.limits.maxDepth ≤ c.depth
  · rw [descend_of_le hLe]
    exact hNone
  · rw [descend_of_lt (Nat.lt_of_not_le hLe)]
    exact h.holds { c with depth := c.depth + 1 } rfl

end Context

/-- A property that an array has when its items have it, and the other way round. -/
structure Hereditary (V : Json → Prop) : Prop where
  null : V .null
  array : ∀ {vs : List Json}, V (.array vs) ↔ ∀ v ∈ vs, V v

/-- A node gives nothing but values with the property, by itself and as an item of an array. -/
structure Node.Gives (V : Json → Prop) (s : Surroundings) (node : Node) : Prop where
  evaluate : Answers (fun o => ∀ v ∈ o, V v) s node.evaluate
  contribute : Answers (fun vs => ∀ v ∈ vs, V v) s node.contribute

/-- The same of a loop. -/
def LoopResult.Holds (V : Json → Prop) : LoopResult → Prop
  | .items vs => ∀ v ∈ vs, V v
  | .empty fallback => ∀ v ∈ fallback, V v
  | .skipped => True

variable {V : Json → Prop} {s : Surroundings}

namespace LoopResult.Holds

theorem nested (hV : Hereditary V) {r : LoopResult} (h : r.Holds V) : ∀ v ∈ r.nested, V v := by
  cases r with
  | items vs =>
    rintro _ ⟨⟩
    exact hV.array.2 h
  | empty fallback =>
    cases fallback with
    | none =>
      rintro _ ⟨⟩
      exact hV.array.2 nofun
    | some v => exact h
  | skipped => exact nofun

theorem spliced (hV : Hereditary V) {r : LoopResult} (h : r.Holds V) : ∀ v ∈ r.spliced, V v := by
  cases r with
  | items vs => exact h
  | empty fallback =>
    cases fallback with
    | none => exact nofun
    | some v =>
      have hv : V v := h v rfl
      cases v with
      | null => exact nofun
      | array vs => exact hV.array.1 hv
      | _ => exact List.forall_mem_singleton.2 hv
  | skipped => exact nofun

end LoopResult.Holds

namespace Node

theorem mem_of_mem_contribution {node : Node} {o : Option Json} {v : Json}
    (h : v ∈ node.contribution o) : v ∈ o := by
  rw [contribution.eq_def] at h
  split at h
  · cases h
  · exact Option.mem_toList.1 h

theorem gives_of_evaluate {node : Node} (hNode : ∀ l, node ≠ .loop l)
    (h : Answers (fun o => ∀ v ∈ o, V v) s node.evaluate) : node.Gives V s := by
  refine ⟨h, ?_⟩
  rw [contribute_of_ne_loop hNode]
  apply answers_andThen h
  intro o ho
  exact answers_give fun v hv => ho v (mem_of_mem_contribution hv)

theorem gives_literal {v : Json} (h : V v) : (literal v).Gives V s := by
  refine gives_of_evaluate nofun ?_
  rw [evaluate_literal]
  refine answers_descend nofun ?_
  apply answers_give
  rintro _ ⟨⟩
  exact h

theorem gives_text {content : Interpolation}
    (h : ∀ c : Context, c.surroundings = s.deeper → V (content.value c)) :
    (text content).Gives V s := by
  refine gives_of_evaluate nofun ?_
  rw [evaluate_text, Interpolation.evaluate_eq]
  refine answers_descend nofun ?_
  apply answers_andThen (answers_reading h _)
  intro v hv
  apply answers_give
  rintro _ ⟨⟩
  exact hv

/-- The members have keys of the template and values with the property. -/
theorem answers_evaluateEntries (hV : Hereditary V) {entries : List (String × Node)}
    (h : ∀ e ∈ entries, e.2.Gives V s) :
    Answers (fun ms => ∀ m ∈ ms, m.1 ∈ entries.map Prod.fst ∧ V m.2) s
      (evaluateEntries entries) := by
  induction entries with
  | nil =>
    rw [evaluateEntries_nil]
    exact answers_give nofun
  | cons e rest ih =>
    have hHere := (h e List.mem_cons_self).evaluate
    have hRest := ih fun e he => h e (List.mem_cons_of_mem _ he)
    rw [evaluateEntries_cons]
    apply answers_andThen hHere
    intro o ho
    apply answers_andThen hRest
    intro ms hms
    apply answers_give
    intro m hm
    rcases List.mem_cons.1 hm with rfl | hm
    · refine ⟨List.mem_cons_self, ?_⟩
      cases o with
      | none => exact hV.null
      | some v => exact ho v rfl
    · exact ⟨List.mem_cons_of_mem _ (hms m hm).1, (hms m hm).2⟩

theorem gives_object (hV : Hereditary V) {entries : List (String × Node)}
    (h : ∀ e ∈ entries, e.2.Gives V s.deeper)
    (hObject : ∀ ms : List (String × Json), (∀ m ∈ ms, m.1 ∈ entries.map Prod.fst ∧ V m.2) →
      V (.object ms)) : (object entries).Gives V s := by
  refine gives_of_evaluate nofun ?_
  rw [evaluate_object]
  refine answers_descend nofun ?_
  apply answers_andThen (answers_evaluateEntries hV h)
  intro ms hms
  apply answers_give
  rintro _ ⟨⟩
  exact hObject ms hms

theorem answers_evaluateItems {items : List Node} (h : ∀ item ∈ items, item.Gives V s) :
    Answers (fun vs => ∀ v ∈ vs, V v) s (evaluateItems items) := by
  induction items with
  | nil =>
    rw [evaluateItems_nil]
    exact answers_give nofun
  | cons item rest ih =>
    have hHere := (h item List.mem_cons_self).contribute
    have hRest := ih fun x hx => h x (List.mem_cons_of_mem _ hx)
    rw [evaluateItems_cons]
    apply answers_andThen hHere
    intro here hvs
    apply answers_andThen hRest
    intro vs hRestValues
    exact answers_give (List.forall_mem_append.2 ⟨hvs, hRestValues⟩)

theorem gives_array (hV : Hereditary V) {items : List Node}
    (h : ∀ item ∈ items, item.Gives V s.deeper) : (array items).Gives V s := by
  refine gives_of_evaluate nofun ?_
  rw [evaluate_array]
  refine answers_descend nofun ?_
  apply answers_andThen (answers_evaluateItems h)
  intro vs hvs
  apply answers_give
  rintro _ ⟨⟩
  exact hV.array.2 hvs

theorem answers_evaluateBranch {branch : Option Node} (h : ∀ n ∈ branch, n.Gives V s) :
    Answers (fun o => ∀ v ∈ o, V v) s (evaluateBranch branch) := by
  cases branch with
  | none =>
    rw [evaluateBranch_none]
    exact answers_give nofun
  | some node =>
    rw [evaluateBranch_some]
    exact (h node rfl).evaluate

theorem gives_conditional {condition : Source} {thenBranch elseBranch : Option Node}
    (hThen : ∀ n ∈ thenBranch, n.Gives V s.deeper) (hElse : ∀ n ∈ elseBranch, n.Gives V s.deeper) :
    (conditional ⟨condition, thenBranch, elseBranch⟩).Gives V s := by
  refine gives_of_evaluate nofun ?_
  rw [evaluate_conditional, Conditional.evaluate_eq]
  refine answers_descend nofun ?_
  apply answers_after
  intro holds
  cases holds with
  | false => exact answers_evaluateBranch hElse
  | true => exact answers_evaluateBranch hThen

end Node

/-! ### Loops -/

namespace Loop

theorem answers_iterate {binding : String} {length : Nat} {body : Action (Option Json)}
    [Steady body] (index : Nat) {elements : List Json}
    (h : ∀ index, ∀ element ∈ elements,
      Answers (fun o => ∀ v ∈ o, V v) (s.push (frame binding index length element)) body) :
    Answers (fun vs => ∀ v ∈ vs, V v) s (iterate binding length body index elements) := by
  induction elements generalizing index with
  | nil =>
    rw [iterate_nil]
    exact answers_give nofun
  | cons element rest ih =>
    have hHere := h index element List.mem_cons_self
    have hRest := ih (index + 1) fun i e he => h i e (List.mem_cons_of_mem _ he)
    rw [iterate_cons]
    apply answers_after
    intro granted
    cases granted with
    | false => exact answers_give nofun
    | true =>
      rw [if_pos rfl]
      apply answers_andThen (answers_withScope hHere)
      intro o ho
      apply answers_andThen hRest
      intro vs hvs
      apply answers_give
      exact List.forall_mem_append.2 ⟨fun v hv => ho v (Option.mem_toList.1 hv), hvs⟩

theorem answers_runOver {binding : String} {body : Node} {empty : Option Node} {v : Json}
    (hBody : ∀ elements, v = .array elements → ∀ index length, ∀ element ∈ elements,
      body.Gives V (s.push (frame binding index length element)))
    (hEmpty : ∀ n ∈ empty, n.Gives V s) :
    Answers (LoopResult.Holds V) s (runOver binding body empty v) := by
  rcases runOver_cases binding body empty v with ⟨elements, -, hv, h⟩ | ⟨-, h⟩
  · rw [h, overElements]
    apply answers_andThen (answers_iterate 0 fun i e he => (hBody elements hv i _ e he).evaluate)
    intro vs hvs
    exact answers_give hvs
  · rw [h, overNothing]
    apply answers_after
    intro _
    apply answers_andThen (Node.answers_evaluateBranch hEmpty)
    intro o ho
    exact answers_give ho

end Loop

/-- The body only has to do for what the collection can hold. -/
theorem Node.gives_loop (hV : Hereditary V) {E : Json → Prop} {binding : Binding}
    {collection : Option Source} {body empty : Option Node}
    (hCollection : ∀ source ∈ collection, ∀ c : Context, c.surroundings = s.deeper →
      ∀ elements, source.value c = .array elements → ∀ element ∈ elements, E element)
    (hBody : ∀ n ∈ body, ∀ name index length element, E element →
      n.Gives V (s.deeper.push (Loop.frame name index length element)))
    (hEmpty : ∀ n ∈ empty, n.Gives V s.deeper) :
    (loop ⟨binding, collection, body, empty⟩).Gives V s := by
  have hLoop : Answers (LoopResult.Holds V) s.deeper
      (Loop.evaluate ⟨binding, collection, body, empty⟩) := by
    rcases Loop.complete_or_missing ⟨binding, collection, body, empty⟩ with
      ⟨name, source, node, fallback, hComplete⟩ | hMissing
    · cases hComplete
      rw [Loop.evaluate_complete, Source.evaluate_eq]
      have hValue : Answers (fun v => ∀ elements, v = .array elements → ∀ e ∈ elements, E e)
          s.deeper (reading (fun c => source.value c) source.evaluationNotices) :=
        answers_reading (hCollection source rfl) _
      apply answers_andThen hValue
      intro v hv
      apply Loop.answers_runOver _ hEmpty
      intro elements hElements index length element hElement
      exact hBody node rfl name index length element (hv elements hElements element hElement)
    · rw [Loop.evaluate_incomplete hMissing]
      exact answers_reading (fun _ _ => trivial) _
  constructor
  · rw [evaluate_loop]
    refine answers_descend nofun ?_
    apply answers_andThen hLoop
    intro r hr
    exact answers_give (hr.nested hV)
  · rw [contribute_loop]
    have hInner : Answers (fun o => ∀ r ∈ o, LoopResult.Holds V r) s
        (Context.descend
          (andThen (Loop.evaluate ⟨binding, collection, body, empty⟩) fun r => give (some r))) := by
      refine answers_descend nofun ?_
      apply answers_andThen hLoop
      intro r hr
      apply answers_give
      rintro _ ⟨⟩
      exact hr
    apply answers_andThen hInner
    intro o ho
    cases o with
    | none => exact answers_give nofun
    | some r => exact answers_give (LoopResult.Holds.spliced hV (ho r rfl))

end Stencil
