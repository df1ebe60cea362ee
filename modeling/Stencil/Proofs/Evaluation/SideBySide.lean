import Mathlib.Data.List.Forall2
import Stencil.Proofs.Evaluation.Reading

/-!
# Two evaluations side by side

Statements about two evaluations say how alike their values are and how their usages stand to each
other. `Pairing.Matches` is that relation for actions, in given surroundings on either side. There
is one rule for it for each combinator and for each kind of node, so that a statement about two
evaluations of whole trees is an induction on the tree with one rule in each case.

A pairing may also name usages that spoil the second evaluation. From there on nothing is said any
more; as usage only grows, an evaluation that is not spoiled at its end never was.
-/

namespace Stencil

open Context Surroundings

/-- How alike values are. Items are lists of values inside an array. -/
structure Likeness where
  value : Json → Json → Prop
  items : List Json → List Json → Prop
  value_refl : ∀ v, value v v
  value_array : ∀ {xs ys}, items xs ys → value (.array xs) (.array ys)
  value_object : ∀ {ms ns : List (String × Json)},
    List.Forall₂ (fun m n => m.1 = n.1 ∧ value m.2 n.2) ms ns → value (.object ms) (.object ns)
  items_nil : items [] []
  items_append : ∀ {xs ys xs' ys'}, items xs ys → items xs' ys' → items (xs ++ xs') (ys ++ ys')
  items_singleton : ∀ {x y}, value x y → items [x] [y]
  items_spliced : ∀ {x y}, value x y →
    items (LoopResult.empty (some x)).spliced (LoopResult.empty (some y)).spliced
  null_iff : ∀ {x y}, value x y → (x = .null ↔ y = .null)

namespace Likeness

/-- Values are alike when they are equal. -/
def same : Likeness where
  value := Eq
  items := Eq
  value_refl _ := rfl
  value_array h := congrArg _ h
  value_object h := by
    have hEq : ∀ ms ns : List (String × Json),
        List.Forall₂ (fun m n => m.1 = n.1 ∧ m.2 = n.2) ms ns → ms = ns := by
      intro ms ns h
      induction h with
      | nil => rfl
      | cons hHead _ ih => rw [Prod.ext hHead.1 hHead.2, ih]
    exact congrArg _ (hEq _ _ h)
  items_nil := rfl
  items_append h h' := by rw [h, h']
  items_singleton h := by rw [h]
  items_spliced h := by rw [h]
  null_iff h := by rw [h]

variable (L : Likeness)

def answer : Option Json → Option Json → Prop := Option.Rel L.value

def members : List (String × Json) → List (String × Json) → Prop :=
  List.Forall₂ fun m n => m.1 = n.1 ∧ L.value m.2 n.2

inductive Result : LoopResult → LoopResult → Prop
  | items {xs ys : List Json} : L.items xs ys → Result (.items xs) (.items ys)
  | empty {v w : Option Json} : L.answer v w → Result (.empty v) (.empty w)
  | skipped : Result .skipped .skipped

variable {L}

theorem items_toList {v w : Option Json} (h : L.answer v w) : L.items v.toList w.toList := by
  cases h with
  | none => exact L.items_nil
  | some h => exact L.items_singleton h

theorem value_getD {v w : Option Json} (h : L.answer v w) :
    L.value (v.getD .null) (w.getD .null) := by
  cases h with
  | none => exact L.value_refl .null
  | some h => exact h

theorem items_contribution {v w : Option Json} (h : L.answer v w) (node : Node) :
    L.items (node.contribution v) (node.contribution w) := by
  have hList := items_toList h
  cases node with
  | conditional k =>
    cases h with
    | none => exact hList
    | @some x y h =>
      by_cases hx : x = .null
      · rw [hx, (L.null_iff h).1 hx]
        exact L.items_nil
      · have hy : y ≠ .null := fun hy => hx ((L.null_iff h).2 hy)
        have hKeep {v : Json} (hv : v ≠ .null) :
            (Node.conditional k).contribution (some v) = [v] := by
          cases v <;> first | rfl | exact absurd rfl hv
        rw [hKeep hx, hKeep hy]
        exact hList
  | _ => exact hList

theorem Result.nested {r r' : LoopResult} (h : L.Result r r') : L.answer r.nested r'.nested := by
  cases h with
  | items h => exact .some (L.value_array h)
  | empty h =>
    cases h with
    | none => exact .some (L.value_array L.items_nil)
    | some h => exact .some h
  | skipped => exact .none

theorem Result.spliced {r r' : LoopResult} (h : L.Result r r') : L.items r.spliced r'.spliced := by
  cases h with
  | items h => exact h
  | empty h =>
    cases h with
    | none => exact L.items_nil
    | some h => exact L.items_spliced h
  | skipped => exact L.items_nil

end Likeness

theorem optionRel_same {α : Type} {R : α → α → Prop} {o : Option α} (h : ∀ a ∈ o, R a a) :
    Option.Rel R o o := by
  cases o with
  | none => exact .none
  | some a => exact .some (h a rfl)

theorem optionRel_none_iff {α : Type} {R : α → α → Prop} {o o' : Option α}
    (h : Option.Rel R o o') : o = none ↔ o' = none := by
  cases h <;> simp

theorem eq_of_optionRel {α : Type} {o o' : Option α} (h : Option.Rel Eq o o') : o = o' := by
  cases h with
  | none => rfl
  | some h => rw [h]

/-- How the usages of two evaluations stand to each other, and what spoils the second one. -/
structure Pairing where
  related : Usage → Usage → Prop
  spoiled : Usage → Prop
  spoiled_of_grows : ∀ {u v : Usage}, u.Grows v → spoiled u → spoiled v
  related_noteAll : ∀ {u v : Usage} {ns : List Notice}, (∀ n ∈ ns, n.isRemark = true) →
    related u v → related (u.noteAll ns) (v.noteAll ns)

namespace Pairing

variable {α β γ δ : Type} {P : Pairing} {s t : Surroundings}

/-- Two actions with like answers that keep the usages related, unless the second one is spoiled. -/
def Matches (P : Pairing) (V : α → β → Prop) (s t : Surroundings) (a : Action α) (b : Action β) :
    Prop :=
  ∀ c d : Context, c.surroundings = s → d.surroundings = t → P.related c.usage d.usage →
    P.spoiled (b d).2.usage ∨ V (a c).1 (b d).1 ∧ P.related (a c).2.usage (b d).2.usage

section Combinators

variable {V : α → β → Prop} {W : γ → δ → Prop}

theorem matches_reading {f : Context → α} {g : Context → β} {ns : List Notice}
    (hRead : ∀ c d : Context, c.surroundings = s → d.surroundings = t → V (f c) (g d))
    (hRemarks : ∀ n ∈ ns, n.isRemark = true) :
    P.Matches V s t (reading f ns) (reading g ns) := by
  intro c d hc hd hRel
  exact .inr ⟨hRead c d hc hd, P.related_noteAll hRemarks hRel⟩

theorem matches_interpolation {content : Interpolation} (h : AgreeOn content.heads s t) :
    P.Matches Eq s t content.evaluate content.evaluate := by
  have hValue (c d : Context) (hc : c.surroundings = s) (hd : d.surroundings = t) :
      content.value c = content.value d := by
    subst hc hd
    exact Interpolation.value_congr h
  rw [Interpolation.evaluate_eq]
  exact matches_reading hValue fun n hn => Interpolation.isRemark_of_mem hn

theorem matches_source {source : Source} (h : AgreeOn source.heads s t) :
    P.Matches Eq s t source.evaluate source.evaluate := by
  have hValue (c d : Context) (hc : c.surroundings = s) (hd : d.surroundings = t) :
      source.value c = source.value d := by
    subst hc hd
    exact Source.value_congr h
  rw [Source.evaluate_eq]
  exact matches_reading hValue fun n hn => Source.isRemark_of_mem hn

theorem matches_give {x : α} {y : β} (h : V x y) : P.Matches V s t (give x) (give y) := by
  intro c d _ _ hRel
  exact .inr ⟨h, hRel⟩

theorem matches_andThen {a : Action α} {b : Action β} {f : α → Action γ} {g : β → Action δ}
    [Steady a] [Steady b] [∀ y, Steady (g y)] (h : P.Matches V s t a b)
    (hNext : ∀ x y, V x y → P.Matches W s t (f x) (g y)) :
    P.Matches W s t (andThen a f) (andThen b g) := by
  intro c d hc hd hRel
  rcases h c d hc hd hRel with hSpoiled | ⟨hV, hMiddle⟩
  · exact .inl (P.spoiled_of_grows (usage_grows (g (b d).1) (b d).2) hSpoiled)
  · have hc' := (surroundings_after a c).trans hc
    have hd' := (surroundings_after b d).trans hd
    exact hNext _ _ hV _ _ hc' hd' hMiddle

theorem matches_withScope {frame frame' : List (String × Json)} {a : Action α} {b : Action β}
    (h : P.Matches V (s.push frame) (t.push frame') a b) :
    P.Matches V s t (withScope frame a) (withScope frame' b) := by
  intro c d hc hd hRel
  subst hc hd
  exact h { c with scopes := frame :: c.scopes } { d with scopes := frame' :: d.scopes }
    rfl rfl hRel

/-- Operands with the same value have the same truth. -/
theorem matches_test {a b : Source} (h : P.Matches Eq s t a.evaluate b.evaluate) :
    P.Matches Eq s t a.test b.test := by
  rw [a.test_eq, b.test_eq]
  apply matches_andThen h
  rintro v _ rfl
  exact matches_give rfl

/-- Descending keeps actions matched, be it granted or refused. -/
structure Descends (P : Pairing) (s t : Surroundings) : Prop where
  descend : ∀ {α β : Type} {V : Option α → Option β → Prop} {a : Action (Option α)}
    {b : Action (Option β)}, V none none → P.Matches V s.deeper t.deeper a b →
      P.Matches V s t (Context.descend a) (Context.descend b)

theorem descends_of_lt (hs : s.depth < s.limits.maxDepth) (ht : t.depth < t.limits.maxDepth) :
    P.Descends s t := by
  refine ⟨fun _ h c d hc hd hRel => ?_⟩
  subst hc hd
  rw [descend_of_lt hs, descend_of_lt ht]
  exact h { c with depth := c.depth + 1 } { d with depth := d.depth + 1 } rfl rfl hRel

/-- At the same depth under the same bound, both are granted or both refused. -/
theorem descends_of_eq (hDepth : s.depth = t.depth) (hMax : s.limits.maxDepth = t.limits.maxDepth)
    (hNote : ∀ {u v n}, P.related u v →
      P.related (u.noteAll [.depthExceeded n]) (v.noteAll [.depthExceeded n])) :
    P.Descends s t := by
  by_cases hLt : s.depth < s.limits.maxDepth
  · exact descends_of_lt hLt (by omega)
  · refine ⟨fun hNone _ c d hc hd hRel => ?_⟩
    subst hc hd
    have hc : c.limits.maxDepth ≤ c.depth := Nat.le_of_not_lt hLt
    have hd : d.limits.maxDepth ≤ d.depth := by
      have hDepth : c.depth = d.depth := hDepth
      have hMax : c.limits.maxDepth = d.limits.maxDepth := hMax
      omega
    have hMax : c.limits.maxDepth = d.limits.maxDepth := hMax
    rw [descend_of_le hc, descend_of_le hd, hMax]
    exact .inr ⟨hNone, hNote hRel⟩

/-- With the same budget and the same iterations used, both are granted or both refused. -/
theorem matches_consume (hMax : s.limits.maxIterations = t.limits.maxIterations)
    (hSame : ∀ {u v}, P.related u v → u.iterations = v.iterations)
    (hGrant : ∀ {u v}, P.related u v → P.related u.grant v.grant)
    (hRefuse : ∀ {u v n}, P.related u v → P.related (u.refuse n) (v.refuse n)) :
    P.Matches Eq s t consume consume := by
  intro c d hc hd hRel
  subst hc hd
  have hMax : c.limits.maxIterations = d.limits.maxIterations := hMax
  have hSame : c.iterations = d.iterations := hSame hRel
  right
  by_cases hLt : c.iterations < c.limits.maxIterations
  · rw [consume_of_lt hLt, consume_of_lt (by omega)]
    exact ⟨rfl, hGrant hRel⟩
  · rw [consume_of_le (by omega), consume_of_le (by omega)]
    refine ⟨rfl, ?_⟩
    rw [usage_refused, usage_refused, hMax]
    exact hRefuse hRel

end Combinators

variable {L : Likeness}

theorem Descends.descendItems (hDescends : P.Descends s t) {a b : Action (List Json)} [Steady a]
    [Steady b] (h : P.Matches L.items s.deeper t.deeper a b) :
    P.Matches L.items s t (Context.descendItems a) (Context.descendItems b) := by
  have hInner : P.Matches (Option.Rel L.items) s t
      (Context.descend (andThen a fun vs => give (some vs)))
      (Context.descend (andThen b fun vs => give (some vs))) := by
    apply hDescends.descend .none
    apply matches_andThen h
    intro vs ws hItems
    exact matches_give (.some hItems)
  apply matches_andThen hInner
  intro o o' hOption
  cases hOption with
  | none => exact matches_give L.items_nil
  | some hItems => exact matches_give hItems

/-! ### Lists of nodes -/

/-- Both ways to use a node match: by itself and as an item of an array. -/
structure Alike (P : Pairing) (L : Likeness) (s t : Surroundings) (x y : Node) : Prop where
  evaluate : P.Matches L.answer s t x.evaluate y.evaluate
  contribute : P.Matches L.items s t x.contribute y.contribute

theorem matches_evaluateEntries {entries entries' : List (String × Node)}
    (h : List.Forall₂ (fun e f => e.1 = f.1 ∧ P.Alike L s t e.2 f.2) entries entries') :
    P.Matches L.members s t (Node.evaluateEntries entries) (Node.evaluateEntries entries') := by
  induction h with
  | nil =>
    rw [Node.evaluateEntries_nil]
    exact matches_give .nil
  | @cons e f rest rest' hHead _ ih =>
    rw [Node.evaluateEntries_cons, Node.evaluateEntries_cons]
    apply matches_andThen hHead.2.evaluate
    intro v w hvw
    apply matches_andThen ih
    intro ms ns hMembers
    exact matches_give (.cons ⟨hHead.1, Likeness.value_getD hvw⟩ hMembers)

theorem matches_evaluateItems {items items' : List Node}
    (h : List.Forall₂ (P.Alike L s t) items items') :
    P.Matches L.items s t (Node.evaluateItems items) (Node.evaluateItems items') := by
  induction h with
  | nil =>
    rw [Node.evaluateItems_nil]
    exact matches_give L.items_nil
  | cons hHead _ ih =>
    rw [Node.evaluateItems_cons, Node.evaluateItems_cons]
    apply matches_andThen hHead.contribute
    intro xs ys hHere
    apply matches_andThen ih
    intro xs' ys' hRest
    exact matches_give (L.items_append hHere hRest)

theorem matches_evaluateBranch {branch branch' : Option Node}
    (h : Option.Rel (P.Alike L s t) branch branch') :
    P.Matches L.answer s t (Node.evaluateBranch branch) (Node.evaluateBranch branch') := by
  cases h with
  | none =>
    rw [Node.evaluateBranch_none]
    exact matches_give .none
  | some h =>
    rw [Node.evaluateBranch_some, Node.evaluateBranch_some]
    exact h.evaluate

/-! ### Loops -/

/-- Running over the same elements keeps bodies matched. -/
structure Iterates (P : Pairing) (L : Likeness) (s t : Surroundings) : Prop where
  iterate : ∀ {binding : String} {length : Nat} {body body' : Action (Option Json)}
    [Steady body] [Steady body'] (index : Nat) (elements : List Json),
    (∀ index element, P.Matches L.answer (s.push (Loop.frame binding index length element))
      (t.push (Loop.frame binding index length element)) body body') →
    P.Matches L.items s t (Loop.iterate binding length body index elements)
      (Loop.iterate binding length body' index elements)

/-- One granted iteration and what comes after it. -/
theorem matches_iteration {frame frame' : List (String × Json)} {body body' : Action (Option Json)}
    {rest rest' : Action (List Json)} [Steady body] [Steady body'] [Steady rest] [Steady rest']
    (hBody : P.Matches L.answer (s.push frame) (t.push frame') body body')
    (hRest : P.Matches L.items s t rest rest') :
    P.Matches L.items s t
      (andThen (withScope frame body) fun v => andThen rest fun vs => give (v.toList ++ vs))
      (andThen (withScope frame' body') fun v => andThen rest' fun vs => give (v.toList ++ vs)) := by
  apply matches_andThen (matches_withScope hBody)
  intro v w hvw
  apply matches_andThen hRest
  intro xs ys hItems
  exact matches_give (L.items_append (Likeness.items_toList hvw) hItems)

/-- Taking iterations in lockstep is enough, also where the scopes of the iterations differ. -/
theorem matches_iterate {binding binding' : String} {length length' : Nat}
    {body body' : Action (Option Json)} [Steady body] [Steady body']
    (h : P.Matches Eq s t consume consume) (index index' : Nat) (elements : List Json)
    (hBody : ∀ k element, P.Matches L.answer
      (s.push (Loop.frame binding (index + k) length element))
      (t.push (Loop.frame binding' (index' + k) length' element)) body body') :
    P.Matches L.items s t (Loop.iterate binding length body index elements)
      (Loop.iterate binding' length' body' index' elements) := by
  induction elements generalizing index index' with
  | nil =>
    rw [Loop.iterate_nil, Loop.iterate_nil]
    exact matches_give L.items_nil
  | cons element rest ih =>
    rw [Loop.iterate_cons, Loop.iterate_cons]
    have hRest := ih (index + 1) (index' + 1) fun k e => by
      rw [Nat.add_right_comm index, Nat.add_right_comm index']
      exact hBody (k + 1) e
    apply matches_andThen h
    rintro granted _ rfl
    cases granted with
    | false => exact matches_give L.items_nil
    | true => exact matches_iteration (hBody 0 element) hRest

theorem iterates_of_consume (h : P.Matches Eq s t consume consume) : P.Iterates L s t :=
  ⟨fun index elements hBody => matches_iterate h index index elements fun k e => hBody (index + k) e⟩

/-- Loops over one value match if their iterations do and, where there are none, their notices and
their fallbacks. -/
theorem matches_runOvers {binding binding' : String} {body body' : Node}
    {empty empty' : Option Node}
    (hRun : ∀ elements, P.Matches L.items s t
      (Loop.iterate binding elements.length body.evaluate 0 elements)
      (Loop.iterate binding' elements.length body'.evaluate 0 elements))
    (hNotices : ∀ v, P.Matches Eq s t (reading (fun _ => ()) (Loop.collectionNotices binding v))
      (reading (fun _ => ()) (Loop.collectionNotices binding' v)))
    (hEmpty : Option.Rel (P.Alike L s t) empty empty') (v : Json) :
    P.Matches L.Result s t (Loop.runOver binding body empty v)
      (Loop.runOver binding' body' empty' v) := by
  rcases Loop.runOver_cases binding body empty v with ⟨elements, hne, rfl, h⟩ | ⟨hv, h⟩
  · obtain ⟨element, rest, rfl⟩ := List.exists_cons_of_ne_nil hne
    apply matches_andThen (hRun (element :: rest))
    intro xs ys hItems
    exact matches_give (.items hItems)
  · rcases Loop.runOver_cases binding' body' empty' v with ⟨elements, hne, hv', -⟩ | ⟨-, h'⟩
    · exact absurd hv' (hv elements hne)
    · rw [h, h']
      apply matches_andThen (hNotices v)
      intro _ _ _
      apply matches_andThen (matches_evaluateBranch hEmpty)
      intro v w hvw
      exact matches_give (.empty hvw)

theorem matches_runOver {binding : String} {body body' : Node} {empty empty' : Option Node}
    (hIterates : P.Iterates L s t)
    (hBody : ∀ index length element, P.Alike L (s.push (Loop.frame binding index length element))
      (t.push (Loop.frame binding index length element)) body body')
    (hEmpty : Option.Rel (P.Alike L s t) empty empty') (v : Json) :
    P.Matches L.Result s t (Loop.runOver binding body empty v)
      (Loop.runOver binding body' empty' v) := by
  apply matches_runOvers _ _ hEmpty
  · exact fun elements => hIterates.iterate 0 elements fun index e => (hBody index _ e).evaluate
  · exact fun v => matches_reading (V := Eq) (fun _ _ _ _ => rfl) fun n hn =>
      Loop.isRemark_of_mem hn

/-- Loops that lack the same keys say so and do nothing else. -/
theorem matches_loop_of_missing {l l' : Loop} (hMissing : l.missing ≠ [])
    (hSame : l'.missing = l.missing) : P.Matches L.Result s t l.evaluate l'.evaluate := by
  rw [Loop.evaluate_incomplete hMissing, Loop.evaluate_incomplete (hSame ▸ hMissing), hSame]
  apply matches_reading
  · exact fun _ _ _ _ => .skipped
  · simp [Notice.isRemark]

/-- Loops whose collections have the same values. -/
theorem matches_loops {binding : Binding} {collection collection' : Option Source}
    {body body' empty empty' : Option Node}
    (hIterates : P.Iterates L s t)
    (hCollection : Option.Rel (fun source source' => P.Matches Eq s t source.evaluate
      source'.evaluate) collection collection')
    (hBody : Option.Rel (fun n n' => ∀ name ∈ binding.name?, ∀ index length element,
      P.Alike L (s.push (Loop.frame name index length element))
        (t.push (Loop.frame name index length element)) n n') body body')
    (hEmpty : Option.Rel (P.Alike L s t) empty empty') :
    P.Matches L.Result s t (Loop.evaluate ⟨binding, collection, body, empty⟩)
      (Loop.evaluate ⟨binding, collection', body', empty'⟩) := by
  rcases Loop.complete_or_missing ⟨binding, collection, body, empty⟩ with
    ⟨name, source, node, fallback, hComplete⟩ | hMissing
  · cases hComplete
    cases hCollection with
    | some hSource =>
      cases hBody with
      | some hBody =>
        rw [Loop.evaluate_complete, Loop.evaluate_complete]
        apply matches_andThen hSource
        rintro v _ rfl
        exact matches_runOver hIterates (hBody name rfl) hEmpty v
  · apply matches_loop_of_missing hMissing
    cases hCollection <;> cases hBody <;> rfl

theorem matches_loop {binding : Binding} {collection : Option Source}
    {body body' empty empty' : Option Node}
    (hIterates : P.Iterates L s t)
    (hCollection : ∀ source ∈ collection, AgreeOn source.heads s t)
    (hBody : Option.Rel (fun n n' => ∀ name ∈ binding.name?, ∀ index length element,
      P.Alike L (s.push (Loop.frame name index length element))
        (t.push (Loop.frame name index length element)) n n') body body')
    (hEmpty : Option.Rel (P.Alike L s t) empty empty') :
    P.Matches L.Result s t (Loop.evaluate ⟨binding, collection, body, empty⟩)
      (Loop.evaluate ⟨binding, collection, body', empty'⟩) := by
  apply matches_loops hIterates _ hBody hEmpty
  exact optionRel_same fun source hSource => matches_source (hCollection source hSource)

/-! ### Nodes -/

/-- As an item, a node that is no loop adds what its value calls for. -/
theorem alike_of_evaluate {x y : Node} (hx : ∀ l, x ≠ .loop l) (hy : ∀ l, y ≠ .loop l)
    (hxy : ∀ v, x.contribution v = y.contribution v)
    (h : P.Matches L.answer s t x.evaluate y.evaluate) : P.Alike L s t x y := by
  refine ⟨h, ?_⟩
  rw [Node.contribute_of_ne_loop hx, Node.contribute_of_ne_loop hy]
  apply matches_andThen h
  intro v w hvw
  rw [hxy v]
  exact matches_give (Likeness.items_contribution hvw y)

theorem alike_literal (hDescends : P.Descends s t) (v : Json) :
    P.Alike L s t (.literal v) (.literal v) := by
  refine alike_of_evaluate nofun nofun (fun _ => rfl) ?_
  rw [Node.evaluate_literal]
  exact hDescends.descend .none (matches_give (.some (L.value_refl v)))

/-- Texts whose placeholders have the same values. -/
theorem alike_texts (hDescends : P.Descends s t) {content content' : Interpolation}
    (h : P.Matches Eq s.deeper t.deeper content.evaluate content'.evaluate) :
    P.Alike L s t (.text content) (.text content') := by
  refine alike_of_evaluate nofun nofun (fun _ => rfl) ?_
  rw [Node.evaluate_text, Node.evaluate_text]
  apply hDescends.descend .none
  apply matches_andThen h
  rintro v _ rfl
  exact matches_give (.some (L.value_refl v))

theorem alike_text (hDescends : P.Descends s t) {content : Interpolation}
    (hHeads : AgreeOn content.heads s t) : P.Alike L s t (.text content) (.text content) :=
  alike_texts hDescends (matches_interpolation hHeads.deeper)

theorem alike_object (hDescends : P.Descends s t) {entries entries' : List (String × Node)}
    (h : List.Forall₂ (fun e f => e.1 = f.1 ∧ P.Alike L s.deeper t.deeper e.2 f.2)
      entries entries') : P.Alike L s t (.object entries) (.object entries') := by
  refine alike_of_evaluate nofun nofun (fun _ => rfl) ?_
  rw [Node.evaluate_object, Node.evaluate_object]
  apply hDescends.descend .none
  apply matches_andThen (matches_evaluateEntries h)
  intro ms ns hMembers
  exact matches_give (.some (L.value_object hMembers))

theorem alike_array (hDescends : P.Descends s t) {items items' : List Node}
    (h : List.Forall₂ (P.Alike L s.deeper t.deeper) items items') :
    P.Alike L s t (.array items) (.array items') := by
  refine alike_of_evaluate nofun nofun (fun _ => rfl) ?_
  rw [Node.evaluate_array, Node.evaluate_array]
  apply hDescends.descend .none
  apply matches_andThen (matches_evaluateItems h)
  intro xs ys hItems
  exact matches_give (.some (L.value_array hItems))

theorem alike_loop (hDescends : P.Descends s t) {l l' : Loop}
    (h : P.Matches L.Result s.deeper t.deeper l.evaluate l'.evaluate) :
    P.Alike L s t (.loop l) (.loop l') := by
  constructor
  · rw [Node.evaluate_loop, Node.evaluate_loop]
    apply hDescends.descend .none
    apply matches_andThen h
    intro r r' hResult
    exact matches_give hResult.nested
  · rw [Node.contribute_loop_eq_descendItems, Node.contribute_loop_eq_descendItems]
    apply hDescends.descendItems
    apply matches_andThen h
    intro r r' hResult
    exact matches_give hResult.spliced

/-- Conditionals whose operands have the same value. -/
theorem alike_conditionals (hDescends : P.Descends s t) {condition condition' : Source}
    {thenBranch thenBranch' elseBranch elseBranch' : Option Node}
    (hCondition : P.Matches Eq s.deeper t.deeper condition.evaluate condition'.evaluate)
    (hThen : Option.Rel (P.Alike L s.deeper t.deeper) thenBranch thenBranch')
    (hElse : Option.Rel (P.Alike L s.deeper t.deeper) elseBranch elseBranch') :
    P.Alike L s t (.conditional ⟨condition, thenBranch, elseBranch⟩)
      (.conditional ⟨condition', thenBranch', elseBranch'⟩) := by
  have hSame (v : Option Json) :
      (Node.conditional ⟨condition, thenBranch, elseBranch⟩).contribution v =
        (Node.conditional ⟨condition', thenBranch', elseBranch'⟩).contribution v := by
    rcases v with _ | v
    · rfl
    · cases v <;> rfl
  refine alike_of_evaluate nofun nofun hSame ?_
  rw [Node.evaluate_conditional, Node.evaluate_conditional, Conditional.evaluate_eq,
    Conditional.evaluate_eq]
  apply hDescends.descend .none
  apply matches_andThen (matches_test hCondition)
  rintro holds _ rfl
  cases holds with
  | false => exact matches_evaluateBranch hElse
  | true => exact matches_evaluateBranch hThen

theorem alike_conditional (hDescends : P.Descends s t) {condition : Source}
    {thenBranch thenBranch' elseBranch elseBranch' : Option Node}
    (hHeads : AgreeOn condition.heads s t)
    (hThen : Option.Rel (P.Alike L s.deeper t.deeper) thenBranch thenBranch')
    (hElse : Option.Rel (P.Alike L s.deeper t.deeper) elseBranch elseBranch') :
    P.Alike L s t (.conditional ⟨condition, thenBranch, elseBranch⟩)
      (.conditional ⟨condition, thenBranch', elseBranch'⟩) :=
  alike_conditionals hDescends (matches_source hHeads.deeper) hThen hElse

end Pairing
end Stencil
