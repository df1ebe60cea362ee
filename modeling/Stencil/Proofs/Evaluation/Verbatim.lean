import Mathlib
import Stencil.Proofs.Evaluation.Pruning
import Stencil.Proofs.Evaluation.Splicing
import Stencil.Proofs.Json.Height
import Stencil.Proofs.Json.Texts
import Stencil.Proofs.Placeholder.Grammar
import Stencil.Template

/-!
# Values that stand for themselves

A value without a placeholder in a string and without a control key is a template for itself: it is
given back as it is, with its nulls and the order of its keys, and nothing is said about it. For
that the depth has to allow as many levels as the value is high. One level less, and something is
cut off.
-/

namespace Stencil

open Context Json

namespace Node

theorem ofString_of_not_hasPlaceholder {s : String} (h : ¬ Text.HasPlaceholder s.toList) :
    ofString s = .literal (.string s) := by
  rw [ofString, Interpolation.ofText?_eq_none_iff.2 h]

theorem ofMembers_of_not_isControlKey {members : List (String × Json)}
    (h : ∀ m ∈ members, ¬ IsControlKey m.1) (children : List (String × Node)) :
    ofMembers members children = .object children := by
  have hNone (key : String) (hKey : IsControlKey key) : members.lookup key = none := by
    rw [List.lookup_eq_none_iff]
    intro m hm
    rw [bne_iff_ne]
    rintro rfl
    exact h m hm hKey
  rw [ofMembers, hNone forKey (.inl rfl)]
  dsimp only
  rw [hNone ifKey (.inr rfl)]

/-- Nulls stay in an array, and arrays are not taken apart. -/
theorem joined_verbatim {v : Json} (hv : v.Resolved) : (ofJson v).joined (some v) = [v] := by
  cases hv with
  | string h => rw [ofJson, ofString_of_not_hasPlaceholder h]; rfl
  | object hKeys h => rw [ofJson, ofMembers_of_not_isControlKey hKeys]; rfl
  | _ => rfl

theorem notices_verbatim {v : Json} (hv : v.Resolved) : (ofJson v).notices = [] := by
  induction v using Json.induction_children with
  | step v ih =>
    have hInside : ∀ w ∈ v.children, (ofJson w).notices = [] :=
      fun w hw => ih w hw (hv.of_mem_children hw)
    cases hv with
    | string h => rw [ofJson, ofString_of_not_hasPlaceholder h]; rfl
    | array h =>
      rw [ofJson, itemsOfJson_eq_map, notices, itemsNotices_eq_flatMap, List.flatMap_eq_nil_iff]
      exact List.forall_mem_map.2 hInside
    | object hKeys h =>
      rw [ofJson, ofMembers_of_not_isControlKey hKeys, entriesOfJson_eq_map, notices,
        entriesNotices_eq_flatMap, List.map_map, List.flatMap_eq_nil_iff]
      exact List.forall_mem_map.2 (List.forall_mem_map.1 hInside)
    | _ => rfl

theorem evaluateEach_verbatim {vs : List Json} {c : Context}
    (h : ∀ v ∈ vs, (ofJson v).evaluate c = (some v, c)) :
    evaluateEach (vs.map ofJson) c = (vs.map some, c) := by
  induction vs with
  | nil => rfl
  | cons v rest ih =>
    rw [List.map_cons, evaluateEach, andThen, h v List.mem_cons_self, andThen,
      ih fun w hw => h w (List.mem_cons_of_mem _ hw)]
    rfl

/-- The items of an array and the members of an object, each of them as it was. -/
theorem evaluateItems_verbatim {items : List Json} {c : Context} (hv : ∀ v ∈ items, v.Resolved)
    (h : ∀ v ∈ items, (ofJson v).evaluate c = (some v, c)) :
    evaluateItems (itemsOfJson items) c = (items, c) := by
  rw [itemsOfJson_eq_map, evaluateItems_eq_joined, andThen, evaluateEach_verbatim h, give]
  have hJoined : items.map (fun v => (ofJson v).joined (some v)) = items.map fun v => [v] :=
    List.map_congr_left fun v hMem => joined_verbatim (hv v hMem)
  rw [List.zipWith_map, List.zipWith_self, hJoined, ← List.flatMap_def, List.flatMap_singleton']

theorem evaluateEntries_verbatim {members : List (String × Json)} {c : Context}
    (h : ∀ m ∈ members, (ofJson m.2).evaluate c = (some m.2, c)) :
    evaluateEntries (entriesOfJson members) c = (members, c) := by
  rw [entriesOfJson_eq_map, evaluateEntries_unchanged ofJson (fun v => v) h]
  exact congrArg (·, c) (List.map_id' members)

/-- With room for its levels a value evaluates to itself and leaves the context as it was. -/
theorem evaluate_verbatim {v : Json} (hv : v.Resolved) {c : Context}
    (h : c.depth + v.height ≤ c.limits.maxDepth) : (ofJson v).evaluate c = (some v, c) := by
  induction v using Json.induction_children generalizing c with
  | step v ih =>
    have hLt : c.depth < c.limits.maxDepth := by
      have hPos := v.height_pos
      omega
    have hInside (w : Json) (hw : w ∈ v.children) :
        (ofJson w).evaluate { c with depth := c.depth + 1 } =
          (some w, { c with depth := c.depth + 1 }) := by
      have hLess := height_lt hw
      apply ih w hw (hv.of_mem_children hw)
      change c.depth + 1 + w.height ≤ c.limits.maxDepth
      omega
    cases hv with
    | string hs =>
      rw [ofJson, ofString_of_not_hasPlaceholder hs]
      exact descend_unchanged hLt rfl
    | array hItems =>
      rw [ofJson, evaluate_array]
      apply descend_unchanged hLt
      rw [andThen, evaluateItems_verbatim hItems hInside]
      rfl
    | object hKeys hMembers =>
      rw [ofJson, ofMembers_of_not_isControlKey hKeys, evaluate_object]
      apply descend_unchanged hLt
      rw [andThen, evaluateEntries_verbatim (List.forall_mem_map.1 hInside)]
      rfl
    | _ => exact descend_unchanged hLt rfl

/-! ### One level less -/

instance (nodes : List Node) : Steady (evaluateEach nodes) := by
  induction nodes with
  | nil =>
    rw [evaluateEach]
    infer_instance
  | cons node rest ih =>
    rw [evaluateEach]
    infer_instance

/-- What is noted for one of the nodes, whatever the nodes before it use up, is noted for all. -/
theorem mem_log_evaluateEach {n : Notice} {node : Node} {nodes : List Node} (hNode : node ∈ nodes)
    {c : Context} (h : ∀ d : Context, d.limits = c.limits → d.depth = c.depth →
      n ∈ (node.evaluate d).2.log) : n ∈ (evaluateEach nodes c).2.log := by
  induction nodes generalizing c with
  | nil => cases hNode
  | cons first rest ih =>
    rw [evaluateEach]
    rcases List.mem_cons.1 hNode with rfl | hRest
    · have hGrows := usage_grows (evaluateEach rest) (node.evaluate c).2
      exact hGrows.log.subset (h c rfl rfl)
    · have hAfter := surroundings_after first.evaluate c
      have hSameLimits := congrArg Surroundings.limits hAfter
      have hSameDepth := congrArg Surroundings.depth hAfter
      exact ih hRest fun d hLimits hDepth =>
        h d (hLimits.trans hSameLimits) (hDepth.trans hSameDepth)

theorem depthExceeded_of_le {c : Context} (h : c.limits.maxDepth ≤ c.depth) (node : Node) :
    .depthExceeded c.limits.maxDepth ∈ (node.evaluate c).2.log := by
  rw [evaluate_of_le h]
  exact List.mem_cons_self

/-- Without room for all its levels some part of a value is too deep. -/
theorem depthExceeded_verbatim {v : Json} (hv : v.Resolved) {c : Context}
    (h : c.limits.maxDepth < c.depth + v.height) :
    .depthExceeded c.limits.maxDepth ∈ ((ofJson v).evaluate c).2.log := by
  induction v using Json.induction_children generalizing c with
  | step v ih =>
    rcases Nat.lt_or_ge c.depth c.limits.maxDepth with hLt | hLe
    · obtain ⟨w, hw, hHigh⟩ : ∃ w ∈ v.children, c.limits.maxDepth < c.depth + 1 + w.height := by
        -- If everything inside fitted one level down, the value would fit here.
        by_contra! hNone
        have hLow := height_le_iff.2 fun w hw => Nat.le_sub_of_add_le' (hNone w hw)
        omega
      have hInside (d : Context) (hLimits : d.limits = c.limits) (hDepth : d.depth = c.depth + 1) :
          .depthExceeded c.limits.maxDepth ∈ ((ofJson w).evaluate d).2.log := by
        rw [← hLimits]
        apply ih w hw (hv.of_mem_children hw)
        rw [hLimits, hDepth]
        exact hHigh
      cases hv with
      | array hItems =>
        rw [ofJson, itemsOfJson_eq_map, evaluate_array, descend_of_lt hLt, evaluateItems_eq_joined]
        exact mem_log_evaluateEach (List.mem_map_of_mem hw) hInside
      | object hKeys hMembers =>
        obtain ⟨m, hm, rfl⟩ := List.mem_map.1 hw
        rw [ofJson, ofMembers_of_not_isControlKey hKeys, entriesOfJson_eq_map, evaluate_object,
          descend_of_lt hLt, evaluateEntries_eq_each, List.map_map]
        exact mem_log_evaluateEach (List.mem_map_of_mem hm) hInside
      | _ => cases hw
    · exact depthExceeded_of_le hLe _

end Node

namespace Template

theorem depthExceeded_of_height_lt {v : Json} (hv : v.Resolved) {limits : Limits}
    (h : limits.maxDepth < v.height) (data : Json) :
    .depthExceeded limits.maxDepth ∈ ((ofJson v limits).evaluate data).notices := by
  have hDeep := Node.depthExceeded_verbatim hv (c := .start data limits)
    (h.trans_eq (Nat.zero_add v.height).symm)
  exact List.mem_append_left _ (List.mem_reverse.2 hDeep)

/-- Plain values are their own templates. Nothing is said but that the template was built and
evaluated, as long as the depth allows as many levels as the value is high. -/
theorem evaluate_of_resolved {v : Json} (hv : v.Resolved) (limits : Limits) (data : Json) :
    let t := ofJson v limits
    let run := t.evaluate data
    (∀ n ∈ t.buildNotices, n.level ≠ .warn) ∧
      (v.height ≤ limits.maxDepth →
        run.value = v ∧ run.iterations = 0 ∧ ∀ n ∈ run.notices, n.level ≠ .warn) ∧
      (limits.maxDepth < v.height → .depthExceeded limits.maxDepth ∈ run.notices) := by
  intro t run
  refine ⟨?_, fun hFits => ?_, fun hHigh => depthExceeded_of_height_lt hv hHigh data⟩
  · have hBuilt : t.buildNotices = [.built t.root.count] := by
      change (Node.ofJson v).notices ++ _ = _
      rw [Node.notices_verbatim hv]
      rfl
    rw [hBuilt, List.forall_mem_singleton]
    exact Level.noConfusion
  · have hRun : run = ⟨v, 0, [.evaluated 0]⟩ := by
      have hRoot := Node.evaluate_verbatim hv (c := .start data limits)
        ((Nat.zero_add v.height).trans_le hFits)
      simp only [run, t, ofJson, evaluate, hRoot]
      rfl
    rw [hRun]
    exact ⟨rfl, rfl, List.forall_mem_singleton.2 Level.noConfusion⟩

/-- Keys of control objects by themselves, nulls in an array, braces that are never closed and a
placeholder in a key. -/
def leftovers : Json :=
  .object [(inKey, .null), (thenKey, .array [.null, .string "\x7b\x7b open"]),
    (templateKey, .object []), ("\x7b\x7b key \x7d\x7d", .string "\x7d\x7d \x7b\x7b")]

/-- Three levels are just enough for them. -/
theorem evaluate_leftovers :
    let run := (ofJson leftovers ⟨3, 0⟩).evaluate .null
    leftovers.Resolved ∧ (run.value = leftovers ∧ run.iterations = 0) ∧
      .depthExceeded 2 ∈ ((ofJson leftovers ⟨2, 0⟩).evaluate .null).notices := by
  intro run
  have hList : (Json.array [.null, .string "\x7b\x7b open"]).Resolved := by
    apply All.array
    rw [List.forall_mem_cons, List.forall_mem_singleton]
    exact ⟨.null, .string (cutPlaceholder_eq_none_iff.1 (by cbv))⟩
  have hResolved : leftovers.Resolved := by
    apply All.object
    · decide
    · simp only [List.forall_mem_cons]
      exact ⟨.null, hList, .object (List.forall_mem_nil _) (List.forall_mem_nil _),
        .string (cutPlaceholder_eq_none_iff.1 (by cbv)), List.forall_mem_nil _⟩
  obtain ⟨hValue, hIterations, -⟩ :=
    (evaluate_of_resolved hResolved ⟨3, 0⟩ .null).2.1 (by decide)
  have hDeep := (evaluate_of_resolved hResolved ⟨2, 0⟩ .null).2.2 (by decide)
  exact ⟨hResolved, ⟨hValue, hIterations⟩, hDeep⟩

end Template
end Stencil
