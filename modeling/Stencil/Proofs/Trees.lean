import Stencil.Node

/-!
# Values and nodes as trees

Values and nodes hold lists of their own kind, so their recursors speak of lists as well. The
principles of induction here assume the statement for every child, in a case for each constructor or
in one case for all of them. `Node.subnodes` lists all nodes of a tree. Every node of the tree of a
template comes from a part of the template, and whatever is suspicious about a tree is so about one
of its nodes.
-/

namespace Stencil

@[elab_as_elim, induction_eliminator]
theorem Json.induction {motive : Json → Prop}
    (null : motive .null)
    (bool : ∀ b, motive (.bool b))
    (number : ∀ n, motive (.number n))
    (string : ∀ s, motive (.string s))
    (array : ∀ items, (∀ item ∈ items, motive item) → motive (.array items))
    (object : ∀ members, (∀ m ∈ members, motive m.2) → motive (.object members))
    (v : Json) : motive v := by
  refine @Json.rec motive (fun items => ∀ item ∈ items, motive item)
    (fun members => ∀ m ∈ members, motive m.2) (fun m => motive m.2)
    null bool number string array object ?_ ?_ ?_ ?_ ?_ v
  · intro item h
    cases h
  · intro item rest hItem hRest
    exact List.forall_mem_cons.2 ⟨hItem, hRest⟩
  · intro m h
    cases h
  · intro m rest hMember hRest
    exact List.forall_mem_cons.2 ⟨hMember, hRest⟩
  · intro key value h
    exact h

/-- The values right inside a value. -/
def Json.children : Json → List Json
  | .array items => items
  | .object members => members.map Prod.snd
  | .null | .bool _ | .number _ | .string _ => []

/-- Induction with one case for all kinds of value. -/
@[elab_as_elim]
theorem Json.induction_children {motive : Json → Prop}
    (step : ∀ v, (∀ w ∈ v.children, motive w) → motive v) (v : Json) : motive v := by
  induction v with
  | null => exact step _ (List.forall_mem_nil _)
  | bool b => exact step _ (List.forall_mem_nil _)
  | number n => exact step _ (List.forall_mem_nil _)
  | string s => exact step _ (List.forall_mem_nil _)
  | array items ih => exact step _ ih
  | object members ih => exact step _ (List.forall_mem_map.2 ih)

/-- The children of a loop are its body and its fallback, those of a conditional its branches. -/
@[elab_as_elim, induction_eliminator]
theorem Node.induction {motive : Node → Prop}
    (literal : ∀ v, motive (.literal v))
    (text : ∀ content, motive (.text content))
    (object : ∀ entries, (∀ e ∈ entries, motive e.2) → motive (.object entries))
    (array : ∀ items, (∀ item ∈ items, motive item) → motive (.array items))
    (loop : ∀ binding collection body empty, (∀ n ∈ body, motive n) → (∀ n ∈ empty, motive n) →
      motive (.loop ⟨binding, collection, body, empty⟩))
    (conditional : ∀ condition thenBranch elseBranch, (∀ n ∈ thenBranch, motive n) →
      (∀ n ∈ elseBranch, motive n) → motive (.conditional ⟨condition, thenBranch, elseBranch⟩))
    (node : Node) : motive node := by
  refine @Node.rec motive (fun l => motive (.loop l)) (fun k => motive (.conditional k))
    (fun entries => ∀ e ∈ entries, motive e.2) (fun items => ∀ item ∈ items, motive item)
    (fun branch => ∀ n ∈ branch, motive n) (fun e => motive e.2)
    literal text object array (fun _ h => h) (fun _ h => h) loop conditional
    ?_ ?_ ?_ ?_ ?_ ?_ ?_ node
  · intro e h
    cases h
  · intro e rest hEntry hRest
    exact List.forall_mem_cons.2 ⟨hEntry, hRest⟩
  · intro item h
    cases h
  · intro item rest hItem hRest
    exact List.forall_mem_cons.2 ⟨hItem, hRest⟩
  · intro n h
    cases h
  · intro n hn x hx
    cases hx
    exact hn
  · intro key child h
    exact h

namespace Node

/-- The nodes right below a node. -/
def children : Node → List Node
  | .literal _ | .text _ => []
  | .object entries => entries.map Prod.snd
  | .array items => items
  | .loop ⟨_, _, body, empty⟩ => body.toList ++ empty.toList
  | .conditional ⟨_, thenBranch, elseBranch⟩ => thenBranch.toList ++ elseBranch.toList

/-- Induction with one case for all kinds of node. -/
@[elab_as_elim]
theorem induction_children {motive : Node → Prop}
    (step : ∀ node, (∀ child ∈ node.children, motive child) → motive node) (node : Node) :
    motive node := by
  induction node with
  | literal v => exact step _ (List.forall_mem_nil _)
  | text content => exact step _ (List.forall_mem_nil _)
  | object entries ih => exact step _ (List.forall_mem_map.2 ih)
  | array items ih => exact step _ ih
  | loop binding collection body empty ihBody ihEmpty =>
    apply step
    intro child hChild
    rcases List.mem_append.1 hChild with hBody | hEmpty
    · exact ihBody child (Option.mem_toList.1 hBody)
    · exact ihEmpty child (Option.mem_toList.1 hEmpty)
  | conditional condition thenBranch elseBranch ihThen ihElse =>
    apply step
    intro child hChild
    rcases List.mem_append.1 hChild with hThen | hElse
    · exact ihThen child (Option.mem_toList.1 hThen)
    · exact ihElse child (Option.mem_toList.1 hElse)

mutual

/-- The node and all nodes below it. -/
def subnodes : Node → List Node
  | .literal v => [.literal v]
  | .text content => [.text content]
  | .object entries => .object entries :: entriesSubnodes entries
  | .array items => .array items :: itemsSubnodes items
  | .loop ⟨binding, collection, body, empty⟩ =>
    .loop ⟨binding, collection, body, empty⟩ :: (branchSubnodes body ++ branchSubnodes empty)
  | .conditional ⟨condition, thenBranch, elseBranch⟩ =>
    .conditional ⟨condition, thenBranch, elseBranch⟩ ::
      (branchSubnodes thenBranch ++ branchSubnodes elseBranch)

def itemsSubnodes : List Node → List Node
  | [] => []
  | item :: rest => subnodes item ++ itemsSubnodes rest

def entriesSubnodes : List (String × Node) → List Node
  | [] => []
  | (_, child) :: rest => subnodes child ++ entriesSubnodes rest

def branchSubnodes : Option Node → List Node
  | none => []
  | some node => subnodes node

end

theorem itemsSubnodes_eq_flatMap (items : List Node) :
    itemsSubnodes items = items.flatMap subnodes := by
  induction items with
  | nil => rfl
  | cons item rest ih => rw [itemsSubnodes, ih, List.flatMap_cons]

theorem entriesSubnodes_eq_flatMap (entries : List (String × Node)) :
    entriesSubnodes entries = (entries.map Prod.snd).flatMap subnodes := by
  induction entries with
  | nil => rfl
  | cons e rest ih => rw [entriesSubnodes, ih, List.map_cons, List.flatMap_cons]

theorem branchSubnodes_eq_flatMap (branch : Option Node) :
    branchSubnodes branch = branch.toList.flatMap subnodes := by
  cases branch with
  | none => rfl
  | some node => rw [branchSubnodes, Option.toList_some, List.flatMap_singleton]

theorem subnodes_eq (node : Node) : node.subnodes = node :: node.children.flatMap subnodes := by
  cases node with
  | literal v => rfl
  | text content => rfl
  | object entries => rw [subnodes, entriesSubnodes_eq_flatMap, children]
  | array items => rw [subnodes, itemsSubnodes_eq_flatMap, children]
  | loop l =>
    obtain ⟨binding, collection, body, empty⟩ := l
    rw [subnodes, branchSubnodes_eq_flatMap, branchSubnodes_eq_flatMap, children,
      List.flatMap_append]
  | conditional k =>
    obtain ⟨condition, thenBranch, elseBranch⟩ := k
    rw [subnodes, branchSubnodes_eq_flatMap, branchSubnodes_eq_flatMap, children,
      List.flatMap_append]

theorem self_mem_subnodes (node : Node) : node ∈ node.subnodes := by
  rw [subnodes_eq]
  exact List.mem_cons_self

theorem subnodes_subset {node child : Node} (h : child ∈ node.children) :
    child.subnodes ⊆ node.subnodes := by
  intro n hn
  rw [subnodes_eq node]
  exact List.mem_cons_of_mem _ (List.mem_flatMap.2 ⟨child, h, hn⟩)

/-! ### Suspicions -/

/-- What is suspicious about a node, its children aside. -/
def ownNotices : Node → List Notice
  | .text content => content.notices
  | .loop l => l.binding.notices ++ (l.collection.map Source.notices).getD [] ++ l.missingNotices
  | .conditional k => k.condition.notices
  | .literal _ | .object _ | .array _ => []

theorem itemsNotices_eq_flatMap (items : List Node) :
    itemsNotices items = items.flatMap notices := by
  induction items with
  | nil => rfl
  | cons item rest ih => rw [itemsNotices, ih, List.flatMap_cons]

theorem entriesNotices_eq_flatMap (entries : List (String × Node)) :
    entriesNotices entries = (entries.map Prod.snd).flatMap notices := by
  induction entries with
  | nil => rfl
  | cons e rest ih => rw [entriesNotices, ih, List.map_cons, List.flatMap_cons]

theorem branchNotices_eq_flatMap (branch : Option Node) :
    branchNotices branch = branch.toList.flatMap notices := by
  cases branch with
  | none => rfl
  | some node => rw [branchNotices, Option.toList_some, List.flatMap_singleton]

/-- Every suspicion is about the node itself or about one of its children. -/
theorem mem_notices_iff {node : Node} {n : Notice} :
    n ∈ node.notices ↔ n ∈ node.ownNotices ∨ ∃ child ∈ node.children, n ∈ child.notices := by
  rw [← List.mem_flatMap, ← List.mem_append]
  cases node with
  | literal v => rfl
  | text content => rw [notices, ownNotices, children, List.flatMap_nil, List.append_nil]
  | object entries =>
    rw [notices, entriesNotices_eq_flatMap, ownNotices, children, List.nil_append]
  | array items => rw [notices, itemsNotices_eq_flatMap, ownNotices, children, List.nil_append]
  | loop l =>
    obtain ⟨binding, collection, body, empty⟩ := l
    rw [notices, branchNotices_eq_flatMap, branchNotices_eq_flatMap, ownNotices, children,
      List.flatMap_append]
    -- What the loop lacks is said after its children, but of the loop itself.
    simp only [List.mem_append, Loop.binding, Loop.collection, or_assoc, or_comm,
      or_left_comm]
  | conditional k =>
    obtain ⟨condition, thenBranch, elseBranch⟩ := k
    rw [notices, branchNotices_eq_flatMap, branchNotices_eq_flatMap, ownNotices, children,
      List.flatMap_append, List.append_assoc, Conditional.condition]

/-! ### The tree of a template -/

theorem eq_ofJson_of_mem_branch {members : List (String × Json)} {key : String} {child : Node}
    (h : child ∈ ((entriesOfJson members).lookup key).toList) :
    ∃ m ∈ members, child = ofJson m.2 := by
  rw [lookup_entriesOfJson, Option.mem_toList, Option.map_eq_some_iff] at h
  obtain ⟨v, hLookup, rfl⟩ := h
  exact ⟨(key, v), Bindings.mem_of_lookup hLookup, rfl⟩

theorem eq_ofJson_of_mem_children {members : List (String × Json)} {child : Node}
    (h : child ∈ (ofMembers members (entriesOfJson members)).children) :
    ∃ m ∈ members, child = ofJson m.2 := by
  rw [ofMembers] at h
  split at h
  · rcases List.mem_append.1 h with hBody | hEmpty
    · exact eq_ofJson_of_mem_branch hBody
    · exact eq_ofJson_of_mem_branch hEmpty
  · split at h
    · rcases List.mem_append.1 h with hThen | hElse
      · exact eq_ofJson_of_mem_branch hThen
      · exact eq_ofJson_of_mem_branch hElse
    · rw [children, entriesOfJson_eq_map, List.map_map] at h
      obtain ⟨m, hm, rfl⟩ := List.mem_map.1 h
      exact ⟨m, hm, rfl⟩

/-- The children of the node of a value come from the children of the value. -/
theorem exists_eq_ofJson_of_mem_children {v : Json} {child : Node}
    (h : child ∈ (ofJson v).children) : ∃ w ∈ v.children, child = ofJson w := by
  cases v with
  | string s =>
    rw [ofJson, ofString] at h
    split at h <;> cases h
  | array items =>
    rw [ofJson, children, itemsOfJson_eq_map] at h
    obtain ⟨item, hItem, rfl⟩ := List.mem_map.1 h
    exact ⟨item, hItem, rfl⟩
  | object members =>
    rw [ofJson] at h
    obtain ⟨m, hm, rfl⟩ := eq_ofJson_of_mem_children h
    exact ⟨m.2, List.mem_map_of_mem hm, rfl⟩
  | _ => cases h

/-- Every node in the tree of a template is the node of some value. -/
theorem exists_eq_ofJson_of_mem_subnodes (v : Json) :
    ∀ n ∈ (ofJson v).subnodes, ∃ w, n = ofJson w := by
  induction v using Json.induction_children with
  | step v ih =>
    intro n hn
    rw [subnodes_eq, List.mem_cons, List.mem_flatMap] at hn
    rcases hn with rfl | ⟨child, hChild, hn⟩
    · exact ⟨v, rfl⟩
    · obtain ⟨w, hw, rfl⟩ := exists_eq_ofJson_of_mem_children hChild
      exact ih w hw n hn

end Node
end Stencil
