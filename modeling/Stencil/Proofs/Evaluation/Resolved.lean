import Mathlib
import Stencil.Proofs.Evaluation.Answers
import Stencil.Proofs.Evaluation.Reading
import Stencil.Proofs.Filter.Calm
import Stencil.Template

/-!
# Evaluations leave no placeholder

If neither the data model nor the filter arguments and literal collections of a template bring
opening braces along, then no placeholder and no loop or conditional is left in what the template
gives. Braces still come in when objects are displayed, and they may be cut off or meet other text;
but all values on the way are calm, and the texts of a template are calm but for their ends.
-/

namespace Stencil

open Context Surroundings Json

theorem Json.hereditary_resolved : Hereditary Json.Resolved where
  null := .null
  array := by
    intro vs
    constructor
    · intro h
      cases h with
      | array h => exact h
    · exact fun h => .array h

/-! ### Values on the way -/

/-- The filter arguments have no opening brace. -/
def Expression.Plain (e : Expression) : Prop :=
  ∀ call ∈ e.calls, ∀ a ∈ call.argument, '\x7b' ∉ a.toList

namespace Surroundings

/-- All that a name can mean is calm. -/
structure Calm (s : Surroundings) : Prop where
  root : s.root.Calm
  scopes : ∀ frame ∈ s.scopes, ∀ b ∈ frame, b.2.Calm

variable {s : Surroundings}

theorem Calm.deeper (h : s.Calm) : s.deeper.Calm := ⟨h.root, h.scopes⟩

theorem Calm.push (h : s.Calm) {frame : List (String × Json)} (hFrame : ∀ b ∈ frame, b.2.Calm) :
    (s.push frame).Calm := ⟨h.root, List.forall_mem_cons.2 ⟨hFrame, h.scopes⟩⟩

theorem Calm.lookup? (h : s.Calm) {name : String} {v : Json} (hv : s.lookup? name = some v) :
    v.Calm := by
  rw [Surroundings.lookup?, Option.or_eq_some_iff] at hv
  rcases hv with hScope | ⟨-, hRoot⟩
  · obtain ⟨frame, hFrame, hLookup⟩ := List.exists_of_findSome?_eq_some hScope
    exact h.scopes frame hFrame (name, v) (Bindings.mem_of_lookup hLookup)
  · exact h.root.child? hRoot

end Surroundings

namespace Loop

theorem plain_counter (index length : Nat) : (counter index length).Plain := by
  have hKeys : ∀ key ∈ ["index", "first", "last", "length"],
      '\x7b' ∉ key.toList ∧ ¬ IsControlKey key := by decide
  apply All.object
  · intro m hm
    exact hKeys m.1 (List.mem_map_of_mem hm)
  · simp only [List.forall_mem_cons]
    exact ⟨.number _, .bool _, .bool _, .number _, nofun⟩

theorem calm_frame {element : Json} (h : element.Calm) (binding : String) (index length : Nat) :
    ∀ b ∈ frame binding index length element, b.2.Calm := by
  have hCounter := (plain_counter index length).calm
  rw [frame, Bindings.put_nil, Bindings.put]
  split
  · exact List.forall_mem_singleton.2 hCounter
  · exact List.forall_mem_cons.2 ⟨h, List.forall_mem_singleton.2 hCounter⟩

end Loop

section Values

variable {c : Context}

theorem Context.calm_resolve? (h : c.surroundings.Calm) (path : Path) :
    ((c.resolve? path).getD .null).Calm := by
  cases hResolve : c.resolve? path with
  | none => exact .null
  | some v =>
    obtain ⟨segments⟩ := path
    cases segments with
    | nil => cases hResolve
    | cons head rest =>
      obtain ⟨child, hChild, hRest⟩ := Option.bind_eq_some_iff.1 hResolve
      exact (h.lookup? hChild).walk? hRest

theorem FilterCall.calm_apply {call : FilterCall} {v : Json}
    (hArg : ∀ a ∈ call.argument, '\x7b' ∉ a.toList) (h : v.Calm) : (call.apply v).Calm := by
  rw [apply]
  split
  · exact Filter.calm_apply _ hArg h
  · exact h

theorem FilterCall.calm_foldl {calls : List FilterCall}
    (hArgs : ∀ call ∈ calls, ∀ a ∈ call.argument, '\x7b' ∉ a.toList) {v : Json} (h : v.Calm) :
    (calls.foldl (fun v call => call.apply v) v).Calm := by
  induction calls generalizing v with
  | nil => exact h
  | cons call rest ih =>
    rw [List.foldl_cons]
    have hHere := calm_apply (hArgs call List.mem_cons_self) h
    exact ih (fun other hOther => hArgs other (List.mem_cons_of_mem _ hOther)) hHere

theorem Expression.calm_value (h : c.surroundings.Calm) {e : Expression} (hPlain : e.Plain) :
    (e.value c).Calm := FilterCall.calm_foldl hPlain (c.calm_resolve? h e.path)

/-- The text of a template with the calm texts of its placeholders. -/
theorem Interpolation.resolved_value {content : Interpolation} {s : String}
    (hText : ofText? s = some content) (h : ∀ e ∈ content.expressions, (e.value c).Calm) :
    (content.value c).Resolved := by
  rw [ofText?, ofChars?] at hText
  split at hText
  · next body _ =>
    cases hText
    exact (h (Expression.ofChars body) List.mem_cons_self).resolved
  · split at hText
    · cases hText
      apply All.string
      refine Segment.not_hasPlaceholder_join_scan (fun _ => rfl) fun e he => ?_
      exact (h e (List.mem_filterMap.2 ⟨.placeholder e, he, rfl⟩)).display
    · cases hText

end Values

/-! ### Nodes of a template -/

def Source.expressions : Source → List Expression
  | .text content => content.expressions
  | .path _ | .literal _ => []

namespace Node

/-- The placeholders of the node itself. -/
def expressions : Node → List Expression
  | .text content => content.expressions
  | .loop l => l.collection.toList.flatMap Source.expressions
  | .conditional k => k.condition.expressions
  | .literal _ | .object _ | .array _ => []

/-- What can be said of a node that comes from a template, whatever the template is. -/
def Parsed : Node → Prop
  | .literal v => v.Resolved
  | .text content => ∃ s, Interpolation.ofText? s = some content
  | .object entries => ∀ e ∈ entries, ¬ IsControlKey e.1
  | .array _ | .loop _ | .conditional _ => True

theorem cutPlaceholder_eq_none {s : String} (h : Interpolation.ofText? s = none) :
    cutPlaceholder s.toList = none := by
  rw [Interpolation.ofText?, Interpolation.ofChars?] at h
  split at h
  · cases h
  · split at h
    · cases h
    · next hCut => exact Option.not_isSome_iff_eq_none.1 hCut

theorem parsed_ofString (s : String) : (ofString s).Parsed := by
  rw [ofString]
  split
  · next content hText => exact ⟨s, hText⟩
  · next hText =>
    apply All.string
    exact not_hasPlaceholder_of_cutPlaceholder (cutPlaceholder_eq_none hText)

/-- An object with a control key is no object of nodes. -/
theorem parsed_ofMembers (members : List (String × Json)) :
    (ofMembers members (entriesOfJson members)).Parsed := by
  rw [ofMembers]
  split
  · trivial
  · next hFor =>
    split
    · trivial
    · next hIf =>
      intro e he
      rw [entriesOfJson_eq_map] at he
      obtain ⟨⟨key, v⟩, hm, rfl⟩ := List.mem_map.1 he
      have hNe (name : String) (hNone : members.lookup name = none) : key ≠ name := by
        have hOther := List.lookup_eq_none_iff.1 hNone _ hm
        exact Ne.symm (bne_iff_ne.1 hOther)
      rintro (hKey | hKey)
      · exact hNe forKey hFor hKey
      · exact hNe ifKey hIf hKey

theorem parsed_ofJson (v : Json) : (ofJson v).Parsed := by
  cases v with
  | null => exact All.null
  | bool b => exact All.bool b
  | number n => exact All.number n
  | string s => exact parsed_ofString s
  | array items => trivial
  | object members => exact parsed_ofMembers members

/-- A tree from a template that brings no opening brace along but in its own texts. -/
structure Clean (root : Node) : Prop where
  parsed : ∀ n ∈ root.subnodes, n.Parsed
  arguments : ∀ n ∈ root.subnodes, ∀ e ∈ n.expressions, e.Plain
  collections : ∀ l, .loop l ∈ root.subnodes → ∀ items,
    l.collection = some (.literal (.array items)) → (Json.array items).Plain

theorem Clean.self {node : Node} (h : node.Clean) : node.Parsed :=
  h.parsed node (self_mem_subnodes node)

theorem Clean.child {node child : Node} (h : node.Clean) (hChild : child ∈ node.children) :
    child.Clean where
  parsed n hn := h.parsed n (subnodes_subset hChild hn)
  arguments n hn := h.arguments n (subnodes_subset hChild hn)
  collections l hl := h.collections l (subnodes_subset hChild hl)

theorem Clean.calm_elements {l : Loop} (h : (loop l).Clean) {c : Context}
    (hc : c.surroundings.Calm) : ∀ source ∈ l.collection, ∀ elements,
      source.value c = .array elements → ∀ element ∈ elements, element.Calm := by
  intro source hSource elements hValue
  have hCalm : (Json.array elements).Calm := by
    rw [← hValue]
    cases source with
    | path p => exact c.calm_resolve? hc p
    | literal v =>
      cases hValue
      exact (h.collections l (self_mem_subnodes _) elements hSource).calm
    | text content =>
      have hArgs : ∀ e ∈ content.expressions, e.Plain := by
        intro e he
        apply h.arguments _ (self_mem_subnodes _)
        exact List.mem_flatMap.2 ⟨.text content, Option.mem_toList.2 hSource, he⟩
      cases content with
      | pure e => exact Expression.calm_value hc (hArgs e List.mem_cons_self)
      | mixed segments => cases hValue
  cases hCalm with
  | array hElements => exact hElements

theorem gives_resolved {node : Node} (h : node.Clean) {s : Surroundings} (hs : s.Calm) :
    node.Gives Json.Resolved s := by
  induction node generalizing s with
  | literal v => exact gives_literal h.self
  | text content =>
    obtain ⟨text, hText⟩ := h.self
    apply gives_text
    intro c hc
    apply Interpolation.resolved_value hText
    intro e he
    exact Expression.calm_value (hc ▸ hs.deeper) (h.arguments _ (self_mem_subnodes _) e he)
  | object entries ih =>
    apply gives_object hereditary_resolved
    · intro e he
      exact ih e he (h.child (List.mem_map_of_mem he)) hs.deeper
    · intro ms hms
      apply All.object
      · intro m hm
        obtain ⟨e, he, hKey⟩ := List.mem_map.1 (hms m hm).1
        rw [← hKey]
        exact h.self e he
      · exact fun m hm => (hms m hm).2
  | array items ih =>
    apply gives_array hereditary_resolved
    exact fun item hItem => ih item hItem (h.child hItem) hs.deeper
  | loop binding collection body empty ihBody ihEmpty =>
    apply gives_loop hereditary_resolved (E := Json.Calm)
    · intro source hSource c hc
      exact h.calm_elements (hc ▸ hs.deeper) source hSource
    · intro n hn name index length element hElement
      have hChild := h.child (List.mem_append_left _ (Option.mem_toList.2 hn))
      exact ihBody n hn hChild (hs.deeper.push (Loop.calm_frame hElement name index length))
    · intro n hn
      exact ihEmpty n hn (h.child (List.mem_append_right _ (Option.mem_toList.2 hn))) hs.deeper
  | conditional condition thenBranch elseBranch ihThen ihElse =>
    apply gives_conditional
    · intro n hn
      exact ihThen n hn (h.child (List.mem_append_left _ (Option.mem_toList.2 hn))) hs.deeper
    · intro n hn
      exact ihElse n hn (h.child (List.mem_append_right _ (Option.mem_toList.2 hn))) hs.deeper

end Node

/-- No placeholder, loop or conditional is left in what a template gives. -/
theorem Template.resolved_evaluate (t : Template) (data : Json) (hData : data.Plain)
    (hCollections : ∀ l, .loop l ∈ t.root.subnodes → ∀ items,
      l.collection = some (.literal (.array items)) → (Json.array items).Plain)
    (hArguments : ∀ n ∈ t.root.subnodes, ∀ e ∈ n.expressions, ∀ call ∈ e.calls,
      ∀ a ∈ call.argument, '\x7b' ∉ a.toList) :
    (t.evaluate data).value.Resolved := by
  have hClean : t.root.Clean := by
    refine ⟨fun n hn => ?_, hArguments, hCollections⟩
    rw [t.root_eq] at hn
    obtain ⟨v, rfl⟩ := Node.exists_eq_ofJson_of_mem_subnodes t.source n hn
    exact Node.parsed_ofJson v
  have hStart : (Surroundings.start data t.limits).Calm := ⟨hData.calm, nofun⟩
  have hGives := (Node.gives_resolved hClean hStart).evaluate.holds (.start data t.limits) rfl
  change ((t.root.evaluate (.start data t.limits)).1.getD .null).Resolved
  cases hValue : (t.root.evaluate (.start data t.limits)).1 with
  | none => exact .null
  | some v => exact hGives v hValue

/-- What a loop does that adds a mark to each name and has two opening braces at its end. -/
def Node.markedName : Node :=
  .text (.mixed [
    .placeholder ⟨⟨["x"]⟩, [⟨"append", some .append, some "!"⟩], "x | append: '!'", []⟩,
    .text " \x7b\x7b"])

/-- A loop over two names in the template itself. -/
def Template.markedNames : Template :=
  .ofJson (.object [(forKey, .string "x"), (inKey, .array [.string "a", .string "b"]),
    (templateKey, .string "\x7b\x7bx | append: '!'\x7d\x7d \x7b\x7b")]) .standard

/-- Opening braces may be left, but no placeholder. -/
theorem Template.resolved_markedNames :
    (markedNames.evaluate .null).value = .array [.string "a! \x7b\x7b", .string "b! \x7b\x7b"] ∧
      (markedNames.evaluate .null).value.Resolved := by
  have hValue : (markedNames.evaluate .null).value =
      .array [.string "a! \x7b\x7b", .string "b! \x7b\x7b"] := by cbv
  have hNodes : markedNames.root.subnodes =
      [.loop ⟨.name "x", some (.literal (.array [.string "a", .string "b"])),
        some Node.markedName, none⟩, Node.markedName] := by cbv
  have hExpressions : markedNames.root.subnodes.flatMap Node.expressions =
      [⟨⟨["x"]⟩, [⟨"append", some .append, some "!"⟩], "x | append: '!'", []⟩] := by cbv
  refine ⟨hValue, Template.resolved_evaluate markedNames .null .null ?_ ?_⟩
  · intro l hl items hItems
    rw [hNodes, List.mem_cons, List.mem_singleton] at hl
    rcases hl with hLoop | hText
    · cases hLoop
      cases hItems
      apply All.array
      rw [List.forall_mem_cons, List.forall_mem_singleton]
      exact ⟨.string (by decide), .string (by decide)⟩
    · cases hText
  · intro n hn e he call hCall a ha
    have hMem := List.mem_flatMap.2 ⟨n, hn, he⟩
    rw [hExpressions, List.mem_singleton] at hMem
    subst hMem
    cases List.mem_singleton.1 hCall
    cases ha
    decide

end Stencil
