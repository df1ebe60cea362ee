import Mathlib
import Stencil.Proofs.Evaluation.Reading
import Stencil.Proofs.Placeholder.Bare
import Stencil.Proofs.Placeholder.Paths

/-!
# What the body of a loop finds

The body of a loop is evaluated once for each element, in order, as long as the budget lasts. It
finds the element under the name of the variable and the place of the element under the name of the
counter, whatever these names mean outside of the loop. What it finds is the element itself, which
is not read as a template again. The length and the last element are those of the whole collection
even if the budget runs out before.
-/

namespace Stencil

open Context Surroundings Text

/-! ### Bodies that show what they find -/

namespace Node

/-- The value at the end of a path. -/
def showing (p : Path) : Node := .text (.pure ⟨p, [], p.text, []⟩)

/-- One member for each path. -/
def record (columns : List (String × Path)) : Node :=
  .object (columns.map fun (key, p) => (key, showing p))

theorem evaluate_showing {c : Context} (h : c.depth < c.limits.maxDepth) (p : Path) :
    (showing p).evaluate c = (some ((c.resolve? p).getD .null), c) := by
  rw [showing, evaluate_text]
  exact descend_unchanged h rfl

/-- A record takes two levels. -/
theorem evaluate_record {c : Context} (h : c.depth + 2 ≤ c.limits.maxDepth)
    (columns : List (String × Path)) :
    (record columns).evaluate c =
      (some (.object (columns.map fun (key, p) => (key, (c.resolve? p).getD .null))), c) := by
  rw [record, evaluate_object]
  apply descend_unchanged (Nat.lt_of_succ_lt h)
  let below : Context := { c with depth := c.depth + 1 }
  have hBelow : ∀ column ∈ columns,
      (showing column.2).evaluate below = (some ((c.resolve? column.2).getD .null), below) :=
    fun column _ => evaluate_showing (c := below) h column.2
  rw [andThen, evaluateEntries_unchanged showing (fun p => (c.resolve? p).getD .null) hBelow]
  rfl

end Node

namespace Loop

/-- One granted iteration of a body that gives a value and leaves everything as it was. -/
theorem iterate_cons_unchanged {binding : String} {length index : Nat}
    {body : Action (Option Json)} {element v : Json} {c : Context}
    (hLt : c.iterations < c.limits.maxIterations)
    (h : ∀ d : Context, d.surroundings = c.surroundings.push (frame binding index length element) →
      body d = (some v, d)) (rest : List Json) :
    let run := iterate binding length body (index + 1) rest
      { c with iterations := c.iterations + 1 }
    iterate binding length body index (element :: rest) c = (v :: run.1, run.2) := by
  have hBody : withScope (frame binding index length element) body
      { c with iterations := c.iterations + 1 } =
        (some v, { c with iterations := c.iterations + 1 }) :=
    withScope_unchanged (h _ rfl)
  simp only [iterate_of_lt hLt, andThen, hBody]
  rfl

/-- Such a body is run once for each element, but for those that the budget has no iterations left
for. -/
theorem iterate_unchanged {binding : String} {length : Nat} {body : Action (Option Json)}
    (value : Nat → Json → Json) {s : Surroundings}
    (h : ∀ index element, ∀ d : Context,
      d.surroundings = s.push (frame binding index length element) →
        body d = (some (value index element), d))
    (index : Nat) (elements : List Json) {c : Context} (hc : c.surroundings = s) :
    let granted := min elements.length (c.limits.maxIterations - c.iterations)
    let run := iterate binding length body index elements c
    run.1 = (elements.take granted).mapIdx (fun j element => value (index + j) element) ∧
      run.2.iterations = c.iterations + granted := by
  induction elements generalizing index c with
  | nil =>
    intro granted run
    simp only [run, granted, iterate_nil]
    exact ⟨by simp [give], by simp [give]⟩
  | cons element rest ih =>
    intro granted run
    by_cases hLe : c.limits.maxIterations ≤ c.iterations
    · have hNone : granted = 0 := by simp only [granted]; omega
      simp only [run, hNone, iterate_of_le hLe]
      exact ⟨rfl, refused_iterations c⟩
    · -- The rest of the elements has one iteration less, and its indices begin one later.
      have hLt := Nat.lt_of_not_le hLe
      let next : Context := { c with iterations := c.iterations + 1 }
      obtain ⟨hValues, hIterations⟩ := ih (index + 1) (c := next) hc
      have hGranted : granted =
          min rest.length (next.limits.maxIterations - next.iterations) + 1 := by
        simp only [granted, next, List.length_cons]
        omega
      have hRun := iterate_cons_unchanged hLt (fun d hd => h index element d (hc ▸ hd)) rest
      simp only [run, hRun]
      rw [hGranted, hValues, hIterations]
      constructor
      · rw [List.take_succ_cons, List.mapIdx_cons]
        simp [Nat.add_comm, Nat.add_left_comm]
      · simp only [next]
        omega

/-- A loop whose collection is an array with elements is its iterations. -/
theorem evaluate_of_value {source : Source} {elements : List Json} {c : Context}
    (h : source.value c = .array elements) (hne : elements ≠ []) (binding : String) (body : Node)
    (empty : Option Node) :
    let run := iterate binding elements.length body.evaluate 0 elements
      (c.noteAll source.evaluationNotices)
    Loop.evaluate ⟨.name binding, some source, some body, empty⟩ c = (.items run.1, run.2) := by
  obtain ⟨first, rest, rfl⟩ := List.exists_cons_of_ne_nil hne
  rw [evaluate_complete, andThen, Source.evaluate_eq, reading, h]
  rfl

end Loop

/-! ### A template that shows all that a loop binds -/

/-- A name for a loop variable that a path can start from. -/
structure LoopName where
  text : String
  isSegment : Path.IsSegment text.toList
  bare : Bare text.toList
  ne_counterName : text ≠ Loop.counterName

namespace Json

/-- The template of a loop without a fallback. -/
def forEach (name : String) (operand body : Json) : Json :=
  .object [(forKey, .string name), (inKey, operand), (templateKey, body)]

/-- The template of a value at the end of a path. -/
def shown (path : String) : Json := .string ("\x7b\x7b" ++ path ++ "\x7d\x7d")

/-- The template of a body that shows the element and where it stands. -/
def place (name : String) : Json :=
  .object [("v", shown name), ("i", shown "loop.index"), ("f", shown "loop.first"),
    ("l", shown "loop.last"), ("c", shown "loop.length")]

/-- An element and where it stands. -/
def placed (length index : Nat) (element : Json) : Json :=
  .object [("v", element), ("i", .ofNat index), ("f", .bool (index = 0)),
    ("l", .bool (index + 1 = length)), ("c", .ofNat length)]

end Json

namespace LoopName

variable (name : LoopName)

/-- The columns of such a body. -/
def columns : List (String × Path) :=
  let field (key : String) : Path := ⟨[Loop.counterName, key]⟩
  [("v", ⟨[name.text]⟩), ("i", field "index"), ("f", field "first"), ("l", field "last"),
    ("c", field "length")]

theorem trim_eq : trim name.text.toList = name.text.toList := name.isSegment.unpadded.trim_eq

theorem binding_ofJson : Binding.ofJson (.string name.text) = .name name.text := by
  rw [Binding.ofJson]
  simp only [name.trim_eq, name.isSegment.ne_nil, ↓reduceIte, String.ofList_toList]

theorem ofJson_shown : Node.ofJson (.shown name.text) = .showing ⟨[name.text]⟩ := by
  have hPath : Path.text ⟨[name.text]⟩ = name.text := String.ofList_toList
  rw [Json.shown, Node.ofJson, Node.ofString, Interpolation.ofText?_bare name.bare,
    Path.ofText_of_isSegment name.isSegment, name.trim_eq, String.ofList_toList, Node.showing, hPath]

/-- The body is read as one path for each member. -/
theorem ofJson_place : Node.ofJson (.place name.text) = .record name.columns := by
  have hIndex : Node.ofJson (.shown "loop.index") = .showing ⟨[Loop.counterName, "index"]⟩ := by cbv
  have hFirst : Node.ofJson (.shown "loop.first") = .showing ⟨[Loop.counterName, "first"]⟩ := by cbv
  have hLast : Node.ofJson (.shown "loop.last") = .showing ⟨[Loop.counterName, "last"]⟩ := by cbv
  have hLength : Node.ofJson (.shown "loop.length") =
      .showing ⟨[Loop.counterName, "length"]⟩ := by cbv
  rw [Json.place, Node.ofJson, Node.ofMembers]
  simp [Node.entriesOfJson, name.ofJson_shown, hIndex, hFirst, hLast, hLength, forKey, ifKey,
    List.lookup_cons, Node.record, columns]

theorem ofJson_forEach (operand body : Json) :
    Node.ofJson (.forEach name.text operand body) =
      .loop ⟨.name name.text, some (Source.ofJson operand), some (Node.ofJson body), none⟩ := by
  rw [Json.forEach, Node.ofJson, Node.ofMembers]
  simp [Node.lookup_entriesOfJson, name.binding_ofJson, forKey, inKey, templateKey, emptyKey,
    List.lookup_cons]

/-- In the scope of an iteration the body shows the element and where it stands. -/
theorem evaluate_columns {d : Context} {s : Surroundings} {index length : Nat} {element : Json}
    (hd : d.surroundings = s.push (Loop.frame name.text index length element))
    (h : s.depth + 2 ≤ s.limits.maxDepth) :
    (Node.record name.columns).evaluate d = (some (.placed length index element), d) := by
  have hDepth : d.depth + 2 ≤ d.limits.maxDepth := by
    have hSame : d.surroundings.depth + 2 ≤ d.surroundings.limits.maxDepth := by
      rw [hd]
      exact h
    exact hSame
  have hVariable : d.lookup? name.text = some element := by
    rw [lookup?_eq, hd, lookup?_push, Loop.lookup_frame, if_neg name.ne_counterName, if_pos rfl]
    rfl
  have hCounter : d.lookup? Loop.counterName = some (Loop.counter index length) := by
    rw [lookup?_eq, hd, lookup?_push, Loop.lookup_frame, if_pos rfl]
    rfl
  rw [Node.evaluate_record hDepth]
  simp [columns, resolve?, hVariable, hCounter, Loop.counter, Json.child?, Json.placed,
    List.lookup_cons]

/-- A loop with such a body gives the elements in order and where they stand. -/
theorem evaluate_loop_columns {source : Source} {c : Context} {elements : List Json}
    (hDepth : c.depth + 2 ≤ c.limits.maxDepth) (hValue : source.value c = .array elements)
    (hne : elements ≠ []) :
    let granted := min elements.length (c.limits.maxIterations - c.iterations)
    let run := Loop.evaluate ⟨.name name.text, some source, some (.record name.columns), none⟩ c
    run.1 = .items ((elements.take granted).mapIdx (Json.placed elements.length)) ∧
      run.2.iterations = c.iterations + granted := by
  intro granted run
  have hRun := Loop.evaluate_of_value hValue hne name.text (.record name.columns) none
  have hBody (index : Nat) (element : Json) (d : Context)
      (hd : d.surroundings =
        c.surroundings.push (Loop.frame name.text index elements.length element)) :
      (Node.record name.columns).evaluate d =
        (some (.placed elements.length index element), d) :=
    name.evaluate_columns hd hDepth
  obtain ⟨hItems, hIterations⟩ := Loop.iterate_unchanged (Json.placed elements.length) hBody 0
    elements (c := c.noteAll source.evaluationNotices) rfl
  simp only [Nat.zero_add] at hItems
  simp only [run, hRun]
  exact ⟨congrArg _ hItems, hIterations⟩

/-- A loop shows each element that the budget has an iteration left for and where the element
stands in the collection, whatever the variable is called and whatever is around the loop. -/
theorem evaluate_forEach_place (operand : Json) {c : Context} {elements : List Json}
    (hDepth : c.depth + 2 ≤ c.limits.maxDepth) (hne : elements ≠ [])
    (hValue : ((Source.ofJson operand).evaluate c).1 = .array elements) :
    let granted := min elements.length (c.limits.maxIterations - c.iterations)
    ∃ l items, Node.ofJson (.forEach name.text operand (.place name.text)) = .loop l ∧
      (l.evaluate c).1 = .items items ∧ items.length = granted ∧
      (∀ j < granted, ∃ element, elements[j]? = some element ∧
        items[j]? = some (.placed elements.length j element)) ∧
      (l.evaluate c).2.iterations = c.iterations + granted := by
  intro granted
  rw [Source.evaluate_eq] at hValue
  obtain ⟨hItems, hIterations⟩ := name.evaluate_loop_columns hDepth hValue hne
  have hParse := name.ofJson_forEach operand (.place name.text)
  rw [name.ofJson_place] at hParse
  have hAll : granted ≤ elements.length := Nat.min_le_left _ _
  refine ⟨_, _, hParse, hItems, ?_, ?_, hIterations⟩
  · rw [List.length_mapIdx, List.length_take]
    exact Nat.min_eq_left hAll
  · intro j hj
    have hElement : elements[j]? = some elements[j] := List.getElem?_eq_getElem _
    refine ⟨elements[j], hElement, ?_⟩
    rw [List.getElem?_mapIdx, List.getElem?_take_of_lt hj, hElement, Option.map_some]

/-- A name with a quote that is never closed and a brace at its end. -/
def withQuote : LoopName where
  text := "it's\x7d"
  isSegment := ⟨by simp, ⟨by simp [isBlank], by simp [isBlank]⟩, by simp [Path.isSeparator]⟩
  bare := ⟨by simp, by decide, by decide⟩
  ne_counterName := by decide

/-- Two levels of the depth and two iterations are left, and around the loop both names mean
something else. -/
def hemmedIn (rows : List Json) : Context where
  root := .object [("rows", .array rows)]
  limits := ⟨3, 7⟩
  scopes := [[(withQuote.text, .bool true), (Loop.counterName, .null)]]
  depth := 1
  iterations := 5
  budgetReported := false
  log := []

/-- The second element is shown as the text that it is, and it is not the last one. -/
theorem evaluate_forEach_withQuote :
    let rows : List Json := [.null, .string "\x7b\x7bloop\x7d\x7d", .array [.null]]
    ∃ l, Node.ofJson (.forEach withQuote.text (.string "rows") (.place withQuote.text)) = .loop l ∧
      (l.evaluate (hemmedIn rows)).1 =
        .items [.placed 3 0 .null, .placed 3 1 (.string "\x7b\x7bloop\x7d\x7d")] ∧
      (l.evaluate (hemmedIn rows)).2.iterations = 7 := by
  intro rows
  have hValue : ((Source.ofJson (.string "rows")).evaluate (hemmedIn rows)).1 = .array rows := by
    cbv
  obtain ⟨l, items, hParse, hItems, hLength, hAt, hIterations⟩ :=
    withQuote.evaluate_forEach_place (.string "rows") (c := hemmedIn rows) (Nat.le_refl 3)
      (List.cons_ne_nil _ _) hValue
  obtain ⟨first, second, rfl⟩ := List.length_eq_two.1 hLength
  obtain ⟨_, hRow, hFirst⟩ := hAt 0 (by decide)
  cases hRow
  obtain ⟨_, hRow, hSecond⟩ := hAt 1 (by decide)
  cases hRow
  cases hFirst
  cases hSecond
  exact ⟨l, hParse, hItems, hIterations⟩

end LoopName

end Stencil
