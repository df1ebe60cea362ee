import Stencil.Context
import Stencil.Filter.Apply

/-!
# Evaluating nodes

To evaluate a placeholder is to look its path up and to take one step after another through its
filters; a filter that is unknown is noted when its step is taken. Nothing else in the context
changes. `Node.evaluate` gives the value of a node, or nothing. Children of an object that give
nothing become `null`, and items of an array that give nothing are left out. A loop adds its items to
an array around it and is an array of its own elsewhere.
-/

namespace Stencil

/-- One step of a filter chain. An unknown filter changes nothing, and that is noted with the text of
the placeholder. -/
def FilterCall.step (source : String) (call : FilterCall) (v : Json) (c : Context) :
    Json × Context :=
  match call.filter? with
  | some f => (f.apply call.argument v, c)
  | none => (v, c.note (.passedUnknownFilter call.name source))

namespace Expression

/-- The steps of a chain from left to right. -/
def steps (source : String) : List FilterCall → Json → Context → Json × Context
  | [], v, c => (v, c)
  | call :: rest, v, c =>
    let (v, c) := call.step source v c
    steps source rest v c

/-- The value at the path, `null` where there is none, after the filters. -/
def evaluate (e : Expression) (c : Context) : Json × Context :=
  steps e.source e.calls ((c.resolve? e.path).getD .null) c

end Expression

namespace Segment

def evaluate : Segment → Context → String × Context
  | .text s, c => (s, c)
  | .placeholder e, c =>
    let (v, c) := e.evaluate c
    (v.display, c)

/-- Displays one piece after another behind a text. -/
def displayFrom (text : String) : List Segment → Context → String × Context
  | [], c => (text, c)
  | segment :: rest, c =>
    let (piece, c) := segment.evaluate c
    displayFrom (text ++ piece) rest c

end Segment

/-- The value of the one placeholder, or the text with every placeholder displayed. -/
def Interpolation.evaluate : Interpolation → Context → Json × Context
  | .pure e, c => e.evaluate c
  | .mixed segments, c =>
    let (text, c) := Segment.displayFrom "" segments c
    (.string text, c)

namespace Source

/-- The value, `null` for a path that leads nowhere. -/
def evaluate : Source → Context → Json × Context
  | .path p, c => ((c.resolve? p).getD .null, c)
  | .text content, c => content.evaluate c
  | .literal v, c => (v, c)

/-- Whether the value counts as true. A path that leads nowhere does not. -/
def test : Source → Context → Bool × Context
  | .path p, c => ((c.resolve? p).any Json.truthy, c)
  | .text (.pure e), c =>
    let (v, c) := e.evaluate c
    (v.truthy, c)
  | .text content, c =>
    let (v, c) := content.evaluate c
    (v.truthy, c)
  | .literal v, c => (v.truthy, c)

end Source

/-- What a loop gives. -/
inductive LoopResult where
  /-- A value for each iteration that gave one. -/
  | items (values : List Json)
  /-- There was nothing to run over; the value of the fallback, if there is one. -/
  | empty (fallback : Option Json)
  /-- The loop is incomplete. -/
  | skipped

namespace LoopResult

/-- The value of a loop that stands by itself. -/
def nested : LoopResult → Option Json
  | .items values => some (.array values)
  | .empty (some fallback) => some fallback
  | .empty none => some (.array [])
  | .skipped => none

/-- What a loop adds to an array around it. -/
def spliced : LoopResult → List Json
  | .items values => values
  | .empty (some (.array values)) => values
  | .empty (some .null) | .empty none | .skipped => []
  | .empty (some fallback) => [fallback]

end LoopResult

namespace Loop

/-- The name under which the body of a loop finds where the loop stands. -/
def counterName : String := "loop"

/-- Where a loop of so many iterations stands. -/
def counter (index length : Nat) : Json :=
  .object [("index", .ofNat index), ("first", .bool (index = 0)),
    ("last", .bool (index + 1 = length)), ("length", .ofNat length)]

/-- The scope of one iteration. The counter hides a variable of the same name. -/
def frame (binding : String) (index length : Nat) (element : Json) : List (String × Json) :=
  Bindings.put counterName (counter index length) (Bindings.put binding element [])

/-- Runs the body once for each element, from the given index on, while the budget lasts. -/
def iterate (binding : String) (length : Nat) (body : Context → Option Json × Context) :
    Nat → List Json → Context → List Json × Context
  | _, [], c => ([], c)
  | index, element :: rest, c =>
    match c.consume with
    | (false, c) => ([], c)
    | (true, c) =>
      let (value, c) := c.withScope (frame binding index length element) body
      let (values, c) := iterate binding length body (index + 1) rest c
      (value.toList ++ values, c)

/-- What is noted about a collection that gives no iterations. Nothing is wrong with an empty array
or with a value that is absent. -/
def collectionNotices (binding : String) : Json → List Notice
  | .null | .array _ => []
  | v => [.notAnArray binding v.kind]

end Loop

/-- What a node other than a loop adds to an array around it, given its value. -/
def Node.contribution : Node → Option Json → List Json
  | .conditional _, some .null => []
  | _, v => v.toList

mutual

/-- The value of a node, or nothing. -/
def Node.evaluate : Node → Context → Option Json × Context
  | .literal v => Context.descend fun c => (some v, c)
  | .text content => Context.descend fun c =>
    let (v, c) := content.evaluate c
    (some v, c)
  | .object entries => Context.descend fun c =>
    let (members, c) := Node.evaluateEntries entries c
    (some (.object members), c)
  | .array items => Context.descend fun c =>
    let (values, c) := Node.evaluateItems items c
    (some (.array values), c)
  | .loop l => Context.descend fun c =>
    let (result, c) := l.evaluate c
    (result.nested, c)
  | .conditional k => Context.descend fun c => k.evaluate c

/-- The members of an object, in order. -/
def Node.evaluateEntries : List (String × Node) → Context → List (String × Json) × Context
  | [], c => ([], c)
  | (key, child) :: rest, c =>
    let (v, c) := child.evaluate c
    let (members, c) := Node.evaluateEntries rest c
    ((key, v.getD .null) :: members, c)

/-- The items of an array, in order. -/
def Node.evaluateItems : List Node → Context → List Json × Context
  | [], c => ([], c)
  | item :: rest, c =>
    let (here, c) : List Json × Context :=
      match item with
      | .loop l =>
        let (result, c) := c.descend fun c =>
          let (result, c) := l.evaluate c
          (some result, c)
        ((result.map LoopResult.spliced).getD [], c)
      | other =>
        let (v, c) := other.evaluate c
        (other.contribution v, c)
    let (values, c) := Node.evaluateItems rest c
    (here ++ values, c)

/-- A branch that is absent gives nothing. -/
def Node.evaluateBranch : Option Node → Context → Option Json × Context
  | none, c => (none, c)
  | some node, c => node.evaluate c

def Loop.evaluate : Loop → Context → LoopResult × Context
  | ⟨.name binding, some collection, some body, empty⟩, c =>
    let (value, c) := collection.evaluate c
    match value with
    | .array (element :: rest) =>
      let elements := element :: rest
      let (values, c) :=
        Loop.iterate binding elements.length (fun c => body.evaluate c) 0 elements c
      (.items values, c)
    | other =>
      let (fallback, c) :=
        Node.evaluateBranch empty (c.noteAll (Loop.collectionNotices binding other))
      (.empty fallback, c)
  | ⟨binding, collection, body, empty⟩, c =>
    (.skipped, c.note (.skippedLoop (Loop.missing ⟨binding, collection, body, empty⟩)))

def Conditional.evaluate : Conditional → Context → Option Json × Context
  | ⟨condition, thenBranch, elseBranch⟩, c =>
    let (holds, c) := condition.test c
    if holds then Node.evaluateBranch thenBranch c else Node.evaluateBranch elseBranch c

end

end Stencil
