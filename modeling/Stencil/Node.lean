import Stencil.Interpolation
import Stencil.Notice

/-!
# Template nodes

Every JSON value is a template. `Node.ofJson` turns it into a tree of six kinds of node and keeps
in the tree whatever is suspicious about it; `Node.notices` then lists the suspicions in the order
of the template. An object with the key `$for` is a loop, else one with the key `$if` is a
conditional, else it is an object of nodes.
-/

namespace Stencil

/-- Where the value of a condition or the collection of a loop comes from. -/
inductive Source where
  | path (p : Path)
  | text (content : Interpolation)
  | literal (value : Json)
  deriving Inhabited

/-- The name of a loop variable, or what stands where the name should be. -/
inductive Binding where
  | name (s : String)
  | unusable (found : Json)
  deriving Inhabited

mutual

inductive Node where
  | literal (value : Json)
  | text (content : Interpolation)
  | object (entries : List (String × Node))
  | array (items : List Node)
  | loop (l : Loop)
  | conditional (c : Conditional)

/-- A loop. What it lacks is `none`; evaluating an incomplete loop gives nothing. -/
inductive Loop where
  | mk (binding : Binding) (collection : Option Source) (body empty : Option Node)

inductive Conditional where
  | mk (condition : Source) (thenBranch elseBranch : Option Node)

end

instance : Inhabited Node := ⟨.literal .null⟩

def Source.ofJson : Json → Source
  | .string s =>
    match Interpolation.ofText? s with
    | some content => .text content
    | none => .path (Path.ofText s)
  | value => .literal value

def Binding.ofJson : Json → Binding
  | .string s =>
    let name := Text.trim s.toList
    if name = [] then .unusable (.string s) else .name (String.ofList name)
  | found => .unusable found

def Binding.name? : Binding → Option String
  | .name s => some s
  | .unusable _ => none

namespace Loop

def binding : Loop → Binding
  | ⟨b, _, _, _⟩ => b

def collection : Loop → Option Source
  | ⟨_, s, _, _⟩ => s

def body : Loop → Option Node
  | ⟨_, _, n, _⟩ => n

def empty : Loop → Option Node
  | ⟨_, _, _, n⟩ => n

/-- The required keys that are missing or unusable. -/
def missing (l : Loop) : List String :=
  (if l.binding.name?.isNone then [forKey] else []) ++
    (if l.collection.isNone then [inKey] else []) ++
    (if l.body.isNone then [templateKey] else [])

end Loop

namespace Conditional

def condition : Conditional → Source
  | ⟨s, _, _⟩ => s

def thenBranch : Conditional → Option Node
  | ⟨_, n, _⟩ => n

def elseBranch : Conditional → Option Node
  | ⟨_, _, n⟩ => n

end Conditional

namespace Node

def ofString (s : String) : Node :=
  match Interpolation.ofText? s with
  | some content => .text content
  | none => .literal (.string s)

/-- The node of an object, given its members and the nodes of their values. -/
def ofMembers (members : List (String × Json)) (children : List (String × Node)) : Node :=
  match members.lookup forKey with
  | some found =>
    .loop ⟨Binding.ofJson found, (members.lookup inKey).map Source.ofJson,
      children.lookup templateKey, children.lookup emptyKey⟩
  | none =>
    match members.lookup ifKey with
    | some condition =>
      .conditional ⟨Source.ofJson condition, children.lookup thenKey, children.lookup elseKey⟩
    | none => .object children

mutual

def ofJson : Json → Node
  | .string s => ofString s
  | .array items => .array (itemsOfJson items)
  | .object members => ofMembers members (entriesOfJson members)
  | value => .literal value

def itemsOfJson : List Json → List Node
  | [] => []
  | item :: rest => ofJson item :: itemsOfJson rest

def entriesOfJson : List (String × Json) → List (String × Node)
  | [] => []
  | (key, value) :: rest => (key, ofJson value) :: entriesOfJson rest

end

theorem itemsOfJson_eq_map (items : List Json) : itemsOfJson items = items.map ofJson := by
  induction items with
  | nil => rfl
  | cons item rest ih => simp [itemsOfJson, ih]

theorem entriesOfJson_eq_map (members : List (String × Json)) :
    entriesOfJson members = members.map fun (key, value) => (key, ofJson value) := by
  induction members with
  | nil => rfl
  | cons member rest ih => simp [entriesOfJson, ih]

theorem lookup_entriesOfJson (members : List (String × Json)) (key : String) :
    (entriesOfJson members).lookup key = (members.lookup key).map ofJson := by
  induction members with
  | nil => rfl
  | cons member rest ih =>
    obtain ⟨name, value⟩ := member
    simp only [entriesOfJson, List.lookup_cons]
    cases key == name <;> simp [ih]

mutual

/-- The number of nodes in the tree. -/
def count : Node → Nat
  | .literal _ | .text _ => 1
  | .object entries => countEntries entries + 1
  | .array items => countItems items + 1
  | .loop ⟨_, _, body, empty⟩ => countBranch body + countBranch empty + 1
  | .conditional ⟨_, thenBranch, elseBranch⟩ =>
    countBranch thenBranch + countBranch elseBranch + 1

def countItems : List Node → Nat
  | [] => 0
  | item :: rest => count item + countItems rest

def countEntries : List (String × Node) → Nat
  | [] => 0
  | (_, value) :: rest => count value + countEntries rest

def countBranch : Option Node → Nat
  | none => 0
  | some node => count node

end

end Node

/-- One notice for each part without a filter name. -/
def Expression.notices (e : Expression) : List Notice :=
  e.blanks.map (Notice.blankFilter · e.source)

/-- The blank filters of all placeholders of a text. -/
def Interpolation.blankNotices (content : Interpolation) : List Notice :=
  content.expressions.flatMap Expression.notices

/-- First the blank filters, then the unknown ones, of all placeholders of a text. -/
def Interpolation.notices (content : Interpolation) : List Notice :=
  content.blankNotices ++
    content.expressions.flatMap fun e => e.unknownNames.map (Notice.unknownFilter · e.source)

def Source.notices : Source → List Notice
  | .text content => content.notices
  | .path _ | .literal _ => []

def Binding.notices : Binding → List Notice
  | .name _ => []
  | .unusable found => [.unusableBinding found]

def Loop.missingNotices (l : Loop) : List Notice :=
  if l.missing = [] then [] else [.incompleteLoop l.missing]

namespace Node

mutual

/-- What is suspicious about a template, in the order of its text; that a loop is incomplete is said
after what is inside it. -/
def notices : Node → List Notice
  | .literal _ => []
  | .text content => content.notices
  | .object entries => entriesNotices entries
  | .array items => itemsNotices items
  | .loop ⟨binding, collection, body, empty⟩ =>
    binding.notices ++ (collection.map Source.notices).getD [] ++ branchNotices body ++
      branchNotices empty ++ Loop.missingNotices ⟨binding, collection, body, empty⟩
  | .conditional ⟨condition, thenBranch, elseBranch⟩ =>
    condition.notices ++ branchNotices thenBranch ++ branchNotices elseBranch

def itemsNotices : List Node → List Notice
  | [] => []
  | item :: rest => notices item ++ itemsNotices rest

def entriesNotices : List (String × Node) → List Notice
  | [] => []
  | (_, value) :: rest => notices value ++ entriesNotices rest

def branchNotices : Option Node → List Notice
  | none => []
  | some node => notices node

end

end Node
end Stencil
