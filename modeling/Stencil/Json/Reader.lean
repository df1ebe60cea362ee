import Stencil.Json.Numeral
import Stencil.Json.StringReader

/-!
# Reading JSON text

`Json.read` takes one value with blanks around it. Containers may be nested up to `maxNesting` deep.
A name that an object gives twice keeps its first place and takes its last value.
-/

namespace Stencil.Json

/-- The rest of a word whose first letter has been read. -/
def readWord : List Char → (cs : List Char) → Except Fault (Tail cs)
  | [], cs => .ok (.whole cs)
  | _ :: _, [] => .error (.behind .eofValue [])
  | letter :: letters, c :: cs =>
    if c = letter then
      (readWord letters cs).map fun ⟨rest, h⟩ => ⟨rest, Nat.le_succ_of_le h⟩
    else .error (.ahead .expectedWord (c :: cs))

/-- How a container ends, and what is said where it does not end well. -/
structure Brackets where
  closing : Char
  /-- The text ends where the closing bracket or a comma may stand. -/
  unclosed : Reason
  /-- Something else stands there. -/
  unseparated : Reason
  /-- The text ends after a comma. -/
  unfinished : Reason
  /-- The closing bracket stands after a comma. -/
  dangling : Reason

def Brackets.list : Brackets :=
  ⟨']', .eofList, .expectedListCommaOrEnd, .eofValue, .trailingComma⟩

def Brackets.object : Brackets :=
  ⟨'\x7d', .eofObject, .expectedObjectCommaOrEnd, .eofValue, .trailingComma⟩

variable {α : Type}

/-- One or more entries with commas between them, up to the closing bracket. -/
def readEntries (b : Brackets) (entry : Reader α) (cs : List Char) :
    Except Fault (List α × Rest cs) :=
  match entry cs with
  | .error fault => .error fault
  | .ok (a, ⟨afterEntry, hEntry⟩) =>
    match hMark : skipSpace afterEntry with
    | [] => .error (.ahead b.unclosed [])
    | mark :: afterMark =>
      have hMarkLt := length_lt_of_skipSpace hMark
      if mark = b.closing then .ok ([a], ⟨afterMark, Nat.lt_trans hMarkLt hEntry⟩)
      else if mark = ',' then
        match hNext : skipSpace afterMark with
        | [] => .error (.ahead b.unfinished [])
        | next :: rest =>
          have hNextLe := length_le_of_skipSpace hNext
          if next = b.closing then .error (.ahead b.dangling (next :: rest))
          else
            match readEntries b entry (next :: rest) with
            | .error fault => .error fault
            | .ok (as, tail) => .ok (a :: as, tail.widen (by omega))
      else .error (.ahead b.unseparated (mark :: afterMark))
  termination_by cs.length
  decreasing_by omega

/-- The entries of a container, from behind its opening bracket. -/
def readContainer (b : Brackets) (entry : Reader α) (cs : List Char) :
    Except Fault (List α × Rest cs) :=
  match h : skipSpace cs with
  | [] => .error (.ahead b.unclosed [])
  | c :: rest =>
    if c = b.closing then .ok ([], ⟨rest, length_lt_of_skipSpace h⟩)
    else
      (readEntries b entry (c :: rest)).map fun (as, tail) =>
        (as, tail.widen (length_le_of_skipSpace h))

/-- The colon after a key, with blanks before it. -/
def readColon : (cs : List Char) → Except Fault (Rest cs) := fun cs =>
  match h : skipSpace cs with
  | [] => .error (.ahead .eofObject [])
  | c :: rest =>
    if c = ':' then .ok ⟨rest, length_lt_of_skipSpace h⟩
    else .error (.ahead .expectedColon (c :: rest))

/-- The key of a member. -/
def readKey : Reader String
  | '"' :: cs => do
    let (key, rest) ← readString cs
    .ok (key, rest.behind)
  | cs => .error (.ahead .keyMustBeString cs)

/-- A key, a colon and a value. -/
def readMember (value : Reader α) : Reader (String × α) := fun cs => do
  let (key, ⟨afterKey, hKey⟩) ← readKey cs
  let ⟨afterColon, hColon⟩ ← readColon afterKey
  let (v, ⟨rest, h⟩) ← value afterColon
  .ok ((key, v), ⟨rest, by omega⟩)

/-- A value, given how the values inside a container are read; `none` forbids containers. -/
def readValueWith (inner : Option (Reader Json)) : Reader Json := fun cs =>
  match h : skipSpace cs with
  | [] => .error (.ahead .eofValue [])
  | c :: rest =>
    have hLt := length_lt_of_skipSpace h
    have hLe := length_rest_le_of_skipSpace h
    if c = 'n' then
      (readWord ['u', 'l', 'l'] rest).map fun tail => (.null, tail.widen hLt)
    else if c = 't' then
      (readWord ['r', 'u', 'e'] rest).map fun tail => (.bool true, tail.widen hLt)
    else if c = 'f' then
      (readWord ['a', 'l', 's', 'e'] rest).map fun tail => (.bool false, tail.widen hLt)
    else if c = '-' then
      (readNumber true rest).map fun (n, tail) => (.number n, tail.widen hLe)
    else if Decimal.isDigit c then
      (readNumber false (c :: rest)).map fun (n, tail) =>
        (.number n, tail.widen (length_le_of_skipSpace h))
    else if c = '"' then
      (readString rest).map fun (s, tail) => (.string s, tail.widen hLe)
    else if c = '[' then
      match inner with
      | none => .error (.ahead .nestedTooDeep (c :: rest))
      | some value =>
        (readContainer .list value rest).map fun (items, tail) =>
          (.array items, tail.widen hLe)
    else if c = '\x7b' then
      match inner with
      | none => .error (.ahead .nestedTooDeep (c :: rest))
      | some value =>
        (readContainer .object (readMember value) rest).map fun (members, tail) =>
          (.object (Bindings.ofList members), tail.widen hLe)
    else .error (.ahead .expectedValue (c :: rest))

/-- A value whose containers are nested at most so deep. -/
def readValue : Nat → Reader Json
  | 0 => readValueWith none
  | depth + 1 => readValueWith (some (readValue depth))

/-- How deep containers may be nested in a text. -/
def maxNesting : Nat := 127

/-- Accepts a text after which nothing but blanks is left. -/
def finish (rest : List Char) : Except Fault Unit :=
  match skipSpace rest with
  | [] => .ok ()
  | c :: cs => .error (.ahead .trailingCharacters (c :: cs))

/-- Reads a whole text with a reader. -/
def readAll (reader : Reader α) (text : String) : Except ReadError α :=
  let cs := text.toList
  match reader cs with
  | .error fault => .error (fault.locate cs)
  | .ok (a, ⟨rest, _⟩) =>
    match finish rest with
    | .error fault => .error (fault.locate cs)
    | .ok () => .ok a

/-- The value that a text holds. -/
def read (text : String) : Except ReadError Json := readAll (readValue maxNesting) text

end Stencil.Json
