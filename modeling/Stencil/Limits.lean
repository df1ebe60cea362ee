import Stencil.Json.Skip
import Stencil.Json.Printer

/-!
# Limits of an evaluation

Two numbers bound what an evaluation may use: how deep nodes may be nested and how many loop
iterations there may be in all. Both fit 64 bits. Limits are written and read as JSON; a field that
is not given keeps its default, and a field that is not known is passed over.
-/

namespace Stencil

structure Limits where
  maxDepth : Nat
  maxIterations : Nat
  deriving DecidableEq

namespace Limits

def standard : Limits := ⟨128, 100000⟩

instance : Inhabited Limits := ⟨standard⟩

/-- Tight bounds for templates that are not trusted. -/
def strict : Limits := ⟨32, 10000⟩

/-- The largest bounds that there are. -/
def unbounded : Limits := ⟨Decimal.max64, Decimal.max64⟩

def depthField : String := "max_depth"

def iterationsField : String := "max_loop_iterations"

def toJson (l : Limits) : Json :=
  .object [(depthField, .ofNat l.maxDepth), (iterationsField, .ofNat l.maxIterations)]

/-! ### Reading -/

open Json

/-- The kind of value that a field holds. -/
def wantedNumber : String := "usize"

/-- The kind of value that limits are read from. -/
def wantedLimits : String := "struct EngineConfig"

/-- A number as named in a message about it. -/
def describeNumber : Number → String
  | .int n => "integer `" ++ toString n ++ "`"
  | .float x => "floating point `" ++ String.ofList x.text ++ "`"

/-- Says that a text begins with a value of the wrong kind. Scalars are read first and may have
faults of their own; containers are left where they are. -/
def wrongKind (wanted : String) (cs : List Char) : Fault :=
  let report {α : Type} (found : α → String) (outcome : Except Fault (α × List Char)) : Fault :=
    match outcome with
    | .error fault => fault
    | .ok (a, rest) => .behind (.invalidType (found a) wanted) rest
  match cs with
  | 'n' :: rest =>
    report (fun _ => "null") ((readWord ['u', 'l', 'l'] rest).map fun tail => ((), tail.1))
  | 't' :: rest =>
    report (fun _ => "boolean `true`")
      ((readWord ['r', 'u', 'e'] rest).map fun tail => ((), tail.1))
  | 'f' :: rest =>
    report (fun _ => "boolean `false`")
      ((readWord ['a', 'l', 's', 'e'] rest).map fun tail => ((), tail.1))
  | '-' :: rest => report describeNumber ((readNumber true rest).map fun (n, tail) => (n, tail.1))
  | '"' :: rest =>
    report (fun s => "string " ++ String.ofList (Text.quoted s.toList))
      ((readString rest).map fun (s, tail) => (s, tail.1))
  | '[' :: rest => .behind (.invalidType "sequence" wanted) ('[' :: rest)
  | '\x7b' :: rest => .behind (.invalidType "map" wanted) ('\x7b' :: rest)
  | cs =>
    if (cs.takeWhile Decimal.isDigit).isEmpty then .ahead .expectedValue cs
    else report describeNumber ((readNumber false cs).map fun (n, tail) => (n, tail.1))

/-- A bound: a natural number without point and exponent. -/
def readBound : Reader Nat := fun cs =>
  match h : skipSpace cs with
  | [] => .error (.ahead .eofValue [])
  | c :: rest =>
    let check {ds : List Char} (n : Number) (tail : Rest ds) (hLe : ds.length ≤ cs.length) :
        Except Fault (Nat × Rest cs) :=
      match n with
      | .int (.ofNat n) => .ok (n, tail.widen hLe)
      | .int n => .error (.behind (.invalidValue (describeNumber (.int n)) wantedNumber) tail.1)
      | n => .error (.behind (.invalidType (describeNumber n) wantedNumber) tail.1)
    if c = '-' then do
      let (n, tail) ← readNumber true rest
      check n tail (length_rest_le_of_skipSpace h)
    else if Decimal.isDigit c then do
      let (n, tail) ← readNumber false (c :: rest)
      check n tail (length_le_of_skipSpace h)
    else .error (wrongKind wantedNumber (c :: rest))

/-- What has been read of the fields so far. -/
structure Fields where
  depth : Option Nat
  iterations : Option Nat

def Fields.limits (f : Fields) : Limits :=
  ⟨f.depth.getD standard.maxDepth, f.iterations.getD standard.maxIterations⟩

/-- Says that a field is given twice, from behind its key. A closing brace right there counts as
read. -/
def duplicateFault (name : String) (afterKey : List Char) : Fault :=
  match skipSpace afterKey with
  | '\x7d' :: rest => .behind (.duplicateField name) rest
  | rest => .behind (.duplicateField name) rest

/-- The value of a field, from behind its key. -/
def readField (fields : Fields) (key : String) (afterKey : List Char) :
    Except Fault (Fields × Rest afterKey) :=
  if key = depthField ∧ fields.depth.isSome then .error (duplicateFault key afterKey)
  else if key = iterationsField ∧ fields.iterations.isSome then
    .error (duplicateFault key afterKey)
  else do
    let afterColon ← readColon afterKey
    if key = depthField then
      let (n, tail) ← readBound afterColon.1
      .ok ({ fields with depth := some n }, tail.widen afterColon.length_le)
    else if key = iterationsField then
      let (n, tail) ← readBound afterColon.1
      .ok ({ fields with iterations := some n }, tail.widen afterColon.length_le)
    else
      let (_, tail) ← skipValue afterColon.1
      .ok (fields, tail.widen afterColon.length_le)

/-- The fields of an object from the next key on. -/
def readFields (fields : Fields) (cs : List Char) : Except Fault (Limits × Rest cs) :=
  match readKey cs with
  | .error fault => .error fault
  | .ok (key, ⟨afterKey, hKey⟩) =>
    match readField fields key afterKey with
    | .error fault => .error fault
    | .ok (fields, ⟨afterValue, hValue⟩) =>
      match hMark : skipSpace afterValue with
      | [] => .error (.ahead .eofObject [])
      | mark :: afterMark =>
        have hMarkLt := length_lt_of_skipSpace hMark
        if mark = '\x7d' then .ok (fields.limits, ⟨afterMark, by omega⟩)
        else if mark = ',' then
          match hNext : skipSpace afterMark with
          | [] => .error (.ahead .eofValue [])
          | next :: rest =>
            have hNextLe := length_le_of_skipSpace hNext
            if next = '\x7d' then .error (.ahead .trailingComma (next :: rest))
            else (readFields fields (next :: rest)).map fun (l, tail) => (l, tail.widen (by omega))
        else .error (.ahead .expectedObjectCommaOrEnd (mark :: afterMark))
  termination_by cs.length
  decreasing_by omega

/-- Limits as an object, from behind the opening brace. -/
def readObject : Reader Limits := fun cs =>
  match h : skipSpace cs with
  | [] => .error (.ahead .eofObject [])
  | c :: rest =>
    if c = '\x7d' then .ok (standard, ⟨rest, length_lt_of_skipSpace h⟩)
    else
      (readFields ⟨none, none⟩ (c :: rest)).map fun (l, tail) =>
        (l, tail.widen (length_le_of_skipSpace h))

/-- The end of a list of bounds after which no more are wanted. -/
def endList (cs : List Char) : Except Fault (Rest cs) :=
  match h : skipSpace cs with
  | [] => .error (.ahead .eofList [])
  | c :: rest =>
    if c = ']' then .ok ⟨rest, length_lt_of_skipSpace h⟩
    else if c = ',' then
      match skipSpace rest with
      | ']' :: after => .error (.ahead .trailingComma (']' :: after))
      | after => .error (.ahead .trailingCharacters after)
    else .error (.ahead .trailingCharacters (c :: rest))

/-- The second bound of a list, from behind the first. -/
def readSecond (first : Nat) (cs : List Char) : Except Fault (Limits × Rest cs) :=
  match h : skipSpace cs with
  | [] => .error (.ahead .eofList [])
  | c :: rest =>
    have hLt := length_lt_of_skipSpace h
    if c = ']' then .ok (⟨first, standard.maxIterations⟩, ⟨rest, hLt⟩)
    else if c = ',' then
      match hNext : skipSpace rest with
      | [] => .error (.ahead .eofValue [])
      | next :: after =>
        if next = ']' then .error (.ahead .trailingComma (next :: after))
        else do
          let (n, ⟨afterBound, hBound⟩) ← readBound (next :: after)
          let ⟨tail, hTail⟩ ← endList afterBound
          have hNextLe := length_le_of_skipSpace hNext
          .ok (⟨first, n⟩, ⟨tail, by omega⟩)
    else .error (.ahead .expectedListCommaOrEnd (c :: rest))

/-- Limits as a list of at most two bounds, from behind the opening bracket. -/
def readList : Reader Limits := fun cs =>
  match h : skipSpace cs with
  | [] => .error (.ahead .eofList [])
  | c :: rest =>
    if c = ']' then .ok (standard, ⟨rest, length_lt_of_skipSpace h⟩)
    else do
      let (n, ⟨afterBound, hBound⟩) ← readBound (c :: rest)
      let (l, tail) ← readSecond n afterBound
      .ok (l, tail.widen (Nat.le_trans (Nat.le_of_lt hBound) (length_le_of_skipSpace h)))

/-- Limits as an object or as a list. -/
def readLimits : Reader Limits := fun cs =>
  match h : skipSpace cs with
  | [] => .error (.ahead .eofValue [])
  | c :: rest =>
    have hLe := length_rest_le_of_skipSpace h
    if c = '[' then (readList rest).map fun (l, tail) => (l, tail.widen hLe)
    else if c = '\x7b' then
      (readObject rest).map fun (l, tail) => (l, tail.widen hLe)
    else .error (wrongKind wantedLimits (c :: rest))

/-- The limits that a text holds. -/
def read (text : String) : Except ReadError Limits := readAll readLimits text

end Limits
end Stencil
