import Stencil.Json.Reader

/-!
# Passing over values

A value that nobody asks for is only checked for its outline: containers may be nested to any depth,
numbers may have any size, and escapes need not name characters. So some faults have other reasons
or places here than in `Json.read`.
-/

namespace Stencil.Json

/-- What a backslash begins, from behind it. -/
def skipEscape (cs : List Char) : Except Fault (Rest cs) :=
  match cs with
  | [] => .error (.behind .eofString [])
  | c :: rest =>
    if c = 'u' then (readHex rest).map fun (_, tail) => tail.behind
    else if (escapedLetter? c).isSome then .ok (.second c rest)
    else .error (.ahead .invalidEscape (c :: rest))

/-- A string from behind its opening quote. -/
def skipString (cs : List Char) : Except Fault (Rest cs) :=
  match cs with
  | [] => .error (.behind .eofString [])
  | c :: rest =>
    if c = '"' then .ok (.second c rest)
    else if c = '\\' then
      match skipEscape rest with
      | .error fault => .error fault
      | .ok ⟨after, h⟩ =>
        (skipString after).map (·.widen (Nat.le_of_lt (Nat.lt_succ_of_lt h)))
    else if c.toNat < 0x20 then .error (.behind .controlCharacter (c :: rest))
    else (skipString rest).map (·.behind)
  termination_by cs.length
  decreasing_by
    · simp only [List.length_cons]; omega
    · simp

open Decimal in
/-- One or more digits. -/
def skipDigits (cs : List Char) : Except Fault (Rest cs) :=
  match cs with
  | [] => .error (.ahead .invalidNumber [])
  | c :: rest =>
    if isDigit c then
      .ok ⟨rest.dropWhile isDigit, Nat.lt_succ_of_le (length_dropWhile_le isDigit rest)⟩
    else .error (.ahead .invalidNumber (c :: rest))

/-- A point and digits, or nothing. -/
def skipFraction (cs : List Char) : Except Fault (Tail cs) :=
  match cs with
  | '.' :: rest => (skipDigits rest).map fun tail => tail.behind.tail
  | cs => .ok (.whole cs)

/-- An exponent, or nothing. -/
def skipExponent (cs : List Char) : Except Fault (Tail cs) :=
  match cs with
  | c :: rest =>
    if c = 'e' ∨ c = 'E' then
      match rest with
      | sign :: digits =>
        if sign = '+' ∨ sign = '-' then
          (skipDigits digits).map fun tail => tail.behind.behind.tail
        else (skipDigits (sign :: digits)).map fun tail => tail.behind.tail
      | [] => .error (.ahead .invalidNumber [])
    else .ok (.whole (c :: rest))
  | [] => .ok (.whole [])

/-- A number after its sign. -/
def skipNumber (cs : List Char) : Except Fault (Rest cs) :=
  match cs with
  | '0' :: c :: rest =>
    if Decimal.isDigit c then .error (.ahead .invalidNumber (c :: rest))
    else do
      let ⟨afterFraction, h⟩ ← skipFraction (c :: rest)
      let ⟨tail, h'⟩ ← skipExponent afterFraction
      .ok ⟨tail, Nat.lt_succ_of_le (Nat.le_trans h' h)⟩
  | cs => do
    let ⟨afterDigits, h⟩ ← skipDigits cs
    let ⟨afterFraction, h'⟩ ← skipFraction afterDigits
    let ⟨tail, h''⟩ ← skipExponent afterFraction
    .ok ⟨tail, Nat.lt_of_le_of_lt (Nat.le_trans h'' h') h⟩

def Brackets.skippedList : Brackets :=
  ⟨']', .eofList, .expectedListCommaOrEnd, .eofValue, .expectedValue⟩

def Brackets.skippedObject : Brackets :=
  ⟨'\x7d', .eofObject, .expectedObjectCommaOrEnd, .eofObject, .keyMustBeString⟩

/-- A key, a colon and a value. -/
def skipMember (value : Reader Unit) : Reader Unit := fun cs =>
  match cs with
  | '"' :: afterQuote => do
    let ⟨afterKey, hKey⟩ ← skipString afterQuote
    let ⟨afterColon, hColon⟩ ← readColon afterKey
    let (_, ⟨tail, h⟩) ← value afterColon
    .ok ((), ⟨tail, by simp only [List.length_cons]; omega⟩)
  | cs => .error (.ahead .keyMustBeString cs)

/-- A value, given how the values inside a container are passed over. -/
def skipValueWith (inner : Reader Unit) : Reader Unit := fun cs =>
  match h : skipSpace cs with
  | [] => .error (.ahead .eofValue [])
  | c :: rest =>
    have hLt := length_lt_of_skipSpace h
    have hLe := length_rest_le_of_skipSpace h
    if c = 'n' then (readWord ['u', 'l', 'l'] rest).map fun tail => ((), tail.widen hLt)
    else if c = 't' then (readWord ['r', 'u', 'e'] rest).map fun tail => ((), tail.widen hLt)
    else if c = 'f' then
      (readWord ['a', 'l', 's', 'e'] rest).map fun tail => ((), tail.widen hLt)
    else if c = '-' then (skipNumber rest).map fun tail => ((), tail.widen hLe)
    else if Decimal.isDigit c then
      (skipNumber (c :: rest)).map fun tail => ((), tail.widen (length_le_of_skipSpace h))
    else if c = '"' then (skipString rest).map fun tail => ((), tail.widen hLe)
    else if c = '[' then
      (readContainer .skippedList inner rest).map fun (_, tail) =>
        ((), tail.widen hLe)
    else if c = '\x7b' then
      (readContainer .skippedObject (skipMember inner) rest).map fun (_, tail) =>
        ((), tail.widen hLe)
    else .error (.ahead .expectedValue (c :: rest))

/-- A value whose containers are nested at most so deep. -/
def skipNested : Nat → Reader Unit
  | 0 => skipValueWith fun cs => .error (.ahead .nestedTooDeep cs)
  | depth + 1 => skipValueWith (skipNested depth)

/-- A value nested to any depth: no text holds more containers than it has characters. -/
def skipValue : Reader Unit := fun cs => skipNested cs.length cs

end Stencil.Json
