import Stencil.Json.Rest

/-!
# Reading JSON strings

A string is read from behind its opening quote to behind its closing one. An escape by number names
a UTF-16 unit; a pair of surrogates names one character, and a surrogate alone is refused.
-/

namespace Stencil.Json

/-- The character that a letter after a backslash stands for. -/
def escapedLetter? : Char → Option Char
  | '"' => some '"'
  | '\\' => some '\\'
  | '/' => some '/'
  | 'b' => some '\x08'
  | 'f' => some '\x0c'
  | 'n' => some '\n'
  | 'r' => some '\r'
  | 't' => some '\t'
  | _ => none

def hexValue? (c : Char) : Option Nat :=
  if '0' ≤ c ∧ c ≤ '9' then some (c.toNat - '0'.toNat)
  else if 'a' ≤ c ∧ c ≤ 'f' then some (c.toNat - 'a'.toNat + 10)
  else if 'A' ≤ c ∧ c ≤ 'F' then some (c.toNat - 'A'.toNat + 10)
  else none

/-- The number written by four hexadecimal digits. -/
def hexNumber? (a b c d : Char) : Option Nat := do
  let a ← hexValue? a
  let b ← hexValue? b
  let c ← hexValue? c
  let d ← hexValue? d
  some (((a * 16 + b) * 16 + c) * 16 + d)

/-- Four hexadecimal digits. The next four bytes count as read when they are not such digits. -/
def readHex : Reader Nat
  | a :: b :: c :: d :: rest =>
    match hexNumber? a b c d with
    | some n => .ok (n, ⟨rest, by simp; omega⟩)
    | none => .error ⟨.invalidEscape, Text.byteLength (a :: b :: c :: d :: rest) - 4⟩
  | cs =>
    if Text.byteLength cs < 4 then .error ⟨.eofString, 0⟩
    else .error ⟨.invalidEscape, Text.byteLength cs - 4⟩

def isLeadSurrogate (n : Nat) : Bool := 0xD800 ≤ n && n ≤ 0xDBFF

def isTrailSurrogate (n : Nat) : Bool := 0xDC00 ≤ n && n ≤ 0xDFFF

/-- The code point of a pair of surrogates. -/
def pairedSurrogates (lead trail : Nat) : Nat :=
  0x10000 + (lead - 0xD800) * 0x400 + (trail - 0xDC00)

/-- The second half of a pair of surrogates, with the backslash and the `u` before it. -/
def readTrail (lead : Nat) : Reader Char
  | [] => .error (.behind .eofString [])
  | '\\' :: 'u' :: cs => do
    let (n, ⟨rest, h⟩) ← readHex cs
    if isTrailSurrogate n then
      .ok (Char.ofNat (pairedSurrogates lead n), ⟨rest, by simp; omega⟩)
    else .error (.behind .loneSurrogate rest)
  | ['\\'] => .error (.behind .eofString [])
  | '\\' :: cs => .error (.ahead .unexpectedEndOfHexEscape cs)
  | cs => .error (.ahead .unexpectedEndOfHexEscape cs)

/-- A character by number, from behind the `u`. -/
def readUnicode : Reader Char := fun cs => do
  let (n, ⟨rest, h⟩) ← readHex cs
  if isTrailSurrogate n then .error (.behind .loneSurrogate rest)
  else if isLeadSurrogate n then
    let (c, rest') ← readTrail n rest
    .ok (c, rest'.widen (Nat.le_of_lt h))
  else .ok (Char.ofNat n, ⟨rest, h⟩)

/-- What a backslash begins, from behind it. -/
def readEscape : Reader Char
  | [] => .error (.behind .eofString [])
  | c :: cs =>
    if c = 'u' then do
      let (d, rest) ← readUnicode cs
      .ok (d, rest.behind)
    else
      match escapedLetter? c with
      | some d => .ok (d, .second c cs)
      | none => .error (.ahead .invalidEscape (c :: cs))

/-- The characters of a string, from behind its opening quote. -/
def readChars (cs : List Char) : Except Fault (List Char × Rest cs) :=
  match cs with
  | [] => .error (.behind .eofString [])
  | c :: rest =>
    if c = '"' then .ok ([], .second c rest)
    else if c = '\\' then
      match readEscape rest with
      | .error fault => .error fault
      | .ok (d, ⟨after, h⟩) =>
        match readChars after with
        | .error fault => .error fault
        | .ok (ds, tail) => .ok (d :: ds, tail.widen (Nat.le_of_lt (Nat.lt_succ_of_lt h)))
    else if c.toNat < 0x20 then .error (.behind .controlCharacter rest)
    else
      match readChars rest with
      | .error fault => .error fault
      | .ok (ds, tail) => .ok (c :: ds, tail.behind)
  termination_by cs.length
  decreasing_by
    · simp only [List.length_cons]; omega
    · simp

/-- A string from behind its opening quote. -/
def readString : Reader String := fun cs =>
  (readChars cs).map fun (chars, rest) => (String.ofList chars, rest)

end Stencil.Json
