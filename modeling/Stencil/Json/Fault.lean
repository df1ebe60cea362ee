import Stencil.Text.Pieces

/-!
# Why a JSON text is refused, and where

A reader reports a reason together with the number of bytes that it had not read yet; that needs no
bookkeeping while reading. `Fault.locate` turns the number into a line and a column of the text.
Columns count bytes.
-/

namespace Stencil.Json

inductive Reason where
  | eofList
  | eofObject
  | eofString
  | eofValue
  | expectedColon
  | expectedListCommaOrEnd
  | expectedObjectCommaOrEnd
  | expectedWord
  | expectedValue
  | invalidEscape
  | invalidNumber
  | numberOutOfRange
  | controlCharacter
  | keyMustBeString
  | loneSurrogate
  | trailingComma
  | trailingCharacters
  | unexpectedEndOfHexEscape
  | nestedTooDeep
  /-- The text is JSON and has another kind of value than the one wanted. -/
  | invalidType (found wanted : String)
  /-- The value is of the right kind and outside its range. -/
  | invalidValue (found wanted : String)
  | duplicateField (name : String)
  deriving DecidableEq, Inhabited

def Reason.message : Reason → String
  | .eofList => "EOF while parsing a list"
  | .eofObject => "EOF while parsing an object"
  | .eofString => "EOF while parsing a string"
  | .eofValue => "EOF while parsing a value"
  | .expectedColon => "expected `:`"
  | .expectedListCommaOrEnd => "expected `,` or `]`"
  | .expectedObjectCommaOrEnd => "expected `,` or `\x7d`"
  | .expectedWord => "expected ident"
  | .expectedValue => "expected value"
  | .invalidEscape => "invalid escape"
  | .invalidNumber => "invalid number"
  | .numberOutOfRange => "number out of range"
  | .controlCharacter => "control character (\\u0000-\\u001F) found while parsing a string"
  | .keyMustBeString => "key must be a string"
  | .loneSurrogate => "lone leading surrogate in hex escape"
  | .trailingComma => "trailing comma"
  | .trailingCharacters => "trailing characters"
  | .unexpectedEndOfHexEscape => "unexpected end of hex escape"
  | .nestedTooDeep => "recursion limit exceeded"
  | .invalidType found wanted => "invalid type: " ++ found ++ ", expected " ++ wanted
  | .invalidValue found wanted => "invalid value: " ++ found ++ ", expected " ++ wanted
  | .duplicateField name => "duplicate field `" ++ name ++ "`"

/-- A reason and the number of bytes of the text that were not read yet. -/
structure Fault where
  reason : Reason
  unread : Nat
  deriving DecidableEq, Inhabited

/-- A fault seen when the next character had not been taken yet: it points behind the first byte
of that character, or at the end of the text. -/
def Fault.ahead (reason : Reason) (rest : List Char) : Fault :=
  ⟨reason, Text.byteLength rest - 1⟩

/-- A fault seen after everything before `rest` had been taken. -/
def Fault.behind (reason : Reason) (rest : List Char) : Fault := ⟨reason, Text.byteLength rest⟩

/-- A line, from one, and the number of bytes before a place on that line. -/
structure Position where
  line : Nat
  column : Nat
  deriving DecidableEq, Inhabited

/-- The position so many bytes further on. -/
def Position.advance (p : Position) : List Char → Nat → Position
  | [], bytes => ⟨p.line, p.column + bytes⟩
  | c :: cs, bytes =>
    if c.utf8Size ≤ bytes then
      let next := if c = '\n' then ⟨p.line + 1, 0⟩ else ⟨p.line, p.column + c.utf8Size⟩
      Position.advance next cs (bytes - c.utf8Size)
    else ⟨p.line, p.column + bytes⟩

/-- Why and where a text is refused. -/
structure ReadError where
  reason : Reason
  position : Position
  deriving DecidableEq, Inhabited

def Fault.locate (text : List Char) (fault : Fault) : ReadError :=
  ⟨fault.reason, Position.advance ⟨1, 0⟩ text (Text.byteLength text - fault.unread)⟩

def ReadError.message (e : ReadError) : String :=
  e.reason.message ++ " at line " ++ toString e.position.line ++
    " column " ++ toString e.position.column

end Stencil.Json
