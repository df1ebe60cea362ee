import Stencil.Json.Basic
import Stencil.Numeric.Shortest
import Stencil.Text.Pieces
import Stencil.Text.Quoted

/-!
# JSON as text

`Json.chars` writes a value without any blanks, `Json.prettyChars` over several lines with two
blanks per level. `Json.display` is the text of a value inside other text. `Json.outlineChars` names
the kind of every part and is meant for messages.
-/

namespace Stencil

def Number.chars : Number → List Char
  | .int n => (toString n).toList
  | .float x => x.text

namespace Json

/-- A character inside a JSON string. -/
def escapedChar (c : Char) : List Char :=
  if c = '"' then ['\\', '"']
  else if c = '\\' then ['\\', '\\']
  else if c = '\x08' then ['\\', 'b']
  else if c = '\x0c' then ['\\', 'f']
  else if c = '\n' then ['\\', 'n']
  else if c = '\r' then ['\\', 'r']
  else if c = '\t' then ['\\', 't']
  else if c.toNat < 0x20 then
    ['\\', 'u', '0', '0', Nat.digitChar (c.toNat / 16), Nat.digitChar (c.toNat % 16)]
  else [c]

def stringChars (s : String) : List Char := '"' :: s.toList.flatMap escapedChar ++ ['"']

mutual

/-- The value without blanks. -/
def chars : Json → List Char
  | .null => ['n', 'u', 'l', 'l']
  | .bool true => ['t', 'r', 'u', 'e']
  | .bool false => ['f', 'a', 'l', 's', 'e']
  | .number n => n.chars
  | .string s => stringChars s
  | .array items => '[' :: Text.join [','] (itemsChars items) ++ [']']
  | .object members => '\x7b' :: Text.join [','] (membersChars members) ++ ['\x7d']

def itemsChars : List Json → List (List Char)
  | [] => []
  | item :: rest => item.chars :: itemsChars rest

def membersChars : List (String × Json) → List (List Char)
  | [] => []
  | (key, value) :: rest => (stringChars key ++ ':' :: value.chars) :: membersChars rest

end

/-- A new line with two blanks per level. -/
def lineBreak (level : Nat) : List Char := '\n' :: List.replicate (2 * level) ' '

/-- The parts of a container on lines of their own; nothing stands inside an empty one. -/
def block (level : Nat) (opening closing : Char) (parts : List (List Char)) : List Char :=
  if parts = [] then [opening, closing]
  else
    opening :: lineBreak (level + 1) ++ Text.join (',' :: lineBreak (level + 1)) parts ++
      lineBreak level ++ [closing]

mutual

def prettyCharsAt (level : Nat) : Json → List Char
  | .array items => block level '[' ']' (prettyItems level items)
  | .object members => block level '\x7b' '\x7d' (prettyMembers level members)
  | scalar => scalar.chars

def prettyItems (level : Nat) : List Json → List (List Char)
  | [] => []
  | item :: rest => item.prettyCharsAt (level + 1) :: prettyItems level rest

def prettyMembers (level : Nat) : List (String × Json) → List (List Char)
  | [] => []
  | (key, value) :: rest =>
    (stringChars key ++ [':', ' '] ++ value.prettyCharsAt (level + 1)) :: prettyMembers level rest

end

mutual

/-- The value with the kind of each part spelled out. -/
def outlineChars : Json → List Char
  | .null => "Null".toList
  | .bool b => "Bool(".toList ++ (toString b).toList ++ [')']
  | .number n => "Number(".toList ++ n.chars ++ [')']
  | .string s => "String(".toList ++ Text.quoted s.toList ++ [')']
  | .array items => "Array [".toList ++ Text.join [',', ' '] (outlineItems items) ++ [']']
  | .object members =>
    "Object \x7b".toList ++ Text.join [',', ' '] (outlineMembers members) ++ ['\x7d']

def outlineItems : List Json → List (List Char)
  | [] => []
  | item :: rest => item.outlineChars :: outlineItems rest

def outlineMembers : List (String × Json) → List (List Char)
  | [] => []
  | (key, value) :: rest =>
    (Text.quoted key.toList ++ [':', ' '] ++ value.outlineChars) :: outlineMembers rest

end

/-- The value as compact JSON text. -/
def compact (v : Json) : String := String.ofList v.chars

/-- The value as JSON text over several lines. -/
def pretty (v : Json) : String := String.ofList (v.prettyCharsAt 0)

def outline (v : Json) : String := String.ofList v.outlineChars

/-- The text of a value inside other text: strings as they are, nothing for `null`, compact JSON for
the rest. -/
def display : Json → String
  | .null => ""
  | .string s => s
  | v => v.compact

end Json
end Stencil
