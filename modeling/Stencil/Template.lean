import Stencil.Evaluation
import Stencil.Json.Reader

/-!
# Templates

A template is built once from JSON and evaluated any number of times, each time in a context of its
own. Building fails only on a text that is no JSON, and evaluating fails only on data that is none.
-/

namespace Stencil

inductive TemplateError where
  | invalidTemplate (cause : Json.ReadError)
  | invalidData (cause : Json.ReadError)
  /-- The text could not be had at all. -/
  | unreadable (cause : String)
  deriving DecidableEq, Inhabited

namespace TemplateError

/-- What the error goes back to, in words. -/
def causeMessage : TemplateError → String
  | .invalidTemplate cause | .invalidData cause => cause.message
  | .unreadable cause => cause

def located (what : String) (cause : Json.ReadError) : String :=
  "Invalid " ++ what ++ " JSON at line " ++ toString cause.position.line ++ ", column " ++
    toString cause.position.column ++ ": " ++ cause.message

def message : TemplateError → String
  | .invalidTemplate cause => located "template" cause
  | .invalidData cause => located "data model" cause
  | .unreadable cause => "I/O error: " ++ cause

def isTemplateError : TemplateError → Bool
  | .invalidTemplate _ => true
  | .invalidData _ | .unreadable _ => false

end TemplateError

/-- The bytes of a file, or why they cannot be had. -/
abbrev Content := Except String ByteArray

/-- Why the bytes of a file are no text. -/
def notText : String := "stream did not contain valid UTF-8"

/-- The bytes as text. -/
def decodeText (bytes : ByteArray) : Except String String :=
  match String.fromUTF8? bytes with
  | some text => .ok text
  | none => .error notText

def Content.text (content : Content) : Except String String := content.bind decodeText

/-- A template with the limits of its evaluations. -/
structure Template where
  source : Json
  limits : Limits
  root : Node
  root_eq : root = Node.ofJson source := by rfl

/-- What an evaluation gives. -/
structure Evaluated where
  value : Json
  iterations : Nat
  notices : List Notice

namespace Template

def ofJson (source : Json) (limits : Limits) : Template := ⟨source, limits, .ofJson source, rfl⟩

/-- The template that a text holds. -/
def read (text : String) (limits : Limits) : Except TemplateError Template :=
  match Json.read text with
  | .ok source => .ok (ofJson source limits)
  | .error cause => .error (.invalidTemplate cause)

/-- The template in a file. -/
def load (content : Content) (limits : Limits) : Except TemplateError Template :=
  match content.text with
  | .ok text => read text limits
  | .error cause => .error (.unreadable cause)

/-- What is noted when the template is built. -/
def buildNotices (t : Template) : List Notice := t.root.notices ++ [.built t.root.count]

/-- The value of the template for a data model. A root that gives nothing counts as `null`. -/
def evaluate (t : Template) (data : Json) : Evaluated :=
  let (value, c) := t.root.evaluate (.start data t.limits)
  ⟨value.getD .null, c.iterations, c.notices ++ [.evaluated c.iterations]⟩

/-- The value of the template for a data model given as text. -/
def evaluateText (t : Template) (data : String) : Except TemplateError Evaluated :=
  match Json.read data with
  | .ok data => .ok (t.evaluate data)
  | .error cause => .error (.invalidData cause)

/-- The output as JSON text for a data model given as text. -/
def render (t : Template) (data : String) : Except TemplateError String :=
  (t.evaluateText data).map (·.value.compact)

end Template
end Stencil
