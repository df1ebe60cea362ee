import Stencil.Json.Printer

/-!
# Notices

Nothing that goes wrong while a template is built or evaluated stops it. Instead it leaves a notice.
The constructors say what happened; `Notice.message` words it, and `Notice.origin` names the part of
the program that speaks.
-/

namespace Stencil

/-- The reserved keys of control objects. -/
def forKey : String := "$for"
def inKey : String := "$in"
def templateKey : String := "$template"
def emptyKey : String := "$empty"
def ifKey : String := "$if"
def thenKey : String := "$then"
def elseKey : String := "$else"

inductive Notice where
  /-- A filter chain has a part without a name. -/
  | blankFilter (offset : Nat) (source : String)
  /-- A template names a filter that the catalog does not have. -/
  | unknownFilter (name source : String)
  /-- The name of a loop variable is not a text with something in it. -/
  | unusableBinding (found : Json)
  /-- A loop lacks required keys. -/
  | incompleteLoop (missing : List String)
  /-- An evaluation came to a filter that the catalog does not have. -/
  | passedUnknownFilter (name source : String)
  /-- An evaluation came to a loop that lacks required keys. -/
  | skippedLoop (missing : List String)
  /-- A loop was to run over something that is neither an array nor absent. -/
  | notAnArray (binding kind : String)
  | depthExceeded (limit : Nat)
  | budgetExhausted (limit : Nat)
  /-- A template was built. -/
  | built (nodes : Nat)
  /-- An evaluation is over. -/
  | evaluated (iterations : Nat)
  deriving Inhabited

inductive Level where
  | warn
  | debug
  deriving DecidableEq, Inhabited

def Level.name : Level → String
  | .warn => "WARN"
  | .debug => "DEBUG"

namespace Notice

def level : Notice → Level
  | .built _ | .evaluated _ => .debug
  | _ => .warn

/-- Names with a comma and a blank between them. -/
def commaSeparated (names : List String) : String :=
  String.ofList (Text.join [',', ' '] (names.map String.toList))

def message : Notice → String
  | .blankFilter offset source =>
    "Empty filter at offset " ++ toString offset ++ " in expression '" ++ source ++ "', skipping"
  | .unknownFilter name source =>
    "Unknown filter '" ++ name ++ "' in expression '" ++ source ++
      "'; values will pass through unchanged"
  | .unusableBinding found =>
    "`$for` must be a non-empty binding name, found Some(" ++ found.outline ++ ")"
  | .incompleteLoop missing =>
    "Incomplete `$for` node, missing " ++ commaSeparated missing ++ "; it will produce nothing"
  | .passedUnknownFilter name source =>
    "Unknown filter '" ++ name ++ "' in expression '" ++ source ++ "', passing value through"
  | .skippedLoop missing => "Skipping `$for` node missing " ++ commaSeparated missing
  | .notAnArray binding kind =>
    "`$for` collection for '" ++ binding ++ "' is a " ++ kind ++ ", not an array"
  | .depthExceeded limit =>
    "Template nesting exceeds max depth " ++ toString limit ++ "; skipping sub-tree"
  | .budgetExhausted limit =>
    "Loop iteration budget of " ++ toString limit ++
      " exhausted; remaining iterations are skipped"
  | .built nodes => "Parsed template with " ++ toString nodes ++ " nodes"
  | .evaluated iterations =>
    "Evaluated template using " ++ toString iterations ++ " loop iterations"

/-- The part of the program that speaks, as printed in front of a message. -/
def origin : Notice → String
  | .blankFilter .. => "jsontemplate::parser::expression"
  | .unknownFilter .. | .unusableBinding .. | .incompleteLoop .. => "jsontemplate::parser"
  | .passedUnknownFilter .. => "jsontemplate::evaluator::expression"
  | .skippedLoop .. | .notAnArray .. => "jsontemplate::evaluator::node"
  | .depthExceeded .. | .budgetExhausted .. => "jsontemplate::evaluator::context"
  | .built .. | .evaluated .. => "jsontemplate::engine"

end Notice
end Stencil
