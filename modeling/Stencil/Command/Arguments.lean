import Stencil.Numeric.Decimal

/-!
# Arguments of the command line

A command line names one of three commands and gives it options and at most one operand.
`Invocation.ofArguments?` answers `none` whenever it is not well formed: an option that is unknown,
repeated, without its value or with a bad one, an operand too many or too few, or no command.
-/

namespace Stencil.Command

inductive Opt where
  | verbose
  | pretty
  | data
  | config
  | maxDepth
  | maxIterations
  deriving DecidableEq, Inhabited

namespace Opt

def ofShort? : Char → Option Opt
  | 'v' => some .verbose
  | 'p' => some .pretty
  | 'd' => some .data
  | _ => none

def ofLong? (name : String) : Option Opt :=
  if name = "verbose" then some .verbose
  else if name = "pretty" then some .pretty
  else if name = "data" then some .data
  else if name = "config" then some .config
  else if name = "max-depth" then some .maxDepth
  else if name = "max-iterations" then some .maxIterations
  else none

def takesValue : Opt → Bool
  | .verbose | .pretty => false
  | .data | .config | .maxDepth | .maxIterations => true

/-- Files have names with something in them, and bounds are numbers of 64 bits. -/
def accepts : Opt → String → Bool
  | .verbose, _ | .pretty, _ => true
  | .data, value | .config, value => value ≠ ""
  | .maxDepth, value | .maxIterations, value => (Decimal.read64? value.toList).isSome

end Opt

/-- The names of the commands. -/
inductive Kind where
  | render
  | check
  | filters
  deriving DecidableEq, Inhabited

def Kind.ofName? (name : String) : Option Kind :=
  if name = "render" then some .render
  else if name = "check" then some .check
  else if name = "filters" then some .filters
  else none

/-- Whether the command has the option. -/
def Kind.has : Kind → Opt → Bool
  | .render, _ => true
  | .check, o | .filters, o => o = .verbose

/-- The number of operands of the command. -/
def Kind.operands : Kind → Nat
  | .render | .check => 1
  | .filters => 0

/-- Options with their values, and operands, in the order in which they are given. -/
structure Given where
  options : List (Opt × String)
  operands : List String
  deriving DecidableEq, Inhabited

namespace Given

def empty : Given := ⟨[], []⟩

def addOption (o : Opt) (value : String) (g : Given) : Given :=
  { g with options := (o, value) :: g.options }

def addOperand (operand : String) (g : Given) : Given :=
  { g with operands := operand :: g.operands }

/-- The value of an option. -/
def value? (g : Given) (o : Opt) : Option String := g.options.lookup o

def has (g : Given) (o : Opt) : Bool := (g.value? o).isSome

/-- The value of an option that is a number. -/
def number? (g : Given) (o : Opt) : Option Nat :=
  (g.value? o).bind fun value => Decimal.read64? value.toList

/-- Whether no option is given twice. -/
def distinct (g : Given) : Bool := (g.options.map (·.1)).Nodup

/-- Whether a command can be called like this. -/
def fits (g : Given) (kind : Kind) : Bool :=
  g.distinct && g.options.all (fun (o, value) => kind.has o && o.accepts value) &&
    g.operands.length == kind.operands && g.operands.all (· ≠ "")

end Given

/-- What one argument is. -/
inductive Argument where
  | operand (text : String)
  /-- Two hyphens: all further arguments are operands. -/
  | escape
  /-- Options that need no further argument. -/
  | options (given : List (Opt × String))
  /-- Options the last of which takes the next argument as its value. -/
  | awaiting (given : List (Opt × String)) (last : Opt)
  | bad
  deriving DecidableEq, Inhabited

namespace Argument

/-- Letters behind one hyphen. A letter that takes a value takes the rest of the argument, without
an equals sign in front of it, if anything is left. -/
def ofLetters (given : List (Opt × String)) : List Char → Argument
  | [] => .options given
  | letter :: rest =>
    match Opt.ofShort? letter with
    | none => .bad
    | some o =>
      if o.takesValue then
        match rest with
        | [] => .awaiting given o
        | '=' :: value => .options (given ++ [(o, String.ofList value)])
        | value => .options (given ++ [(o, String.ofList value)])
      else ofLetters (given ++ [(o, "")]) rest

/-- A name behind two hyphens, with a value behind an equals sign or without. -/
def ofName (cs : List Char) : Argument :=
  match Opt.ofLong? (String.ofList (cs.takeWhile (· ≠ '='))), cs.dropWhile (· ≠ '=') with
  | none, _ => .bad
  | some o, [] => if o.takesValue then .awaiting [] o else .options [(o, "")]
  | some o, _ :: value => if o.takesValue then .options [(o, String.ofList value)] else .bad

def ofText (text : String) : Argument :=
  match text.toList with
  | ['-', '-'] => .escape
  | '-' :: '-' :: name => ofName name
  | '-' :: letter :: letters => ofLetters [] (letter :: letters)
  | _ => .operand text

/-- Whether the argument can be the value of the option before it. -/
def isOperand : Argument → Bool
  | .operand _ => true
  | _ => false

end Argument

/-- Adds options in their order. -/
def Given.addOptions (options : List (Opt × String)) (g : Given) : Given :=
  options.foldl (fun g (o, value) => g.addOption o value) g

/-- Sorts the arguments behind the name of a command into options and operands. -/
def sort? (g : Given) : List String → Option Given
  | [] => some g
  | argument :: rest =>
    match Argument.ofText argument with
    | .operand text => sort? (g.addOperand text) rest
    | .escape => some (rest.foldl (fun g text => g.addOperand text) g)
    | .options given => sort? (g.addOptions given) rest
    | .awaiting given last =>
      match rest with
      | [] => none
      | value :: rest =>
        if (Argument.ofText value).isOperand then
          sort? ((g.addOptions given).addOption last value) rest
        else none
    | .bad => none

/-- What a command line asks for. -/
inductive Task where
  | render (template : String) (data config : Option String) (pretty : Bool)
      (maxDepth maxIterations : Option Nat)
  | check (template : String)
  | filters
  deriving DecidableEq, Inhabited

/-- A well-formed command line. -/
structure Invocation where
  verbose : Bool
  task : Task
  deriving DecidableEq, Inhabited

/-- What some options and operands ask a command to do. -/
def Kind.task (kind : Kind) (g : Given) : Task :=
  let template := (g.operands.head?).getD ""
  match kind with
  | .render =>
    .render template (g.value? .data) (g.value? .config) (g.has .pretty) (g.number? .maxDepth)
      (g.number? .maxIterations)
  | .check => .check template
  | .filters => .filters

/-- Reads arguments up to the name of the command, before which only `verbose` may stand, and then
the rest. -/
def Invocation.ofArgumentsFrom? (verbose : Bool) : List String → Option Invocation
  | [] => none
  | argument :: rest =>
    match Argument.ofText argument with
    | .operand name => do
      let kind ← Kind.ofName? name
      let g ← sort? .empty rest
      if g.fits kind then some ⟨verbose || g.has .verbose, kind.task g⟩ else none
    | .options [(.verbose, _)] =>
      if verbose then none else Invocation.ofArgumentsFrom? true rest
    | _ => none

def Invocation.ofArguments? (arguments : List String) : Option Invocation :=
  Invocation.ofArgumentsFrom? false arguments

end Stencil.Command
