import Stencil.Command.Arguments
import Stencil.Template
import Stencil.Text.ControlSequence

/-!
# Running a command

A run is a function of the arguments, of the files and of the standard input. It answers the exit
status and what is written to the two outputs. Notices go to the error output, one per line and
without the control sequences in them, and only warnings unless the call is verbose.
-/

namespace Stencil.Command

/-- What a run finds around it. -/
structure World where
  file : String → Content
  input : ByteArray

structure Outcome where
  status : Nat
  output : String
  errors : String
  deriving DecidableEq, Inhabited

/-- Why a run stops; each names the file that it is about, if there is one. -/
inductive Failure where
  | template (path : String) (cause : TemplateError)
  | file (path : String) (cause : String)
  | config (path : String) (cause : Json.ReadError)
  | input (cause : String)
  | data (cause : Json.ReadError)
  deriving DecidableEq, Inhabited

def Failure.message : Failure → String
  | .template path cause =>
    "Error loading template '" ++ path ++ "': " ++ cause.message ++ ": " ++ cause.causeMessage
  | .file path cause => "Error reading file '" ++ path ++ "': " ++ cause
  | .config path cause => "Error parsing config '" ++ path ++ "': " ++ cause.message
  | .input cause => "Error reading data model from stdin: " ++ cause
  | .data cause => "Error parsing data model JSON: " ++ cause.message

/-- Further lines of a message are indented. -/
def indented (message : String) : String :=
  String.ofList (message.toList.flatMap fun c => if c = '\n' then "\n    ".toList else [c])

/-- A notice as a line, with whatever is in its message. -/
def rawLine (n : Notice) : String :=
  "[" ++ (match n.level with
    | .warn => "WARN "
    | .debug => "DEBUG") ++ " " ++ n.origin ++ "] " ++ indented n.message ++ "\n"

/-- A notice as it is written to the error output. A sequence that the message does not end takes
the rest of the line with it. -/
def noticeLine (n : Notice) : String := String.ofList (Text.shown (rawLine n).toList)

def isShown (verbose : Bool) (n : Notice) : Bool := verbose || n.level == .warn

def noticeLines (verbose : Bool) (ns : List Notice) : String :=
  String.join ((ns.filter (isShown verbose)).map noticeLine)

/-- What a command has written so far, or why it stopped. -/
structure Progress where
  output : String
  notices : List Notice
  failure : Option Failure

def Progress.outcome (verbose : Bool) (p : Progress) : Outcome :=
  let lines := noticeLines verbose p.notices
  match p.failure with
  | none => ⟨0, p.output, lines⟩
  | some failure => ⟨1, p.output, lines ++ "Error: " ++ failure.message ++ "\n"⟩

def stop (notices : List Notice) (failure : Failure) : Progress := ⟨"", notices, some failure⟩

def readText (w : World) (path : String) : Except Failure String :=
  match (w.file path).text with
  | .ok text => .ok text
  | .error cause => .error (.file path cause)

/-- The limits in a file, or the standard ones without a file. -/
def readLimits (w : World) : Option String → Except Failure Limits
  | none => .ok .standard
  | some path => do
    let text ← readText w path
    match Limits.read text with
    | .ok limits => .ok limits
    | .error cause => .error (.config path cause)

/-- Limits with the bounds that are given for themselves. -/
def override (limits : Limits) (maxDepth maxIterations : Option Nat) : Limits :=
  ⟨maxDepth.getD limits.maxDepth, maxIterations.getD limits.maxIterations⟩

def loadTemplate (w : World) (path : String) (limits : Limits) : Except Failure Template :=
  match Template.load (w.file path) limits with
  | .ok t => .ok t
  | .error cause => .error (.template path cause)

/-- The data model in a file, or on the standard input without a file. -/
def readData (w : World) (path : Option String) : Except Failure Json := do
  let text ← match path with
    | some path => readText w path
    | none =>
      match decodeText w.input with
      | .ok text => .ok text
      | .error cause => .error (.input cause)
  match Json.read text with
  | .ok data => .ok data
  | .error cause => .error (.data cause)

def runRender (w : World) (template : String) (data config : Option String) (pretty : Bool)
    (maxDepth maxIterations : Option Nat) : Progress :=
  match readLimits w config with
  | .error failure => stop [] failure
  | .ok limits =>
    match loadTemplate w template (override limits maxDepth maxIterations) with
    | .error failure => stop [] failure
    | .ok t =>
      match readData w data with
      | .error failure => stop t.buildNotices failure
      | .ok data =>
        let result := t.evaluate data
        let text := if pretty then result.value.pretty else result.value.compact
        ⟨text ++ "\n", t.buildNotices ++ result.notices, none⟩

def runCheck (w : World) (template : String) : Progress :=
  match loadTemplate w template .standard with
  | .error failure => stop [] failure
  | .ok t =>
    ⟨"✓ Template parsed successfully (" ++ toString t.root.count ++ " nodes)\n", t.buildNotices,
      none⟩

/-- A filter with its name in a column of ten characters. -/
def filterLine (f : Filter) : String :=
  f.name ++ String.ofList (List.replicate (10 - f.name.length) ' ') ++ " " ++ f.documentation ++
    "\n"

def runFilters : Progress := ⟨String.join (Filter.all.map filterLine), [], none⟩

def Task.run (w : World) : Task → Progress
  | .render template data config pretty maxDepth maxIterations =>
    runRender w template data config pretty maxDepth maxIterations
  | .check template => runCheck w template
  | .filters => runFilters

/-- The files that a task may read. -/
def Task.files : Task → List String
  | .render template data config .. => template :: (data.toList ++ config.toList)
  | .check template => [template]
  | .filters => []

/-- Whether a task reads the standard input. -/
def Task.readsInput : Task → Bool
  | .render _ data .. => data.isNone
  | .check _ | .filters => false

def Invocation.run (w : World) (i : Invocation) : Outcome := (i.task.run w).outcome i.verbose

/-- What is said about a call that is not well formed. -/
def usage : String :=
  "Usage: stencil [-v] render TEMPLATE [-d DATA] [-p] [--config FILE] [--max-depth N]\n" ++
    "         [--max-iterations N]\n" ++
    "       stencil [-v] check TEMPLATE\n" ++
    "       stencil [-v] filters\n"

/-- Runs a command line. A call that is not well formed has the status 2. -/
def run (w : World) (arguments : List String) : Outcome :=
  match Invocation.ofArguments? arguments with
  | some i => i.run w
  | none => ⟨2, "", usage⟩

end Stencil.Command
