import Stencil.Proofs.Evaluation.Rules

/-!
# The values of placeholders

A placeholder is evaluated one step after another, with what is noted on the way. The value that
comes out depends only on what the path leads to, and what is noted only on the placeholder. So
evaluating it is reading a value off the context and adding notices that are always the same, and
this holds of texts with placeholders and of operands as well. To test an operand is to evaluate it
and to ask whether its value counts as true.
-/

namespace Stencil
namespace Context

variable {α β : Type}

theorem noteAll_append (ns ms : List Notice) (c : Context) :
    (c.noteAll ns).noteAll ms = c.noteAll (ns ++ ms) := by simp [noteAll]

/-- To read twice is to read once, when the second reading does not depend on the notices. -/
theorem reading_andThen (f : Context → α) {g : α → Context → β} {ns : List Notice}
    (h : ∀ a c, g a (c.noteAll ns) = g a c) (ms : List Notice) :
    andThen (reading f ns) (fun a => reading (g a) ms) =
      reading (fun c => g (f c) c) (ns ++ ms) := by
  funext c
  rw [andThen, reading, reading, reading, h, noteAll_append]

end Context

open Context

/-! ### Chains of filters -/

namespace FilterCall

/-- What a call makes of a value. An unknown filter leaves it as it is. -/
def apply (call : FilterCall) (v : Json) : Json :=
  match call.filter? with
  | some f => f.apply call.argument v
  | none => v

/-- What is noted when the step of a call is taken. -/
def evaluationNotices (source : String) (call : FilterCall) : List Notice :=
  if call.filter?.isNone then [.passedUnknownFilter call.name source] else []

theorem step_eq (source : String) (call : FilterCall) (v : Json) :
    call.step source v = reading (fun _ => call.apply v) (call.evaluationNotices source) := by
  funext c
  rw [step, reading, apply, evaluationNotices]
  cases call.filter? <;> rfl

end FilterCall

namespace Expression

/-- The value at the path, `null` where there is none, after the filters from left to right. -/
def value (e : Expression) (c : Context) : Json :=
  e.calls.foldl (fun v call => call.apply v) ((c.resolve? e.path).getD .null)

/-- What is noted whenever the expression is evaluated. -/
def evaluationNotices (e : Expression) : List Notice :=
  e.unknownNames.map (Notice.passedUnknownFilter · e.source)

theorem steps_cons (source : String) (call : FilterCall) (rest : List FilterCall) (v : Json) :
    steps source (call :: rest) v =
      andThen (call.step source v) fun v => steps source rest v := rfl

theorem steps_eq (source : String) (calls : List FilterCall) (v : Json) :
    steps source calls v =
      reading (fun _ => calls.foldl (fun v call => call.apply v) v)
        (calls.flatMap (·.evaluationNotices source)) := by
  induction calls generalizing v with
  | nil => rfl
  | cons call rest ih =>
    simp only [steps_cons, FilterCall.step_eq, ih]
    rw [reading_andThen _ fun _ _ => rfl]
    rfl

theorem flatMap_evaluationNotices (source : String) (calls : List FilterCall) :
    calls.flatMap (·.evaluationNotices source) =
      ((calls.filter (·.filter?.isNone)).map (·.name)).map
        (Notice.passedUnknownFilter · source) := by
  induction calls with
  | nil => rfl
  | cons call rest ih =>
    rw [List.flatMap_cons, List.filter_cons, FilterCall.evaluationNotices, ih]
    split <;> rfl

theorem evaluate_eq (e : Expression) :
    e.evaluate = reading (fun c => e.value c) e.evaluationNotices := by
  funext c
  rw [evaluate, steps_eq, flatMap_evaluationNotices]
  rfl

end Expression

/-! ### Texts -/

namespace Segment

/-- The text as it stands, or the value of the placeholder displayed. -/
def display (c : Context) : Segment → String
  | .text s => s
  | .placeholder e => (e.value c).display

def evaluationNotices : Segment → List Notice
  | .text _ => []
  | .placeholder e => e.evaluationNotices

theorem evaluate_eq (segment : Segment) :
    segment.evaluate = reading (fun c => segment.display c) segment.evaluationNotices := by
  funext c
  cases segment with
  | text s => rfl
  | placeholder e =>
    rw [evaluate, e.evaluate_eq]
    rfl

theorem displayFrom_cons (text : String) (segment : Segment) (rest : List Segment) :
    displayFrom text (segment :: rest) =
      andThen segment.evaluate fun piece => displayFrom (text ++ piece) rest := rfl

theorem displayFrom_eq (text : String) (segments : List Segment) :
    displayFrom text segments =
      reading (fun c => text ++ String.join (segments.map (·.display c)))
        (segments.flatMap evaluationNotices) := by
  induction segments generalizing text with
  | nil =>
    funext c
    rw [displayFrom, reading, List.map_nil, String.join_nil, String.append_empty]
    rfl
  | cons segment rest ih =>
    simp only [displayFrom_cons, evaluate_eq, ih]
    rw [reading_andThen _ fun _ _ => rfl]
    simp only [List.map_cons, List.flatMap_cons, String.join_cons, String.append_assoc]

end Segment

namespace Interpolation

/-- The value of the one placeholder, or the text with every placeholder displayed. -/
def value (c : Context) : Interpolation → Json
  | .pure e => e.value c
  | .mixed segments => .string (String.join (segments.map (·.display c)))

/-- What is noted whenever the text is evaluated. -/
def evaluationNotices (content : Interpolation) : List Notice :=
  content.expressions.flatMap Expression.evaluationNotices

theorem evaluationNotices_pure (e : Expression) :
    (pure e).evaluationNotices = e.evaluationNotices := List.flatMap_singleton _ _

theorem evaluationNotices_mixed (segments : List Segment) :
    (mixed segments).evaluationNotices = segments.flatMap Segment.evaluationNotices := by
  induction segments with
  | nil => rfl
  | cons segment rest ih =>
    rw [List.flatMap_cons, ← ih]
    cases segment <;> rfl

theorem evaluate_eq (content : Interpolation) :
    content.evaluate = reading (fun c => content.value c) content.evaluationNotices := by
  cases content with
  | pure e =>
    rw [evaluationNotices_pure]
    exact e.evaluate_eq
  | mixed segments =>
    funext c
    rw [evaluate, Segment.displayFrom_eq, evaluationNotices_mixed, reading, String.empty_append]
    rfl

end Interpolation

/-! ### Operands -/

namespace Source

/-- The value, `null` for a path that leads nowhere. -/
def value (c : Context) : Source → Json
  | .path p => (c.resolve? p).getD .null
  | .text content => content.value c
  | .literal v => v

/-- What is noted whenever the operand is evaluated. -/
def evaluationNotices : Source → List Notice
  | .text content => content.evaluationNotices
  | .path _ | .literal _ => []

theorem evaluate_eq (s : Source) :
    s.evaluate = reading (fun c => s.value c) s.evaluationNotices := by
  cases s with
  | text content => exact content.evaluate_eq
  | _ => rfl

/-- A path that leads nowhere has the value `null`, which does not count as true. -/
theorem test_eq (s : Source) : s.test = andThen s.evaluate fun v => give v.truthy := by
  funext c
  cases s with
  | path p =>
    rw [test, andThen, evaluate]
    cases c.resolve? p <;> rfl
  | text content => cases content <;> rfl
  | literal v => rfl

end Source
end Stencil
