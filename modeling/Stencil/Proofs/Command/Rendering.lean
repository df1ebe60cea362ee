import Mathlib
import Stencil.Command.Run

/-!
# Rendering from the command line

A run looks at three inputs: the limits, the template and the data model. Each of them, looked at by
itself, holds something or has a failure. A run renders what the inputs hold as a template does when
it is given the texts; and where an input fails, it reports the first failure in that order.
-/

namespace Stencil

variable {ε α : Type}

/-- There is a content, and its bytes are this text. -/
def Content.HasText (content : Content) (text : String) : Prop :=
  ∃ bytes, content = .ok bytes ∧ String.fromUTF8? bytes = some text

theorem Content.text_ok (bytes : ByteArray) : Content.text (.ok bytes) = decodeText bytes := rfl

theorem Content.text_eq_ok_iff {content : Content} {text : String} :
    content.text = .ok text ↔ content.HasText text := by
  cases content with
  | error cause => simp [Content.text, HasText, Except.bind]
  | ok bytes =>
    rw [text_ok, HasText, decodeText]
    cases h : String.fromUTF8? bytes <;> simp [h]

/-- The content is a text from which this can be read. -/
def Content.Holds (read : String → Except ε α) (content : Content) (a : α) : Prop :=
  ∃ text, content.HasText text ∧ read text = .ok a

namespace Command

/-- What can be read from a content, or why nothing can. -/
def take (read : String → Except ε α) (unreadable : String → Failure) (malformed : ε → Failure)
    (content : Content) : Except Failure α :=
  match content.text with
  | .error cause => .error (unreadable cause)
  | .ok text => (read text).mapError malformed

section take

variable {read : String → Except ε α} {unreadable : String → Failure} {malformed : ε → Failure}
  {content : Content}

theorem take_eq_ok_iff {a : α} :
    take read unreadable malformed content = .ok a ↔ content.Holds read a := by
  simp only [Content.Holds, ← Content.text_eq_ok_iff, take]
  cases content.text with
  | error cause => simp
  | ok text => cases h : read text <;> simp [Except.mapError, h]

end take

/-! ### The three inputs -/

namespace World

/-- The limits by themselves. -/
def limits (w : World) : Option String → Except Failure Limits
  | none => .ok .standard
  | some path => take Limits.read (.file path) (.config path) (w.file path)

/-- The limits that are given by a file, or the standard ones without a file. -/
def HasLimits (w : World) : Option String → Limits → Prop
  | none, base => base = .standard
  | some path, base => (w.file path).Holds Limits.read base

theorem limits_eq_ok_iff {w : World} {config : Option String} {base : Limits} :
    w.limits config = .ok base ↔ w.HasLimits config base := by
  cases config with
  | none => simp [limits, HasLimits, eq_comm]
  | some path => exact take_eq_ok_iff

/-- The template by itself. -/
def template (w : World) (path : String) : Except Failure Json :=
  take Json.read (fun cause => .template path (.unreadable cause))
    (fun cause => .template path (.invalidTemplate cause)) (w.file path)

/-- Where the data model comes from. -/
def dataContent (w : World) : Option String → Content
  | some path => w.file path
  | none => .ok w.input

/-- The data model by itself. -/
def data (w : World) (path : Option String) : Except Failure Json :=
  take Json.read (path.elim .input .file) .data (w.dataContent path)

end World

/-- Why there is nothing, if there is a reason. -/
def failure? : Except Failure α → Option Failure
  | .error failure => some failure
  | .ok _ => none

/-- The first of the failures that the limits, the template and the data model have. -/
def firstFailure? (w : World) (template : String) (data config : Option String) : Option Failure :=
  (failure? (w.limits config)).or ((failure? (w.template template)).or (failure? (w.data data)))

/-! ### What a run does with them -/

theorem readLimits_eq (w : World) (config : Option String) :
    readLimits w config = w.limits config := by
  cases config with
  | none => rfl
  | some path =>
    simp only [readLimits, readText, World.limits, take]
    cases (w.file path).text with
    | error cause => rfl
    | ok text => cases h : Limits.read text <;> simp [Except.mapError, h, bind, Except.bind]

theorem loadTemplate_eq (w : World) (path : String) (limits : Limits) :
    loadTemplate w path limits = (w.template path).map (Template.ofJson · limits) := by
  simp only [loadTemplate, Template.load, World.template, take]
  cases (w.file path).text with
  | error cause => rfl
  | ok text => cases h : Json.read text <;> simp [Template.read, Except.mapError, Except.map, h]

theorem readData_eq (w : World) (path : Option String) : readData w path = w.data path := by
  cases path with
  | none =>
    simp only [readData, World.data, World.dataContent, Content.text_ok, take]
    cases decodeText w.input with
    | error cause => rfl
    | ok text => cases h : Json.read text <;> simp [Except.mapError, h, bind, Except.bind]
  | some path =>
    simp only [readData, readText, World.data, World.dataContent, take]
    cases (w.file path).text with
    | error cause => rfl
    | ok text => cases h : Json.read text <;> simp [Except.mapError, h, bind, Except.bind]

/-! ### Rendering -/

/-- A call that renders, and is neither pretty nor verbose. -/
def Invocation.rendering (template : String) (data config : Option String)
    (maxDepth maxIterations : Option Nat) : Invocation :=
  ⟨false, .render template data config false maxDepth maxIterations⟩

section rendering

variable {w : World} {template : String} {data config : Option String}
  {maxDepth maxIterations : Option Nat}

theorem firstFailure?_eq_none_iff : firstFailure? w template data config = none ↔
    (∃ base, w.limits config = .ok base) ∧ (∃ source, w.template template = .ok source) ∧
      ∃ model, w.data data = .ok model := by
  rw [firstFailure?]
  cases w.limits config <;> cases w.template template <;> cases w.data data <;> simp [failure?]

/-- Where every input holds something, the template is rendered. -/
theorem runRender_of_ok {base : Limits} {source model : Json} (hLimits : w.limits config = .ok base)
    (hTemplate : w.template template = .ok source) (hData : w.data data = .ok model) :
    let t := Template.ofJson source (override base maxDepth maxIterations)
    runRender w template data config false maxDepth maxIterations =
      ⟨(t.evaluate model).value.compact ++ "\n", t.buildNotices ++ (t.evaluate model).notices,
        none⟩ := by
  simp only [runRender, readLimits_eq, hLimits, loadTemplate_eq, hTemplate, Except.map, readData_eq,
    hData]
  rfl

/-- Where an input fails, nothing is rendered. -/
theorem runRender_of_failure {failure : Failure}
    (h : firstFailure? w template data config = some failure) :
    ∃ notices, runRender w template data config false maxDepth maxIterations =
      stop notices failure := by
  rw [firstFailure?] at h
  simp only [runRender, readLimits_eq, loadTemplate_eq, readData_eq]
  cases hLimits : w.limits config with
  | error first =>
    rw [hLimits] at h
    cases h
    exact ⟨_, rfl⟩
  | ok base =>
    cases hTemplate : w.template template with
    | error first =>
      rw [hLimits, hTemplate] at h
      cases h
      exact ⟨_, rfl⟩
    | ok source =>
      cases hData : w.data data with
      | error first =>
        rw [hLimits, hTemplate, hData] at h
        cases h
        exact ⟨_, rfl⟩
      | ok model =>
        rw [hLimits, hTemplate, hData] at h
        cases h

theorem run_of_failure {failure : Failure}
    (h : firstFailure? w template data config = some failure) :
    let i := Invocation.rendering template data config maxDepth maxIterations
    i.run w = ⟨1, "", noticeLines false (i.task.run w).notices ++ "Error: " ++ failure.message ++
      "\n"⟩ := by
  intro i
  obtain ⟨notices, hStop⟩ := runRender_of_failure h
  have hTask : i.task.run w = stop notices failure := hStop
  change (i.task.run w).outcome false = _
  rw [hTask]
  rfl

theorem run_of_ok {base : Limits} {source model : Json} (hLimits : w.limits config = .ok base)
    (hTemplate : w.template template = .ok source) (hData : w.data data = .ok model) :
    let outcome := (Invocation.rendering template data config maxDepth maxIterations).run w
    outcome.status = 0 ∧ outcome.output = ((Template.ofJson source
      (override base maxDepth maxIterations)).evaluate model).value.compact ++ "\n" := by
  intro outcome
  have hOutcome : outcome =
      (runRender w template data config false maxDepth maxIterations).outcome false := rfl
  rw [hOutcome, runRender_of_ok hLimits hTemplate hData]
  exact ⟨rfl, rfl⟩

theorem status_eq_zero_iff :
    ((Invocation.rendering template data config maxDepth maxIterations).run w).status = 0 ↔
      firstFailure? w template data config = none := by
  cases h : firstFailure? w template data config with
  | none =>
    obtain ⟨⟨base, hLimits⟩, ⟨source, hTemplate⟩, model, hData⟩ := firstFailure?_eq_none_iff.1 h
    simp [run_of_ok hLimits hTemplate hData]
  | some failure => simp [run_of_failure h]

/-- Only what the inputs hold makes a difference to the output, not where the data model is. -/
theorem run_congr {w' : World} {data' : Option String}
    (hTemplate : w'.file template = w.file template)
    (hConfig : ∀ path ∈ config, w'.file path = w.file path)
    (hData : w'.dataContent data' = w.dataContent data) :
    let outcome := (Invocation.rendering template data config maxDepth maxIterations).run w
    let other := (Invocation.rendering template data' config maxDepth maxIterations).run w'
    other.status = outcome.status ∧ other.output = outcome.output := by
  intro outcome other
  have hSameLimits : w'.limits config = w.limits config := by
    cases config with
    | none => rfl
    | some path => rw [World.limits, World.limits, hConfig path rfl]
  have hSameTemplate : w'.template template = w.template template := by
    rw [World.template, World.template, hTemplate]
  have hSameData (model : Json) : w'.data data' = .ok model ↔ w.data data = .ok model := by
    rw [World.data, World.data, take_eq_ok_iff, take_eq_ok_iff, hData]
  cases h : firstFailure? w template data config with
  | none =>
    obtain ⟨⟨base, hLimits⟩, ⟨source, hTemplate⟩, model, hModel⟩ := firstFailure?_eq_none_iff.1 h
    have hHere : outcome.status = 0 ∧ outcome.output = _ := run_of_ok hLimits hTemplate hModel
    have hOther : other.status = 0 ∧ other.output = _ :=
      run_of_ok (hSameLimits.trans hLimits) (hSameTemplate.trans hTemplate)
        ((hSameData model).2 hModel)
    exact ⟨hOther.1.trans hHere.1.symm, hOther.2.trans hHere.2.symm⟩
  | some failure =>
    have hOther : firstFailure? w' template data' config ≠ none := by
      intro hNone
      rw [firstFailure?_eq_none_iff, hSameLimits, hSameTemplate] at hNone
      simp only [hSameData] at hNone
      rw [firstFailure?_eq_none_iff.2 hNone] at h
      cases h
    obtain ⟨failure', h'⟩ := Option.ne_none_iff_exists'.1 hOther
    have hOutcome : outcome = _ := run_of_failure h
    have hOther : other = _ := run_of_failure h'
    rw [hOutcome, hOther]
    exact ⟨rfl, rfl⟩

end rendering

/-- A call renders what the library renders when it is given the texts and the limits. It fails only
where an input fails, writes nothing then, and reports the first failure. -/
theorem run_rendering (w : World) (template : String) (data config : Option String)
    (maxDepth maxIterations : Option Nat) :
    let i := Invocation.rendering template data config maxDepth maxIterations
    let outcome := i.run w
    (outcome.status = 0 ↔ (∃ base, w.HasLimits config base) ∧
      (∃ source, (w.file template).Holds Json.read source) ∧
      ∃ model, (w.dataContent data).Holds Json.read model) ∧
    (outcome.status = 0 → ∃ base templateText dataText t text, w.HasLimits config base ∧
      (w.file template).HasText templateText ∧ (w.dataContent data).HasText dataText ∧
      Template.read templateText
        ⟨maxDepth.getD base.maxDepth, maxIterations.getD base.maxIterations⟩ = .ok t ∧
      t.render dataText = .ok text ∧ outcome.output = text ++ "\n") ∧
    (outcome.status ≠ 0 → ∃ failure, firstFailure? w template data config = some failure ∧
      outcome = ⟨1, "", noticeLines false (i.task.run w).notices ++ "Error: " ++ failure.message ++
        "\n"⟩) ∧
    ∀ (w' : World) (data' : Option String), w'.file template = w.file template →
      (∀ path ∈ config, w'.file path = w.file path) →
      w'.dataContent data' = w.dataContent data →
      let other := (Invocation.rendering template data' config maxDepth maxIterations).run w'
      other.status = outcome.status ∧ other.output = outcome.output := by
  intro i outcome
  have hStatus : outcome.status = 0 ↔ firstFailure? w template data config = none :=
    status_eq_zero_iff
  refine ⟨?_, fun hZero => ?_, fun hNonzero => ?_, fun w' data' => run_congr⟩
  · rw [hStatus, firstFailure?_eq_none_iff]
    simp only [World.limits_eq_ok_iff, World.template, World.data, take_eq_ok_iff]
  · obtain ⟨⟨base, hLimits⟩, ⟨source, hTemplate⟩, model, hData⟩ :=
      firstFailure?_eq_none_iff.1 (hStatus.1 hZero)
    have hOutput : outcome.status = 0 ∧ outcome.output = _ := run_of_ok hLimits hTemplate hData
    obtain ⟨templateText, hTemplateText, hSource⟩ := take_eq_ok_iff.1 hTemplate
    obtain ⟨dataText, hDataText, hModel⟩ := take_eq_ok_iff.1 hData
    refine ⟨base, templateText, dataText, .ofJson source (override base maxDepth maxIterations), _,
      World.limits_eq_ok_iff.1 hLimits, hTemplateText, hDataText, ?_, ?_, hOutput.2⟩
    · rw [Template.read, hSource]
      rfl
    · rw [Template.render, Template.evaluateText, hModel]
      rfl
  · have hSome : firstFailure? w template data config ≠ none := fun hNone =>
      hNonzero (hStatus.2 hNone)
    obtain ⟨failure, hFailure⟩ := Option.ne_none_iff_exists'.1 hSome
    exact ⟨failure, hFailure, run_of_failure hFailure⟩

example : (Invocation.rendering "t" none none none none).run
    ⟨fun _ => .ok "null".toUTF8, "true".toUTF8⟩ = ⟨0, "null\n", ""⟩ := by
  rfl

/-- Where nothing is there, the limits are missed first. -/
example : (Invocation.rendering "t" (some "d") (some "l") none none).run
    ⟨fun _ => .error "gone", .empty⟩ = ⟨1, "", "Error: Error reading file 'l': gone\n"⟩ := by
  rfl

end Command
end Stencil
