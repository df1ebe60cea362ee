import Mathlib
import Stencil.Proofs.Evaluation.FreeHeads
import Stencil.Proofs.Evaluation.Operands
import Stencil.Proofs.Placeholder.Delimiters
import Stencil.Proofs.Placeholder.Padding

/-!
# Negated conditions

To negate a condition and to swap the branches changes neither the value nor the context. Only the
log can tell the two apart, and only by the text of the condition, which is quoted when a filter in
it is unknown. What an evaluation does never depends on the log that it finds.
-/

namespace Stencil

open Context Surroundings Text Pipeline

/-! ### The log that is found -/

/-- Two evaluations that do and say the same from different logs on. -/
def Pairing.onLogs (older older' : List Notice) : Pairing where
  related u v := u.iterations = v.iterations ∧ u.budgetReported = v.budgetReported ∧
    ∃ more, u.log = more ++ older ∧ v.log = more ++ older'
  spoiled _ := False
  spoiled_of_grows _ h := h
  related_noteAll := by
    rintro u v ns - ⟨hIterations, hReported, more, hu, hv⟩
    exact ⟨hIterations, hReported, ns.reverse ++ more, by simp [Usage.noteAll, hu],
      by simp [Usage.noteAll, hv]⟩

instance (older older' : List Notice) : Pairing.InStep (.onLogs older older') where
  iterations_eq h := h.1
  related_depthExceeded := by
    rintro u v n ⟨hIterations, hReported, more, hu, hv⟩
    exact ⟨hIterations, hReported, .depthExceeded n :: more, by simp [Usage.noteAll, hu],
      by simp [Usage.noteAll, hv]⟩
  related_grant := by
    rintro u v ⟨hIterations, hReported, hLogs⟩
    exact ⟨congrArg (· + 1) hIterations, hReported, hLogs⟩
  related_refuse := by
    rintro u v n ⟨hIterations, hReported, more, hu, hv⟩
    cases h : v.budgetReported with
    | true =>
      rw [Usage.refuse, Usage.refuse, hReported, h]
      exact ⟨hIterations, hReported, more, hu, hv⟩
    | false =>
      rw [Usage.refuse, Usage.refuse, hReported, h]
      exact ⟨hIterations, rfl, .budgetExhausted n :: more, by simp [hu], by simp [hv]⟩

/-- The same context with another log. -/
def Context.withLog (log : List Notice) (c : Context) : Context := { c with log := log }

theorem Context.eq_withLog {c d : Context} (hSurroundings : d.surroundings = c.surroundings)
    (hIterations : d.iterations = c.iterations) (hReported : d.budgetReported = c.budgetReported) :
    d = c.withLog d.log := by
  rw [surroundings, surroundings, Surroundings.mk.injEq] at hSurroundings
  obtain ⟨hRoot, hLimits, hScopes, hDepth⟩ := hSurroundings
  rw [withLog, ← hRoot, ← hLimits, ← hScopes, ← hDepth, ← hIterations, ← hReported]

/-- A branch does the same from any log on, and adds the same notices to it. -/
theorem Node.evaluateBranch_withLog (branch : Option Node) (log log' : List Notice) (c : Context) :
    let run := evaluateBranch branch (c.withLog log)
    ∃ more, run.2.log = more ++ log ∧
      evaluateBranch branch (c.withLog log') = (run.1, run.2.withLog (more ++ log')) := by
  cases branch with
  | none =>
    rw [evaluateBranch_none]
    exact ⟨[], rfl, rfl⟩
  | some node =>
    rw [evaluateBranch_some]
    have hAlike : (Pairing.onLogs log log').Alike .same c.surroundings c.surroundings node node :=
      Pairing.alike_of_agreeOn_freeHeads ⟨rfl, rfl⟩ fun _ _ => rfl
    have hMatches := hAlike.evaluate (c.withLog log) (c.withLog log') rfl rfl
      ⟨rfl, rfl, [], rfl, rfl⟩
    obtain ⟨hAnswer, hIterations, hReported, more, hLog, hLog'⟩ := hMatches.resolve_left id
    have hSurroundings : (node.evaluate (c.withLog log')).2.surroundings =
        (node.evaluate (c.withLog log)).2.surroundings := by
      rw [surroundings_after, surroundings_after]
      rfl
    have hContext := eq_withLog hSurroundings hIterations.symm hReported.symm
    have hLog' : (node.evaluate (c.withLog log')).2.log = more ++ log' := hLog'
    rw [hLog'] at hContext
    exact ⟨more, hLog, Prod.ext (eq_of_optionRel hAnswer).symm hContext⟩

/-! ### The negated condition -/

namespace Expression

variable {b : String} (h : quoteBehind none b.toList = none)

include h

theorem ofText_append_not :
    (ofText (b ++ " | not")).path = (ofText b).path ∧
      (ofText (b ++ " | not")).calls = (ofText b).calls ++ [.new "not" none] := by
  have hChars : (b ++ " | not").toList = (b.toList ++ [' ']) ++ '|' :: " not".toList := by simp
  have hClosed : quoteBehind none (b.toList ++ [' ']) = none := by
    rw [quoteBehind_append, h]
    rfl
  have hCall : (⟨" not".toList, byteLength (b.toList ++ [' ']) + 1⟩ : Part).call? =
      some (.new "not" none) := rfl
  obtain ⟨hPath, hCalls⟩ := ofChars_append_blank allBlank_space b.toList
  rw [ofText, hChars, ofChars_append_pipe hClosed (by decide), hCall]
  exact ⟨hPath, congrArg (· ++ _) hCalls⟩

theorem value_append_not (c : Context) :
    (ofText (b ++ " | not")).value c = .bool !((ofText b).value c).truthy := by
  obtain ⟨hPath, hCalls⟩ := ofText_append_not h
  rw [value, hPath, hCalls, List.foldl_append, ← value]
  rfl

theorem unknownNames_append_not :
    (ofText (b ++ " | not")).unknownNames = (ofText b).unknownNames := by
  have hKnown : (FilterCall.new "not" none).filter?.isNone = false := by decide
  rw [unknownNames, (ofText_append_not h).2, List.filter_append, List.filter_cons, hKnown]
  simp [unknownNames]

end Expression

/-- The same notice, but that the one quotes a text for which the other one quotes another text. -/
inductive Notice.SameButQuote (source source' : String) : Notice → Notice → Prop
  | same (n : Notice) : SameButQuote source source' n n
  | quoted (name : String) : SameButQuote source source' (.passedUnknownFilter name source)
      (.passedUnknownFilter name source')

/-- Contexts with everything the same, but for a text that is quoted in the log. -/
structure Context.SameButQuote (source source' : String) (c d : Context) : Prop where
  eq_withLog : d = c.withLog d.log
  log : List.Forall₂ (Notice.SameButQuote source source') c.log d.log

theorem Context.SameButQuote.refl (source source' : String) (c : Context) :
    c.SameButQuote source source' c := ⟨rfl, List.forall₂_same.2 fun n _ => .same n⟩

theorem Conditional.evaluate_pure (e : Expression) (yes no : Option Node) (c : Context) :
    Conditional.evaluate ⟨.text (.pure e), yes, no⟩ c =
      Node.evaluateBranch (if (e.value c).truthy then yes else no)
        (c.withLog (e.evaluationNotices.reverse ++ c.log)) := by
  have hNotices : (Source.text (.pure e)).evaluationNotices = e.evaluationNotices :=
    Interpolation.evaluationNotices_pure e
  rw [evaluate_eq_read, Source.evaluate_eq, hNotices]
  rfl

/-- A condition that holds just when another one does not, and names the same unknown filters. -/
theorem Conditional.evaluate_negated {e e' : Expression} {c : Context}
    (hValue : e'.value c = .bool !(e.value c).truthy) (hNames : e'.unknownNames = e.unknownNames)
    (yes no : Option Node) :
    let run := Conditional.evaluate ⟨.text (.pure e), yes, no⟩ c
    let negated := Conditional.evaluate ⟨.text (.pure e'), no, yes⟩ c
    negated.1 = run.1 ∧ run.2.SameButQuote e.source e'.source negated.2 ∧
      (e.unknownNames = [] → negated.2 = run.2) := by
  intro run negated
  let branch := if (e.value c).truthy then yes else no
  let log := e.evaluationNotices.reverse ++ c.log
  let log' := e'.evaluationNotices.reverse ++ c.log
  have hRun : run = Node.evaluateBranch branch (c.withLog log) := evaluate_pure e yes no c
  have hNegated : negated = Node.evaluateBranch branch (c.withLog log') := by
    have hBranch : (if (e'.value c).truthy then no else yes) = branch := by
      rw [hValue, Json.truthy]
      cases h : (e.value c).truthy <;> simp [branch, h]
    rw [← hBranch]
    exact evaluate_pure e' no yes c
  have hLogs : List.Forall₂ (Notice.SameButQuote e.source e'.source) log log' := by
    apply List.rel_append
    · rw [Expression.evaluationNotices, Expression.evaluationNotices, hNames, ← List.map_reverse,
        ← List.map_reverse, List.forall₂_map_left_iff, List.forall₂_map_right_iff]
      exact List.forall₂_same.2 fun name _ => .quoted name
    · exact List.forall₂_same.2 fun n _ => .same n
  obtain ⟨more, hLog, hSame⟩ := Node.evaluateBranch_withLog branch log log' c
  rw [← hRun] at hLog hSame
  rw [← hNegated] at hSame
  refine ⟨by rw [hSame], ⟨by rw [hSame]; rfl, ?_⟩, ?_⟩
  · rw [hLog, hSame]
    exact List.rel_append (List.forall₂_same.2 fun n _ => .same n) hLogs
  · intro hKnown
    have hNone : log' = log := by
      simp [log, log', Expression.evaluationNotices, hNames, hKnown]
    rw [hRun, hNegated, hNone]

/-! ### The template -/

/-- The template of a conditional whose condition is a placeholder; branches may be absent. -/
def Json.choice (body : String) (yes no : Option Json) : Json :=
  .object ((ifKey, .string ("\x7b\x7b" ++ body ++ "\x7d\x7d")) ::
    ((yes.map (thenKey, ·)).toList ++ (no.map (elseKey, ·)).toList))

theorem Node.ofJson_choice {body : String} (hOpen : ¬ ['\x7b', '\x7b'] <:+: body.toList)
    (hClose : ¬ ['\x7d', '\x7d'] <:+: body.toList) (yes no : Option Json) :
    ofJson (.choice body yes no) =
      .conditional ⟨.text (.pure (.ofText body)), yes.map ofJson, no.map ofJson⟩ := by
  have hSource : Source.ofJson (.string ("\x7b\x7b" ++ body ++ "\x7d\x7d")) =
      .text (.pure (.ofText body)) := by
    rw [Source.ofJson, Interpolation.ofText?_doubled hOpen hClose]
  rw [Json.choice, ofJson_of_if _ (List.lookup_cons_self ..), hSource]
  · cases yes <;> cases no <;> simp [List.lookup_cons, ifKey, thenKey, elseKey]
  · cases yes <;> cases no <;> simp [List.lookup_cons, ifKey, thenKey, elseKey, forKey]

/-- A body to which a negation is added, and the branches the other way round. A condition that was
true is false then and the other way round, whatever kind of value it has and whatever filters the
body has, so both templates give the same and leave the same context. The log is the same but for
the notices of unknown filters in the body, which quote the text of the condition. -/
theorem Node.evaluate_choice_negated {b : String} (hOpen : ¬ ['\x7b', '\x7b'] <:+: b.toList)
    (hClose : ¬ ['\x7d', '\x7d'] <:+: b.toList) (hQuote : quoteBehind none b.toList = none)
    (yes no : Option Json) (c : Context) :
    let e := Expression.ofText b
    let run := (ofJson (.choice b yes no)).evaluate c
    let negated := (ofJson (.choice (b ++ " | not") no yes)).evaluate c
    negated.1 = run.1 ∧
      run.2.SameButQuote e.source (Expression.ofText (b ++ " | not")).source negated.2 ∧
      (e.unknownNames = [] → negated.2 = run.2) := by
  intro e run negated
  have hSplit : (b ++ " | not").toList = b.toList ++ ' ' :: "| not".toList := by simp
  have hOpen' : ¬ ['\x7b', '\x7b'] <:+: (b ++ " | not").toList := by
    rw [hSplit, double_append_cons_iff (by decide), not_or]
    exact ⟨hOpen, by decide⟩
  have hClose' : ¬ ['\x7d', '\x7d'] <:+: (b ++ " | not").toList := by
    rw [hSplit, double_append_cons_iff (by decide), not_or]
    exact ⟨hClose, by decide⟩
  have hNames := Expression.unknownNames_append_not hQuote
  simp only [run, negated, ofJson_choice hOpen hClose, ofJson_choice hOpen' hClose',
    evaluate_conditional]
  by_cases hLt : c.depth < c.limits.maxDepth
  · have hValue := Expression.value_append_not hQuote { c with depth := c.depth + 1 }
    obtain ⟨hSame, hContext, hKnown⟩ :=
      Conditional.evaluate_negated hValue hNames (yes.map ofJson) (no.map ofJson)
    rw [descend_of_lt hLt, descend_of_lt hLt]
    refine ⟨hSame, ⟨?_, hContext.log⟩, fun h => ?_⟩
    · have hLog := congrArg (fun d : Context => { d with depth := d.depth - 1 }) hContext.eq_withLog
      exact hLog
    · simp only [hKnown h]
  · rw [descend_of_le (Nat.le_of_not_lt hLt), descend_of_le (Nat.le_of_not_lt hLt)]
    exact ⟨rfl, .refl _ _ _, fun _ => rfl⟩

/-- The condition has an unknown filter, a part without a name and a pipe between quotes. -/
theorem Node.evaluate_choice_negated_shout :
    let b := "tags | shout || join: '|'"
    let yes : Json := .string "some"
    let c := Context.start (.object [("tags", .array [.null, .null])]) ⟨2, 0⟩
    let run := (ofJson (.choice b yes none)).evaluate c
    let negated := (ofJson (.choice (b ++ " | not") none yes)).evaluate c
    ¬ ['\x7b', '\x7b'] <:+: b.toList ∧ ¬ ['\x7d', '\x7d'] <:+: b.toList ∧
      quoteBehind none b.toList = none ∧ run.1 = some yes ∧ negated.1 = some yes ∧
      run.2.log = [.passedUnknownFilter "shout" b] ∧
      run.2.SameButQuote b (b ++ " | not") negated.2 := by
  intro b yes c run negated
  have hOpen : ¬ ['\x7b', '\x7b'] <:+: b.toList := by decide
  have hClose : ¬ ['\x7d', '\x7d'] <:+: b.toList := by decide
  have hQuote : quoteBehind none b.toList = none := by decide
  have hSource : (Expression.ofText b).source = b := by decide
  have hSource' : (Expression.ofText (b ++ " | not")).source = b ++ " | not" := by decide
  have hRead : ofJson (.choice b yes none) = .conditional ⟨.text (.pure ⟨⟨["tags"]⟩,
      [⟨"shout", none, none⟩, ⟨"join", some .join, some "|"⟩], b, [14]⟩), some (.literal yes), none⟩ := by cbv
  have hRun : run.1 = some yes := by
    simp only [run, hRead]
    cbv
  have hLog : run.2.log = [.passedUnknownFilter "shout" b] := by
    simp only [run, hRead]
    cbv
  obtain ⟨hSame, hContext, -⟩ := evaluate_choice_negated hOpen hClose hQuote yes none c
  rw [hSource, hSource'] at hContext
  exact ⟨hOpen, hClose, hQuote, hRun, hSame.trans hRun, hLog, hContext⟩

end Stencil
