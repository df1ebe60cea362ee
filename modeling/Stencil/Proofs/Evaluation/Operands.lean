import Mathlib
import Stencil.Proofs.Evaluation.Rows

/-!
# Operands of conditions and loops

The operand of a condition or of a loop is a path, a text with placeholders, or a value as it
stands. A condition asks no more of its operand than whether its value counts as true, so operands
that have the same value and the same notices can stand for each other. A path that is written bare
and the same path between doubled braces are two such operands.
-/

namespace Stencil

open Context Text

/-! ### Operands that can stand for each other -/

/-- To test a condition is to read its operand and to ask whether the value counts as true. -/
theorem Conditional.evaluate_eq_read (condition : Source) (thenBranch elseBranch : Option Node) :
    Conditional.evaluate ⟨condition, thenBranch, elseBranch⟩ =
      andThen condition.evaluate fun v =>
        Node.evaluateBranch (if v.truthy then thenBranch else elseBranch) := by
  rw [evaluate_eq, condition.test_eq]
  rfl

section

variable {s s' : Source} (h : s.evaluate = s'.evaluate)

include h

theorem Conditional.evaluate_of_same_read (thenBranch elseBranch : Option Node) :
    Conditional.evaluate ⟨s, thenBranch, elseBranch⟩ =
      Conditional.evaluate ⟨s', thenBranch, elseBranch⟩ := by
  rw [evaluate_eq_read, evaluate_eq_read, h]

/-- What a loop lacks does not depend on which operand it has. -/
theorem Loop.evaluate_of_same_read (binding : Binding) (body empty : Option Node) :
    Loop.evaluate ⟨binding, some s, body, empty⟩ =
      Loop.evaluate ⟨binding, some s', body, empty⟩ := by
  rcases Loop.complete_or_missing ⟨binding, some s, body, empty⟩ with
    ⟨name, source, node, fallback, hComplete⟩ | hMissing
  · cases hComplete
    rw [evaluate_complete, evaluate_complete, h]
  · have hSame : missing ⟨binding, some s', body, empty⟩ = missing ⟨binding, some s, body, empty⟩ :=
      rfl
    rw [evaluate_incomplete hMissing, evaluate_incomplete (hSame ▸ hMissing), hSame]

end

/-! ### Control objects -/

namespace Node

variable {members : List (String × Json)}

theorem ofJson_of_if {operand : Json} (hFor : members.lookup forKey = none)
    (hIf : members.lookup ifKey = some operand) :
    ofJson (.object members) =
      .conditional ⟨Source.ofJson operand, (members.lookup thenKey).map ofJson,
        (members.lookup elseKey).map ofJson⟩ := by
  simp only [ofJson, ofMembers, hFor, hIf, lookup_entriesOfJson]

theorem ofJson_of_for {found : Json} (hFor : members.lookup forKey = some found) :
    ofJson (.object members) =
      .loop ⟨Binding.ofJson found, (members.lookup inKey).map Source.ofJson,
        (members.lookup templateKey).map ofJson, (members.lookup emptyKey).map ofJson⟩ := by
  simp only [ofJson, ofMembers, hFor, lookup_entriesOfJson]

end Node

/-! ### Two spellings of a path -/

namespace Source

variable {p : String} (h : Bare p.toList)

include h

theorem ofJson_bare : ofJson (.string p) = .path (Path.ofText p) := by
  have hNone : Interpolation.ofText? p = none := by
    rw [Interpolation.ofText?_eq_none_iff]
    rintro ⟨before, body, after, hEq⟩
    exact h.not_open ⟨before, body ++ '\x7d' :: '\x7d' :: after, by simp [hEq]⟩
  rw [ofJson, hNone]

theorem ofJson_shown :
    ofJson (.shown p) = .text (.pure ⟨Path.ofText p, [], String.ofList (trim p.toList), []⟩) := by
  rw [Json.shown, ofJson, Interpolation.ofText?_bare h]

/-- Both spellings look the path up, and neither notes anything. -/
theorem evaluate_shown : (ofJson (.shown p)).evaluate = (ofJson (.string p)).evaluate := by
  rw [ofJson_shown h, ofJson_bare h]
  rfl

end Source

/-- Whether the operand of a condition or of a loop is a path as it stands or between doubled braces
makes no difference, whatever else the object has, be it complete or not. Nor does it make a
difference for any operand whether it is tested or read. -/
theorem Node.evaluate_operand_shown {p : String} (h : Bare p.toList)
    (members : List (String × Json)) :
    (members.lookup forKey = none → members.lookup ifKey = some (.string p) →
      ∃ k k', ofJson (.object members) = .conditional k ∧
        ofJson (.object (Bindings.put ifKey (.shown p) members)) = .conditional k' ∧
        ∀ c, k'.evaluate c = k.evaluate c) ∧
    ((members.lookup forKey).isSome → members.lookup inKey = some (.string p) →
      ∃ l l', ofJson (.object members) = .loop l ∧
        ofJson (.object (Bindings.put inKey (.shown p) members)) = .loop l' ∧
        ∀ c, l'.evaluate c = l.evaluate c) ∧
    ∀ (s : Source) c,
      (s.test c = let (v, after) := s.evaluate c; (v.truthy, after)) ∧
      ∀ thenBranch elseBranch, Conditional.evaluate ⟨s, thenBranch, elseBranch⟩ c =
        let (v, after) := s.evaluate c
        Node.evaluateBranch (if v.truthy then thenBranch else elseBranch) after := by
  have hSame := Source.evaluate_shown h
  refine ⟨?_, ?_, fun s c => ⟨congrFun s.test_eq c, fun thenBranch elseBranch => ?_⟩⟩
  · intro hFor hIf
    have hFor' : (Bindings.put ifKey (.shown p) members).lookup forKey = none := by
      rw [Bindings.lookup_put, if_neg (by decide), hFor]
    have hIf' : (Bindings.put ifKey (.shown p) members).lookup ifKey = some (.shown p) := by
      rw [Bindings.lookup_put, if_pos rfl]
    refine ⟨_, _, ofJson_of_if hFor hIf, ofJson_of_if hFor' hIf', fun c => ?_⟩
    rw [Bindings.lookup_put, if_neg (by decide), Bindings.lookup_put, if_neg (by decide),
      Conditional.evaluate_of_same_read hSame]
  · intro hFor hIn
    obtain ⟨found, hFor⟩ := Option.isSome_iff_exists.1 hFor
    have hFor' : (Bindings.put inKey (.shown p) members).lookup forKey = some found := by
      rw [Bindings.lookup_put, if_neg (by decide), hFor]
    refine ⟨_, _, ofJson_of_for hFor, ofJson_of_for hFor', fun c => ?_⟩
    rw [hIn, Bindings.lookup_put, if_pos rfl, Bindings.lookup_put, if_neg (by decide),
      Bindings.lookup_put, if_neg (by decide), Option.map_some, Option.map_some,
      Loop.evaluate_of_same_read hSame]
  · rw [Conditional.evaluate_eq_read]
    rfl

/-- The path has blanks around it, a quote that is never closed and a brace at its end; the loop
has no body. -/
theorem Node.evaluate_operand_shown_quoted :
    let p := " it's.0\x7d "
    let choice (operand : Json) : Json := .object [(thenKey, .string "yes"), (ifKey, operand)]
    let loop (operand : Json) : Json :=
      .object [(inKey, operand), (forKey, .string "x"), (emptyKey, .null)]
    Bare p.toList ∧
      (∃ k k', ofJson (choice (.string p)) = .conditional k ∧
        ofJson (choice (.shown p)) = .conditional k' ∧ ∀ c, k'.evaluate c = k.evaluate c) ∧
      ∃ l l', ofJson (loop (.string p)) = .loop l ∧ ofJson (loop (.shown p)) = .loop l' ∧
        ∀ c, l'.evaluate c = l.evaluate c := by
  intro p choice loop
  have h : Bare p.toList := ⟨by decide, by decide, by decide⟩
  let branch : List (String × Json) := [(thenKey, .string "yes"), (ifKey, .string p)]
  let row : List (String × Json) :=
    [(inKey, .string p), (forKey, .string "x"), (emptyKey, .null)]
  exact ⟨h, (evaluate_operand_shown h branch).1 rfl rfl,
    (evaluate_operand_shown h row).2.1 rfl rfl⟩

end Stencil
