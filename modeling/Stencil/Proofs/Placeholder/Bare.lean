import Mathlib
import Stencil.Proofs.Placeholder.Cursor
import Stencil.Proofs.Placeholder.Grammar

/-!
# Placeholders without filters

A text that has no pipe and no doubled brace is a placeholder without filters when doubled braces
are put around it, and its path is the path of the text. Quotes in it do not count, since there is
no pipe that they could hide, and it may begin and end with a brace.
-/

namespace Stencil

open Text Pipeline

/-- The text neither has a filter nor brings a doubled brace along. -/
structure Text.Bare (cs : List Char) : Prop where
  no_pipe : '|' ∉ cs
  not_open : ¬ ['\x7b', '\x7b'] <:+: cs
  not_close : ¬ ['\x7d', '\x7d'] <:+: cs

theorem Pipeline.topPipes_of_not_mem {cs : List Char} (h : '|' ∉ cs) (quote : Option Char) :
    topPipes quote cs = 0 := by
  induction cs generalizing quote with
  | nil => rfl
  | cons c cs ih =>
    rw [List.mem_cons, not_or] at h
    have hPipe : ¬ (quote = none ∧ c = '|') := fun hBoth => h.1 hBoth.2.symm
    rw [topPipes, if_neg hPipe, ih h.2]

/-- A body that is one part is a path and nothing else. -/
theorem Expression.ofChars_of_onePart {cs : List Char} (h : topPipes none cs = 0) :
    ofChars cs = ⟨Path.ofChars cs, [], String.ofList (trim cs), []⟩ := by
  have hScan : Part.scan cs = [⟨cs, 0⟩] := by
    rw [Part.scan_eq_place, parts_eq_singleton h]
    rfl
  simp only [ofChars, hScan]
  rfl

/-- Between doubled braces stands the body, as long as it has no doubled brace itself. -/
theorem Interpolation.ofText?_doubled {b : String} (hOpen : ¬ ['\x7b', '\x7b'] <:+: b.toList)
    (hClose : ¬ ['\x7d', '\x7d'] <:+: b.toList) :
    ofText? ("\x7b\x7b" ++ b ++ "\x7d\x7d") = some (.pure (Expression.ofText b)) :=
  ofText?_of_isPlaceholder ⟨⟨[], [], nofun, nofun, by simp⟩, hOpen, hClose⟩

theorem Interpolation.ofText?_bare {s : String} (h : Bare s.toList) :
    ofText? ("\x7b\x7b" ++ s ++ "\x7d\x7d") =
      some (.pure ⟨Path.ofText s, [], String.ofList (trim s.toList), []⟩) := by
  rw [ofText?_doubled h.not_open h.not_close, Expression.ofText,
    Expression.ofChars_of_onePart (topPipes_of_not_mem h.no_pipe none), Path.ofText]

end Stencil
