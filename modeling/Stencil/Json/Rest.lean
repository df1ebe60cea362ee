import Stencil.Json.Fault

/-!
# What a reader leaves

A reader takes characters off the front of a text. `Rest cs` is a text shorter than `cs`, left by a
reader that took at least one character; `Tail cs` is one that is not longer. The two make the
recursion of the readers end.
-/

namespace Stencil.Json

abbrev Rest (cs : List Char) := { rest : List Char // rest.length < cs.length }

abbrev Tail (cs : List Char) := { rest : List Char // rest.length ≤ cs.length }

/-- A function that reads a value from the front of a text and takes at least one character. -/
abbrev Reader (α : Type) := (cs : List Char) → Except Fault (α × Rest cs)

variable {cs ds : List Char}

/-- What a reader left of a part is a rest of the whole. -/
def Rest.widen (rest : Rest ds) (h : ds.length ≤ cs.length) : Rest cs :=
  ⟨rest.1, Nat.lt_of_lt_of_le rest.2 h⟩

def Tail.widen (tail : Tail ds) (h : ds.length < cs.length) : Rest cs :=
  ⟨tail.1, Nat.lt_of_le_of_lt tail.2 h⟩

/-- What a reader left of the characters behind the first. -/
def Rest.behind {c : Char} (rest : Rest cs) : Rest (c :: cs) := rest.widen (Nat.le_succ _)

def Rest.tail (rest : Rest cs) : Tail cs := ⟨rest.1, Nat.le_of_lt rest.2⟩

/-- All characters but the first. -/
def Rest.second (c : Char) (cs : List Char) : Rest (c :: cs) := ⟨cs, Nat.lt_succ_self _⟩

/-- What is left when nothing was taken. -/
def Tail.whole (cs : List Char) : Tail cs := ⟨cs, Nat.le_refl _⟩

theorem Rest.length_le (rest : Rest cs) : rest.1.length ≤ cs.length := Nat.le_of_lt rest.2

/-- The blanks of JSON. -/
def isSpace (c : Char) : Bool := c == ' ' || c == '\n' || c == '\t' || c == '\r'

def skipSpace (cs : List Char) : List Char := cs.dropWhile isSpace

theorem length_dropWhile_le (p : Char → Bool) (cs : List Char) :
    (cs.dropWhile p).length ≤ cs.length :=
  (List.dropWhile_suffix p).length_le

theorem length_lt_of_skipSpace {c : Char} {rest : List Char} (h : skipSpace cs = c :: rest) :
    rest.length < cs.length := by
  have := length_dropWhile_le isSpace cs
  rw [← skipSpace, h] at this
  exact this

theorem length_le_of_skipSpace {c : Char} {rest : List Char} (h : skipSpace cs = c :: rest) :
    (c :: rest).length ≤ cs.length :=
  length_lt_of_skipSpace h

theorem length_rest_le_of_skipSpace {c : Char} {rest : List Char} (h : skipSpace cs = c :: rest) :
    rest.length ≤ cs.length :=
  Nat.le_of_lt (length_lt_of_skipSpace h)

end Stencil.Json
