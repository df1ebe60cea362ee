import Stencil.Calendar.Instant
import Stencil.Calendar.Scan

/-!
# Instants in the form of RFC 3339

`1996-12-19T16:39:57-08:00`, with every field at its full width. The letters may be small, a blank
may stand for the `T`, and seconds may have a fraction.
-/

namespace Stencil.Calendar.Rfc3339

def takeSeparator : Step Unit
  | c :: rest => if c = 'T' ∨ c = 't' ∨ c = ' ' then some ((), rest) else none
  | [] => none

/-- A hyphen or the minus sign. -/
def minusSigns : List Char := ['-', '\u2212']

/-- `Z`, or a signed distance from UTC. -/
def takeZone : Step Int
  | 'Z' :: rest | 'z' :: rest => some (0, rest)
  | cs => takeOffset minusSigns (takeChar ':') cs

def read? (cs : List Char) : Option Instant := do
  let (year, cs) ← takeNumber 4 (some 4) cs
  let (_, cs) ← takeChar '-' cs
  let (month, cs) ← takeNumber 2 (some 2) cs
  let (_, cs) ← takeChar '-' cs
  let (day, cs) ← takeNumber 2 (some 2) cs
  let (_, cs) ← takeSeparator cs
  let (hour, cs) ← takeNumber 2 (some 2) cs
  let (_, cs) ← takeChar ':' cs
  let (minute, cs) ← takeNumber 2 (some 2) cs
  let (_, cs) ← takeChar ':' cs
  let (second, cs) ← takeNumber 2 (some 2) cs
  let (_, cs) ← takeFraction cs
  let (offset, cs) ← takeZone cs
  if cs = [] then Instant.ofLocal? ⟨year, month, day⟩ hour minute second offset else none

end Stencil.Calendar.Rfc3339
