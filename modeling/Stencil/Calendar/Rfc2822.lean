import Stencil.Calendar.Instant
import Stencil.Calendar.Scan

/-!
# Instants in the form of RFC 2822

`Thu, 19 Dec 1996 16:39:57 -0800`, the form of mail headers. The weekday may be absent but not
wrong, years may have two or three digits, zones may be named, and comments in parentheses may
follow.
-/

namespace Stencil.Calendar.Rfc2822

/-- A weekday and the comma after it, if the text begins with a weekday. -/
def takeWeekday : Step (Option Nat) := fun cs =>
  match takeAbbreviation weekdayNames cs with
  | some (weekday, rest) => (takeChar ',' rest).map fun (_, rest) => (some weekday, rest)
  | none => some (none, cs)

/-- A year of two digits lies between 1950 and 2049, one of three counts from 1900. -/
def fullYear (length year : Nat) : Nat :=
  if length = 2 then (if year ≤ 49 then year + 2000 else year + 1900)
  else if length = 3 then year + 1900
  else year

def takeYear : Step Nat := fun cs => do
  let (year, rest) ← takeNumber 2 none cs
  some (fullYear (cs.length - rest.length) year, rest)

/-- A colon and two digits, or nothing. -/
def takeSecond : Step Nat := fun cs =>
  match takeChar ':' (Text.trimStart cs) with
  | some (_, rest) => takeNumber 2 (some 2) rest
  | none => some (0, cs)

/-- The hours by which the time of a zone is ahead of UTC. A single letter other than `j` is a
zone that nothing is known about. -/
def zoneHours? (name : List Char) : Option Int :=
  let name := String.ofList (name.map Char.toLower)
  if name = "gmt" ∨ name = "ut" then some 0
  else if name = "edt" then some (-4)
  else if name = "est" ∨ name = "cdt" then some (-5)
  else if name = "cst" ∨ name = "mdt" then some (-6)
  else if name = "mst" ∨ name = "pdt" then some (-7)
  else if name = "pst" then some (-8)
  else if name.length = 1 ∧ name ≠ "j" then some 0
  else none

/-- A named zone, or a sign and four digits. -/
def takeZone : Step Int := fun cs =>
  let name := cs.takeWhile Char.isAlpha
  if name ≠ [] then (zoneHours? name).map fun hours => (hours * 3600, cs.dropWhile Char.isAlpha)
  else takeOffset ['-'] (fun cs => some ((), cs)) cs

/-- What follows a comment, inside so many parentheses; a backslash takes the next character out of
the count. -/
def skipComment : Nat → List Char → Option (List Char)
  | _, [] => none
  | depth, '\\' :: _ :: rest => skipComment depth rest
  | depth, c :: rest =>
    if c = '(' then skipComment (depth + 1) rest
    else if c = ')' then
      match depth with
      | 0 => some rest
      | depth + 1 => skipComment depth rest
    else skipComment depth rest

theorem length_le_of_skipComment {depth : Nat} {cs rest : List Char}
    (h : skipComment depth cs = some rest) : rest.length ≤ cs.length := by
  fun_induction skipComment depth cs with
  | case1 => simp at h
  | case4 => simp_all
  | _ => simp_all only [forall_const, List.length_cons]; omega

/-- Whether nothing but comments is left, with blanks before them. -/
def onlyComments (cs : List Char) : Bool :=
  if cs = [] then true
  else
    match _hOpen : Text.trimStart cs with
    | '(' :: inside =>
      match _hRest : skipComment 0 inside with
      | some rest => onlyComments rest
      | none => false
    | _ => false
  termination_by cs.length
  decreasing_by
    have hTrim := (List.dropWhile_suffix Text.isBlank (l := cs)).length_le
    have hSkip := length_le_of_skipComment _hRest
    rw [Text.trimStart] at _hOpen
    rw [_hOpen, List.length_cons] at hTrim
    omega

def read? (cs : List Char) : Option Instant := do
  let (weekday, cs) ← takeWeekday (Text.trimStart cs)
  let (day, cs) ← takeNumber 1 (some 2) (Text.trimStart cs)
  let (_, cs) ← takeBlanks cs
  let (month, cs) ← takeAbbreviation monthNames cs
  let (_, cs) ← takeBlanks cs
  let (year, cs) ← takeYear cs
  let (_, cs) ← takeBlanks cs
  let (hour, cs) ← takeNumber 2 (some 2) cs
  let (_, cs) ← takeChar ':' (Text.trimStart cs)
  let (minute, cs) ← takeNumber 2 (some 2) (Text.trimStart cs)
  let (second, cs) ← takeSecond cs
  let (_, cs) ← takeBlanks cs
  let (offset, cs) ← takeZone cs
  let date : Civil := ⟨year, month + 1, day⟩
  if onlyComments cs ∧ weekday.all (· = Civil.weekday date.days) then
    Instant.ofLocal? date hour minute second offset
  else none

end Stencil.Calendar.Rfc2822
