import Stencil.Text.Blank
import Stencil.Text.Offset

/-!
# The parts of a placeholder body

A body such as `path | filter: 'a|b' | filter` falls into parts at its top-level pipes, those with
no quote open. A quote runs to the next character of the same kind, or to the end. A cursor reads
the parts one after the other. A part after the first is a filter name with an argument, or with
none.
-/

namespace Stencil.Pipeline

def isQuote (c : Char) : Bool := c == '\x27' || c == '"'

/-- The quote that is open after one more character. -/
def quoteAfter : Option Char → Char → Option Char
  | some q, c => if c = q then none else some q
  | none, c => if isQuote c then some c else none

/-- The texts between the top-level pipes, where a quote may be open at the start. -/
def parts : Option Char → List Char → List (List Char)
  | _, [] => [[]]
  | quote, c :: cs =>
    if quote = none ∧ c = '|' then [] :: parts none cs
    else Text.consFirst c (parts (quoteAfter quote c) cs)

theorem parts_ne_nil (quote : Option Char) (cs : List Char) : parts quote cs ≠ [] := by
  cases cs with
  | nil => simp [parts]
  | cons c cs =>
    rw [parts]
    split
    · simp
    · cases parts (quoteAfter quote c) cs <;> simp [Text.consFirst]

/-- The pipes that were cut at, put back between the parts, give back the text. -/
theorem join_parts (quote : Option Char) (cs : List Char) :
    Text.join ['|'] (parts quote cs) = cs := by
  induction cs generalizing quote with
  | nil => rfl
  | cons c cs ih =>
    rw [parts]
    split
    · next h =>
      have := ih none
      cases hp : parts none cs with
      | nil => exact absurd hp (parts_ne_nil none cs)
      | cons first rest => rw [hp] at this; simp [this, h.2]
    · have := ih (quoteAfter quote c)
      cases hp : parts (quoteAfter quote c) cs with
      | nil => exact absurd hp (parts_ne_nil _ cs)
      | cons first rest =>
        rw [hp] at this
        cases rest <;> simp_all

/-- A part with the offset of its first byte in the body. -/
structure Part where
  chars : List Char
  start : Nat
  deriving DecidableEq

namespace Part

/-- The offset behind the last byte. -/
def stop (p : Part) : Nat := p.start + Text.byteLength p.chars

/-- The texts as parts one byte apart. -/
def place : Nat → List (List Char) → List Part
  | _, [] => []
  | start, cs :: rest => ⟨cs, start⟩ :: place (start + Text.byteLength cs + 1) rest

/-- The text before the first colon, trimmed. -/
def name (p : Part) : List Char := Text.trim (p.chars.takeWhile (· ≠ ':'))

/-- The text after the first colon as it stands, if there is a colon. -/
def rawArgument? (p : Part) : Option (List Char) :=
  match p.chars.dropWhile (· ≠ ':') with
  | [] => none
  | _ :: raw => some raw

end Part

/-- The byte offset of the first top-level pipe, where a quote may be open at the start. -/
def pipeOffset? : Option Char → List Char → Option Nat
  | _, [] => none
  | quote, c :: cs =>
    if quote = none ∧ c = '|' then some 0
    else (pipeOffset? (quoteAfter quote c) cs).map (c.utf8Size + ·)

/-- At the offset stands a pipe. -/
theorem eq_append_of_pipeOffset? {quote : Option Char} {cs : List Char} {offset : Nat}
    (h : pipeOffset? quote cs = some offset) :
    ∃ a b, cs = a ++ '|' :: b ∧ Text.byteLength a = offset := by
  fun_induction pipeOffset? quote cs generalizing offset with
  | case1 => cases h
  | case2 quote c cs hPipe =>
    cases h
    exact ⟨[], cs, by rw [hPipe.2]; rfl, rfl⟩
  | case3 quote c cs _ ih =>
    obtain ⟨n, hn, rfl⟩ := Option.map_eq_some_iff.1 h
    obtain ⟨a, b, rfl, rfl⟩ := ih hn
    exact ⟨c :: a, b, rfl, rfl⟩

/-- Reads the parts of a body one after the other. -/
structure Cursor where
  body : List Char
  /-- The byte offset at which the next part starts. -/
  position : Nat
  /-- Whether the last part was read. -/
  finished : Bool
  boundary : Text.IsBoundary position body

namespace Cursor

def start (body : List Char) : Cursor := ⟨body, 0, false, Text.isBoundary_zero body⟩

/-- The text from the position on. -/
def rest (r : Cursor) : List Char := Text.fromByte r.position r.body

/-- The part that ends at an offset. -/
def part (r : Cursor) (stop : Nat) : Part := ⟨Text.slice r.position stop r.body, r.position⟩

theorem exists_body_eq (r : Cursor) :
    ∃ before, r.body = before ++ r.rest ∧ Text.byteLength before = r.position := by
  obtain ⟨before, after, hBody, hPosition⟩ := r.boundary
  refine ⟨before, ?_, hPosition⟩
  rw [rest, ← hPosition, hBody, Text.fromByte_byteLength_append]

/-- A part can start behind a pipe. -/
theorem boundary_behind_pipe (r : Cursor) {quote : Option Char} {offset : Nat}
    (h : pipeOffset? quote r.rest = some offset) :
    Text.IsBoundary (r.position + offset + 1) r.body := by
  obtain ⟨before, hBody, hPosition⟩ := r.exists_body_eq
  obtain ⟨a, b, hRest, hOffset⟩ := eq_append_of_pipeOffset? h
  refine ⟨before ++ a ++ ['|'], b, ?_, ?_⟩
  · rw [hBody, hRest]
    simp
  · rw [Text.byteLength_append, Text.byteLength_append, hPosition, hOffset]
    rfl

/-- The next part, if there is one. It ends at the first pipe that is outside of quotes when no
quote is open at its start, or it is the last one and ends with the body. -/
def next (r : Cursor) : Option Part × Cursor :=
  if r.finished then (none, r)
  else
    match h : pipeOffset? none r.rest with
    | some offset =>
      (some (r.part (r.position + offset)),
        ⟨r.body, r.position + offset + 1, false, r.boundary_behind_pipe h⟩)
    | none =>
      (some (r.part (Text.byteLength r.body)),
        ⟨r.body, Text.byteLength r.body, true, Text.isBoundary_byteLength r.body⟩)

theorem next_of_finished {r : Cursor} (h : r.finished = true) : r.next = (none, r) := if_pos h

theorem next_of_some {r : Cursor} {offset : Nat} (hFinished : r.finished = false)
    (h : pipeOffset? none r.rest = some offset) :
    r.next = (some (r.part (r.position + offset)),
      ⟨r.body, r.position + offset + 1, false, r.boundary_behind_pipe h⟩) := by
  rw [next, if_neg (by simp [hFinished])]
  split
  · next hOffset =>
    rw [h] at hOffset
    cases hOffset
    rfl
  · next hNone => simp [h] at hNone

theorem next_of_none {r : Cursor} (hFinished : r.finished = false)
    (h : pipeOffset? none r.rest = none) :
    r.next = (some (r.part (Text.byteLength r.body)),
      ⟨r.body, Text.byteLength r.body, true, Text.isBoundary_byteLength r.body⟩) := by
  rw [next, if_neg (by simp [hFinished])]
  split
  · next hOffset => simp [h] at hOffset
  · rfl

/-- How far the cursor is from its end. -/
def distance (r : Cursor) : Nat :=
  if r.finished then 0 else Text.byteLength r.body - r.position + 1

theorem distance_next_lt {r : Cursor} {p : Part} (h : r.next.1 = some p) :
    r.next.2.distance < r.distance := by
  cases hFinished : r.finished with
  | true =>
    rw [next_of_finished hFinished] at h
    cases h
  | false =>
    cases hOffset : pipeOffset? none r.rest with
    | none =>
      rw [next_of_none hFinished hOffset]
      simp [distance, hFinished]
    | some offset =>
      obtain ⟨before, after, hBody, hPosition⟩ := r.boundary_behind_pipe hOffset
      have hLength : r.position + offset + 1 ≤ Text.byteLength r.body := by
        rw [hBody, Text.byteLength_append, hPosition]
        exact Nat.le_add_right _ _
      rw [next_of_some hFinished hOffset]
      simp only [distance, hFinished, Bool.false_eq_true, ↓reduceIte]
      omega

/-- At most so many of the parts that come next. -/
def take : Nat → Cursor → List Part
  | 0, _ => []
  | n + 1, r =>
    match r.next with
    | (none, _) => []
    | (some p, after) => p :: after.take n

/-- All parts that come next, of which there are not more than the cursor is far from its end. -/
def drain (r : Cursor) : List Part := r.take r.distance

theorem take_of_none {r : Cursor} (h : r.next.1 = none) (n : Nat) : r.take n = [] := by
  cases n with
  | zero => rfl
  | succ n =>
    rw [take]
    split
    · rfl
    · next hNext => simp [hNext] at h

theorem take_succ_of_some {r : Cursor} {p : Part} (h : r.next.1 = some p) (n : Nat) :
    r.take (n + 1) = p :: r.next.2.take n := by
  rw [take]
  split
  · next hNext => simp [hNext] at h
  · next hNext =>
    rw [hNext] at h ⊢
    cases h
    rfl

/-- To ask for more parts than there can be changes nothing. -/
theorem take_succ_of_distance_le {n : Nat} {r : Cursor} (h : r.distance ≤ n) :
    r.take (n + 1) = r.take n := by
  induction n generalizing r with
  | zero =>
    cases hNext : r.next.1 with
    | none => rw [take_of_none hNext, take_of_none hNext]
    | some p => exact absurd (distance_next_lt hNext) (by omega)
  | succ n ih =>
    cases hNext : r.next.1 with
    | none => rw [take_of_none hNext, take_of_none hNext]
    | some p =>
      have hLess := distance_next_lt hNext
      rw [take_succ_of_some hNext, take_succ_of_some hNext, ih (by omega)]

theorem take_of_distance_le {n : Nat} {r : Cursor} (h : r.distance ≤ n) : r.take n = r.drain := by
  obtain ⟨more, rfl⟩ := Nat.exists_eq_add_of_le h
  induction more with
  | zero => rfl
  | succ more ih =>
    rw [← Nat.add_assoc, take_succ_of_distance_le (Nat.le_add_right _ _)]
    exact ih (Nat.le_add_right _ _)

theorem drain_of_none {r : Cursor} (h : r.next.1 = none) : r.drain = [] := take_of_none h _

theorem drain_of_some {r : Cursor} {p : Part} (h : r.next.1 = some p) :
    r.drain = p :: r.next.2.drain := by
  have hLess := distance_next_lt h
  obtain ⟨n, hn⟩ := Nat.exists_eq_add_one.2 (Nat.lt_of_le_of_lt (Nat.zero_le _) hLess)
  rw [drain, hn, take_succ_of_some h, take_of_distance_le (by omega)]

end Cursor

/-- The parts of a body. -/
def Part.scan (body : List Char) : List Part := (Cursor.start body).drain

/-- The argument meant by a text: trimmed, and without the quotes when it stands between two equal
ones. A blank text is no argument, and two quotes are the empty one. -/
def unquote? (raw : List Char) : Option (List Char) :=
  match Text.trim raw with
  | [] => none
  | q :: rest =>
    if isQuote q ∧ rest.getLast? = some q then some rest.dropLast else some (q :: rest)

def Part.argument? (p : Part) : Option (List Char) := p.rawArgument?.bind unquote?

end Stencil.Pipeline
