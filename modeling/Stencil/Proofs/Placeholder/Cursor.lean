import Mathlib.Data.List.Chain
import Stencil.Proofs.Placeholder.Pipes

/-!
# Reading the parts of a body

A cursor begins anew at each part: it forgets what it has scanned, and it finds the next part by a
byte offset into the whole body. What it reads all the same are the texts between the pipes that
one scan over the whole body finds outside of quotes. There is one part more than there are such
pipes, and after the last part there is nothing more, however often the cursor is asked.
-/

namespace Stencil.Pipeline

open Text

/-- Either all is one part, or the first part ends at a pipe outside of quotes. -/
theorem pipeOffset?_cases (quote : Option Char) (cs : List Char) :
    (pipeOffset? quote cs = none ∧ topPipes quote cs = 0) ∨
    ∃ a b, cs = a ++ '|' :: b ∧ pipeOffset? quote cs = some (byteLength a) ∧
      topPipes quote a = 0 ∧ quoteBehind quote a = none := by
  induction cs generalizing quote with
  | nil => exact .inl ⟨rfl, rfl⟩
  | cons c cs ih =>
    by_cases hPipe : quote = none ∧ c = '|'
    · obtain ⟨rfl, rfl⟩ := hPipe
      exact .inr ⟨[], cs, rfl, rfl, rfl, rfl⟩
    · rw [pipeOffset?, if_neg hPipe]
      rcases ih (quoteAfter quote c) with ⟨hOffset, hPipes⟩ | ⟨a, b, rfl, hOffset, hPipes, hBehind⟩
      · left
        simp [hOffset, topPipes, hPipe, hPipes]
      · right
        refine ⟨c :: a, b, rfl, ?_, ?_, hBehind⟩
        · rw [hOffset, Option.map_some, byteLength_cons]
        · rw [topPipes, if_neg hPipe, hPipes]

/-! ### The parts of a text -/

/-- The parts of a text that starts at a byte offset of a body with no quote open. -/
inductive Parted : Nat → List Char → List Part → Prop
  | last {start : Nat} {cs : List Char} : topPipes none cs = 0 → Parted start cs [⟨cs, start⟩]
  | pipe {start : Nat} {a b : List Char} {ps : List Part} : OnePart a →
    Parted (start + byteLength a + 1) b ps → Parted start (a ++ '|' :: b) (⟨a, start⟩ :: ps)

/-- Where a part stands in a body: what is between its offsets. It begins at the beginning or behind
a pipe and ends at the end or before a pipe, and these pipes are outside of quotes when the body is
scanned from its beginning. -/
structure Part.StandsBetween (before after body : List Char) (p : Part) : Prop where
  body_eq : body = before ++ p.chars ++ after
  start_eq : p.start = byteLength before
  stop_eq : p.stop = byteLength (before ++ p.chars)
  begins : before = [] ∨ ∃ a, before = a ++ ['|'] ∧ quoteBehind none a = none
  ends : after = [] ∨ ∃ b, after = '|' :: b ∧ quoteBehind none (before ++ p.chars) = none

namespace Parted

variable {start : Nat} {cs : List Char} {ps : List Part}

theorem ne_nil (h : Parted start cs ps) : ps ≠ [] := by
  cases h <;> exact List.cons_ne_nil _ _

theorem head?_start (h : Parted start cs ps) : ps.head?.map (·.start) = some start := by
  cases h <;> rfl

theorem length_eq (h : Parted start cs ps) : ps.length = topPipes none cs + 1 := by
  induction h with
  | last hPipes => rw [hPipes]; rfl
  | pipe hPart _ ih =>
    rw [List.length_cons, ih, topPipes_append, hPart.topPipes, hPart.closed, topPipes,
      quoteAfter_none_pipe]
    simp only [and_self, ↓reduceIte]
    omega

/-- With pipes between them the parts give back the text. -/
theorem join_eq (h : Parted start cs ps) : join ['|'] (ps.map (·.chars)) = cs := by
  induction h with
  | last _ => rfl
  | @pipe start a b ps _ hRest ih =>
    obtain ⟨p, rest, rfl⟩ := List.exists_cons_of_ne_nil hRest.ne_nil
    rw [List.map_cons, List.map_cons, join_cons_cons, ← List.map_cons, ih, List.append_assoc,
      List.singleton_append]

/-- Each part starts one byte behind the one before it. -/
theorem isChain (h : Parted start cs ps) : ps.IsChain fun p q => q.start = p.stop + 1 := by
  induction h with
  | last _ => exact .singleton _
  | @pipe start a b ps _ hRest ih =>
    obtain ⟨p, rest, rfl⟩ := List.exists_cons_of_ne_nil hRest.ne_nil
    refine .cons_cons ?_ ih
    have hStart := hRest.head?_start
    simp only [List.head?_cons, Option.map_some, Option.some.injEq] at hStart
    rw [hStart, Part.stop]

theorem getLast?_stop (h : Parted start cs ps) :
    ps.getLast?.map (·.stop) = some (start + byteLength cs) := by
  induction h with
  | last _ => rfl
  | @pipe start a b ps _ hRest ih =>
    obtain ⟨p, rest, rfl⟩ := List.exists_cons_of_ne_nil hRest.ne_nil
    have hPipe : '|'.utf8Size = 1 := rfl
    rw [List.getLast?_cons_cons, ih, byteLength_append, byteLength_cons, hPipe]
    congr 1
    omega

/-- The parts of what is behind a pipe outside of quotes are parts of the whole. -/
theorem standsBetween (h : Parted start cs ps) {before : List Char}
    (hStart : byteLength before = start)
    (hBefore : before = [] ∨ ∃ a, before = a ++ ['|'] ∧ quoteBehind none a = none) :
    ∀ p ∈ ps, ∃ b a, p.StandsBetween b a (before ++ cs) := by
  induction h generalizing before with
  | last _ =>
    intro p hp
    rw [List.mem_singleton] at hp
    subst hp hStart
    exact ⟨before, [], (List.append_nil _).symm, rfl, (byteLength_append _ _).symm, hBefore,
      .inl rfl⟩
  | @pipe start a b ps hPart _ ih =>
    subst hStart
    have hOpen : quoteBehind none before = none := by
      rcases hBefore with rfl | ⟨a, rfl, ha⟩
      · rfl
      · rw [quoteBehind_append, ha, quoteBehind_cons, quoteAfter_none_pipe, quoteBehind_nil]
    have hClosed : quoteBehind none (before ++ a) = none := by
      rw [quoteBehind_append, hOpen, hPart.closed]
    intro p hp
    rcases List.mem_cons.1 hp with rfl | hp
    · exact ⟨before, '|' :: b, (List.append_assoc _ _ _).symm, rfl, (byteLength_append _ _).symm,
        hBefore, .inr ⟨b, rfl, hClosed⟩⟩
    · have hLength : byteLength (before ++ a ++ ['|']) = byteLength before + byteLength a + 1 := by
        rw [byteLength_append, byteLength_append]
        rfl
      have hWhole : before ++ a ++ ['|'] ++ b = before ++ (a ++ '|' :: b) := by simp
      rw [← hWhole]
      exact ih hLength (.inr ⟨before ++ a, rfl, hClosed⟩) p hp

/-- One scan over the text gives the same parts. -/
theorem eq_place (h : Parted start cs ps) : ps = Part.place start (parts none cs) := by
  induction h with
  | last hPipes => rw [parts_eq_singleton hPipes]; rfl
  | pipe hPart _ ih =>
    rw [parts_append_pipe hPart.closed, parts_eq_singleton hPart.topPipes, List.singleton_append,
      Part.place, ← ih]

end Parted

/-! ### What a cursor reads -/

namespace Cursor

/-- What the cursor answers after it was asked for so many parts. -/
def answer (r : Cursor) : Nat → Option Part
  | 0 => r.next.1
  | n + 1 => r.next.2.answer n

theorem part_eq {r : Cursor} {a b : List Char} (h : r.rest = a ++ b) :
    r.part (r.position + byteLength a) = ⟨a, r.position⟩ := by
  obtain ⟨before, hBody, hPosition⟩ := r.exists_body_eq
  rw [part, hBody, h, ← hPosition, slice_append]

/-- One step: a part that ends at a pipe, or the last part. -/
theorem next_cases {r : Cursor} (h : r.finished = false) :
    (∃ a b, r.rest = a ++ '|' :: b ∧ OnePart a ∧ r.next.1 = some ⟨a, r.position⟩ ∧
      r.next.2.finished = false ∧ r.next.2.position = r.position + byteLength a + 1 ∧
      r.next.2.rest = b) ∨
    (topPipes none r.rest = 0 ∧ r.next.1 = some ⟨r.rest, r.position⟩ ∧
      r.next.2.finished = true) := by
  obtain ⟨before, hBody, hPosition⟩ := r.exists_body_eq
  rcases pipeOffset?_cases none r.rest with ⟨hOffset, hPipes⟩ | ⟨a, b, hRest, hOffset, hPart⟩
  · right
    have hAll : r.rest = r.rest ++ [] := (List.append_nil _).symm
    have hLength : byteLength r.body = r.position + byteLength r.rest := by
      rw [← hPosition, ← byteLength_append, ← hBody]
    rw [next_of_none h hOffset]
    refine ⟨hPipes, ?_, rfl⟩
    change some (r.part (byteLength r.body)) = _
    rw [hLength, part_eq hAll]
  · left
    have hBehind : r.body = (before ++ a ++ ['|']) ++ b := by
      rw [hBody, hRest]
      simp
    have hLength : byteLength (before ++ a ++ ['|']) = r.position + byteLength a + 1 := by
      rw [byteLength_append, byteLength_append, hPosition]
      rfl
    rw [next_of_some h hOffset]
    refine ⟨a, b, hRest, ⟨hPart.1, hPart.2⟩, ?_, rfl, rfl, ?_⟩
    · rw [part_eq hRest]
    · change fromByte (r.position + byteLength a + 1) r.body = b
      rw [← hLength, hBehind, fromByte_byteLength_append]

/-- Only a finished cursor has no answer, and it stays as it is. -/
theorem finished_of_next_eq_none {r : Cursor} (h : r.next.1 = none) : r.finished = true := by
  cases hFinished : r.finished with
  | true => rfl
  | false =>
    rcases next_cases hFinished with ⟨a, b, -, -, hSome, -⟩ | ⟨-, hSome, -⟩
    · rw [h] at hSome
      cases hSome
    · rw [h] at hSome
      cases hSome

theorem next_eq_self {r : Cursor} (h : r.next.1 = none) : r.next.2 = r := by
  rw [next_of_finished (finished_of_next_eq_none h)]

theorem answer_eq_getElem? (r : Cursor) (n : Nat) : r.answer n = r.drain[n]? := by
  induction n generalizing r with
  | zero =>
    cases h : r.next.1 with
    | none => rw [answer, h, drain_of_none h, List.getElem?_nil]
    | some p => rw [answer, h, drain_of_some h, List.getElem?_cons_zero]
  | succ n ih =>
    rw [answer, ih]
    cases h : r.next.1 with
    | none => rw [next_eq_self h, drain_of_none h, List.getElem?_nil, List.getElem?_nil]
    | some p => rw [drain_of_some h, List.getElem?_cons_succ]

/-- A whole run: the parts of what the cursor has not read yet. -/
theorem parted_drain {r : Cursor} (h : r.finished = false) :
    Parted r.position r.rest r.drain := by
  induction hDistance : r.distance using Nat.strongRecOn generalizing r with
  | ind n ih =>
    rcases next_cases h with
      ⟨a, b, hRest, hPart, hNext, hFinished, hPosition, hBehind⟩ | ⟨hPipes, hNext, hFinished⟩
    · have hLess := distance_next_lt hNext
      have hAfter := ih _ (hDistance ▸ hLess) hFinished rfl
      rw [hPosition, hBehind] at hAfter
      rw [drain_of_some hNext, hRest]
      exact .pipe hPart hAfter
    · have hEnd : r.next.2.next.1 = none := by rw [next_of_finished hFinished]
      rw [drain_of_some hNext, drain_of_none hEnd]
      exact .last hPipes

theorem parted_start (body : List Char) : Parted 0 body (start body).drain := by
  have hRest : (start body).rest = body := by rw [rest, start, fromByte]
  have h := parted_drain (r := start body) rfl
  rw [hRest] at h
  exact h

/-- Reading a body to its end gives its parts and then nothing more. There is one part more than
there are pipes outside of quotes; each part is the text between its two byte offsets, which are at
such pipes or at the ends of the body; the parts lie one byte apart from the first byte to the last,
and with pipes between them they give back the body. -/
theorem drain_start_partition (body : List Char) :
    let parts := (start body).drain
    (∀ n, (start body).answer n = parts[n]?) ∧
    (∀ r : Cursor, r.next.1 = none → ∀ n, r.next.2.answer n = none) ∧
    parts.length = topPipes none body + 1 ∧
    (∀ p ∈ parts, ∃ before after, p.StandsBetween before after body) ∧
    parts.head?.map (·.start) = some 0 ∧
    (parts.IsChain fun p q => q.start = p.stop + 1) ∧
    parts.getLast?.map (·.stop) = some (byteLength body) ∧
    join ['|'] (parts.map (·.chars)) = body := by
  intro parts
  have hParted : Parted 0 body parts := parted_start body
  have hLast := hParted.getLast?_stop
  rw [Nat.zero_add] at hLast
  refine ⟨answer_eq_getElem? _, ?_, hParted.length_eq, hParted.standsBetween rfl (.inl rfl),
    hParted.head?_start, hParted.isChain, hLast, hParted.join_eq⟩
  intro r hNone n
  rw [next_eq_self hNone, answer_eq_getElem?, drain_of_none hNone, List.getElem?_nil]

/-- Characters of two bytes, a quoted pipe, an empty part and a quote that is never closed. -/
theorem drain_unclosedQuote :
    let body := "né|j: '|'||\"|é".toList
    let parts : List Part := [⟨"né".toList, 0⟩, ⟨"j: '|'".toList, 4⟩, ⟨[], 11⟩, ⟨"\"|é".toList, 12⟩]
    (start body).drain = parts ∧ topPipes none body = 3 ∧ byteLength body = 16 ∧
      (∀ n, (start body).answer n = parts[n]?) ∧
      (∀ p ∈ parts, ∃ before after, p.StandsBetween before after body) ∧
      join ['|'] (parts.map (·.chars)) = body := by
  intro body parts
  have hDrain : (start body).drain = parts := by decide
  obtain ⟨hAnswer, -, -, hStands, -, -, -, hJoin⟩ := drain_start_partition body
  rw [hDrain] at hAnswer hStands hJoin
  exact ⟨hDrain, by decide, by decide, hAnswer, hStands, hJoin⟩

end Cursor

theorem Part.scan_eq_place (body : List Char) : Part.scan body = Part.place 0 (parts none body) :=
  (Cursor.parted_start body).eq_place

end Stencil.Pipeline
