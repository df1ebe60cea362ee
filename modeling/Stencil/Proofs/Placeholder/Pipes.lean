import Stencil.Pipeline

/-!
# Pipes outside of quotes

One scan over a body, from left to right, decides which of its pipes stand outside of quotes. The
parts of a body are the texts between these pipes, so the parts of two bodies with a pipe between
them are those of the one and then those of the other, as long as no quote is open at that pipe.
-/

namespace Stencil.Pipeline

/-- The quote that is open at the end of a text. -/
def quoteBehind (quote : Option Char) (cs : List Char) : Option Char := cs.foldl quoteAfter quote

@[simp] theorem quoteBehind_nil (quote : Option Char) : quoteBehind quote [] = quote := rfl

@[simp] theorem quoteBehind_cons (quote : Option Char) (c : Char) (cs : List Char) :
    quoteBehind quote (c :: cs) = quoteBehind (quoteAfter quote c) cs := rfl

theorem quoteBehind_append (quote : Option Char) (a b : List Char) :
    quoteBehind quote (a ++ b) = quoteBehind (quoteBehind quote a) b := List.foldl_append

/-- The number of pipes outside of quotes, where a quote may be open at the start. -/
def topPipes : Option Char → List Char → Nat
  | _, [] => 0
  | quote, c :: cs =>
    (if quote = none ∧ c = '|' then 1 else 0) + topPipes (quoteAfter quote c) cs

@[simp] theorem topPipes_nil (quote : Option Char) : topPipes quote [] = 0 := rfl

theorem topPipes_append (quote : Option Char) (a b : List Char) :
    topPipes quote (a ++ b) = topPipes quote a + topPipes (quoteBehind quote a) b := by
  induction a generalizing quote with
  | nil => simp
  | cons c a ih =>
    simp only [List.cons_append, topPipes, quoteBehind_cons, ih]
    omega

/-- A pipe opens and closes no quote. -/
@[simp] theorem quoteAfter_none_pipe : quoteAfter none '|' = none := by decide

/-- Outside of quotes a pipe separates the parts before it from those behind it. -/
theorem parts_append_pipe {quote : Option Char} {a : List Char} (h : quoteBehind quote a = none)
    (b : List Char) : parts quote (a ++ '|' :: b) = parts quote a ++ parts none b := by
  -- Each character may open or close a quote, so the quote at the start is not fixed.
  induction a generalizing quote with
  | nil =>
    rw [quoteBehind_nil] at h
    simp [parts, h]
  | cons c a ih =>
    rw [quoteBehind_cons] at h
    by_cases hPipe : quote = none ∧ c = '|'
    · obtain ⟨rfl, rfl⟩ := hPipe
      rw [quoteAfter_none_pipe] at h
      simp [parts, ih h]
    · have hRest := ih h
      simp only [List.cons_append, parts, if_neg hPipe, hRest]
      cases hParts : parts (quoteAfter quote c) a with
      | nil => exact absurd hParts (parts_ne_nil _ a)
      | cons first rest => rfl

/-- Without a pipe outside of quotes there is one part. -/
theorem parts_eq_singleton {quote : Option Char} {cs : List Char} (h : topPipes quote cs = 0) :
    parts quote cs = [cs] := by
  induction cs generalizing quote with
  | nil => rfl
  | cons c cs ih =>
    rw [topPipes] at h
    by_cases hPipe : quote = none ∧ c = '|'
    · rw [if_pos hPipe] at h
      omega
    · rw [parts, if_neg hPipe, ih (by omega), Text.consFirst_cons]

/-- Either all is one part, or the last part begins behind a pipe outside of quotes. -/
theorem topPipes_cases (quote : Option Char) (cs : List Char) :
    topPipes quote cs = 0 ∨
    ∃ a t, cs = a ++ '|' :: t ∧ quoteBehind quote a = none ∧ topPipes none t = 0 := by
  induction cs generalizing quote with
  | nil => exact .inl rfl
  | cons c cs ih =>
    rcases ih (quoteAfter quote c) with hNone | ⟨a, t, rfl, hBehind, hLast⟩
    · by_cases hPipe : quote = none ∧ c = '|'
      · obtain ⟨rfl, rfl⟩ := hPipe
        exact .inr ⟨[], cs, rfl, rfl, hNone⟩
      · left
        rw [topPipes, if_neg hPipe, hNone]
    · exact .inr ⟨c :: a, t, rfl, hBehind, hLast⟩

/-! ### Texts that are one part -/

/-- All quotes are closed, and there is no pipe outside of them. -/
structure OnePart (cs : List Char) : Prop where
  topPipes : topPipes none cs = 0
  closed : quoteBehind none cs = none

theorem onePart_nil : OnePart [] := ⟨rfl, rfl⟩

theorem OnePart.append {a b : List Char} (ha : OnePart a) (hb : OnePart b) : OnePart (a ++ b) where
  topPipes := by rw [topPipes_append, ha.topPipes, ha.closed, hb.topPipes]
  closed := by rw [quoteBehind_append, ha.closed, hb.closed]

theorem onePart_of_plain {cs : List Char} (h : ∀ c ∈ cs, c ≠ '|' ∧ isQuote c = false) :
    OnePart cs := by
  induction cs with
  | nil => exact onePart_nil
  | cons c cs ih =>
    obtain ⟨hPipe, hQuote⟩ := h c List.mem_cons_self
    have hRest := ih fun d hd => h d (List.mem_cons_of_mem _ hd)
    have hAfter : quoteAfter none c = none := by simp [quoteAfter, hQuote]
    constructor
    · simp [Pipeline.topPipes, hPipe, hAfter, hRest.topPipes]
    · rw [quoteBehind_cons, hAfter, hRest.closed]

/-- Inside a quote nothing counts but its end. -/
theorem quoteBehind_of_not_mem {q : Char} {cs : List Char} (h : q ∉ cs) :
    topPipes (some q) cs = 0 ∧ quoteBehind (some q) cs = some q := by
  induction cs with
  | nil => exact ⟨rfl, rfl⟩
  | cons c cs ih =>
    rw [List.mem_cons, not_or] at h
    have hAfter : quoteAfter (some q) c = some q := if_neg (Ne.symm h.1)
    obtain ⟨hPipes, hBehind⟩ := ih h.2
    constructor
    · simp [topPipes, hAfter, hPipes]
    · rw [quoteBehind_cons, hAfter, hBehind]

theorem ne_of_isQuote {q c : Char} (hq : isQuote q = true) (hc : isQuote c = false) : q ≠ c := by
  rintro rfl
  rw [hq] at hc
  cases hc

section

variable {q : Char} (hq : isQuote q = true) {cs : List Char} (h : q ∉ cs)

include hq h

/-- A quote hides what stands behind it, as long as it is not closed. -/
theorem topPipes_of_open : topPipes none (q :: cs) = 0 ∧ quoteBehind none (q :: cs) = some q := by
  obtain ⟨hPipes, hBehind⟩ := quoteBehind_of_not_mem h
  have hNotPipe : q ≠ '|' := ne_of_isQuote hq (by decide)
  have hOpen : quoteAfter none q = some q := if_pos hq
  constructor
  · simp [topPipes, hOpen, hPipes, hNotPipe]
  · rw [quoteBehind_cons, hOpen, hBehind]

/-- Whatever is between two quotes is part of the text. -/
theorem onePart_quoted : OnePart (q :: cs ++ [q]) := by
  obtain ⟨hPipes, hBehind⟩ := topPipes_of_open hq h
  have hClose : quoteAfter (some q) q = none := if_pos rfl
  have hLast : topPipes (some q) [q] = 0 := by simp [topPipes]
  constructor
  · rw [topPipes_append, hPipes, hBehind, hLast]
  · rw [quoteBehind_append, hBehind, quoteBehind_cons, hClose, quoteBehind_nil]

end

end Stencil.Pipeline
