/-!
# Cutting a text into pieces

`pieces p cs` cuts at each character that satisfies `p` and leaves that character out, so `n` cuts
give `n + 1` pieces. `byteLength` is the length in UTF-8, the unit of every offset and column.
-/

namespace Stencil.Text

/-- Puts an element in front of the first list. -/
def consFirst {α : Type} (a : α) : List (List α) → List (List α)
  | [] => [[a]]
  | first :: rest => (a :: first) :: rest

@[simp] theorem consFirst_cons {α : Type} (a : α) (first : List α) (rest : List (List α)) :
    consFirst a (first :: rest) = (a :: first) :: rest := rfl

def pieces (p : Char → Bool) : List Char → List (List Char)
  | [] => [[]]
  | c :: cs => if p c then [] :: pieces p cs else consFirst c (pieces p cs)

@[simp] theorem pieces_nil (p : Char → Bool) : pieces p [] = [[]] := rfl

theorem pieces_ne_nil (p : Char → Bool) (cs : List Char) : pieces p cs ≠ [] := by
  cases cs with
  | nil => simp
  | cons c cs =>
    rw [pieces]
    split
    · simp
    · cases pieces p cs <;> simp [consFirst]

/-- A separator between two texts separates their pieces. -/
theorem pieces_append_sep {p : Char → Bool} {d : Char} (h : p d = true) (a b : List Char) :
    pieces p (a ++ d :: b) = pieces p a ++ pieces p b := by
  induction a with
  | nil => simp [pieces, h]
  | cons c a ih =>
    simp only [List.cons_append, pieces, ih]
    split
    · simp
    · cases ha : pieces p a with
      | nil => exact absurd ha (pieces_ne_nil p a)
      | cons first rest => simp

/-- A text without a separator is one piece. -/
theorem pieces_eq_singleton {p : Char → Bool} {cs : List Char} (h : ∀ c ∈ cs, p c = false) :
    pieces p cs = [cs] := by
  induction cs with
  | nil => rfl
  | cons c cs ih =>
    simp [pieces, h c List.mem_cons_self, ih fun d hd => h d (List.mem_cons_of_mem _ hd)]

/-- No piece has a separator in it. -/
theorem not_sep_of_mem_pieces {p : Char → Bool} {cs : List Char} :
    ∀ piece ∈ pieces p cs, ∀ c ∈ piece, p c = false := by
  induction cs with
  | nil => simp
  | cons c cs ih =>
    rw [pieces]
    split
    · intro piece hPiece
      rcases List.mem_cons.1 hPiece with rfl | hRest
      · simp
      · exact ih piece hRest
    · next hc =>
      cases hPieces : pieces p cs with
      | nil => exact absurd hPieces (pieces_ne_nil p cs)
      | cons first rest =>
        rw [hPieces] at ih
        intro piece hPiece
        rcases List.mem_cons.1 hPiece with rfl | hRest
        · intro d hd
          rcases List.mem_cons.1 hd with rfl | hFirst
          · simpa using hc
          · exact ih first List.mem_cons_self d hFirst
        · exact ih piece (List.mem_cons_of_mem _ hRest)

/-- Writes the pieces one after the other with a separator between them. -/
def join (sep : List Char) : List (List Char) → List Char
  | [] => []
  | [piece] => piece
  | piece :: next :: rest => piece ++ sep ++ join sep (next :: rest)

@[simp] theorem join_nil (sep : List Char) : join sep [] = [] := rfl
@[simp] theorem join_singleton (sep piece : List Char) : join sep [piece] = piece := rfl
@[simp] theorem join_cons_cons (sep piece next : List Char) (rest : List (List Char)) :
    join sep (piece :: next :: rest) = piece ++ sep ++ join sep (next :: rest) := rfl

/-- The number of bytes that the characters take in UTF-8. -/
def byteLength (cs : List Char) : Nat := cs.foldr (fun c n => c.utf8Size + n) 0

@[simp] theorem byteLength_nil : byteLength [] = 0 := rfl

@[simp] theorem byteLength_cons (c : Char) (cs : List Char) :
    byteLength (c :: cs) = c.utf8Size + byteLength cs := rfl

@[simp] theorem byteLength_append (a b : List Char) :
    byteLength (a ++ b) = byteLength a + byteLength b := by
  induction a with
  | nil => simp
  | cons c a ih => simp [ih, Nat.add_assoc]

end Stencil.Text
