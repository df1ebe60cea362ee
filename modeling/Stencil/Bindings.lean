/-!
# Named values

Objects, scope frames and object templates are lists of named values in the order in which the names
were first given. A look-up is `List.lookup`; `Bindings.put` gives a name a new value and keeps its
place.
-/

namespace Stencil.Bindings

variable {α : Type}

/-- Replaces the value of a name where it stands, or adds the name at the end. -/
def put (name : String) (value : α) : List (String × α) → List (String × α)
  | [] => [(name, value)]
  | (key, old) :: rest =>
    if key = name then (name, value) :: rest else (key, old) :: put name value rest

@[simp] theorem put_nil (name : String) (value : α) : put name value [] = [(name, value)] := rfl

theorem lookup_put (name key : String) (value : α) (bs : List (String × α)) :
    (put name value bs).lookup key = if key = name then some value else bs.lookup key := by
  induction bs with
  | nil => by_cases h : key = name <;> simp [List.lookup_cons, h, beq_false_of_ne]
  | cons b bs ih =>
    obtain ⟨k, v⟩ := b
    by_cases hk : k = name
    · subst hk
      by_cases h : key = k <;> simp [put, List.lookup_cons, h, beq_false_of_ne]
    · by_cases h : key = k
      · subst h
        simp [put, hk]
      · simp [put, List.lookup_cons, hk, ih, beq_false_of_ne h]

theorem mem_of_lookup {κ : Type} [BEq κ] [LawfulBEq κ] {bs : List (κ × α)} {key : κ} {value : α}
    (h : bs.lookup key = some value) : (key, value) ∈ bs := by
  obtain ⟨before, after, rfl, -⟩ := List.lookup_eq_some_iff.1 h
  exact List.mem_append_right _ List.mem_cons_self

/-- The named values one after the other; a name given twice keeps its place and its last value. -/
def ofList (bs : List (String × α)) : List (String × α) :=
  bs.foldl (fun done b => put b.1 b.2 done) []

end Stencil.Bindings
