import Stencil.Text.Pieces

/-!
# Byte offsets

An offset into a text counts bytes of its UTF-8 form. A text can be cut at the offsets that lie
between two characters or at an end, and at no offset inside a character.
-/

namespace Stencil.Text

/-- The characters before a byte offset. -/
def uptoByte : Nat → List Char → List Char
  | 0, _ | _ + 1, [] => []
  | n + 1, c :: cs => c :: uptoByte (n + 1 - c.utf8Size) cs

/-- The characters from a byte offset on. -/
def fromByte : Nat → List Char → List Char
  | 0, cs => cs
  | _ + 1, [] => []
  | n + 1, c :: cs => fromByte (n + 1 - c.utf8Size) cs

/-- The characters between two byte offsets. -/
def slice (start stop : Nat) (cs : List Char) : List Char :=
  uptoByte (stop - start) (fromByte start cs)

/-- The text can be cut at the offset. -/
def IsBoundary (offset : Nat) (cs : List Char) : Prop :=
  ∃ before after, cs = before ++ after ∧ byteLength before = offset

theorem uptoByte_append_fromByte (n : Nat) (cs : List Char) :
    uptoByte n cs ++ fromByte n cs = cs := by
  fun_induction uptoByte n cs with
  | case1 cs => rw [fromByte, List.nil_append]
  | case2 n => rw [fromByte, List.nil_append]
  | case3 n c cs ih => rw [fromByte, List.cons_append, ih]

@[simp] theorem uptoByte_byteLength_append (a b : List Char) :
    uptoByte (byteLength a) (a ++ b) = a := by
  induction a with
  | nil => rw [byteLength_nil, uptoByte]
  | cons c a ih =>
    obtain ⟨k, hk⟩ := Nat.exists_eq_add_one.2 c.utf8Size_pos
    have hLeft : k + byteLength a + 1 - c.utf8Size = byteLength a := by omega
    rw [byteLength_cons, hk, Nat.add_right_comm, List.cons_append, uptoByte, hLeft, ih]

@[simp] theorem fromByte_byteLength_append (a b : List Char) :
    fromByte (byteLength a) (a ++ b) = b := by
  have h := uptoByte_append_fromByte (byteLength a) (a ++ b)
  rw [uptoByte_byteLength_append] at h
  exact List.append_cancel_left h

/-- A text that stands between two others is what lies between its offsets. -/
theorem slice_append (a b c : List Char) :
    slice (byteLength a) (byteLength a + byteLength b) (a ++ (b ++ c)) = b := by
  rw [slice, fromByte_byteLength_append, Nat.add_sub_cancel_left, uptoByte_byteLength_append]

theorem isBoundary_zero (cs : List Char) : IsBoundary 0 cs := ⟨[], cs, rfl, rfl⟩

theorem isBoundary_byteLength (cs : List Char) : IsBoundary (byteLength cs) cs :=
  ⟨cs, [], (List.append_nil cs).symm, rfl⟩

end Stencil.Text
