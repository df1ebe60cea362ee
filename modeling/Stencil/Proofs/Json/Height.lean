import Stencil.Json.Reader
import Stencil.Proofs.Trees

/-!
# How high values are

A scalar and an empty container are one level high, and any other container is one level higher than
the highest value in it. A value that was read from a text is not higher than the reader lets
containers be nested, and one level more for what stands in the innermost of them. A tower of arrays
is as high as that.
-/

namespace Stencil

namespace Bindings

variable {α : Type}

theorem mem_put {name : String} {value : α} {bs : List (String × α)} {b : String × α}
    (h : b ∈ put name value bs) : b = (name, value) ∨ b ∈ bs := by
  induction bs with
  | nil => exact .inl (List.mem_singleton.1 h)
  | cons first rest ih =>
    obtain ⟨key, old⟩ := first
    rw [put] at h
    split at h
    · rcases List.mem_cons.1 h with hHere | hRest
      · exact .inl hHere
      · exact .inr (List.mem_cons_of_mem _ hRest)
    · rcases List.mem_cons.1 h with hHere | hRest
      · exact .inr (List.mem_cons.2 (.inl hHere))
      · exact (ih hRest).imp_right (List.mem_cons_of_mem _)

theorem mem_of_mem_ofList {bs : List (String × α)} {b : String × α} (h : b ∈ ofList bs) :
    b ∈ bs := by
  have hFold : ∀ (bs done : List (String × α)),
      b ∈ bs.foldl (fun done b => put b.1 b.2 done) done → b ∈ done ∨ b ∈ bs := by
    intro bs
    induction bs with
    | nil => exact fun done h => .inl h
    | cons first rest ih =>
      intro done h
      rcases ih _ h with hDone | hRest
      · rcases mem_put hDone with rfl | hOld
        · exact .inr List.mem_cons_self
        · exact .inl hOld
      · exact .inr (List.mem_cons_of_mem _ hRest)
  have hMem := hFold bs [] h
  simpa using hMem

end Bindings

namespace Json

/-! ### Height -/

mutual

/-- The number of levels of a value. -/
def height : Json → Nat
  | .null | .bool _ | .number _ | .string _ => 1
  | .array items => itemsHeight items + 1
  | .object members => membersHeight members + 1

def itemsHeight : List Json → Nat
  | [] => 0
  | item :: rest => max item.height (itemsHeight rest)

def membersHeight : List (String × Json) → Nat
  | [] => 0
  | (_, value) :: rest => max value.height (membersHeight rest)

end

theorem height_pos (v : Json) : 0 < v.height := by
  cases v <;> simp [height]

theorem itemsHeight_le_iff {items : List Json} {k : Nat} :
    itemsHeight items ≤ k ↔ ∀ item ∈ items, item.height ≤ k := by
  induction items with
  | nil => simp [itemsHeight]
  | cons item rest ih => rw [itemsHeight, Nat.max_le, ih, List.forall_mem_cons]

theorem membersHeight_eq (members : List (String × Json)) :
    membersHeight members = itemsHeight (members.map Prod.snd) := by
  induction members with
  | nil => rfl
  | cons m rest ih => rw [membersHeight, ih, List.map_cons, itemsHeight]

/-- A value is one level higher than what is right inside it. -/
theorem height_le_iff {v : Json} {k : Nat} :
    v.height ≤ k + 1 ↔ ∀ w ∈ v.children, w.height ≤ k := by
  cases v with
  | array items => rw [height, Nat.add_le_add_iff_right, itemsHeight_le_iff, children]
  | object members =>
    rw [height, Nat.add_le_add_iff_right, membersHeight_eq, itemsHeight_le_iff, children]
  | _ => simp [height, children]

theorem height_lt {v w : Json} (h : w ∈ v.children) : w.height < v.height := by
  have hLe : v.height ≤ v.height - 1 + 1 := by omega
  have hPos := v.height_pos
  have hInside := height_le_iff.1 hLe w h
  omega

/-! ### What readers give -/

variable {α β : Type}

/-- The outcome is a fault or has the property. -/
def Yields (p : α → Prop) : Except Fault α → Prop
  | .error _ => True
  | .ok a => p a

theorem yields_of_forall {p : α → Prop} (h : ∀ a, p a) (outcome : Except Fault α) :
    Yields p outcome := by
  cases outcome with
  | error fault => trivial
  | ok a => exact h a

theorem Yields.mono {p q : α → Prop} {outcome : Except Fault α} (h : Yields p outcome)
    (hpq : ∀ a, p a → q a) : Yields q outcome := by
  cases outcome with
  | error fault => trivial
  | ok a => exact hpq a h

theorem Yields.map {p : β → Prop} {outcome : Except Fault α} {f : α → β}
    (h : Yields (fun a => p (f a)) outcome) : Yields p (outcome.map f) := by
  cases outcome with
  | error fault => trivial
  | ok a => exact h

theorem Yields.bind {p : α → Prop} {q : β → Prop} {outcome : Except Fault α}
    {f : α → Except Fault β} (h : Yields p outcome) (hNext : ∀ a, p a → Yields q (f a)) :
    Yields q (outcome >>= f) := by
  cases outcome with
  | error fault => trivial
  | ok a => exact hNext a h

theorem yields_ite {p : α → Prop} {c : Prop} [Decidable c] {x y : Except Fault α}
    (hx : Yields p x) (hy : Yields p y) : Yields p (if c then x else y) := by
  split
  · exact hx
  · exact hy

/-- The reader gives nothing but values with the property. -/
def Gives (reader : Reader α) (p : α → Prop) : Prop :=
  ∀ cs, Yields (fun out => p out.1) (reader cs)

variable {p : α → Prop} {b : Brackets} {entry : Reader α}

/-- Reading one entry after the other, up to the closing bracket. -/
theorem gives_readEntries (h : Gives entry p) :
    Gives (readEntries b entry) fun as => ∀ a ∈ as, p a := by
  intro cs
  fun_induction readEntries b entry cs with
  | case3 cs a afterEntry hEntry hRead rest hMark hLt =>
    have hHere := h cs
    rw [hRead] at hHere
    exact List.forall_mem_singleton.2 hHere
  | case7 cs a afterEntry hEntry hRead afterMark next rest hNext hLe hOpen as tail hTail _ _ _ ih =>
    have hHere := h cs
    rw [hRead] at hHere
    rw [hTail] at ih
    exact List.forall_mem_cons.2 ⟨hHere, ih⟩
  | _ => trivial

theorem gives_readContainer (h : Gives entry p) :
    Gives (readContainer b entry) fun as => ∀ a ∈ as, p a := by
  intro cs
  rw [readContainer]
  split
  · trivial
  · split
    · exact List.forall_mem_nil p
    · exact (gives_readEntries h _).map

theorem gives_readMember {value : Reader α} (h : Gives value p) :
    Gives (readMember value) fun member => p member.2 := by
  intro cs
  refine Yields.bind (yields_of_forall (fun _ => trivial) (readKey cs)) ?_
  rintro ⟨key, afterKey, hKey⟩ -
  refine Yields.bind (yields_of_forall (fun _ => trivial) (readColon afterKey)) ?_
  rintro ⟨afterColon, hColon⟩ -
  refine Yields.bind (h afterColon) ?_
  rintro ⟨v, rest, hRest⟩ hv
  exact hv

/-- A value is at most one level higher than the values that are read inside a container. -/
theorem gives_readValueWith {inner : Option (Reader Json)} {k : Nat}
    (h : ∀ value ∈ inner, Gives value fun v => v.height ≤ k) :
    Gives (readValueWith inner) fun v => v.height ≤ k + 1 := by
  intro cs
  have hScalar {γ : Type} {f : γ → Json × Rest cs} (hf : ∀ a, (f a).1.height = 1)
      (outcome : Except Fault γ) : Yields (fun out => out.1.height ≤ k + 1) (outcome.map f) := by
    refine Yields.map (yields_of_forall (fun a => ?_) outcome)
    rw [hf a]
    exact Nat.le_add_left 1 k
  rw [readValueWith]
  split
  · trivial
  · dsimp only
    -- Words, numbers and strings, in the order in which they are tried.
    refine yields_ite (hScalar (fun _ => rfl) _) ?_
    refine yields_ite (hScalar (fun _ => rfl) _) ?_
    refine yields_ite (hScalar (fun _ => rfl) _) ?_
    refine yields_ite (hScalar (fun _ => rfl) _) ?_
    refine yields_ite (hScalar (fun _ => rfl) _) ?_
    refine yields_ite (hScalar (fun _ => rfl) _) ?_
    refine yields_ite ?_ ?_
    · cases inner with
      | none => trivial
      | some value =>
        have hItems (rest : List Char) := gives_readContainer (b := .list) (h value rfl) rest
        exact ((hItems _).mono fun out h => (height_le_iff (v := .array out.1)).2 h).map
    refine yields_ite ?_ ?_
    · cases inner with
      | none => trivial
      | some value =>
        have hMembers (rest : List Char) :=
          gives_readContainer (b := .object) (gives_readMember (h value rfl)) rest
        refine ((hMembers _).mono fun out h => ?_).map
        refine (height_le_iff (v := .object (Bindings.ofList out.1))).2 (List.forall_mem_map.2 ?_)
        exact fun m hm => h m (Bindings.mem_of_mem_ofList hm)
    · trivial

/-- A value is at most one level higher than its text may be nested. -/
theorem gives_readValue (depth : Nat) : Gives (readValue depth) fun v => v.height ≤ depth + 1 := by
  induction depth with
  | zero => exact gives_readValueWith nofun
  | succ depth ih =>
    apply gives_readValueWith
    rintro _ ⟨⟩
    exact ih

theorem height_le_of_read {text : String} {v : Json} (h : read text = .ok v) :
    v.height ≤ maxNesting + 1 := by
  have hGives := gives_readValue maxNesting text.toList
  rw [read, readAll] at h
  split at h
  · cases h
  · next w rest _ hRead =>
    rw [hRead] at hGives
    split at h
    · cases h
    · cases h
      exact hGives

/-! ### As high as a text may be -/

/-- The reader takes a value off the front of a text and leaves the rest. -/
def Takes (reader : Reader α) (cs : List Char) (a : α) (rest : List Char) : Prop :=
  ∃ h, reader cs = .ok (a, ⟨rest, h⟩)

/-- A container with one entry and no blanks. -/
theorem takes_readContainer_single {a : α} {cs rest : List Char}
    (h : Takes entry cs a (b.closing :: rest)) (hInk : skipSpace cs = cs)
    (hOpen : cs.head? ≠ some b.closing) (hClosing : isSpace b.closing = false) :
    Takes (readContainer b entry) cs [a] rest := by
  obtain ⟨hLt, hEntry⟩ := h
  have hClosed : skipSpace (b.closing :: rest) = b.closing :: rest := by
    rw [skipSpace, List.dropWhile_cons_of_neg (by simp [hClosing])]
  cases cs with
  | nil => cases hLt
  | cons c cs =>
    have hc : c ≠ b.closing := fun hEq => hOpen (congrArg some hEq)
    have hEntries : Takes (readEntries b entry) (c :: cs) [a] rest := by
      rw [Takes, readEntries, hEntry]
      dsimp only
      split
      · next hNil => rw [hClosed] at hNil; cases hNil
      · next mark afterMark hMark =>
        obtain ⟨rfl, rfl⟩ := List.cons.inj (hClosed.symm.trans hMark)
        rw [if_pos rfl]
        exact ⟨Nat.lt_trans (Nat.lt_succ_self _) hLt, rfl⟩
    obtain ⟨hRest, hEntries⟩ := hEntries
    rw [Takes, readContainer]
    split
    · next hNil => rw [hInk] at hNil; cases hNil
    · next first others hFirst =>
      obtain ⟨rfl, rfl⟩ := List.cons.inj (hInk.symm.trans hFirst)
      rw [if_neg hc, hEntries]
      exact ⟨hRest, rfl⟩

theorem takes_array {value : Reader Json} {items : List Json} {cs rest : List Char}
    (h : Takes (readContainer .list value) cs items rest) :
    Takes (readValueWith (some value)) ('[' :: cs) (.array items) rest := by
  obtain ⟨hLt, hItems⟩ := h
  have hOpening : skipSpace ('[' :: cs) = '[' :: cs := rfl
  rw [Takes, readValueWith]
  split
  · next hNil => cases hNil
  · next first others hFirst =>
    obtain ⟨rfl, rfl⟩ := List.cons.inj (hOpening.symm.trans hFirst)
    dsimp only
    rw [hItems]
    exact ⟨Nat.lt_succ_of_lt hLt, rfl⟩

/-- So many arrays around `null`. -/
def tower : Nat → Json
  | 0 => .null
  | k + 1 => .array [tower k]

def towerChars : Nat → List Char
  | 0 => ['n', 'u', 'l', 'l']
  | k + 1 => '[' :: towerChars k ++ [']']

theorem height_tower (k : Nat) : (tower k).height = k + 1 := by
  induction k with
  | zero => rfl
  | succ k ih => simp [tower, height, itemsHeight, ih]

theorem towerChars_eq_cons (k : Nat) :
    ∃ c cs, towerChars k = c :: cs ∧ isSpace c = false ∧ c ≠ ']' := by
  cases k with
  | zero => exact ⟨'n', _, rfl, rfl, by decide⟩
  | succ k => exact ⟨'[', _, rfl, rfl, by decide⟩

theorem takes_tower {k depth : Nat} (h : k ≤ depth) (rest : List Char) :
    Takes (readValue depth) (towerChars k ++ rest) (tower k) rest := by
  induction k generalizing depth rest with
  | zero => cases depth <;> exact ⟨_, rfl⟩
  | succ k ih =>
    obtain ⟨depth, rfl⟩ := Nat.exists_eq_add_of_lt h
    have hInner := ih (Nat.le_add_right k depth) (']' :: rest)
    obtain ⟨c, cs, hEq, hInk, hOpen⟩ := towerChars_eq_cons k
    have hItems : Takes (readContainer .list (readValue (k + depth)))
        (towerChars k ++ ']' :: rest) [tower k] rest := by
      apply takes_readContainer_single hInner _ _ rfl
      · simp [hEq, skipSpace, hInk]
      · simpa [hEq, Brackets.list] using hOpen
    have hChars : towerChars (k + 1) ++ rest = '[' :: (towerChars k ++ ']' :: rest) := by
      simp [towerChars]
    rw [hChars]
    exact takes_array hItems

/-- Arrays that are nested as deep as allowed are read, and their height is the bound. -/
theorem read_tower {k : Nat} (h : k ≤ maxNesting) :
    read (String.ofList (towerChars k)) = .ok (tower k) := by
  have hTower := takes_tower h []
  rw [List.append_nil] at hTower
  obtain ⟨hLt, hRead⟩ := hTower
  rw [read, readAll, String.toList_ofList, hRead]
  rfl

end Json
end Stencil
