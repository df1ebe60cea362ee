import Stencil.Notice
import Stencil.Path
import Stencil.Proofs.Text.Figures
import Stencil.Proofs.Text.Spelling
import Stencil.Proofs.Trees

/-!
# The strings and keys of a value

`Json.All` says of a value that all its strings have one property and all its keys another. Three
such statements follow from each other: no opening brace at all, calm texts only, and no placeholder
in a string; none of them allows a key that makes an object a loop or a conditional. A value of calm
texts is written as a calm text itself, whatever braces the objects in it bring along.
-/

namespace Stencil.Json

/-- Every string satisfies `p` and every key satisfies `q`. -/
inductive All (p q : String → Prop) : Json → Prop
  | null : All p q .null
  | bool (b : Bool) : All p q (.bool b)
  | number (n : Number) : All p q (.number n)
  | string {s : String} : p s → All p q (.string s)
  | array {items : List Json} : (∀ item ∈ items, All p q item) → All p q (.array items)
  | object {members : List (String × Json)} : (∀ m ∈ members, q m.1) →
    (∀ m ∈ members, All p q m.2) → All p q (.object members)

section All

variable {p q p' q' : String → Prop} {v w : Json}

theorem All.mono (hp : ∀ s, p s → p' s) (hq : ∀ key, q key → q' key) (h : v.All p q) :
    v.All p' q' := by
  induction v with
  | null => exact .null
  | bool b => exact .bool b
  | number n => exact .number n
  | string s =>
    cases h with
    | string h => exact .string (hp s h)
  | array items ih =>
    cases h with
    | array h => exact .array fun item hItem => ih item hItem (h item hItem)
  | object members ih =>
    cases h with
    | object hKeys h =>
      exact .object (fun m hm => hq m.1 (hKeys m hm)) fun m hm => ih m hm (h m hm)

theorem All.of_mem_children (h : v.All p q) (hw : w ∈ v.children) : w.All p q := by
  cases h with
  | array h => exact h w hw
  | object _ h =>
    obtain ⟨m, hm, rfl⟩ := List.mem_map.1 hw
    exact h m hm
  | _ => cases hw

theorem All.child? (h : v.All p q) {segment : String} (hw : v.child? segment = some w) :
    w.All p q := by
  cases h with
  | array h =>
    obtain ⟨index, -, hItem⟩ := Option.bind_eq_some_iff.1 hw
    exact h w (List.mem_of_getElem? hItem)
  | object _ h => exact h (segment, w) (Bindings.mem_of_lookup hw)
  | _ => cases hw

theorem All.walk? (h : v.All p q) {segments : List String} (hw : v.walk? segments = some w) :
    w.All p q := by
  induction segments generalizing v with
  | nil =>
    cases hw
    exact h
  | cons segment rest ih =>
    rw [walk?_cons] at hw
    obtain ⟨child, hChild, hRest⟩ := Option.bind_eq_some_iff.1 hw
    exact ih (h.child? hChild) hRest

end All

/-! ### Braces -/

/-- A key that makes a template object a loop or a conditional. -/
def IsControlKey (key : String) : Prop := key = forKey ∨ key = ifKey

instance (key : String) : Decidable (IsControlKey key) := inferInstanceAs (Decidable (_ ∨ _))

/-- No opening brace in any string or key, and no control key. -/
def Plain (v : Json) : Prop :=
  v.All (fun s => '\x7b' ∉ s.toList) fun key => '\x7b' ∉ key.toList ∧ ¬ IsControlKey key

/-- Only calm strings and keys, and no control key. -/
def Calm (v : Json) : Prop :=
  v.All (fun s => Text.Calm s.toList) fun key => Text.Calm key.toList ∧ ¬ IsControlKey key

/-- No string with a placeholder, and no control key. -/
def Resolved (v : Json) : Prop :=
  v.All (fun s => ¬ Text.HasPlaceholder s.toList) fun key => ¬ IsControlKey key

theorem Plain.calm {v : Json} (h : v.Plain) : v.Calm :=
  h.mono (fun _ hs => Text.calm_of_not_mem hs) fun _ hKey => ⟨Text.calm_of_not_mem hKey.1, hKey.2⟩

theorem Calm.resolved {v : Json} (h : v.Calm) : v.Resolved :=
  h.mono (fun _ hs => hs.not_hasPlaceholder) fun _ hKey => hKey.2

/-! ### Written as text -/

theorem calm_stringChars {s : String} (h : Text.Calm s.toList) : Text.Calm (stringChars s) := by
  have hInside := (respells_escapedChar.respelled s.toList).calm h
  exact .other (by decide) (hInside.append (Text.calm_singleton (by decide)))

theorem itemsChars_eq_map (items : List Json) : itemsChars items = items.map chars := by
  induction items with
  | nil => rfl
  | cons item rest ih => rw [itemsChars, ih, List.map_cons]

theorem membersChars_eq_map (members : List (String × Json)) :
    membersChars members = members.map fun m => stringChars m.1 ++ ':' :: m.2.chars := by
  induction members with
  | nil => rfl
  | cons m rest ih => rw [membersChars, ih, List.map_cons]

theorem calm_comma : Text.Calm [','] := Text.calm_singleton (by decide)

theorem calm_member {key : String} {cs : List Char} (hKey : Text.Calm key.toList)
    (h : Text.Calm cs) : Text.Calm (stringChars key ++ ':' :: cs) :=
  (calm_stringChars hKey).append (.other (by decide) h)

/-- Behind the opening brace of an object stands a quote or the closing brace. -/
theorem calm_object {parts : List (List Char)} (h : ∀ part ∈ parts, Text.Calm part)
    (hQuote : ∀ part ∈ parts, ∃ rest, part = '"' :: rest) :
    Text.Calm ('\x7b' :: Text.join [','] parts ++ ['\x7d']) := by
  have hInside : Text.Calm (Text.join [','] parts ++ ['\x7d']) :=
    (Text.Calm.join calm_comma h).append (Text.calm_singleton (by decide))
  have hFirst : ∃ c rest, Text.join [','] parts ++ ['\x7d'] = c :: rest ∧ c ≠ '\x7b' := by
    cases parts with
    | nil => exact ⟨'\x7d', [], rfl, by decide⟩
    | cons part others =>
      obtain ⟨rest, rfl⟩ := hQuote part List.mem_cons_self
      cases others with
      | nil => exact ⟨'"', _, rfl, by decide⟩
      | cons next others => exact ⟨'"', _, rfl, by decide⟩
  obtain ⟨c, rest, hEq, hc⟩ := hFirst
  rw [List.cons_append, hEq]
  rw [hEq] at hInside
  exact hInside.after_brace hc

theorem Calm.chars {v : Json} (h : v.Calm) : Text.Calm v.chars := by
  induction v with
  | null => exact Text.calm_of_not_mem (by decide)
  | bool b => cases b <;> exact Text.calm_of_not_mem (by decide)
  | number n => exact Text.calm_of_not_mem n.not_mem_chars
  | string s =>
    cases h with
    | string h => exact calm_stringChars h
  | array items ih =>
    cases h with
    | array h =>
      rw [Json.chars, itemsChars_eq_map]
      have hItems : ∀ part ∈ items.map Json.chars, Text.Calm part := by
        intro part hPart
        obtain ⟨item, hItem, rfl⟩ := List.mem_map.1 hPart
        exact ih item hItem (h item hItem)
      have hJoin := Text.Calm.join calm_comma hItems
      exact .other (by decide) (hJoin.append (Text.calm_singleton (by decide)))
  | object members ih =>
    cases h with
    | object hKeys h =>
      rw [Json.chars, membersChars_eq_map]
      apply calm_object
      · intro part hPart
        obtain ⟨m, hm, rfl⟩ := List.mem_map.1 hPart
        exact calm_member (hKeys m hm).1 (ih m hm (h m hm))
      · intro part hPart
        obtain ⟨m, -, rfl⟩ := List.mem_map.1 hPart
        exact ⟨_, rfl⟩

theorem Calm.display {v : Json} (h : v.Calm) : Text.Calm v.display.toList := by
  have hCompact : Text.Calm v.compact.toList := by
    rw [compact, String.toList_ofList]
    exact h.chars
  cases v with
  | null => exact .nil
  | string s =>
    cases h with
    | string h => exact h
  | _ => exact hCompact

end Stencil.Json
