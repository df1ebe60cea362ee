import Stencil.Filter.Apply
import Stencil.Proofs.Json.Texts

/-!
# Filters keep values calm

Every filter makes a value of calm texts into a value of calm texts, as long as its argument has no
opening brace. So no chain of filters brings a doubled brace into a value that has none.
-/

namespace Stencil.Filter

open Json

variable {argument : Option String} {v : Json}

theorem calm_argumentValue (hArg : ∀ a ∈ argument, '\x7b' ∉ a.toList) :
    (argumentValue argument).Calm := by
  cases argument with
  | none => exact .null
  | some a => exact .string (Text.calm_of_not_mem (hArg a rfl))

theorem calm_getD {argument : Option String} (hArg : ∀ a ∈ argument, '\x7b' ∉ a.toList)
    {fallback : String} (h : '\x7b' ∉ fallback.toList) :
    Text.Calm (argument.getD fallback).toList := by
  cases argument with
  | none => exact Text.calm_of_not_mem h
  | some a => exact Text.calm_of_not_mem (hArg a rfl)

theorem calm_ofList {cs : List Char} (h : Text.Calm cs) : Calm (.string (String.ofList cs)) := by
  apply All.string
  rw [String.toList_ofList]
  exact h

theorem calm_orElse (hArg : ∀ a ∈ argument, '\x7b' ∉ a.toList) (h : v.Calm) :
    (orElse argument v).Calm := by
  rw [orElse]
  split
  · exact h
  · exact calm_argumentValue hArg

theorem calm_whenTrue (hArg : ∀ a ∈ argument, '\x7b' ∉ a.toList) (h : v.Calm) :
    (whenTrue argument v).Calm := by
  rw [whenTrue]
  split
  · exact calm_argumentValue hArg
  · exact h

/-! ### Filters on text -/

theorem calm_onString {f : List Char → List Char} (hf : ∀ cs, Text.Calm cs → Text.Calm (f cs))
    (h : v.Calm) : (onString f v).Calm := by
  cases v with
  | string s =>
    cases h with
    | string h => exact calm_ofList (hf s.toList h)
  | _ => exact h

/-- What is cut off ends in a point and not in a brace. -/
theorem calm_cutTo (limit : Nat) {cs : List Char} (h : Text.Calm cs) :
    Text.Calm (cutTo limit cs) := by
  rw [cutTo]
  split
  · exact h
  · exact h.take_append limit (by decide) (Text.calm_of_not_mem (by decide))

theorem calm_truncateTo (h : v.Calm) : (truncateTo argument v).Calm := by
  rw [truncateTo]
  split
  · exact calm_onString (fun _ => calm_cutTo _) h
  · exact h

theorem calm_appendTo (hArg : ∀ a ∈ argument, '\x7b' ∉ a.toList) (h : v.Calm) :
    (appendTo argument v).Calm := by
  apply All.string
  rw [String.toList_append]
  exact h.display.append (calm_getD hArg (by decide))

theorem calm_prependTo (hArg : ∀ a ∈ argument, '\x7b' ∉ a.toList) (h : v.Calm) :
    (prependTo argument v).Calm := by
  apply All.string
  rw [String.toList_append]
  exact (calm_getD hArg (by decide)).append h.display

/-! ### Filters on collections -/

theorem calm_firstOf (h : v.Calm) : (firstOf v).Calm := by
  cases h with
  | @array items h =>
    cases items with
    | nil => exact .null
    | cons item rest => exact h item List.mem_cons_self
  | _ => exact .null

theorem calm_lastOf (h : v.Calm) : (lastOf v).Calm := by
  cases h with
  | @array items h =>
    change ((items.getLast?).getD .null).Calm
    cases hLast : items.getLast? with
    | none => exact .null
    | some item => exact h item (List.mem_of_getLast? hLast)
  | _ => exact .null

theorem calm_joinWith (hArg : ∀ a ∈ argument, '\x7b' ∉ a.toList) (h : v.Calm) :
    (joinWith argument v).Calm := by
  cases v with
  | array items =>
    cases h with
    | array h =>
      apply calm_ofList
      apply Text.Calm.join (calm_getD hArg (by decide))
      intro part hPart
      obtain ⟨item, hItem, rfl⟩ := List.mem_map.1 hPart
      exact Calm.display (h item hItem)
  | _ => exact h

/-! ### Filters on time -/

theorem calm_durationOf (h : v.Calm) : (durationOf v).Calm := by
  cases v with
  | number n =>
    rw [durationOf]
    split
    · exact calm_ofList (Text.calm_of_not_mem (not_mem_clockChars _))
    · exact h
  | _ => exact h

theorem calm_dateOf (hArg : ∀ a ∈ argument, '\x7b' ∉ a.toList) (h : v.Calm) :
    (dateOf argument v).Calm := by
  rw [dateOf]
  split
  · apply calm_ofList
    apply Text.calm_of_not_mem
    apply Calendar.not_mem_format
    cases argument with
    | none => decide
    | some a => exact hArg a rfl
  · exact h

/-! ### All filters -/

theorem calm_apply (f : Filter) (hArg : ∀ a ∈ argument, '\x7b' ∉ a.toList) (h : v.Calm) :
    (f.apply argument v).Calm := by
  cases f with
  | default => exact calm_orElse hArg h
  | size => exact .number _
  | truncate => exact calm_truncateTo h
  | escape => exact calm_onString (fun cs => (respells_entity.respelled cs).calm) h
  | upcase => exact calm_onString (fun cs => (Text.respelled_upper cs).calm) h
  | downcase => exact calm_onString (fun cs => (Text.respelled_lower cs).calm) h
  | json => exact calm_ofList h.chars
  | not => exact .bool _
  | ifTrue => exact calm_whenTrue hArg h
  | duration => exact calm_durationOf h
  | first => exact calm_firstOf h
  | last => exact calm_lastOf h
  | join => exact calm_joinWith hArg h
  | append => exact calm_appendTo hArg h
  | prepend => exact calm_prependTo hArg h
  | date => exact calm_dateOf hArg h

end Stencil.Filter
