import Stencil.Text.CaseTable

/-!
# Upper and lower case

The full case mappings of Unicode, character by character. One rule looks at the neighbours: a
capital sigma at the end of a word becomes the final small sigma.
-/

namespace Stencil.Text

/-- The image of a character under a case mapping given by its sequences and its ranges. -/
def caseImage (sequences : List (Nat × List Nat)) (ranges : List CaseRange) (c : Char) :
    List Char :=
  match sequences.lookup c.toNat with
  | some targets => targets.map Char.ofNat
  | none =>
    match ranges.findSome? (·.image? c.toNat) with
    | some target => [Char.ofNat target]
    | none => [c]

def upperChar (c : Char) : List Char := caseImage upperSequences upperRanges c

def lowerChar (c : Char) : List Char := caseImage lowerSequences lowerRanges c

def isCased (c : Char) : Bool := inRanges casedRanges c.toNat

def isCaseIgnorable (c : Char) : Bool := inRanges caseIgnorableRanges c.toNat

/-- Whether the first character that case does not ignore is a cased one. -/
def meetsCased (cs : List Char) : Bool :=
  match cs.dropWhile isCaseIgnorable with
  | [] => false
  | c :: _ => isCased c

def upper (cs : List Char) : List Char := cs.flatMap upperChar

/-- Lower case of the second text, where the first one, reversed, stands before it. A capital sigma
ends a word when cased characters come before it and none after it. -/
def lowerAfter : List Char → List Char → List Char
  | _, [] => []
  | before, c :: cs =>
    (if c = 'Σ' then [if meetsCased before && !meetsCased cs then 'ς' else 'σ'] else lowerChar c) ++
      lowerAfter (c :: before) cs

def lower (cs : List Char) : List Char := lowerAfter [] cs

end Stencil.Text
