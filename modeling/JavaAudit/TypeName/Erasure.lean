import JavaAudit.Text.CharacterClass
import JavaAudit.Text.Search
import JavaAudit.Text.Word

/-!
# Erased type names

A type as written in source is reduced to the name of its class: annotations go first, then type
arguments from the innermost pair of angle brackets outwards, then the marks of arrays and of variable
arguments, then all blanks.
-/

namespace JavaAudit.TypeName

/-! ## Annotations -/

/-- Characters of an annotation's name. -/
def isNameChar (c : Char) : Bool := Text.isWordChar c || c == '.'

/-- Drop an argument list without inner parentheses, if the text starts with one. -/
def dropArguments : List Char → List Char
  | '(' :: cs =>
    match cs.dropWhile fun c => c ≠ '(' && c ≠ ')' with
    | ')' :: rest => rest
    | _ => '(' :: cs
  | cs => cs

theorem length_dropArguments_le (cs : List Char) : (dropArguments cs).length ≤ cs.length := by
  unfold dropArguments
  split
  · rename_i cs
    split
    · rename_i rest h
      have := (List.dropWhile_sublist (l := cs) fun c => c ≠ '(' && c ≠ ')').length_le
      rw [h] at this
      simp only [List.length_cons] at this ⊢
      omega
    · exact Nat.le_refl _
  · exact Nat.le_refl _

/-- Drop every annotation: an at sign, a name, and arguments if they follow directly. -/
def dropAnnotations : List Char → List Char
  | [] => []
  | c :: cs =>
    if c = '@' && !(cs.takeWhile isNameChar).isEmpty then
      dropAnnotations (dropArguments (cs.dropWhile isNameChar))
    else c :: dropAnnotations cs
termination_by cs => cs.length
decreasing_by
  · have h₁ := length_dropArguments_le (cs.dropWhile isNameChar)
    have h₂ := (List.dropWhile_sublist (l := cs) isNameChar).length_le
    simp only [List.length_cons]
    omega
  · simp

/-! ## Type arguments -/

def isAngle (c : Char) : Bool := c == '<' || c == '>'

/-- Drop every pair of angle brackets that has no angle bracket inside, in one pass. -/
def dropInnermost : List Char → List Char
  | [] => []
  | '<' :: cs =>
    match _h : cs.dropWhile fun c => !isAngle c with
    | '>' :: rest => dropInnermost rest
    | _ => '<' :: dropInnermost cs
  | c :: cs => c :: dropInnermost cs
termination_by cs => cs.length
decreasing_by
  · have := (List.dropWhile_sublist (l := cs) fun c => !isAngle c).length_le
    rw [_h] at this
    simp only [List.length_cons] at this ⊢
    omega
  · simp
  · simp

/-- Drop innermost pairs until none is left. -/
def dropTypeArguments (cs : List Char) : List Char :=
  if (dropInnermost cs).length < cs.length then dropTypeArguments (dropInnermost cs) else cs
termination_by cs.length

/-! ## Erasure -/

/-- The erased name of a type as written in source. -/
def erase (type : String) : String :=
  let bare := dropTypeArguments (dropAnnotations type.toList)
  String.ofList (Text.squeeze
    (Text.removeAll ['[', ']'] (Text.removeAll ['.', '.', '.'] bare)))

/-- The last part of a dotted name. -/
def simple (name : String) : String := Text.lastPiece '.' name

end JavaAudit.TypeName
