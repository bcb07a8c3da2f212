import JavaAudit.SyntaxTree.Basic

/-!
# Walking a syntax tree

Upwards to the ancestors of a node, downwards to its named descendants, and through the parentheses
around an expression. Upward walks end because a parent comes before its children, downward walks
because a child comes after its parent.
-/

namespace JavaAudit.SyntaxTree

variable (t : SyntaxTree)

/-- The ancestors of a node, nearest first. -/
def ancestors (n : NodeId) : List NodeId :=
  match _h : t.parent? n with
  | none => []
  | some p => p :: ancestors p
termination_by n
decreasing_by exact lt_of_parent? _h

/-- The named descendants of a node in pre-order, comments included. -/
def descendants (n : NodeId) : List NodeId :=
  (t.namedChildren n).attach.flatMap fun ⟨c, _h⟩ => c :: descendants c
termination_by t.size - n
decreasing_by
  have := lt_of_mem_namedChildren _h
  omega

/-- The named descendants of one of these types, in pre-order. -/
def descendantsOfType (n : NodeId) (types : List String) : List NodeId :=
  (t.descendants n).filter fun d => t.isA d types

/-- The expression inside any parentheses; nothing if they are empty. -/
def unwrap (n : NodeId) : Option NodeId :=
  if t.type n = "parenthesized_expression" then
    match _h : (t.parts n).head? with
    | none => none
    | some c => unwrap c
  else some n
termination_by t.size - n
decreasing_by
  have := lt_of_head?_parts _h
  omega

/-- The expression inside any parentheses around a node that may be absent. -/
def unwrap? (n : Option NodeId) : Option NodeId := n.bind t.unwrap

/-- The arguments of a call or of an object creation. -/
def arguments (n : NodeId) : List NodeId :=
  match t.field? n "arguments" with
  | none => []
  | some args => t.parts args

/-- The text in a role of a node. -/
def fieldText? (n : NodeId) (role : String) : Option String := (t.field? n role).map t.text

/-! ## Equations and bounds -/

theorem descendants_eq (n : NodeId) :
    t.descendants n = (t.namedChildren n).flatMap fun c => c :: t.descendants c := by
  rw [descendants]
  simp only [List.flatMap_subtype, List.unattach_attach]

theorem le_of_unwrap {t : SyntaxTree} {n m : Nat} (h : t.unwrap n = some m) : n ≤ m := by
  fun_induction unwrap t n with
  | case1 => simp at h
  | case2 n _ c hc ih => exact Nat.le_trans (Nat.le_of_lt (lt_of_head?_parts hc).1) (ih h)
  | case3 n => exact Nat.le_of_eq (Option.some.inj h)

theorem le_of_unwrap? {t : SyntaxTree} {n m : Nat} (h : t.unwrap? (some n) = some m) : n ≤ m :=
  le_of_unwrap h

end JavaAudit.SyntaxTree
