import JavaAudit.SyntaxTree.Walk

/-!
# Concatenations

A `+` chain is flattened into its operands, from left to right, looking through parentheses. The
chain is walked with a list of expressions still to flatten, so that its length does not matter. The
walk ends because both operands of a `+` come after it in the tree: an expression weighs three times
as much as one that comes later.
-/

namespace JavaAudit.SyntaxTree

variable (t : SyntaxTree)

/-- Is the expression, inside any parentheses, a `+` of two operands? -/
def isConcatenation (n : NodeId) : Bool :=
  match t.unwrap n with
  | none => false
  | some e => t.type e == "binary_expression" && t.fieldText? e "operator" == some "+"

/-- The operand in a role, inside any parentheses, as a list of at most one. -/
def operandIn (n : NodeId) (role : String) : List NodeId := (t.unwrap? (t.field? n role)).toList

/-- The weight of the expressions that are still to flatten. -/
def weight : (pending : List NodeId) → Nat
  | [] => 0
  | n :: rest => Nat.pow 3 (t.size - n) + weight rest

theorem weight_operandIn {n : Nat} (role : String) :
    t.weight (t.operandIn n role) = 0 ∨
      n < t.size ∧ t.weight (t.operandIn n role) ≤ Nat.pow 3 (t.size - n - 1) := by
  unfold operandIn
  cases hf : t.field? n role with
  | none => exact .inl rfl
  | some c =>
    cases hu : t.unwrap? (some c) with
    | none => exact .inl rfl
    | some m =>
      have hc := lt_of_field? hf
      have hm := le_of_unwrap? hu
      exact .inr ⟨by omega, Nat.pow_le_pow_right (by decide) (by omega)⟩

theorem weight_cons (n : NodeId) (rest : List NodeId) :
    t.weight (n :: rest) = Nat.pow 3 (t.size - n) + t.weight rest := rfl

theorem weight_append (a b : List NodeId) : t.weight (a ++ b) = t.weight a + t.weight b := by
  induction a with
  | nil => simp [weight]
  | cons n rest ih => simp [weight, ih, Nat.add_assoc]

/-- The operands of the expressions that are still to flatten. -/
def operandsOf : (pending : List NodeId) → List NodeId
  | [] => []
  | n :: rest =>
    if t.isConcatenation n then
      operandsOf (t.operandIn n "left" ++ (t.operandIn n "right" ++ rest))
    else n :: operandsOf rest
termination_by pending => t.weight pending
decreasing_by
  · have hpos : 0 < Nat.pow 3 (t.size - n) := Nat.pow_pos (by decide)
    rw [weight_append, weight_append, weight_cons]
    rcases t.weight_operandIn (n := n) "left" with hl | ⟨hlt, hl⟩ <;>
      rcases t.weight_operandIn (n := n) "right" with hr | ⟨hrt, hr⟩
    · omega
    all_goals
      have hpos' : 0 < Nat.pow 3 (t.size - n - 1) := Nat.pow_pos (by decide)
      have hstep : Nat.pow 3 (t.size - n - 1 + 1) = Nat.pow 3 (t.size - n - 1) * 3 := rfl
      have hsize : t.size - n - 1 + 1 = t.size - n := by omega
      rw [hsize] at hstep
      omega
  · have hpos : 0 < Nat.pow 3 (t.size - n) := Nat.pow_pos (by decide)
    rw [weight_cons]
    omega

/-- The operands of a `+` chain from left to right; of any other expression, itself. -/
def operands (n : NodeId) : List NodeId := t.operandsOf (t.unwrap n).toList

end JavaAudit.SyntaxTree
