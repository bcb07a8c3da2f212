import JavaAudit.Expression.Concatenation
import JavaAudit.Proofs.Ancestry

/-!
# Flattening a `+` chain

The walk over a list of pending expressions does what a recursion over the chain would do: the operands
of several pending expressions are those of each, one after another (`operandsOf_append`), so the
operands of a `+` are those of its left side followed by those of its right side
(`operands_of_isPlus`).
-/

namespace JavaAudit.SyntaxTree

variable {t : SyntaxTree} {n : Nat}

/-! ## Parentheses -/

def isParen (t : SyntaxTree) (n : NodeId) : Bool := t.type n == "parenthesized_expression"

theorem isParen_iff : t.isParen n = true ↔ t.type n = "parenthesized_expression" := beq_iff_eq

theorem unwrap_of_not_isParen (h : t.isParen n = false) : t.unwrap n = some n := by
  rw [unwrap, if_neg fun hp => ?_]
  rw [isParen_iff.2 hp] at h
  cases h

theorem unwrap_of_isParen (h : t.isParen n = true) : t.unwrap n = (t.parts n).head?.bind t.unwrap := by
  rw [unwrap, if_pos (isParen_iff.1 h)]
  split
  · next hnone => rw [hnone]; rfl
  · next c hc => rw [hc]; rfl

/-- Of an expression that is alone in its parentheses, nothing comes before it. -/
theorem head?_parts_of_mem {c : Nat} (hlen : (t.parts n).length ≤ 1) (hc : c ∈ t.parts n) :
    (t.parts n).head? = some c := by
  obtain ⟨before, after, hsplit⟩ := List.append_of_mem hc
  rw [hsplit, List.length_append, List.length_cons] at hlen
  have hbefore : before = [] := List.length_eq_zero_iff.1 (by omega)
  rw [hsplit, hbefore]
  rfl

theorem not_isParen_of_unwrap {m : Nat} (h : t.unwrap n = some m) : t.isParen m = false := by
  fun_induction unwrap t n with
  | case1 => cases h
  | case2 n _ c _ ih => exact ih h
  | case3 n hn =>
    cases h
    exact Bool.eq_false_iff.2 fun hp => hn (isParen_iff.1 hp)

/-! ## Single `+` nodes -/

/-- Is the node itself, and not just what is inside its parentheses, a `+` of two operands? -/
def isPlus (t : SyntaxTree) (n : NodeId) : Bool :=
  t.type n == "binary_expression" && t.fieldText? n "operator" == some "+"

theorem type_of_isPlus (h : t.isPlus n = true) : t.type n = "binary_expression" := by
  rw [isPlus, Bool.and_eq_true] at h
  exact beq_iff_eq.1 h.1

theorem not_isParen_of_isPlus (h : t.isPlus n = true) : t.isParen n = false := by
  rw [isParen, type_of_isPlus h]
  rfl

/-- Whether an expression is a concatenation shows without its parentheses. -/
theorem isConcatenation_of_unwrap {e : Nat} (h : t.unwrap n = some e) :
    t.isConcatenation n = t.isPlus e := by
  rw [isConcatenation, h]
  rfl

theorem isConcatenation_of_not_isParen (h : t.isParen n = false) :
    t.isConcatenation n = t.isPlus n :=
  isConcatenation_of_unwrap (unwrap_of_not_isParen h)

theorem isConcatenation_of_isPlus (h : t.isPlus n = true) : t.isConcatenation n = true := by
  rw [isConcatenation_of_not_isParen (not_isParen_of_isPlus h), h]

/-! ## Operands -/

theorem operandsOf_append (a b : List NodeId) :
    t.operandsOf (a ++ b) = t.operandsOf a ++ t.operandsOf b := by
  fun_induction operandsOf t a with
  | case1 => rfl
  | case2 n rest hplus ih =>
    -- the operands of the `+` go in front of what is pending, so appending commutes with the step
    rw [List.cons_append, operandsOf, if_pos hplus, ← ih]
    simp only [List.append_assoc]
  | case3 n rest hplus ih => rw [List.cons_append, operandsOf, if_neg hplus, ih, List.cons_append]

/-- The operands of the child in a role. -/
def operandsIn (t : SyntaxTree) (n : NodeId) (role : String) : List NodeId :=
  (t.field? n role).elim [] t.operands

theorem operandsOf_operandIn (role : String) :
    t.operandsOf (t.operandIn n role) = t.operandsIn n role := by
  unfold operandIn operandsIn
  cases t.field? n role with
  | none => exact operandsOf.eq_1 t
  | some c => rfl

/-- The operands of a sum are those of its left side and then those of its right side. -/
theorem operands_of_isPlus (h : t.isPlus n = true) :
    t.operands n = t.operandsIn n "left" ++ t.operandsIn n "right" := by
  have hnil : t.operandsOf [] = [] := operandsOf.eq_1 t
  rw [operands, unwrap_of_not_isParen (not_isParen_of_isPlus h), Option.toList_some, operandsOf,
    if_pos (isConcatenation_of_isPlus h), operandsOf_append, operandsOf_append, hnil,
    List.append_nil, operandsOf_operandIn, operandsOf_operandIn]

/-- Parentheses change no operands. -/
theorem operands_of_unwrap_eq {m : Nat} (h : t.unwrap n = t.unwrap m) :
    t.operands n = t.operands m := by
  unfold operands
  rw [h]

theorem operands_of_unwrap_eq_none (h : t.unwrap n = none) : t.operands n = [] := by
  rw [operands, h]
  exact operandsOf.eq_1 t

/-- An expression that is neither in parentheses nor a `+` is its own operand. -/
theorem operands_eq_self (hparen : t.isParen n = false) (hplus : t.isPlus n = false) :
    t.operands n = [n] := by
  have hnil : t.operandsOf [] = [] := operandsOf.eq_1 t
  have hnot : ¬ t.isConcatenation n = true := by
    rw [isConcatenation_of_not_isParen hparen, hplus]
    exact Bool.false_ne_true
  rw [operands, unwrap_of_not_isParen hparen, Option.toList_some, operandsOf, if_neg hnot, hnil]

end JavaAudit.SyntaxTree
