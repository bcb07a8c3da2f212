import JavaAudit.CompilationUnit.Reference
import JavaAudit.Expression.Concatenation
import JavaAudit.Text.LetterCase

/-!
# Constant and tainted expressions

An expression is constant when it is a literal or refers to a field that is both static and final.
Anything else may carry data from outside the program and counts as tainted, names that cannot be
resolved included. As for types, the functions that begin with `ask` find out by questions.
-/

namespace JavaAudit

/-- How deeply conditionals and collection literals may nest before classification gives up. -/
def classifierDepth : Nat := 201

namespace CompilationUnit

variable (u : CompilationUnit)

/-- Is the expression constant, as far as `depth` levels show? With `conditional`, a conditional with
two constant branches is constant. -/
def isConstantWithin : (depth : Nat) → (conditional : Bool) → NodeId → Bool
  | 0, _, _ => false
  | depth + 1, conditional, n =>
    match u.tree.unwrap n with
    | none => false
    | some e =>
      if u.tree.isA e literalTypes then true
      else if u.tree.isA e referenceTypes then (u.reference? e).any (·.isConstant)
      else if conditional && u.tree.type e = "ternary_expression" then
        (u.tree.field? e "consequence").any (isConstantWithin depth true)
          && (u.tree.field? e "alternative").any (isConstantWithin depth true)
      else false

/-- Does the expression always have the same value? -/
def isConstant (n : NodeId) : Bool := u.isConstantWithin classifierDepth false n

/-- Does the expression always have one of finitely many values? -/
def isConstantChoice (n : NodeId) : Bool := u.isConstantWithin classifierDepth true n

/-- Does a `+` chain have an operand that is not constant? -/
def hasTaintedOperand (n : NodeId) : Bool := (u.tree.operands n).any fun leaf => !u.isConstant leaf

/-- Is the expression a `+` chain with an operand that is not constant, whose text holds one of the
keywords in any case? -/
def concatenates (keywords : List String) (n : NodeId) : Bool :=
  match u.tree.unwrap n with
  | none => false
  | some e =>
    let text := Text.lower (u.tree.text e)
    u.tree.isConcatenation e
      && keywords.any (fun k => Text.contains text (Text.lower k))
      && u.hasTaintedOperand e

/-! ## Asking for constants -/

/-- Ask whether the expression is constant, as far as `depth` levels show. -/
def askConstantWithin : (depth : Nat) → (conditional : Bool) → NodeId → Asking Bool
  | 0, _, _ => pure false
  | depth + 1, conditional, n =>
    match u.tree.unwrap n with
    | none => pure false
    | some e =>
      if u.tree.isA e literalTypes then pure true
      else if u.tree.isA e referenceTypes then do
        return (← Asking.nested 1 (u.askReference e)).any (·.isConstant)
      else if conditional && u.tree.type e = "ternary_expression" then do
        let branch := Asking.holds fun n => Asking.nested 3 (askConstantWithin depth true n)
        if ← branch (u.tree.field? e "consequence") then branch (u.tree.field? e "alternative")
        else return false
      else pure false

/-- Ask whether the expression always has the same value. -/
def askConstant (n : NodeId) : Asking Bool := u.askConstantWithin classifierDepth false n

/-- Ask whether the expression always has one of finitely many values. -/
def askConstantChoice (n : NodeId) : Asking Bool := u.askConstantWithin classifierDepth true n

/-- Ask whether a `+` chain has an operand that is not constant. -/
def askTaintedOperand (n : NodeId) : Asking Bool :=
  (u.tree.operands n).anyM fun leaf => do return !(← u.askConstant leaf)

/-- Ask whether the expression is a `+` chain with an operand that is not constant and with one of the
keywords; the operands are looked at last. -/
def askConcatenates (keywords : List String) (n : NodeId) : Asking Bool :=
  match u.tree.unwrap n with
  | none => pure false
  | some e =>
    let text := Text.lower (u.tree.text e)
    if u.tree.isConcatenation e && keywords.any (fun k => Text.contains text (Text.lower k)) then
      u.askTaintedOperand e
    else pure false

end CompilationUnit

end JavaAudit
