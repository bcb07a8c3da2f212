import JavaAudit.CompilationUnit.Reference

/-!
# Call targets and static types

A call or an object creation invokes a member of a type, its target. The type of an expression is inferred
from what one compilation unit declares and from the catalogue of known types, and is absent when they do not
tell it. The type of a call needs the type of its receiver, and the type of a variable without a written type
needs that of its initialiser, so chains of these are followed; `inferenceDepth` bounds their length.

The functions that begin with `ask` find the same out by questions, as a rule does; the numbers in them are
those of the calls that each step of a recursion takes.
-/

namespace JavaAudit

/-! ## Call targets -/

/-- A member of a type. -/
structure CallTarget where
  owner : String
  member : String
  deriving DecidableEq, Repr

namespace CallTarget

/-- The member name of constructors. -/
def constructorName : String := "<init>"

/-- Owner and member with a dot between. -/
def text (c : CallTarget) : String := c.owner ++ "." ++ c.member

/-- Is the target, or the member of a supertype that it stands for, one of these? -/
def isAmong (h : Hierarchy) (sinks : List String) (c : CallTarget) : Bool :=
  if c.member = constructorName then sinks.contains c.text
  else (h.lineage c.owner).any fun owner => sinks.contains (owner ++ "." ++ c.member)

end CallTarget

/-! ## Types -/

/-- How many steps inference takes before it gives up. -/
def inferenceDepth : Nat := 33

/-- What the type of an expression depends on. -/
inductive ExpressionForm where
  /-- A string literal or a text block. -/
  | text
  | this
  | super
  /-- A cast or an object creation, which spells out its type. -/
  | spelled
  | reference
  | call
  | conditional
  | operator
  | other
  deriving DecidableEq, Repr

/-- The form of an expression of this node type. -/
def ExpressionForm.ofType (type : String) : ExpressionForm :=
  if type = "string_literal" || type = "text_block" then .text
  else if type = "this" then .this
  else if type = "super" then .super
  else if type = "cast_expression" || type = "object_creation_expression" then .spelled
  else if referenceTypes.contains type then .reference
  else if type = "method_invocation" then .call
  else if type = "ternary_expression" then .conditional
  else if type = "binary_expression" then .operator
  else .other

namespace CompilationUnit

variable (u : CompilationUnit)

/-- The type that a node spells out. With `unqualified`, a type whose full name is unknown counts
under its erased name. -/
def writtenType (unqualified : Bool) (n : Option NodeId) : Option String :=
  n.bind fun n =>
    match u.qualify (u.tree.text n) with
    | some name => some name
    | none =>
      if unqualified then (some (TypeName.erase (u.tree.text n))).filter (· ≠ "") else none

/-- Does an expression read like the name of a type? -/
def looksLikeType (n : NodeId) : Bool :=
  let t := u.tree
  if t.type n = "identifier" then Text.startsUpper (t.text n)
  else (t.fieldText? n "field").any Text.startsUpper
    && (t.unwrap? (t.field? n "object")).any fun target => t.isA target referenceTypes

/-- The result type of a call whose target is known. -/
def resultType (c : CallTarget) : Option String :=
  let listed := (u.fullHierarchy.lineage c.owner).findSome? fun owner =>
    Catalogue.returnType? (owner ++ "." ++ c.member)
  listed.or ((u.methodOf c.owner c.member).bind (·.typeName))

/-- The type of a variable, a field or a type name, where `infer` types the initialiser of a variable
that has no written type. -/
def referenceType (infer : NodeId → Option String) (unqualified : Bool) (e : NodeId) :
    Option String :=
  match u.reference? e with
  | none => if u.looksLikeType e then u.writtenType unqualified (some e) else none
  | some symbol =>
    (symbol.typeName.filter (· ≠ "")).or <|
      let declared := TypeName.erase (symbol.declaredType.getD "")
      if declared = "" || declared = "var" then symbol.initializer.bind infer
      else if unqualified then some declared
      else none

mutual

/-- The target of a call or of an object creation, within `depth` steps. -/
def callTargetWithin : (depth : Nat) → NodeId → Option CallTarget
  | 0, _ => none
  | depth + 1, n =>
    (u.tree.unwrap n).bind fun e =>
      if u.tree.type e = "object_creation_expression" then
        (((u.tree.fieldText? e "type").bind u.qualify).filter (· ≠ "")).map fun owner =>
          ⟨owner, CallTarget.constructorName⟩
      else if u.tree.type e = "method_invocation" then
        (u.tree.fieldText? e "name").bind fun name =>
          let owner := match u.tree.field? e "object" with
            | none =>
              ((Table.get? name u.header.staticImports).filter (· ≠ "")).or (u.enclosingType e)
            | some receiver => typeWithin depth false receiver
          (owner.filter (· ≠ "")).map fun owner => ⟨owner, name⟩
      else none

/-- The type of an expression, within `depth` steps. -/
def typeWithin : (depth : Nat) → (unqualified : Bool) → NodeId → Option String
  | 0, _, _ => none
  | depth + 1, unqualified, n =>
    (u.tree.unwrap n).bind fun e =>
      match ExpressionForm.ofType (u.tree.type e) with
      | .text => some "java.lang.String"
      | .this => u.enclosingType e
      | .super => u.superclassAt e
      | .spelled => u.writtenType unqualified (u.tree.field? e "type")
      | .reference => u.referenceType (typeWithin depth unqualified) unqualified e
      | .call => (callTargetWithin depth e).bind u.resultType
      | .conditional =>
        let first := (u.tree.field? e "consequence").bind (typeWithin depth unqualified)
        match first.filter (· ≠ "") with
        | some name => some name
        | none => (u.tree.field? e "alternative").bind (typeWithin depth unqualified)
      | .operator =>
        ((u.tree.field? e "left").bind (typeWithin depth false)).filter (· = "java.lang.String")
      | .other => none

end

/-- The target of a call or of an object creation. -/
def callTarget (n : NodeId) : Option CallTarget := u.callTargetWithin inferenceDepth n

/-- The static type of an expression, fully qualified. -/
def typeOf (n : NodeId) : Option String := u.typeWithin inferenceDepth false n

/-- The static type of an expression, under its erased name if its full name is unknown. -/
def looseTypeOf (n : NodeId) : Option String := u.typeWithin inferenceDepth true n

/-! ## Asking for types -/

/-- Ask for the type of an expression that may be absent. -/
def askTypeIn (infer : NodeId → Asking (Option String)) : Option NodeId → Asking (Option String)
  | none => pure none
  | some n => infer n

/-- Ask for the type of a variable, a field or a type name. -/
def askReferenceType (infer : NodeId → Asking (Option String)) (unqualified : Bool) (e : NodeId) :
    Asking (Option String) := do
  match ← Asking.nested 1 (u.askReference e) with
  | none => return if u.looksLikeType e then u.writtenType unqualified (some e) else none
  | some symbol =>
    match symbol.typeName.filter (· ≠ "") with
    | some name => return some name
    | none =>
      let declared := TypeName.erase (symbol.declaredType.getD "")
      if declared = "" || declared = "var" then askTypeIn infer symbol.initializer
      else return if unqualified then some declared else none

mutual

/-- Ask for the target of a call or of an object creation, within `depth` steps. -/
def askTargetWithin : (depth : Nat) → NodeId → Asking (Option CallTarget)
  | 0, _ => pure none
  | depth + 1, n =>
    match u.tree.unwrap n with
    | none => pure none
    | some e =>
      if u.tree.type e = "object_creation_expression" then
        return (((u.tree.fieldText? e "type").bind u.qualify).filter (· ≠ "")).map fun owner =>
          ⟨owner, CallTarget.constructorName⟩
      else if u.tree.type e = "method_invocation" then
        match u.tree.fieldText? e "name" with
        | none => pure none
        | some name => do
          let owner ← match u.tree.field? e "object" with
            | none =>
              pure (((Table.get? name u.header.staticImports).filter (· ≠ "")).or (u.enclosingType e))
            | some receiver => Asking.nested 1 (askTypeWithin depth false receiver)
          return (owner.filter (· ≠ "")).map fun owner => ⟨owner, name⟩
      else pure none

/-- Ask for the type of an expression, within `depth` steps. -/
def askTypeWithin : (depth : Nat) → (unqualified : Bool) → NodeId → Asking (Option String)
  | 0, _, _ => pure none
  | depth + 1, unqualified, n =>
    match u.tree.unwrap n with
    | none => pure none
    | some e =>
      match ExpressionForm.ofType (u.tree.type e) with
      | .text => pure (some "java.lang.String")
      | .this => pure (u.enclosingType e)
      | .super => pure (u.superclassAt e)
      | .spelled => pure (u.writtenType unqualified (u.tree.field? e "type"))
      | .reference =>
        u.askReferenceType (fun n => Asking.nested 2 (askTypeWithin depth unqualified n)) unqualified e
      | .call => do return (← Asking.nested 2 (askTargetWithin depth e)).bind u.resultType
      | .conditional => do
        let branch := askTypeIn fun n => Asking.nested 1 (askTypeWithin depth unqualified n)
        match (← branch (u.tree.field? e "consequence")).filter (· ≠ "") with
        | some name => return some name
        | none => branch (u.tree.field? e "alternative")
      | .operator => do
        let left ← askTypeIn (fun n => Asking.nested 1 (askTypeWithin depth false n))
          (u.tree.field? e "left")
        return left.filter (· = "java.lang.String")
      | .other => pure none

end

/-- Ask for the target of a call or of an object creation. -/
def askTarget (n : NodeId) : Asking (Option CallTarget) := u.askTargetWithin inferenceDepth n

/-- Ask for the static type of an expression, fully qualified. -/
def askType (n : NodeId) : Asking (Option String) := u.askTypeWithin inferenceDepth false n

/-- Ask for the static type of an expression, under its erased name if its full name is unknown. -/
def askLooseType (n : NodeId) : Asking (Option String) := u.askTypeWithin inferenceDepth true n

end CompilationUnit

end JavaAudit
