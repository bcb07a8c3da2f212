import JavaAudit.Inquiry
import JavaAudit.SyntaxTree.Kind

/-!
# References

An identifier refers to what its name means where it stands. A field access refers to a field of the
type of its object, which may be the current object, its superclass part, another reference, or the
name of a type.

`reference?` says what an expression refers to. `askReference` is how a rule finds out, by questions and with the
room that it has: it calls itself for the object of a field access, however many field accesses that holds.
-/

namespace JavaAudit.CompilationUnit

variable (u : CompilationUnit)

/-- The field of the current object. -/
def fieldOfThis (n : NodeId) (member : String) : Option Symbol :=
  ((u.enclosingType n).filter (· ≠ "")).bind fun owner => u.fieldOf owner member

/-- The first direct supertype of the type around a node. -/
def superclassAt (n : NodeId) : Option String :=
  ((u.enclosingType n).filter (· ≠ "")).bind fun owner => (u.supertypes owner).head?

/-- The variable or field that an expression refers to. -/
def reference? (n : NodeId) : Option Symbol :=
  match _hn : u.tree.unwrap n with
  | none => none
  | some e =>
    if u.tree.type e = "identifier" then u.lookup (u.tree.text e) e
    else if u.tree.type e ≠ "field_access" then none
    else
      match _ho : u.tree.field? e "object", u.tree.fieldText? e "field" with
      | some object, some member =>
        match _ht : u.tree.unwrap object with
        | none => none
        | some target =>
          if u.tree.type target = "this" then u.fieldOfThis e member
          else if u.tree.type target = "super" then
            (u.superclassAt e).bind fun owner => u.fieldOf owner member
          else if u.tree.isA target referenceTypes then
            let owner := match reference? target with
              | some holder => holder.typeName
              | none => u.qualify (u.tree.text target)
            (owner.filter (· ≠ "")).bind fun owner => u.fieldOf owner member
          else none
      | _, _ => none
termination_by u.tree.size - n
decreasing_by
  have h₁ := SyntaxTree.le_of_unwrap _hn
  have h₂ := SyntaxTree.lt_of_field? _ho
  have h₃ := SyntaxTree.le_of_unwrap _ht
  omega

/-- Ask what an expression refers to. -/
def askReference (n : NodeId) : Asking (Option Symbol) :=
  match _hn : u.tree.unwrap n with
  | none => pure none
  | some e =>
    if u.tree.type e = "identifier" then Asking.lookup u (u.tree.text e) e
    else if u.tree.type e ≠ "field_access" then pure none
    else
      match _ho : u.tree.field? e "object", u.tree.fieldText? e "field" with
      | some object, some member =>
        match _ht : u.tree.unwrap object with
        | none => pure none
        | some target =>
          if u.tree.type target = "this" then
            Asking.member u ((u.enclosingType e).filter (· ≠ "")) member
          else if u.tree.type target = "super" then Asking.member u (u.superclassAt e) member
          else if u.tree.isA target referenceTypes then do
            let owner := match ← Asking.nested 1 (askReference target) with
              | some holder => holder.typeName
              | none => u.qualify (u.tree.text target)
            Asking.member u (owner.filter (· ≠ "")) member
          else pure none
      | _, _ => pure none
termination_by u.tree.size - n
decreasing_by
  have h₁ := SyntaxTree.le_of_unwrap _hn
  have h₂ := SyntaxTree.lt_of_field? _ho
  have h₃ := SyntaxTree.le_of_unwrap _ht
  omega

end JavaAudit.CompilationUnit
