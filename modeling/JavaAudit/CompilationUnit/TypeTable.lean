import JavaAudit.SyntaxTree.Walk
import JavaAudit.Table

/-!
# Types declared in a source

Every type declaration with a name is entered under its qualified name: the package, the names of the
enclosing type declarations and its own name, joined by dots. Of two declarations with one qualified
name the later counts; a simple name stands for the first declaration that bears it.
-/

namespace JavaAudit

/-- Node types of type declarations. -/
def typeDeclarationTypes : List String :=
  ["class_declaration", "interface_declaration", "enum_declaration", "record_declaration",
    "annotation_type_declaration"]

/-- The types that a source declares. -/
structure TypeTable where
  /-- Declarations by qualified name. -/
  declarations : List (String × NodeId)
  /-- Qualified names by byte range and type of the declaration. -/
  names : List ((Nat × Nat × String) × String)
  /-- Qualified names by simple name. -/
  simpleNames : List (String × String)

namespace TypeTable

def empty : TypeTable := ⟨[], [], []⟩

/-- The names of the type declarations around a node, outermost first, unnamed ones left out. -/
def outerNames (t : SyntaxTree) (n : NodeId) : List String :=
  let around := (t.ancestors n).filter fun a => t.isA a typeDeclarationTypes
  (around.reverse.map fun a => (t.fieldText? a "name").getD "").filter (· ≠ "")

/-- The qualified name of a declaration. -/
def qualifiedName (t : SyntaxTree) (package : String) (n : NodeId) (name : String) : String :=
  ".".intercalate ((if package = "" then [] else [package]) ++ outerNames t n ++ [name])

/-- Enter a declaration, if it has a name. -/
def add (t : SyntaxTree) (package : String) (types : TypeTable) (n : NodeId) : TypeTable :=
  match t.fieldText? n "name" with
  | none => types
  | some name =>
    let qualified := qualifiedName t package n name
    { declarations := Table.put qualified n types.declarations
      names := Table.put (t.key n) qualified types.names
      simpleNames := Table.putNew name qualified types.simpleNames }

/-- All types that a source declares, in pre-order. -/
def collect (t : SyntaxTree) (package : String) : TypeTable :=
  (t.descendantsOfType SyntaxTree.root typeDeclarationTypes).foldl (add t package) empty

end TypeTable

end JavaAudit
