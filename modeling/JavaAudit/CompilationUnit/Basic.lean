import JavaAudit.CompilationUnit.Header
import JavaAudit.CompilationUnit.TypeTable
import JavaAudit.Text.Letter
import JavaAudit.TypeName.Hierarchy

/-!
# Compilation units

A compilation unit is a source file with its syntax tree, its header and the types it declares. This
module answers what a type name written in the unit stands for, which declared type a node belongs to,
and which direct supertypes a declared type has.
-/

namespace JavaAudit

/-- A source file that has been read. -/
structure CompilationUnit where
  path : String
  tree : SyntaxTree
  header : Header
  types : TypeTable
  header_eq : header = Header.read tree
  types_eq : types = TypeTable.collect tree header.package

namespace CompilationUnit

/-- The unit with this syntax tree. -/
def ofTree (path : String) (tree : SyntaxTree) : CompilationUnit :=
  ⟨path, tree, Header.read tree, TypeTable.collect tree (Header.read tree).package, rfl, rfl⟩

variable (u : CompilationUnit)

/-- A unit with its path. -/
def summary : String := "<CompilationUnit " ++ u.path ++ ">"

/-! ## Type names -/

/-- What a simple type name stands for: a type of this file, an imported one, an implicitly imported
one, or a known one of a package imported on demand. -/
def qualifySimple (name : String) : Option String :=
  match Table.get? name u.types.simpleNames with
  | some qualified => some qualified
  | none =>
    match Table.get? name u.header.imports with
    | some qualified => some qualified
    | none =>
      if Catalogue.implicitTypes.contains name then some ("java.lang." ++ name)
      else (u.header.wildcards.map fun package => package ++ "." ++ name).find? Catalogue.isKnown

/-- The full name of a type as written in source, if it is known. A dotted name whose first part is
unknown is taken for a full name if it starts with a lower-case letter. -/
def qualify (type : String) : Option String :=
  let name := TypeName.erase type
  if name = "" || name = "var" then none
  else if Catalogue.primitiveTypes.contains name then some name
  else match Text.cutFirst '.' name with
    | (_, none) => u.qualifySimple name
    | (head, some rest) =>
      match (u.qualifySimple head).filter (· ≠ "") with
      | some outer => some (outer ++ "." ++ rest)
      | none => if Text.startsLower head then some name else none

/-! ## Declared types -/

/-- The qualified name under which a declaration was entered. -/
def declaredName? (n : NodeId) : Option String := Table.get? (u.tree.key n) u.types.names

/-- The declaration of a type. -/
def declaration? (name : String) : Option NodeId := Table.get? name u.types.declarations

/-- The name of the innermost type declaration around a node, the node itself included. -/
def enclosingType (n : NodeId) : Option String :=
  ((n :: u.tree.ancestors n).find? fun a => u.tree.isA a typeDeclarationTypes).bind u.declaredName?

/-- The nodes in which a declaration names its direct supertypes. -/
def writtenSupertypes (decl : NodeId) : List NodeId :=
  let t := u.tree
  let superclass := ((t.field? decl "superclass").map fun n => (t.parts n).take 1).getD []
  let holders := [t.field? decl "interfaces", t.childOfType? decl ["extends_interfaces"]]
  superclass ++ (holders.filterMap id).flatMap fun holder =>
    t.parts ((t.childOfType? holder ["type_list"]).getD holder)

/-- Direct supertypes of a type of this unit, as far as they are known; none for other types. -/
def supertypes (name : String) : List String :=
  match u.declaration? name with
  | none => []
  | some decl =>
    ((u.writtenSupertypes decl).filterMap fun n => u.qualify (u.tree.text n)).filter fun super =>
      super ≠ "" && super ≠ name

/-- The hierarchy of the types declared in this unit. -/
def hierarchy : Hierarchy where
  declared := Table.keys u.types.declarations
  direct := u.supertypes
  direct_eq_nil name hname := by
    simp [supertypes, declaration?, Table.get?_eq_none_of_not_mem hname]

/-- The hierarchy of the known types and of those declared in this unit. -/
def fullHierarchy : Hierarchy := Catalogue.hierarchy.join u.hierarchy

end CompilationUnit

end JavaAudit
