import JavaAudit.SyntaxTree.Walk
import JavaAudit.Table
import JavaAudit.TypeName.Erasure

/-!
# Package and imports

The header of a source is read from the children of the root. A single-type import binds the simple
name, a static import binds the member, an import on demand names a package to search. Static imports
on demand name no member and are skipped. A later import of the same name takes the place of an
earlier one.
-/

namespace JavaAudit

/-- The package and the imports of a source. -/
structure Header where
  package : String
  /-- Full names by simple name. -/
  imports : List (String × String)
  /-- Packages imported on demand. -/
  wildcards : List String
  /-- Owners by name of the static member. -/
  staticImports : List (String × String)
  deriving Repr, DecidableEq

namespace Header

def empty : Header := ⟨"", [], [], []⟩

/-- The dotted name in a package declaration or an import. -/
def nameIn? (t : SyntaxTree) (n : NodeId) : Option String :=
  (t.childOfType? n ["scoped_identifier", "identifier"]).map t.text

/-- Take an import into account. -/
def addImport (t : SyntaxTree) (h : Header) (n : NodeId) (name : String) : Header :=
  let isStatic := (t.childOfType? n ["static"]).isSome
  let onDemand := (t.childOfType? n ["asterisk"]).isSome
  match isStatic, onDemand with
  | true, true => h
  | true, false =>
    let (owner, member) := Text.cutLast '.' name
    { h with staticImports := Table.put member owner h.staticImports }
  | false, true => { h with wildcards := h.wildcards ++ [name] }
  | false, false => { h with imports := Table.put (TypeName.simple name) name h.imports }

/-- Take a child of the root into account. -/
def add (t : SyntaxTree) (h : Header) (n : NodeId) : Header :=
  match nameIn? t n with
  | none => h
  | some name =>
    if t.type n = "package_declaration" then { h with package := name }
    else if t.type n = "import_declaration" then addImport t h n name
    else h

/-- The header of a source. -/
def read (t : SyntaxTree) : Header := (t.parts SyntaxTree.root).foldl (add t) empty

end Header

end JavaAudit
