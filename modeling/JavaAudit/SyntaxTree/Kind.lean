import JavaAudit.SyntaxTree.Basic

/-!
# Kinds of nodes

Rules look at ten kinds of nodes. Most kinds are read off the grammar type. An identifier is a
reference only where it stands for a value: not where it names the thing that its parent declares,
accesses or calls, and not as a part of a package name or a label.
-/

namespace JavaAudit

/-- The kinds of nodes that rules can ask for. -/
inductive NodeKind where
  | call
  | construction
  | binary
  | annotationUse
  | declaration
  | returning
  | literal
  | reference
  | conditional
  | arrayLiteral
  deriving DecidableEq, Repr

namespace NodeKind

def all : List NodeKind :=
  [.call, .construction, .binary, .annotationUse, .declaration, .returning, .literal, .reference,
    .conditional, .arrayLiteral]

/-- The name of a kind in listings. -/
def label : NodeKind → String
  | .call => "call-expression"
  | .construction => "construction-expression"
  | .binary => "binary-expression"
  | .annotationUse => "annotation"
  | .declaration => "declaration-statement"
  | .returning => "return-statement"
  | .literal => "literal"
  | .reference => "reference"
  | .conditional => "conditional-expression"
  | .arrayLiteral => "array-literal"

end NodeKind

/-- Node types of literals. -/
def literalTypes : List String :=
  ["decimal_integer_literal", "hex_integer_literal", "octal_integer_literal",
    "binary_integer_literal", "decimal_floating_point_literal", "hex_floating_point_literal",
    "character_literal", "string_literal", "text_block", "null_literal", "true", "false",
    "class_literal"]

/-- Node types of references to variables and fields. -/
def referenceTypes : List String := ["identifier", "field_access"]

/-- The kind that a grammar type suggests. -/
def NodeKind.ofType? (type : String) : Option NodeKind :=
  if literalTypes.contains type then some .literal
  else if referenceTypes.contains type then some .reference
  else match type with
    | "method_invocation" => some .call
    | "object_creation_expression" => some .construction
    | "binary_expression" => some .binary
    | "annotation" => some .annotationUse
    | "marker_annotation" => some .annotationUse
    | "local_variable_declaration" => some .declaration
    | "return_statement" => some .returning
    | "ternary_expression" => some .conditional
    | "array_initializer" => some .arrayLiteral
    | "array_creation_expression" => some .arrayLiteral
    | _ => none

namespace SyntaxTree

variable (t : SyntaxTree)

/-- Node types below which an identifier is never a reference. -/
def nonReferenceParents : List String :=
  ["scoped_identifier", "import_declaration", "package_declaration", "labeled_statement",
    "break_statement", "continue_statement"]

/-- Does the node cover the same bytes as the child of `p` in this role? -/
def coversField (p n : NodeId) (role : String) : Bool :=
  match t.field? p role with
  | none => false
  | some c => t.start c == t.start n && t.stop c == t.stop n

/-- Roles in which an identifier names something else than a value. -/
def nonReferenceRoles : List String := ["name", "key", "field"]

/-- Does an identifier stand for a value? -/
def isReference (n : NodeId) : Bool :=
  match t.parent? n with
  | none => false
  | some p =>
    !t.isA p nonReferenceParents && nonReferenceRoles.all fun role => !t.coversField p n role

/-- The kind of a node, if rules can ask for it. -/
def kind? (n : NodeId) : Option NodeKind :=
  if t.type n = "identifier" && !t.isReference n then none else NodeKind.ofType? (t.type n)

end SyntaxTree

end JavaAudit
