import JavaAudit.SyntaxTree.Basic

/-!
# Symbols

A symbol is a variable, a parameter, a field or a method together with what its declaration says.
-/

namespace JavaAudit

/-- What a symbol names. -/
inductive SymbolKind where
  | localVariable
  | resource
  | parameter
  | field
  | method
  deriving DecidableEq, Repr

def SymbolKind.label : SymbolKind → String
  | .localVariable => "local"
  | .resource => "resource"
  | .parameter => "parameter"
  | .field => "field"
  | .method => "method"

/-- A declared name. -/
structure Symbol where
  name : String
  kind : SymbolKind
  /-- The type that the declaration belongs to. -/
  owner : Option String
  /-- The type as written. -/
  declaredType : Option String
  /-- The full name of the type. -/
  typeName : Option String
  modifiers : List String
  declaration : NodeId
  initializer : Option NodeId
  deriving Repr, DecidableEq

namespace Symbol

variable (s : Symbol)

def isFinal : Bool := s.modifiers.contains "final"

def isStatic : Bool := s.modifiers.contains "static"

/-- Fields that are both static and final hold compile-time constants. -/
def isConstant : Bool := s.isFinal && s.isStatic

end Symbol

end JavaAudit
