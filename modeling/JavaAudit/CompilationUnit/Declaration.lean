import JavaAudit.CompilationUnit.Basic
import JavaAudit.CompilationUnit.Symbol

/-!
# Declarations

How symbols are read off the nodes that declare them: variables with their declarators, parameters,
resources, record components, fields, interface constants and enum constants.
-/

namespace JavaAudit.CompilationUnit

variable (u : CompilationUnit)

/-- The modifiers of a declaration, annotations left out. -/
def modifiersOf (n : NodeId) : List String :=
  match u.tree.childOfType? n ["modifiers"] with
  | none => []
  | some mods =>
    ((u.tree.children mods).filter fun c =>
      !u.tree.isA c ["annotation", "marker_annotation"]).map u.tree.text

/-- The full name of a type that a declaration may have. -/
def qualifyDeclared (declared : Option String) : Option String :=
  (declared.filter (· ≠ "")).bind u.qualify

/-! ## Single names -/

/-- The symbol of a node that holds its name itself. The type is taken from `typeNode`, or else from
the node. -/
def namedVariable (holder declaration : NodeId) (name : String) (kind : SymbolKind)
    (typeNode initializer : Option NodeId) : Option Symbol :=
  if u.tree.fieldText? holder "name" = some name then
    let declared := (typeNode.or (u.tree.field? holder "type")).map u.tree.text
    some
      { name, kind
        owner := u.enclosingType holder
        declaredType := declared
        typeName := u.qualifyDeclared declared
        modifiers := u.modifiersOf holder
        declaration, initializer }
  else none

/-! ## Declarators -/

/-- The symbol that a declaration gives to one of its declarators. -/
def declaratorSymbol (decl declarator : NodeId) (name : String) (kind : SymbolKind)
    (implicit : List String) : Symbol :=
  let declared := u.tree.fieldText? decl "type"
  { name, kind
    owner := u.enclosingType decl
    declaredType := declared
    typeName := u.qualifyDeclared declared
    modifiers := u.modifiersOf decl ++ implicit
    declaration := declarator
    initializer := u.tree.field? declarator "value" }

/-- The symbol for a name, if one of the declarators declares it. The modifiers `implicit` hold
without being written. -/
def declaredIn (decl : NodeId) (name : String) (kind : SymbolKind) (implicit : List String) :
    Option Symbol :=
  ((u.tree.fields decl "declarator").find? fun d => u.tree.fieldText? d "name" = some name).map
    fun d => u.declaratorSymbol decl d name kind implicit

/-- All symbols that a declaration of variables or fields introduces. -/
def declaredSymbols (decl : NodeId) : List Symbol :=
  let kind := if u.tree.type decl = "field_declaration" then SymbolKind.field else .localVariable
  ((u.tree.fields decl "declarator").filterMap fun d => u.tree.fieldText? d "name").filterMap
    fun name => u.declaredIn decl name kind []

/-! ## Parameters -/

/-- The symbol that one parameter gives to a name. -/
def parameterSymbol (callable param : NodeId) (name : String) (kind : SymbolKind) : Option Symbol :=
  let t := u.tree
  match t.type param with
  | "identifier" =>
    if t.text param = name then
      some
        { name, kind
          owner := u.enclosingType callable
          declaredType := none, typeName := none, modifiers := []
          declaration := param, initializer := none }
    else none
  | "formal_parameter" => u.namedVariable param param name kind none none
  | "spread_parameter" =>
    let typeNode := (t.parts param).find? fun c => !t.isA c ["modifiers", "variable_declarator"]
    (t.childOfType? param ["variable_declarator"]).bind fun d =>
      (u.namedVariable d param name kind typeNode none).map fun s =>
        { s with modifiers := u.modifiersOf param }
  | _ => none

/-- The parameter of a callable, or the component of a record, with this name. -/
def parameter? (callable : NodeId) (name : String) (kind : SymbolKind) : Option Symbol :=
  (u.tree.field? callable "parameters").bind fun params =>
    let candidates := if u.tree.type params = "identifier" then [params] else u.tree.parts params
    candidates.findSome? fun param => u.parameterSymbol callable param name kind

/-! ## Members -/

/-- Modifiers that the constants of interfaces and enums have without being written. -/
def constantModifiers : List String := ["public", "static", "final"]

/-- The symbol of an enum constant. Its type is the enum. -/
def enumConstant? (member : NodeId) (name : String) : Option Symbol :=
  if u.tree.fieldText? member "name" = some name then
    let owner := u.enclosingType member
    some
      { name, kind := .field, owner, declaredType := owner, typeName := owner
        modifiers := constantModifiers
        declaration := member, initializer := none }
  else none

/-- The field that a type body itself declares under a name. -/
def fieldInBody (body : NodeId) (name : String) : Option Symbol :=
  (u.tree.parts body).attach.findSome? fun ⟨member, _h⟩ =>
    match u.tree.type member with
    | "field_declaration" => u.declaredIn member name .field []
    | "constant_declaration" => u.declaredIn member name .field constantModifiers
    | "enum_constant" => u.enumConstant? member name
    | "enum_body_declarations" => fieldInBody member name
    | _ => none
termination_by u.tree.size - body
decreasing_by
  have := SyntaxTree.lt_of_mem_parts _h
  omega

/-- The field that a declared type itself has under a name, record components first. -/
def ownField (type name : String) : Option Symbol :=
  (u.declaration? type).bind fun decl =>
    let component :=
      if u.tree.type decl = "record_declaration" then u.parameter? decl name .field else none
    component.or ((u.tree.field? decl "body").bind fun body => u.fieldInBody body name)

/-- The members of a type body, those after the constants of an enum included. -/
def membersOf (body : NodeId) : List NodeId :=
  u.tree.parts body ++
    ((u.tree.childOfType? body ["enum_body_declarations"]).map u.tree.parts).getD []

/-- The method that a declared type itself has under a name. -/
def ownMethod (type name : String) : Option Symbol :=
  let t := u.tree
  ((u.declaration? type).bind fun decl => t.field? decl "body").bind fun body =>
    ((u.membersOf body).find? fun m =>
      t.type m = "method_declaration" && t.fieldText? m "name" = some name).map fun m =>
        let declared := t.fieldText? m "type"
        { name, kind := .method, owner := some type
          declaredType := declared
          typeName := u.qualifyDeclared declared
          modifiers := u.modifiersOf m
          declaration := m, initializer := none }

end JavaAudit.CompilationUnit
