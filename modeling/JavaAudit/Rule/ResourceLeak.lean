import JavaAudit.Rule.Sink

/-!
# Resources that are not released

A declared resource counts as released when a `finally` block of the declaring method closes it, or
when a `try` statement takes it over. Calls that close a resource and hide failures are reported too.
-/

namespace JavaAudit.Rule.ResourceLeak

/-- Types whose values have to be closed. -/
def resourceTypes : List String :=
  ["java.io.InputStream", "java.io.OutputStream", "java.io.Reader", "java.io.Writer",
    "java.io.FileInputStream", "java.io.FileOutputStream", "java.io.BufferedReader",
    "java.io.BufferedWriter", "java.sql.Connection", "java.sql.Statement",
    "java.sql.PreparedStatement", "java.sql.ResultSet", "java.net.Socket", "java.net.ServerSocket"]

variable (u : CompilationUnit)

/-! ## Declarations -/

/-- The method, constructor or lambda in which a declaration has to be released, or the header of the
`try` statement that releases it; outside of all these, its parent. -/
def scope? (decl : NodeId) : Option NodeId :=
  ((u.tree.ancestors decl).find? fun a =>
    u.tree.isA a callableTypes || u.tree.type a = "resource_specification").or (u.tree.parent? decl)

/-- The type of a variable, inferred from its initialiser where it is written `var`. -/
def variableType (symbol : Symbol) : Option String :=
  (symbol.typeName.filter (· ≠ "")).or <|
    if TypeName.erase (symbol.declaredType.getD "") = "var" then symbol.initializer.bind u.typeOf
    else none

/-- Does an expression refer to the variable? -/
def refersTo (symbol : Symbol) (expr : NodeId) : Bool :=
  (u.tree.unwrap expr).any fun e =>
    u.tree.isA e referenceTypes
      && (u.reference? e).any fun s => u.tree.key s.declaration == u.tree.key symbol.declaration

/-- Does a call close the variable? -/
def closes (symbol : Symbol) (call : NodeId) : Bool :=
  u.tree.fieldText? call "name" = some "close"
    && (u.tree.field? call "object").any (refersTo u symbol)

/-- Does a `try` statement take over the variable as a resource? -/
def takesOver (symbol : Symbol) (resource : NodeId) : Bool :=
  (u.tree.field? resource "name").isNone && (u.tree.parts resource).any (refersTo u symbol)

/-- Is the variable released in the scope? -/
def isReleased (symbol : Symbol) (scope : NodeId) : Bool :=
  let t := u.tree
  ((t.descendantsOfType scope ["finally_clause"]).any fun block =>
      (t.descendantsOfType block ["method_invocation"]).any (closes u symbol))
    || (t.descendantsOfType scope ["resource"]).any (takesOver u symbol)

/-- Is the variable a resource that the scope does not release? -/
def leaks (scope : NodeId) (symbol : Symbol) : Bool :=
  (variableType u symbol).any (u.fullHierarchy.isSubtype · resourceTypes)
    && !isReleased u symbol scope

/-- The first resource of a declaration that is never released. -/
def leakingVariable (decl : NodeId) : Option Symbol :=
  (scope? u decl).bind fun scope =>
    if u.tree.type scope = "resource_specification" then none
    else (u.declaredSymbols decl).find? (leaks u scope)

/-! ## Quiet closing -/

/-- The type whose method closes a resource and hides failures. -/
def quietCloser (call : NodeId) : Option String :=
  if (u.tree.fieldText? call "name").any fun name => Text.lower name = "closequietly" then
    ((u.callTarget call).map (·.owner)).filter (Text.contains · "IOUtil")
  else none

/-! ## The rule -/

/-- Does the rule fire at a node? -/
def fires (n : NodeId) : Bool :=
  match u.tree.kind? n with
  | some .declaration => (leakingVariable u n).isSome
  | some .call => (quietCloser u n).isSome
  | _ => false

def wording (n : NodeId) : String :=
  if u.tree.kind? n = some .call then "close_quietly" else defaultWording

/-! ## Asking -/

/-- Ask for the type of a variable. -/
def askVariableType (symbol : Symbol) : Asking (Option String) :=
  match symbol.typeName.filter (· ≠ "") with
  | some name => return some name
  | none =>
    if TypeName.erase (symbol.declaredType.getD "") = "var" then
      CompilationUnit.askTypeIn u.askType symbol.initializer
    else return none

/-- Ask whether an expression refers to the variable. -/
def askRefersTo (symbol : Symbol) (expr : NodeId) : Asking Bool :=
  match u.tree.unwrap expr with
  | none => pure false
  | some e =>
    if u.tree.isA e referenceTypes then do
      return (← Asking.nested 1 (u.askReference e)).any fun s =>
        u.tree.key s.declaration == u.tree.key symbol.declaration
    else pure false

/-- Ask whether a call closes the variable. -/
def askCloses (symbol : Symbol) (call : NodeId) : Asking Bool :=
  if u.tree.fieldText? call "name" = some "close" then
    Asking.holds (askRefersTo u symbol) (u.tree.field? call "object")
  else pure false

/-- Ask whether a `try` statement takes over the variable as a resource. -/
def askTakesOver (symbol : Symbol) (resource : NodeId) : Asking Bool :=
  if (u.tree.field? resource "name").isNone then (u.tree.parts resource).anyM (askRefersTo u symbol)
  else pure false

/-- Ask whether the variable is released in the scope. -/
def askReleased (symbol : Symbol) (scope : NodeId) : Asking Bool := do
  let t := u.tree
  let closed ← (t.descendantsOfType scope ["finally_clause"]).anyM fun block =>
    (t.descendantsOfType block ["method_invocation"]).anyM (askCloses u symbol)
  if closed then return true
  else (t.descendantsOfType scope ["resource"]).anyM (askTakesOver u symbol)

/-- Ask whether the variable is a resource that the scope does not release. -/
def askLeaks (scope : NodeId) (symbol : Symbol) : Asking Bool := do
  if (← askVariableType u symbol).any (u.fullHierarchy.isSubtype · resourceTypes) then
    return !(← askReleased u symbol scope)
  else return false

/-- Ask for the first resource of a declaration that is never released. -/
def askLeakingVariable (decl : NodeId) : Asking (Option Symbol) :=
  match scope? u decl with
  | none => pure none
  | some scope =>
    if u.tree.type scope = "resource_specification" then pure none
    else (u.declaredSymbols decl).findM? (askLeaks u scope)

/-- Ask for the type whose method closes a resource and hides failures. -/
def askQuietCloser (call : NodeId) : Asking (Option String) :=
  if (u.tree.fieldText? call "name").any fun name => Text.lower name = "closequietly" then do
    return ((← u.askTarget call).map (·.owner)).filter (Text.contains · "IOUtil")
  else pure none

@[inherit_doc fires]
def matching (n : NodeId) : Asking Bool :=
  match u.tree.kind? n with
  | some .declaration => do return (← askLeakingVariable u n).isSome
  | some .call => do return (← askQuietCloser u n).isSome
  | _ => return false

def filling (n : NodeId) : Asking (List (String × String)) :=
  if u.tree.kind? n = some .call then do
    return [("owner", TypeName.simple ((← askQuietCloser u n).getD "IOUtils"))]
  else do
    match ← askLeakingVariable u n with
    | none => return [("variable", "?"), ("type", "?")]
    | some symbol =>
      let type := (← askVariableType u symbol).getD (TypeName.erase (symbol.declaredType.getD ""))
      return [("variable", symbol.name), ("type", TypeName.simple type)]

end ResourceLeak

def resourceLeak : Rule :=
  { plain "ResourceLeakRule" "RESOURCE_LEAK" "Resource not released"
      .warning [.declaration, .call] [] ResourceLeak.matching with
    wording := ResourceLeak.wording
    filling := ResourceLeak.filling }

end JavaAudit.Rule
