import JavaAudit.CompilationUnit.Declaration

/-!
# Names in scope

A use of a name sees the innermost binding around it. `binding?` says what one enclosing node binds;
`lookup` asks the enclosing nodes from the inside out. A type body also binds the fields that its type
inherits from types of the same file, which are searched depth first; methods are searched breadth
first.

The search for an inherited field calls itself for each type on the way, so it may run out of room.
`fieldWithin` and `lookupWithin` are the searches with the room that they have.
-/

namespace JavaAudit

/-- Node types of the bodies of types. -/
def typeBodyTypes : List String :=
  ["class_body", "interface_body", "enum_body", "enum_body_declarations", "annotation_type_body"]

/-- Node types of methods, constructors and lambdas. -/
def callableTypes : List String :=
  ["method_declaration", "constructor_declaration", "lambda_expression"]

/-- Node types whose statements declare local variables. -/
def blockTypes : List String := ["block", "constructor_body", "switch_block_statement_group"]

namespace CompilationUnit

variable (u : CompilationUnit)

/-! ## Members along the hierarchy -/

/-- The field of a type, its own or inherited from types of this file. -/
def fieldOf (type name : String) : Option Symbol :=
  (u.hierarchy.visit .depthFirst [] [type]).findSome? fun a => u.ownField a name

/-- The field that a type inherits from types of this file. -/
def inheritedField (type name : String) : Option Symbol :=
  (u.hierarchy.visit .depthFirst [] (u.supertypes type)).findSome? fun a => u.ownField a name

/-- Search types that have not been seen, one after another, for what `search` finds in one of them. The result
carries the types seen, and is absent if `search` gives up. -/
def searchEach (search : List String → String → Option (Option Symbol × List String)) :
    (seen types : List String) → Option (Option Symbol × List String)
  | seen, [] => some (none, seen)
  | seen, a :: rest =>
    if seen.contains a then searchEach search seen rest
    else match search (a :: seen) a with
      | none => none
      | some (some found, seen) => some (some found, seen)
      | some (none, seen) => searchEach search seen rest

/-- Search a type and its supertypes for a field, as the calls go: a type is searched before the next one beside
it, within `room` types on the way down. Absent if there is no room for that. -/
def fieldWithin (name : String) : (room : Nat) → (seen : List String) → (type : String) →
    Option (Option Symbol × List String)
  | 0, _, _ => none
  | room + 1, seen, type =>
    match u.ownField type name with
    | some found => some (some found, seen)
    | none => searchEach (fieldWithin name room) seen (u.supertypes type)

/-- The method of a type, its own or the nearest one inherited from types of this file. -/
def methodOf (type name : String) : Option Symbol :=
  (u.hierarchy.lineage type).findSome? fun a => u.ownMethod a name

/-! ## Bindings of one scope -/

/-- The local variable that the statements of a block before `position` declare. -/
def blockBinding (scope : NodeId) (position : Nat) (name : String) : Option Symbol :=
  (((u.tree.parts scope).takeWhile fun s => u.tree.start s < position).filter fun s =>
    u.tree.type s = "local_variable_declaration").findSome? fun s =>
      u.declaredIn s name .localVariable []

/-- The loop variable that the head of a `for` statement declares. -/
def loopBinding (scope : NodeId) (name : String) : Option Symbol :=
  ((u.tree.fields scope "init").filter fun i =>
    u.tree.type i = "local_variable_declaration").findSome? fun i =>
      u.declaredIn i name .localVariable []

/-- The resource that a `try` statement opens before `position`. -/
def resourceBinding (scope : NodeId) (position : Nat) (name : String) : Option Symbol :=
  let resources := ((u.tree.field? scope "resources").map u.tree.parts).getD []
  (resources.filter fun r => u.tree.type r = "resource" && u.tree.start r < position).findSome?
    fun r => u.namedVariable r r name .resource none (u.tree.field? r "value")

/-- The parameter of a `catch` clause. -/
def catchBinding (scope : NodeId) (name : String) : Option Symbol :=
  (u.tree.childOfType? scope ["catch_formal_parameter"]).bind fun param =>
    u.namedVariable param param name .parameter (u.tree.childOfType? param ["catch_type"]) none

/-- The declared type that a type body belongs to. -/
def typeOfBody (body : NodeId) : Option String :=
  let holder := match u.tree.parent? body with
    | some p => if u.tree.type p = "enum_body" then u.tree.parent? p else some p
    | none => none
  (holder.filter fun h => u.tree.isA h typeDeclarationTypes).bind u.declaredName?

/-- The field that a type body binds, its own or inherited. -/
def bodyBinding (body : NodeId) (name : String) : Option Symbol :=
  (u.fieldInBody body name).or
    (((u.typeOfBody body).filter (· ≠ "")).bind fun owner => u.inheritedField owner name)

/-- What an enclosing node binds for a use of the name at byte `position`. -/
def binding? (scope : NodeId) (position : Nat) (name : String) : Option Symbol :=
  let type := u.tree.type scope
  if blockTypes.contains type then u.blockBinding scope position name
  else if type = "for_statement" then u.loopBinding scope name
  else if type = "enhanced_for_statement" then
    u.namedVariable scope scope name .localVariable none none
  else if type = "try_with_resources_statement" then u.resourceBinding scope position name
  else if type = "catch_clause" then u.catchBinding scope name
  else if callableTypes.contains type then u.parameter? scope name .parameter
  else if type = "record_declaration" then u.parameter? scope name .field
  else if typeBodyTypes.contains type then u.bodyBinding scope name
  else none

/-! ## Lookup -/

/-- The variable, parameter or field that a name means at a node. -/
def lookup (name : String) (n : NodeId) : Option Symbol :=
  (u.tree.ancestors n).findSome? fun scope => u.binding? scope (u.tree.start n) name

/-- What an enclosing node binds, where fields are inherited along `room` types at most. -/
def bindingWithin (room : Nat) (position : Nat) (name : String) (scope : NodeId) :
    Option (Option Symbol) :=
  if typeBodyTypes.contains (u.tree.type scope) && (u.fieldInBody scope name).isNone then
    match (u.typeOfBody scope).filter (· ≠ "") with
    | none => some none
    | some owner => (searchEach (u.fieldWithin name room) [] (u.supertypes owner)).map (·.1)
  else some (u.binding? scope position name)

/-- The first binding of some enclosing nodes, unless there is no room to find it. -/
def firstBinding (binding : NodeId → Option (Option Symbol)) :
    (scopes : List NodeId) → Option (Option Symbol)
  | [] => some none
  | scope :: rest =>
    match binding scope with
    | none => none
    | some (some found) => some (some found)
    | some none => firstBinding binding rest

/-- What a name means at a node, unless there is no room to find it. -/
def lookupWithin (room : Nat) (name : String) (n : NodeId) : Option (Option Symbol) :=
  firstBinding (u.bindingWithin room (u.tree.start n) name) (u.tree.ancestors n)

end CompilationUnit

end JavaAudit
