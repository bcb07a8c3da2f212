import JavaAudit.Rule.Sink

/-!
# SQL injection

A query is unsafe when it is a concatenation that mentions SQL and has an operand that is not
constant. The rule fires at three kinds of nodes:

- a call that hands such a query to the database. The query argument is followed through parentheses,
  the branches of conditionals and the initialisers of variables;
- a concatenation that is not itself the query argument of such a call, at the outermost `+`;
- a MyBatis annotation that splices raw input into its statement.
-/

namespace JavaAudit.Rule.SqlInjection

def sinks : List String :=
  ["java.sql.Statement.executeQuery", "java.sql.Statement.execute",
    "java.sql.Statement.executeUpdate", "java.sql.Statement.executeLargeUpdate",
    "java.sql.Statement.addBatch", "java.sql.Connection.prepareStatement",
    "java.sql.Connection.prepareCall"]

/-- Words that give a text away as SQL. -/
def keywords : List String :=
  ["SELECT", "INSERT", "UPDATE", "DELETE", "DROP", "CREATE", "ALTER", "FROM", "WHERE", "JOIN",
    "UNION", "ORDER", "GROUP"]

variable (u : CompilationUnit)

/-! ## Calls -/

/-- Does an unsafe concatenation reach the expression within `depth` steps? Declarations that were
already followed are in `seen` and are not followed again; the result carries those seen now. -/
def unsafeQueryWithin : (depth : Nat) → (seen : List (Nat × Nat × String)) → NodeId →
    Bool × List (Nat × Nat × String)
  | 0, seen, _ => (false, seen)
  | depth + 1, seen, n =>
    match u.tree.unwrap n with
    | none => (false, seen)
    | some e =>
      if u.tree.type e = "binary_expression" then (u.concatenates keywords e, seen)
      else if u.tree.type e = "ternary_expression" then
        let first := match u.tree.field? e "consequence" with
          | some branch => unsafeQueryWithin depth seen branch
          | none => (false, seen)
        if first.1 then first
        else match u.tree.field? e "alternative" with
          | some branch => unsafeQueryWithin depth first.2 branch
          | none => (false, first.2)
      else if u.tree.isA e referenceTypes then
        match u.reference? e with
        | none => (false, seen)
        | some symbol =>
          let key := u.tree.key symbol.declaration
          match symbol.initializer with
          | none => (false, seen)
          | some init =>
            if seen.contains key then (false, seen)
            else unsafeQueryWithin depth (key :: seen) init
      else (false, seen)

/-- Does an unsafe concatenation reach the expression? -/
def isUnsafeQuery (n : NodeId) : Bool := (unsafeQueryWithin u classifierDepth [] n).1

/-- Does a call hand an unsafe query to the database? -/
def isUnsafeCall (n : NodeId) : Bool :=
  match (u.tree.arguments n).head? with
  | none => false
  | some query => u.isSink sinks n && isUnsafeQuery u query

/-- Ask whether an unsafe concatenation reaches an expression that may be absent. -/
def askQueryIn
    (reaches : List (Nat × Nat × String) → NodeId → Asking (Bool × List (Nat × Nat × String)))
    (seen : List (Nat × Nat × String)) : Option NodeId → Asking (Bool × List (Nat × Nat × String))
  | none => pure (false, seen)
  | some n => reaches seen n

/-- Ask whether an unsafe concatenation reaches the expression within `depth` steps. -/
def askQueryWithin : (depth : Nat) → (seen : List (Nat × Nat × String)) → NodeId →
    Asking (Bool × List (Nat × Nat × String))
  | 0, seen, _ => pure (false, seen)
  | depth + 1, seen, n =>
    match u.tree.unwrap n with
    | none => pure (false, seen)
    | some e =>
      if u.tree.type e = "binary_expression" then do return (← u.askConcatenates keywords e, seen)
      else if u.tree.type e = "ternary_expression" then do
        let branch := askQueryIn fun seen n => Asking.nested 1 (askQueryWithin depth seen n)
        let first ← branch seen (u.tree.field? e "consequence")
        if first.1 then return first else branch first.2 (u.tree.field? e "alternative")
      else if u.tree.isA e referenceTypes then do
        match ← Asking.nested 1 (u.askReference e) with
        | none => return (false, seen)
        | some symbol =>
          let key := u.tree.key symbol.declaration
          match symbol.initializer with
          | none => return (false, seen)
          | some init =>
            if seen.contains key then return (false, seen)
            else Asking.nested 1 (askQueryWithin depth (key :: seen) init)
      else pure (false, seen)

/-- Ask whether a call hands an unsafe query to the database. -/
def askUnsafeCall (n : NodeId) : Asking Bool :=
  match (u.tree.arguments n).head? with
  | none => pure false
  | some query => do
    if ← u.askSink sinks n then return (← askQueryWithin u classifierDepth [] query).1
    else return false

/-! ## Concatenations -/

/-- Is the node, parentheses aside, an operand of a `+`? -/
def isInnerConcatenation (n : NodeId) : Bool :=
  ((u.tree.ancestors n).find? fun a => u.tree.type a ≠ "parenthesized_expression").any
    u.tree.isConcatenation

/-- Climb through parentheses and out of the branches of conditionals: the outermost expression whose
value a node may be, and its parent. Nothing if the node is the condition of a conditional. -/
def valueHolder (n : NodeId) : Option (NodeId × NodeId) :=
  match _h : u.tree.parent? n with
  | none => none
  | some p =>
    if u.tree.type p = "parenthesized_expression" then valueHolder p
    else if u.tree.type p = "ternary_expression" then
      if (u.tree.field? p "condition").any fun c => u.tree.key c == u.tree.key n then none
      else valueHolder p
    else some (n, p)
termination_by n
decreasing_by all_goals exact SyntaxTree.lt_of_parent? _h

/-- Does the node flow directly into the query argument of a call that the rule is about? -/
def isQueryArgument (n : NodeId) : Bool :=
  match valueHolder u n with
  | none => false
  | some (top, list) =>
    match u.tree.parent? list with
    | none => false
    | some call =>
      u.tree.type list = "argument_list" && u.tree.type call = "method_invocation"
        && (u.tree.parts list).head?.any (fun first => u.tree.key first == u.tree.key top)
        && u.isSink sinks call

/-- Is the node the outermost `+` of an unsafe concatenation that no call is reported for? -/
def isUnsafeConcatenation (n : NodeId) : Bool :=
  u.tree.isConcatenation n && !isInnerConcatenation u n && u.concatenates keywords n
    && !isQueryArgument u n

/-- Ask whether the node flows directly into the query argument of a call that the rule is about. -/
def askQueryArgument (n : NodeId) : Asking Bool :=
  match valueHolder u n with
  | none => pure false
  | some (top, list) =>
    match u.tree.parent? list with
    | none => pure false
    | some call =>
      if u.tree.type list = "argument_list" && u.tree.type call = "method_invocation"
        && (u.tree.parts list).head?.any (fun first => u.tree.key first == u.tree.key top)
      then u.askSink sinks call
      else pure false

/-- Ask whether the node is the outermost `+` of an unsafe concatenation that no call is reported for. -/
def askUnsafeConcatenation (n : NodeId) : Asking Bool :=
  if u.tree.isConcatenation n && !isInnerConcatenation u n then do
    if ← u.askConcatenates keywords n then return !(← askQueryArgument u n) else return false
  else pure false

/-! ## Annotations -/

/-- MyBatis annotations that hold a statement. -/
def statementTypes : List String :=
  ["org.apache.ibatis.annotations.Select", "org.apache.ibatis.annotations.Insert",
    "org.apache.ibatis.annotations.Update", "org.apache.ibatis.annotations.Delete"]

/-- The text of an argument of an annotation, if it is part of the statement. -/
def statementText (arg : NodeId) : Option String :=
  if u.tree.type arg = "element_value_pair" then
    if u.tree.fieldText? arg "key" = some "value" then u.tree.fieldText? arg "value" else none
  else some (u.tree.text arg)

/-- Does a MyBatis annotation splice raw input into its statement? -/
def splicesInput (n : NodeId) : Bool :=
  ((u.tree.fieldText? n "name").bind u.qualify).any statementTypes.contains
    && ((u.tree.arguments n).filterMap (statementText u)).any (Text.contains · "$\x7b")

/-! ## The rule -/

/-- Does the rule fire at a node? -/
def fires (n : NodeId) : Bool :=
  match u.tree.kind? n with
  | some .call => isUnsafeCall u n
  | some .binary => isUnsafeConcatenation u n
  | some .annotationUse => splicesInput u n
  | _ => false

@[inherit_doc fires]
def matching (n : NodeId) : Asking Bool :=
  match u.tree.kind? n with
  | some .call => askUnsafeCall u n
  | some .binary => askUnsafeConcatenation u n
  | some .annotationUse => return splicesInput u n
  | _ => return false

def wording (n : NodeId) : String :=
  match u.tree.kind? n with
  | some .annotationUse => "annotation"
  | some .call => "call"
  | _ => defaultWording

def details (n : NodeId) : List (String × String) :=
  let name := (u.tree.fieldText? n "name").getD ""
  match u.tree.kind? n with
  | some .annotationUse => [("annotation", TypeName.simple name)]
  | some .call => [("method", name)]
  | _ => []

end SqlInjection

def sqlInjection : Rule :=
  { plain "SqlInjectionRule" "SQL_INJECTION" "SQL injection"
      .critical [.call, .binary, .annotationUse] SqlInjection.sinks SqlInjection.matching with
    wording := SqlInjection.wording
    filling := fun u n => return SqlInjection.details u n }

end JavaAudit.Rule
