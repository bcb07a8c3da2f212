import JavaAudit.Rule.Sink

/-!
# Command injection

The rule fires at calls that run a command when an argument may carry data that is not constant.
Arguments are followed through conditionals, array literals and calls that build a collection.
-/

namespace JavaAudit.Rule.CommandInjection

def sinks : List String :=
  ["java.lang.Runtime.exec", "java.lang.ProcessBuilder.command", "java.lang.ProcessBuilder.<init>"]

/-- Calls that build a collection from their arguments. -/
def collectionFactories : List String :=
  ["java.util.List.of", "java.util.Set.of", "java.util.Arrays.asList"]

variable (u : CompilationUnit)

/-- Does a call build a collection from its arguments? -/
def buildsCollection (n : NodeId) : Bool :=
  u.tree.type n = "method_invocation"
    && (u.callTarget n).any fun target => collectionFactories.contains target.text

/-- May the expression carry data that is not constant? What nests deeper than `depth` levels may. -/
def isUnsafeWithin : (depth : Nat) → NodeId → Bool
  | 0, n => (u.tree.unwrap n).isSome
  | depth + 1, n =>
    match u.tree.unwrap n with
    | none => false
    | some e =>
      if u.tree.isConcatenation e then u.hasTaintedOperand e
      else if u.tree.isA e referenceTypes then !u.isConstant e
      else if u.tree.type e = "ternary_expression" then
        (u.tree.field? e "consequence").any (isUnsafeWithin depth)
          || (u.tree.field? e "alternative").any (isUnsafeWithin depth)
      else if u.tree.type e = "array_creation_expression" then
        (u.tree.field? e "value").any (isUnsafeWithin depth)
      else if u.tree.type e = "array_initializer" then
        (u.tree.parts e).any (isUnsafeWithin depth)
      else if buildsCollection u e then (u.tree.arguments e).any (isUnsafeWithin depth)
      else false

/-- May the expression carry data that is not constant? -/
def isUnsafe (n : NodeId) : Bool := isUnsafeWithin u classifierDepth n

/-- Does the rule fire at a node? -/
def fires (n : NodeId) : Bool :=
  let args := u.tree.arguments n
  !args.isEmpty && u.isSink sinks n && args.any (isUnsafe u)

/-! ## Asking -/

/-- Ask whether a call builds a collection from its arguments. -/
def askCollection (n : NodeId) : Asking Bool :=
  if u.tree.type n = "method_invocation" then do
    return (← u.askTarget n).any fun target => collectionFactories.contains target.text
  else pure false

/-- Ask whether the expression may carry data that is not constant, as far as `depth` levels show. -/
def askUnsafeWithin : (depth : Nat) → NodeId → Asking Bool
  | 0, n => pure (u.tree.unwrap n).isSome
  | depth + 1, n =>
    match u.tree.unwrap n with
    | none => pure false
    | some e =>
      let held := fun n => Asking.nested 3 (askUnsafeWithin depth n)
      if u.tree.isConcatenation e then u.askTaintedOperand e
      else if u.tree.isA e referenceTypes then do return !(← u.askConstant e)
      else if u.tree.type e = "ternary_expression" then do
        if ← Asking.holds held (u.tree.field? e "consequence") then return true
        else Asking.holds held (u.tree.field? e "alternative")
      else if u.tree.type e = "array_creation_expression" then
        Asking.holds (fun n => Asking.nested 1 (askUnsafeWithin depth n)) (u.tree.field? e "value")
      else if u.tree.type e = "array_initializer" then (u.tree.parts e).anyM held
      else do if ← askCollection u e then (u.tree.arguments e).anyM held else return false

@[inherit_doc fires]
def matching (n : NodeId) : Asking Bool :=
  let args := u.tree.arguments n
  if args.isEmpty then pure false
  else do
    if ← u.askSink sinks n then args.anyM (askUnsafeWithin u classifierDepth) else return false

def filling (n : NodeId) : Asking (List (String × String)) :=
  if u.tree.kind? n = some .construction then return [("target", "new ProcessBuilder()")]
  else do
    let owner := match ← u.askSinkTarget sinks n with
      | some target => TypeName.simple target.owner
      | none => "Runtime"
    return [("target", owner ++ "." ++ (← Asking.ofExcept (u.requireText n "name")) ++ "()")]

end CommandInjection

def commandInjection : Rule :=
  { plain "CommandInjectionRule" "COMMAND_INJECTION" "Command injection"
      .critical [.call, .construction] CommandInjection.sinks CommandInjection.matching with
    filling := CommandInjection.filling }

end JavaAudit.Rule
