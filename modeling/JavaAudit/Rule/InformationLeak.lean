import JavaAudit.Rule.Sink

/-!
# Leaked exception messages

The message of an exception that is part of a returned value tells the caller about the inside of the
system. The rule fires at the call that reads the message and at the `return` statement around it.
-/

namespace JavaAudit.Rule.InformationLeak

/-- Methods that read the message of an exception. -/
def messageGetters : List String := ["getMessage", "getLocalizedMessage"]

/-- Parts of a type name that give it away as an exception. -/
def exceptionMarkers : List String := ["Exception", "Error", "Throwable"]

variable (u : CompilationUnit)

/-- Is the type, by its name or by its supertypes, one of exceptions? -/
def isExceptionType (name : String) : Bool :=
  exceptionMarkers.any (Text.contains (TypeName.simple name))
    || u.fullHierarchy.isSubtype name ["java.lang.Throwable"]

/-- Does a call read the message of an exception? Without a receiver it does inside an exception. -/
def isExceptionMessage (call : NodeId) : Bool :=
  u.tree.type call = "method_invocation"
    && (u.tree.fieldText? call "name").any messageGetters.contains
    && match u.tree.field? call "object" with
      | none =>
        (u.enclosingType call).any (u.fullHierarchy.isSubtype · ["java.lang.Throwable"])
      | some receiver => ((u.looseTypeOf receiver).filter (· ≠ "")).any (isExceptionType u)

/-- Node types that a returned value does not reach across. -/
def returnBoundaries : List String := ["method_declaration", "constructor_declaration", "class_body"]

/-- Is the node part of a returned value? -/
def isReturned (n : NodeId) : Bool :=
  ((u.tree.ancestors n).find? fun a =>
    u.tree.type a = "return_statement" || u.tree.isA a returnBoundaries).any fun a =>
      u.tree.type a = "return_statement"

/-- The first call inside a statement that reads the message of an exception. -/
def leakedCall (statement : NodeId) : Option NodeId :=
  (u.tree.descendantsOfType statement ["method_invocation"]).find? (isExceptionMessage u)

/-- Does the rule fire at a node? -/
def fires (n : NodeId) : Bool :=
  match u.tree.kind? n with
  | some .call => isExceptionMessage u n && isReturned u n
  | some .returning => (leakedCall u n).isSome
  | _ => false

/-! ## Asking -/

/-- Ask whether a call reads the message of an exception. -/
def askExceptionMessage (call : NodeId) : Asking Bool :=
  if u.tree.type call = "method_invocation"
    && (u.tree.fieldText? call "name").any messageGetters.contains
  then match u.tree.field? call "object" with
    | none => return (u.enclosingType call).any (u.fullHierarchy.isSubtype · ["java.lang.Throwable"])
    | some receiver => do
      return ((← u.askLooseType receiver).filter (· ≠ "")).any (isExceptionType u)
  else return false

/-- Ask for the first call inside a statement that reads the message of an exception. -/
def askLeakedCall (statement : NodeId) : Asking (Option NodeId) :=
  (u.tree.descendantsOfType statement ["method_invocation"]).findM? (askExceptionMessage u)

@[inherit_doc fires]
def matching (n : NodeId) : Asking Bool :=
  match u.tree.kind? n with
  | some .call => do if ← askExceptionMessage u n then return isReturned u n else return false
  | some .returning => do return (← askLeakedCall u n).isSome
  | _ => return false

def filling (n : NodeId) : Asking (List (String × String)) := do
  let call ← if u.tree.kind? n = some .call then pure (some n) else askLeakedCall u n
  return [("method", (call.bind (u.tree.fieldText? · "name")).getD "getMessage")]

end InformationLeak

def informationLeak : Rule :=
  { plain "InformationLeakRule" "INFORMATION_LEAK" "System information leak"
      .warning [.returning, .call] [] InformationLeak.matching with
    filling := InformationLeak.filling }

end JavaAudit.Rule
