import JavaAudit.Expression.Constant
import JavaAudit.Expression.Typing
import JavaAudit.Rule.Wording

/-!
# Sinks

Most rules are about members whose use is dangerous, their sinks. This module says which calls and
object creations reach one of given sinks. The simplest of these rules fires at every use of its sinks.
-/

namespace JavaAudit

namespace CompilationUnit

variable (u : CompilationUnit)

/-- The target of a call or an object creation, if it is one of the sinks. -/
def sinkTarget (sinks : List String) (n : NodeId) : Option CallTarget :=
  (u.callTarget n).filter (·.isAmong u.fullHierarchy sinks)

/-- Does the call or the object creation reach one of the sinks? -/
def isSink (sinks : List String) (n : NodeId) : Bool := (u.sinkTarget sinks n).isSome

/-- Ask for the target of a call or an object creation, if it is one of the sinks. -/
def askSinkTarget (sinks : List String) (n : NodeId) : Asking (Option CallTarget) := do
  return (← u.askTarget n).filter (·.isAmong u.fullHierarchy sinks)

/-- Ask whether the call or the object creation reaches one of the sinks. -/
def askSink (sinks : List String) (n : NodeId) : Asking Bool := do
  return (← u.askSinkTarget sinks n).isSome

/-- The text in a role that a rule relies on. -/
def requireText (n : NodeId) (role : String) : Except RuleFault String :=
  match u.tree.fieldText? n role with
  | some s => .ok s
  | none => .error (.missingPart role)

end CompilationUnit

namespace Rule

/-- A rule with the wording and the advice of its id that uses the default template and fills no slots of
its own. -/
def plain (label id name : String) (severity : Severity) (kinds : List NodeKind)
    (sinks : List String) (matching : CompilationUnit → NodeId → Asking Bool) : Rule where
  label := label
  id := id
  name := name
  severity := severity
  kinds := kinds
  sinks := sinks
  templates := Wording.templatesFor id
  advice := Wording.adviceFor id
  matching := matching
  wording _ _ := defaultWording
  filling _ _ := pure []

/-! ## Predictable random numbers -/

def randomSinks : List String := ["java.util.Random.<init>"]

/-- Fires where a `java.util.Random` is created; its subclasses have constructors of their own. -/
def insecureRandom : Rule :=
  plain "InsecureRandomRule" "INSECURE_RANDOM" "Insecure random number generator"
    .warning [.construction] randomSinks (·.askSink randomSinks ·)

end Rule

end JavaAudit
