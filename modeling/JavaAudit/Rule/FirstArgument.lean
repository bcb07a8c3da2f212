import JavaAudit.Rule.Sink

/-!
# Paths and URLs from input

Two rules that fire at a sink whose first argument is not a constant: opening files and creating URLs.
-/

namespace JavaAudit.Rule

namespace FirstArgument

variable (u : CompilationUnit)

/-- Is the first argument of a sink anything but a constant, or a choice between constants? -/
def fires (sinks : List String) (n : NodeId) : Bool :=
  match (u.tree.arguments n).head? with
  | none => false
  | some arg => u.isSink sinks n && !u.isConstantChoice arg

@[inherit_doc fires]
def matching (sinks : List String) (n : NodeId) : Asking Bool :=
  match (u.tree.arguments n).head? with
  | none => pure false
  | some arg => do
    if ← u.askSink sinks n then return !(← u.askConstantChoice arg) else return false

/-- An excerpt of the first argument. -/
def excerpt (n : NodeId) : String :=
  ((u.tree.arguments n).head?.map (u.tree.snippetWithin 60)).getD ""

end FirstArgument

/-! ## Paths -/

def pathSinks : List String :=
  ["java.io.File.<init>", "java.nio.file.Paths.get", "java.nio.file.Path.of"]

/-- The call or the object creation as messages name it. -/
def pathTarget (u : CompilationUnit) (n : NodeId) : Except RuleFault String :=
  if u.tree.kind? n = some .construction then .ok "new File()"
  else do
    let receiver := (u.tree.fieldText? n "object").getD ""
    return receiver ++ "." ++ (← u.requireText n "name") ++ "()"

def pathTraversal : Rule :=
  { plain "PathTraversalRule" "PATH_TRAVERSAL" "Path traversal"
      .error [.construction, .call] pathSinks (FirstArgument.matching · pathSinks ·) with
    filling := fun u n => do
      return [("argument", FirstArgument.excerpt u n), ("target", ← Asking.ofExcept (pathTarget u n))] }

/-! ## URLs -/

def urlSinks : List String := ["java.net.URL.<init>"]

def unsafeUrlCreation : Rule :=
  { plain "UnsafeUrlCreationRule" "UNSAFE_URL_CREATION" "Unsafe URL creation (SSRF)"
      .error [.construction] urlSinks (FirstArgument.matching · urlSinks ·) with
    filling := fun u n => return [("argument", FirstArgument.excerpt u n)] }

end JavaAudit.Rule
