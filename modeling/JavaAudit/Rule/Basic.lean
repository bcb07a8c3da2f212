import JavaAudit.CompilationUnit.Basic
import JavaAudit.Finding.Severity
import JavaAudit.Rule.Template
import JavaAudit.SyntaxTree.Excerpt
import JavaAudit.SyntaxTree.Kind

/-!
# Rules

A rule looks at nodes of some kinds and says whether it fires there. Where it does, it chooses one of
its message templates and fills it from the node. The slot `code` is always filled with an excerpt of
the node. Both what it says and what it fills in it may have to ask for, and both may fail.
-/

namespace JavaAudit

/-- The template that is used when a rule chooses none that exists. -/
def defaultWording : String := "default"

/-- A predicate on nodes with a message for each node where it holds. -/
structure Rule where
  /-- What sort of rule this is, in listings. -/
  label : String
  id : String
  name : String
  severity : Severity
  kinds : List NodeKind
  /-- The members whose use the rule looks for, if it is about members. -/
  sinks : List String
  /-- Templates by name; one that could not be read is a fault only where it is used. -/
  templates : List (String × Except RuleFault Template)
  advice : String
  /-- Ask whether the rule fires at a node. -/
  matching : CompilationUnit → NodeId → Asking Bool
  /-- The name of the template for a node. -/
  wording : CompilationUnit → NodeId → String
  /-- Ask for the values of the slots for a node. -/
  filling : CompilationUnit → NodeId → Asking (List (String × String))

namespace Rule

variable (r : Rule)

/-- A rule with its sort, its id and its severity. -/
def summary : String := "<" ++ r.label ++ " " ++ r.id ++ " " ++ r.severity.name ++ ">"

/-- The template with this name, or else the default one, which has to exist in any case. -/
def template (wording : String) : Except RuleFault Template :=
  match r.templates.lookup defaultWording with
  | none => .error .noDefaultTemplate
  | some fallback => (r.templates.lookup wording).getD fallback

/-- Ask for the message for a node. -/
def phrase (u : CompilationUnit) (n : NodeId) : Asking String := do
  let template ← Asking.ofExcept (r.template (r.wording u n))
  let details ← r.filling u n
  Asking.ofExcept (template.fill (details ++ [("code", u.tree.snippet n)]))

/-- Ask what the rule has to say about a node: its message if it fires. -/
def judge (u : CompilationUnit) (n : NodeId) : Asking (Option String) := do
  if ← r.matching u n then return some (← r.phrase u n) else return none

/-! ## Answers afresh -/

/-- Does the rule fire at a node? -/
def fires (u : CompilationUnit) (n : NodeId) : Except RuleFault Bool :=
  (r.matching u n callDepth).afresh u

/-- The values of the slots for a node. -/
def details (u : CompilationUnit) (n : NodeId) : Except RuleFault (List (String × String)) :=
  (r.filling u n callDepth).afresh u

/-- The message for a node. -/
def describe (u : CompilationUnit) (n : NodeId) : Except RuleFault String :=
  (r.phrase u n callDepth).afresh u

/-- What the rule has to say about a node: its message if it fires. -/
def verdict (u : CompilationUnit) (n : NodeId) : Except RuleFault (Option String) :=
  (r.judge u n callDepth).afresh u

end Rule

end JavaAudit
