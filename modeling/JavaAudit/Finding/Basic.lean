import JavaAudit.Rule.Basic

/-!
# Findings

A finding says that a rule fired at a node: where, by which rule, how grave, and what to do about it.
-/

namespace JavaAudit

/-- The node that a finding is about. -/
structure Anchor where
  type : String
  start : Nat
  stop : Nat
  deriving DecidableEq, Repr

/-- A rule fired at a node. -/
structure Finding where
  file : String
  line : Int
  column : Int
  /-- The line of source, without the blanks around it. -/
  code : String
  rule : String
  name : String
  severity : Severity
  message : String
  advice : String
  anchor : Option Anchor
  deriving DecidableEq, Repr

namespace Finding

/-- The finding of a rule that fired at a node. -/
def ofMatch (r : Rule) (u : CompilationUnit) (n : NodeId) (message : String) : Finding where
  file := u.path
  line := u.tree.line n
  column := u.tree.column n
  code := u.tree.lineContent (u.tree.line n)
  rule := r.id
  name := r.name
  severity := r.severity
  message := message
  advice := r.advice
  anchor := some ⟨u.tree.type n, u.tree.start n, u.tree.stop n⟩

end Finding

end JavaAudit
