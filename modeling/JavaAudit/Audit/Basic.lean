import JavaAudit.Finding.Basic

/-!
# Results of an audit

An audit yields findings and a log of what went wrong on the way.
-/

namespace JavaAudit

/-- How bad a logged event is. -/
inductive LogLevel where
  | warning
  | error
  deriving DecidableEq, Repr

def LogLevel.name : LogLevel → String
  | .warning => "WARNING"
  | .error => "ERROR"

/-- Something that went wrong. -/
structure LogRecord where
  level : LogLevel
  message : String
  /-- The id of the rule that gave up, if that is what went wrong. -/
  rule : Option String
  deriving DecidableEq, Repr

/-- A record as one line. -/
def LogRecord.text (r : LogRecord) : String := r.level.name ++ ": " ++ r.message

/-- Findings, and what went wrong on the way to them. -/
structure Audit where
  findings : List Finding
  log : List LogRecord
  deriving DecidableEq, Repr

namespace Audit

def empty : Audit := ⟨[], []⟩

/-- One result after another. -/
def append (a b : Audit) : Audit := ⟨a.findings ++ b.findings, a.log ++ b.log⟩

instance : Append Audit := ⟨append⟩

/-- All results one after another. -/
def concat (results : List Audit) : Audit := results.foldr append empty

/-- Nothing but a logged event. -/
def logged (level : LogLevel) (message : String) : Audit := ⟨[], [⟨level, message, none⟩]⟩

/-- What of a result comes from rules with some ids, or from no rule. -/
def filterRules (keep : String → Bool) (a : Audit) : Audit :=
  ⟨a.findings.filter fun f => keep f.rule, a.log.filter fun record => record.rule.all keep⟩

end Audit

end JavaAudit
