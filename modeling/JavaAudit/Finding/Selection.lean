import JavaAudit.Finding.Basic
import JavaAudit.Finding.Suppression
import JavaAudit.Table

/-!
# Which findings are reported, and in which order

A project may set the severity of a rule, silence a line and leave out what is not grave enough. What
remains is sorted by file, line and column; findings at the same place keep their order.
-/

namespace JavaAudit.Finding

/-- The finding with the severity that is set for its rule, if one is. -/
def regrade (levels : List (String × Severity)) (f : Finding) : Finding :=
  match Table.get? f.rule levels with
  | some level => { f with severity := level }
  | none => f

/-- Is the finding grave enough, and its line not silenced? -/
def isReported (least : Option Severity) (keyword : String) (f : Finding) : Bool :=
  !Suppression.isSuppressed keyword f.code && least.all (·.atLeast f.severity)

/-- The findings to report. -/
def select (least : Option Severity) (keyword : String) (findings : List Finding) : List Finding :=
  findings.filter (isReported least keyword)

/-- Does a finding make the audit fail? -/
def isFailing (f : Finding) : Bool := Severity.failing.atLeast f.severity

/-! ## Order -/

/-- Is the place of a finding in its file not after that of another one? -/
def placeLe (a b : Finding) : Bool :=
  decide (a.line < b.line) || (a.line == b.line && decide (a.column ≤ b.column))

/-- The same, for findings in any two files. -/
def le (a b : Finding) : Bool := decide (a.file < b.file) || (a.file == b.file && placeLe a b)

/-- Findings by file, line and column. -/
def sort (findings : List Finding) : List Finding := findings.mergeSort le

end JavaAudit.Finding
