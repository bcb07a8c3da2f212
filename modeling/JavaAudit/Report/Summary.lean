import JavaAudit.Finding.Basic
import JavaAudit.Table

/-!
# What all reports hold

Reports name the program and its version, and they tell how many findings there are for each severity and for
each rule. What does not occur has no number.
-/

namespace JavaAudit

def programName : String := "sinkscan"

def programVersion : String := "1.0.0"

namespace Report

/-- The number of findings of each severity, in order of first occurrence. -/
def severityCounts (findings : List Finding) : List (Severity × Nat) :=
  Table.count (findings.map (·.severity))

/-- The number of findings of each rule, in order of first occurrence. -/
def ruleCounts (findings : List Finding) : List (String × Nat) :=
  Table.count (findings.map (·.rule))

/-- The severities that occur, gravest first. -/
def gravestFirst (counts : List (Severity × Nat)) : List (Severity × Nat) :=
  Severity.all.reverse.filterMap fun level => (Table.get? level counts).map fun n => (level, n)

/-- Counts in the order of their names. -/
def byName (counts : List (String × Nat)) : List (String × Nat) :=
  counts.mergeSort fun a b => !decide (b.1 < a.1)

/-- Counts with the largest first; equal ones keep their order. -/
def largestFirst (counts : List (String × Nat)) : List (String × Nat) :=
  counts.mergeSort fun a b => decide (b.2 ≤ a.2)

/-- The number of files with findings. -/
def fileCount (findings : List Finding) : Nat := (findings.map (·.file)).eraseDups.length

end Report

end JavaAudit
