import JavaAudit.Report.Summary
import JavaAudit.Report.Timestamp
import JavaAudit.Value.Json

/-!
# Reports for programs

The report is one JSON object with all findings in the given order, followed by their numbers.
-/

namespace JavaAudit

/-- A finding as data. The advice and the node are not part of it. -/
def Finding.toValue (f : Finding) : Value :=
  .object [("file", .str f.file), ("line", .int f.line), ("column", .int f.column),
    ("code", .str f.code), ("rule", .str f.rule), ("name", .str f.name),
    ("severity", .str f.severity.name), ("message", .str f.message)]

namespace Report

/-- Counts as data, in the order of their names. -/
def countsValue (counts : List (String × Nat)) : Value :=
  .object ((byName counts).map fun (name, n) => (name, .int n))

/-- The report as data. -/
def toValue (moment : Timestamp) (files : Int) (findings : List Finding) : Value :=
  .object [("scan_date", .str moment.isoText), ("scanner", .str (programName ++ " v" ++ programVersion)),
    ("files_scanned", .int files), ("total_findings", .int findings.length),
    ("findings", .list (findings.map Finding.toValue)),
    ("summary", .object [
      ("by_severity", countsValue ((severityCounts findings).map fun (level, n) => (level.name, n))),
      ("by_rule", countsValue (ruleCounts findings))])]

/-- The report as text. -/
def json (moment : Timestamp) (files : Int) (findings : List Finding) : String :=
  (toValue moment files findings).pretty

end Report

end JavaAudit
