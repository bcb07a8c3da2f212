import JavaAudit.Report.Summary

/-!
# Reports in plain text

One paragraph per finding in the given order, then the numbers.
-/

namespace JavaAudit.Report

/-- Separates the paragraphs. -/
def ruler : String := String.ofList (List.replicate 70 '=')

def countLine (name : String) (n : Nat) : String := "  " ++ name ++ ": " ++ toString n ++ "\n"

/-- Lines under a heading, or nothing if there are none. -/
def listing (heading : String) (lines : List String) : String :=
  if lines.isEmpty then "" else "\n" ++ heading ++ ":\n" ++ String.join lines

/-- The paragraph of a finding. Columns count from one here. -/
def paragraph (f : Finding) : String :=
  "\n" ++ ruler ++ "\n"
    ++ "  [" ++ f.severity.name ++ "] " ++ f.rule ++ " " ++ f.name ++ "\n"
    ++ "  File: " ++ f.file ++ ":" ++ toString f.line ++ ":" ++ toString (f.column + 1) ++ "\n"
    ++ "  Code: " ++ f.code ++ "\n"
    ++ "  Message: " ++ f.message ++ "\n"
    ++ (if f.advice.isEmpty then "" else "  Advice: " ++ f.advice ++ "\n")

/-- The report as plain text. -/
def plainText (findings : List Finding) : String :=
  String.join (findings.map paragraph)
    ++ "\n" ++ ruler ++ "\n"
    ++ "Total findings: " ++ toString findings.length ++ "\n"
    ++ listing "By severity"
        ((gravestFirst (severityCounts findings)).map fun (level, n) => countLine level.name n)
    ++ listing "By rule" ((byName (ruleCounts findings)).map fun (rule, n) => countLine rule n)

end JavaAudit.Report
