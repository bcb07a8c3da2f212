import JavaAudit.Decimal.Fixed
import JavaAudit.Files.Basic
import JavaAudit.Finding.Selection
import JavaAudit.Report.Block
import JavaAudit.Report.Summary
import JavaAudit.Report.Timestamp
import JavaAudit.Text.CharacterClass

/-!
# Reports on a console

A report on a console says what was audited, shows the numbers, and then one panel per finding, grouped
by file. A panel shows the code around its finding if the source is at hand.
-/

namespace JavaAudit

namespace Severity

def borderStyle : Severity → String
  | .critical => "bold red"
  | .error => "red"
  | .warning => "yellow"
  | .info => "dim white"

def badgeStyle : Severity → String
  | .critical => "bold white on red"
  | .error => "bold red"
  | .warning => "bold yellow"
  | .info => "dim"

end Severity

namespace Report

/-! ## Banner and numbers -/

def bannerLines : List String :=
  ["███████╗██╗███╗   ██╗██╗  ██╗",
    "██╔════╝██║████╗  ██║██║ ██╔╝",
    "███████╗██║██╔██╗ ██║█████╔╝ ",
    "╚════██║██║██║╚██╗██║██╔═██╗ ",
    "███████║██║██║ ╚████║██║  ██╗",
    "╚══════╝╚═╝╚═╝  ╚═══╝╚═╝  ╚═╝"]

/-- What the program shows when it starts. -/
def banner : List Block :=
  let title := StyledText.ofPieces [
    ("\n".intercalate bannerLines, "bold red"),
    ("\n\n", ""),
    ("Java Security Rule Scanner v" ++ programVersion ++ "\n", "bold white"),
    ("tree-sitter AST | Sink Resolution | Constant Propagation", "dim")]
  [.blank, .panel (.centered (.text title)) none "red", .blank]

/-- A row of two cells of markup. -/
def plainRow (key value : String) : List Block := [.markup key, .markup value]

/-- A row with the number of something. -/
def countRow (name style : String) (n : Nat) : List Block :=
  [.text (.plain name style), .markup (toString n)]

/-- How much was audited and found. -/
def statistics (files : Int) (elapsed : Float) (findings : List Finding) : Block :=
  let rows :=
    [plainRow "Files Scanned" (toString files),
      plainRow "Total Findings" (toString findings.length),
      plainRow "Scan Time" (Decimal.fixed 2 elapsed ++ "s"),
      plainRow "" ""]
    ++ (gravestFirst (severityCounts findings)).map (fun (level, n) =>
        countRow level.name level.borderStyle n)
    ++ [plainRow "" ""]
    ++ (largestFirst (ruleCounts findings)).map (fun (rule, n) => countRow rule "cyan" n)
  .panel (.table none ["key", "value"] rows)
    (some (.markup "[bold white]Scan Statistics[/bold white]")) "cyan"

/-! ## Findings -/

/-- The code at a finding: two lines more on each side if the source is at hand. A place before the
first line counts from the end. -/
def codeBlock (source : Option String) (f : Finding) (line : String) : Block :=
  match source.filter fun s => !s.isEmpty with
  | some text =>
    let lines := Text.split '\n' text
    let first := (f.line - 3).toNat
    .code ("\n".intercalate ((takeTo lines (f.line + 2)).drop first)) (first + 1) [f.line]
  | none => .code line f.line []

/-- The panel of a finding. Columns count from one here. -/
def panel (source : Option String) (f : Finding) : Block :=
  let title := StyledText.ofPieces [
    (" " ++ f.severity.name ++ " ", f.severity.badgeStyle),
    (" " ++ f.name ++ " ", "bold white"),
    (" " ++ f.rule ++ " ", "dim")]
  let location := StyledText.ofPieces [
    ("Location: ", "bold cyan"),
    ("Line " ++ toString f.line, "white"),
    (", Col " ++ toString (f.column + 1), "dim")]
  let rule := StyledText.ofPieces [("Rule: ", "bold magenta"), (f.rule, "white")]
  let message :=
    if f.message.isEmpty then [] else [.text (.plain ("\n" ++ f.message) "italic white")]
  let line := Text.strip f.code
  let code := if line.isEmpty then [] else [.text (.plain "" ""), codeBlock source f line]
  let advice :=
    if f.advice.isEmpty then []
    else [.text (.ofPieces [("\nFix: ", "bold green"), (f.advice, "green")])]
  .panel (.group ([.sideBySide [.text location, .text rule]] ++ message ++ code ++ advice))
    (some (.text title)) f.severity.borderStyle

/-- The text of a source file, if it can be read. -/
def sourceText? (files : Files) (path : String) : Option String :=
  (files.read (Path.normal path)).toOption.map Files.readableText

/-- The files with findings, by name. -/
def fileNames (findings : List Finding) : List String :=
  ((findings.map (·.file)).eraseDups).mergeSort fun a b => !decide (b < a)

/-- The findings in one file, by place. -/
def findingsIn (file : String) (findings : List Finding) : List Finding :=
  (findings.filter (·.file == file)).mergeSort Finding.placeLe

/-- The panels of the findings in one file. -/
def fileSection (files : Files) (findings : List Finding) (file : String) : List Block :=
  let source := sourceText? files file
  [.text (.plain ("FILE: " ++ file) "bold underline cyan"), .blank]
    ++ (findingsIn file findings).flatMap fun f => [panel source f, .blank]

/-! ## The report -/

/-- What was audited, when, and how grave a finding had to be. -/
def header (moment : Timestamp) (target least : String) : Block :=
  let text := StyledText.ofPieces [
    ("Target: ", "bold cyan"), (target ++ "  ", "white"),
    ("Date: ", "bold cyan"), (moment.text ++ "  ", "white"),
    ("Severity: ", "bold cyan"), (">= " ++ least, "white")]
  .panel (.centered (.text text)) (some (.markup "[bold white]Scan Info[/bold white]")) "blue"

def nothingFound : Block :=
  .panel (.centered (.text (.plain "No insecure patterns found." "bold green"))) none "green"

/-- The whole report. -/
def screen (files : Files) (moment : Timestamp) (target least : String) (fileCount : Int)
    (elapsed : Float) (findings : List Finding) : List Block :=
  [header moment target least, .blank, statistics fileCount elapsed findings, .blank]
    ++ (if findings.isEmpty then [nothingFound]
      else [.divider "[bold white]Findings[/bold white]" "red", .blank]
        ++ (fileNames findings).flatMap (fileSection files findings))

/-- The whole report on findings that may name any file. A name with a NUL character is refused. -/
def checkedScreen (files : Files) (moment : Timestamp) (target least : String) (fileCount : Int)
    (elapsed : Float) (findings : List Finding) : Except PathFault (List Block) :=
  match (fileNames findings).find? Path.hasNul with
  | some file => .error ⟨file, .nulInPath⟩
  | none => .ok (screen files moment target least fileCount elapsed findings)

/-! ## Rules -/

/-- A table of rules. -/
def ruleTable (rules : List Rule) : Block :=
  let row (r : Rule) : List Block :=
    [.markup r.id, .text (.plain r.severity.name r.severity.borderStyle), .markup r.name,
      .markup (", ".intercalate
        ((r.kinds.map NodeKind.label).mergeSort fun a b => !decide (b < a)))]
  .table (some "Registered rules") ["Rule", "Severity", "Name", "Node kinds"] (rules.map row)

end Report

end JavaAudit
