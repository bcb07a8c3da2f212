import JavaAudit.Audit.Target
import JavaAudit.CommandLine.Arguments
import JavaAudit.CommandLine.Help
import JavaAudit.Finding.Selection
import JavaAudit.Report.Json
import JavaAudit.Report.PlainText
import JavaAudit.Report.Screen
import JavaAudit.Settings.Discovery

/-!
# The program

The program reads its arguments and the settings of the project, audits the target and reports what it
found, on the console or as JSON. It exits with 1 if a finding is grave enough to fail the audit, and
with 2 if the arguments or the settings are invalid.
-/

namespace JavaAudit

/-- What the program finds when it starts. -/
structure Surroundings where
  files : Files
  parseJava : JavaParser
  parseData : DataParser
  moment : Timestamp
  /-- Seconds that the audit takes. -/
  elapsed : Float

/-- What a run leaves behind. -/
structure Outcome where
  exitCode : Nat
  /-- Plain text for other programs. -/
  output : String
  /-- A complaint about the arguments. -/
  complaint : Option String
  /-- What is shown on the console. -/
  printed : List Block
  /-- The files afterwards. -/
  files : Files
  log : List LogRecord

/-- Why a run breaks off without an outcome. -/
inductive Breakdown where
  /-- The settings file is not UTF-8. -/
  | settingsNotUtf8 (path : String)
  /-- A value in the settings file cannot be written. -/
  | settingsUnwritable (path : String) (fault : WriteFault)
  /-- The target cannot be looked up, or the report cannot be written. -/
  | file (fault : PathFault)
  deriving DecidableEq, Repr

namespace CommandLine

/-- The least severity to report: what the arguments say, or else the settings. -/
def leastSeverity (args : Arguments) (settings : Option Settings) : Severity :=
  args.least.getD (settings.elim Severity.info (·.least))

/-- The findings to report, of those that an audit yields. -/
def reported (settings : Option Settings) (least : Severity) (findings : List Finding) :
    List Finding :=
  let s := settings.getD .standard
  Finding.sort (Finding.select (some least) s.keyword (findings.map (Finding.regrade s.severities)))

/-- The exit code for the reported findings. -/
def exitCodeFor (findings : List Finding) : Nat := if findings.any Finding.isFailing then 1 else 0

/-- The file to write the report to, if one is named. -/
def reportFile? (args : Arguments) : Option String := args.outputFile.filter fun path => !path.isEmpty

variable (world : Surroundings)

/-- Nothing happened yet. -/
def quiet (exitCode : Nat) : Outcome where
  exitCode := exitCode
  output := ""
  complaint := none
  printed := []
  files := world.files
  log := []

/-- The files with a text written to one of them. -/
def save (path text : String) : Except Breakdown Files :=
  (world.files.write path text.toUTF8.toList).mapError fun fault => .file ⟨path, fault⟩

/-- Report as JSON, to a file or to the standard output. -/
def reportJson (args : Arguments) (result : TargetAudit) (findings : List Finding) :
    Except Breakdown Outcome := do
  let text := Report.json world.moment result.fileCount findings
  let outcome := { quiet world (exitCodeFor findings) with log := result.audit.log }
  match reportFile? args with
  | some path => return { outcome with files := ← save world path text }
  | none => return { outcome with output := text ++ "\n" }

/-- Report on the console, and to a file if one is named. -/
def reportText (args : Arguments) (target : String) (least : Severity) (result : TargetAudit)
    (findings : List Finding) : Except Breakdown Outcome := do
  let screen := Report.screen world.files world.moment target least.name result.fileCount
    world.elapsed findings
  let shown := (if args.noBanner then [] else Report.banner) ++ screen
  let outcome := { quiet world (exitCodeFor findings) with printed := shown, log := result.audit.log }
  match reportFile? args with
  | some path =>
    let files ← save world path (Report.plainText findings)
    let notice := "\n[bold green]Report saved to " ++ path ++ "[/bold green]"
    return { outcome with files := files, printed := shown ++ [.markup notice] }
  | none => return outcome

/-- Audit a target with the given settings and report. -/
def auditAndReport (args : Arguments) (target : String) (settings : Option Settings) :
    Except Breakdown Outcome := do
  let least := leastSeverity args settings
  let result ← ((Settings.registry settings).auditTarget world.parseJava world.files settings
    target).mapError .file
  let findings := reported settings least result.audit.findings
  match args.format with
  | .json => reportJson world args result findings
  | .text => reportText world args target least result findings

/-- A run that is over because of the arguments. -/
def stopped : Stop → Outcome
  | .help => { quiet world 0 with output := linesText helpLines }
  | .version => { quiet world 0 with output := programName ++ " " ++ programVersion ++ "\n" }
  | .usage error =>
    { quiet world 2 with complaint := some (programName ++ ": error: " ++ error.message) }

/-- A run that is over because of the settings. -/
def misconfigured (fault : SettingsFault) : Except Breakdown Outcome :=
  match fault with
  | .notUtf8 path => .error (.settingsNotUtf8 path)
  | .unwritable path fault => .error (.settingsUnwritable path fault)
  | fault =>
    .ok { quiet world 2 with
      printed := [.markup ("[bold red]Config error:[/bold red] " ++ fault.message)] }

/-- Do what the arguments ask for. -/
def perform (args : Arguments) : Except Breakdown Outcome :=
  if args.listRules then
    .ok { quiet world 0 with printed := [Report.ruleTable (Registry.builtin []).rules] }
  else match args.target.filter fun path => !path.isEmpty with
    | none => .ok (stopped world (.usage .missingTarget))
    | some target =>
      match Settings.load world.files world.parseData target args.settingsFile with
      | .error fault => misconfigured world fault
      | .ok settings => auditAndReport world args target settings

/-- Run the program. -/
def run (arguments : List String) : Except Breakdown Outcome :=
  match Arguments.read arguments with
  | .error stop => .ok (stopped world stop)
  | .ok args => perform world args

end CommandLine

end JavaAudit
