import JavaAudit.Proofs.AuditedFiles
import JavaAudit.Proofs.ReportOrder

/-!
# What a run reports, and how it ends

A run that is asked to audit a target goes through three stages. Settings that cannot be loaded end it
with 2. Otherwise the target is audited, and what is found is given the severities of the settings,
selected, sorted and reported; a finding that is grave enough ends the run with 1.

1. The report is sorted and has exactly the findings that are neither silenced nor below the least
   severity, each as often as it was found (`pairwise_reported`, `reported_perm`).
2. The form of the report changes neither the findings nor the exit code, because the audit and the
   selection read only the target, the settings and the least severity (`auditAndReport_of_ok`).
3. Raising the least severity removes findings and adds none (`reported_raise`).

A target that is out of reach breaks the run off: where its path, or that of a directory below it, is too
long, there is neither a report nor an exit code (`auditTarget_of_not_inReach`).
-/

namespace JavaAudit

/-! ## The findings of a report -/

namespace Finding

theorem isFailing_iff {f : Finding} :
    f.isFailing = true ↔ f.severity = .error ∨ f.severity = .critical := by
  unfold isFailing Severity.atLeast
  cases f.severity <;> decide

end Finding

namespace CommandLine

variable {settings : Option Settings} {least least' : Severity} {findings : List Finding}

/-- What is reported is in the order of the files and places. -/
theorem pairwise_reported :
    (reported settings least findings).Pairwise fun a b => Finding.le a b = true :=
  Finding.pairwise_sort _

/-- A report has exactly the findings that are not silenced and grave enough, as often as found. -/
theorem reported_perm :
    (reported settings least findings).Perm
      ((findings.map (Finding.regrade (settings.getD .standard).severities)).filter fun f =>
        !Suppression.isSuppressed (settings.getD .standard).keyword f.code &&
          decide (least.rank ≤ f.severity.rank)) :=
  Finding.sort_perm _

/-- A higher least severity keeps exactly the findings that reach it. -/
theorem reported_raise (h : least.rank ≤ least'.rank) :
    (reported settings least' findings).Perm
      ((reported settings least findings).filter fun f => decide (least'.rank ≤ f.severity.rank)) := by
  refine reported_perm.trans ?_
  refine List.Perm.trans ?_ (reported_perm.filter _).symm
  rw [List.filter_filter]
  refine List.Perm.of_eq (List.filter_congr fun f _ => ?_)
  -- whatever reaches the higher level reaches the lower one
  by_cases hreach : least'.rank ≤ f.severity.rank
  · have hlow : least.rank ≤ f.severity.rank := by omega
    simp [hreach, hlow]
  · simp [hreach]

/-- The exit code is one if an error or something graver is reported. -/
theorem exitCodeFor_eq :
    exitCodeFor findings =
      if ∃ f ∈ findings, f.severity = .error ∨ f.severity = .critical then 1 else 0 := by
  have hany : findings.any Finding.isFailing = true ↔
      ∃ f ∈ findings, f.severity = .error ∨ f.severity = .critical := by
    rw [List.any_eq_true]
    simp only [Finding.isFailing_iff]
  unfold exitCodeFor
  simp only [hany]

/-- Reporting less does not turn a success into a failure. -/
theorem exitCodeFor_raise (h : least.rank ≤ least'.rank)
    (hzero : exitCodeFor (reported settings least findings) = 0) :
    exitCodeFor (reported settings least' findings) = 0 := by
  rw [exitCodeFor_eq] at hzero ⊢
  rw [if_neg]
  rintro ⟨f, hf, hgrave⟩
  have hmem : f ∈ reported settings least findings :=
    List.mem_of_mem_filter ((reported_raise h).mem_iff.1 hf)
  rw [if_pos ⟨f, hmem, hgrave⟩] at hzero
  cases hzero

end CommandLine

/-! ## Stages of a run -/

namespace CommandLine

/-- The arguments ask for an audit of a target. -/
structure Asks (args : Arguments) (target : String) : Prop where
  listRules : args.listRules = false
  hasTarget : args.target = some target
  nonempty : target ≠ ""

/-- A report can be written to the file that the arguments name, if they name one. -/
def CanSave (world : Surroundings) (args : Arguments) : Prop :=
  ∀ path, reportFile? args = some path → ∀ content, ∃ files, world.files.write path content = .ok files

/-- The outcome shows these findings, in the form and at the place that the arguments ask for. -/
def Reports (world : Surroundings) (args : Arguments) (target : String) (least : Severity)
    (result : TargetAudit) (findings : List Finding) (outcome : Outcome) : Prop :=
  let screen := (if args.noBanner then [] else Report.banner) ++
    Report.screen world.files world.moment target least.name result.fileCount world.elapsed findings
  let json := Report.json world.moment result.fileCount findings
  match args.format, reportFile? args with
  | .json, none => outcome.output = json ++ "\n"
  | .json, some path => world.files.write path json.toUTF8.toList = .ok outcome.files
  | .text, none => outcome.printed = screen
  | .text, some path =>
    outcome.printed =
        screen ++ [.markup ("\n[bold green]Report saved to " ++ path ++ "[/bold green]")] ∧
      world.files.write path (Report.plainText findings).toUTF8.toList = .ok outcome.files

variable {world : Surroundings} {args : Arguments} {target : String} {settings : Option Settings}
  {result : TargetAudit}

/-- Asked to audit a target, a run loads the settings and, if they are right, audits and reports. -/
theorem perform_of_asks (h : Asks args target) :
    perform world args =
      match Settings.load world.files world.parseData target args.settingsFile with
      | .error fault => misconfigured world fault
      | .ok settings => auditAndReport world args target settings := by
  have htarget : (args.target.filter fun path => !path.isEmpty) = some target := by
    rw [h.hasTarget, Option.filter_eq_some_iff]
    exact ⟨rfl, by simpa using h.nonempty⟩
  unfold perform
  rw [h.listRules, htarget]
  rfl

theorem save_of_write {path text : String} {files : Files}
    (h : world.files.write path text.toUTF8.toList = .ok files) : save world path text = .ok files := by
  unfold save
  rw [h]
  rfl

/-- The data form is printed or saved, with the exit code of the findings. -/
theorem reportJson_of_canSave (hsave : CanSave world args) (findings : List Finding)
    (hformat : args.format = .json) (target : String) (least : Severity) :
    ∃ outcome, reportJson world args result findings = .ok outcome ∧
      Reports world args target least result findings outcome ∧
      outcome.exitCode = exitCodeFor findings := by
  unfold reportJson Reports
  rw [hformat]
  cases hfile : reportFile? args with
  | none => exact ⟨_, rfl, rfl, rfl⟩
  | some path =>
    obtain ⟨files, hwrite⟩ := hsave path hfile
      (Report.json world.moment result.fileCount findings).toUTF8.toList
    simp only [save_of_write hwrite]
    exact ⟨_, rfl, hwrite, rfl⟩

theorem reportText_of_canSave (hsave : CanSave world args) (findings : List Finding)
    (hformat : args.format = .text) (target : String) (least : Severity) :
    ∃ outcome, reportText world args target least result findings = .ok outcome ∧
      Reports world args target least result findings outcome ∧
      outcome.exitCode = exitCodeFor findings := by
  unfold reportText Reports
  rw [hformat]
  cases hfile : reportFile? args with
  | none => exact ⟨_, rfl, rfl, rfl⟩
  | some path =>
    obtain ⟨files, hwrite⟩ := hsave path hfile (Report.plainText findings).toUTF8.toList
    simp only [save_of_write hwrite]
    exact ⟨_, rfl, ⟨rfl, hwrite⟩, rfl⟩

/-- A target that can be audited is reported on, whatever the form of the report. -/
theorem auditAndReport_of_ok (hsave : CanSave world args)
    (h : (Settings.registry settings).auditTarget world.parseJava world.files settings target =
      .ok result) :
    let least := leastSeverity args settings
    let findings := reported settings least result.audit.findings
    ∃ outcome, auditAndReport world args target settings = .ok outcome ∧
      Reports world args target least result findings outcome ∧
      outcome.exitCode = exitCodeFor findings := by
  intro least findings
  unfold auditAndReport
  rw [h]
  simp only [Except.mapError, bind, Except.bind]
  cases hformat : args.format with
  | json => exact reportJson_of_canSave hsave findings hformat target least
  | text => exact reportText_of_canSave hsave findings hformat target least

theorem auditAndReport_of_error {fault : PathFault}
    (h : (Settings.registry settings).auditTarget world.parseJava world.files settings target =
      .error fault) : auditAndReport world args target settings = .error (.file fault) := by
  unfold auditAndReport
  rw [h]
  rfl

theorem run_of_read {argv : List String} (h : Arguments.read argv = .ok args) :
    run world argv = perform world args := by
  unfold run
  rw [h]

/-- A complaint about the settings ends the run with two. -/
theorem exitCode_of_misconfigured {fault : SettingsFault} (h : fault.isComplaint = true) :
    ∃ outcome, misconfigured world fault = .ok outcome ∧ outcome.exitCode = 2 := by
  cases fault with
  | notUtf8 path => cases h
  | unwritable path fault => cases h
  | _ => exact ⟨_, rfl, rfl⟩

/-- A run with a target ends with 2 exactly if the settings cannot be loaded. If they can, and the target
is in reach, the run reports the findings of the audit with the severities that the settings give them,
without those that are silenced or below the least severity, sorted; and it ends with 1 exactly if one of
them is an error or critical. Another run on the same target with the same settings file and least
severity reports the same findings and ends alike. One with a higher least severity reports those of them
that reach it, and does not end with 1 if the first run ends with 0. If the target is out of reach the
run breaks off. -/
theorem run_reports_selected_findings {argv : List String} (hread : Arguments.read argv = .ok args)
    (hasks : Asks args target) (hsave : CanSave world args)
    (hcomplaint : ∀ fault, Settings.load world.files world.parseData target args.settingsFile =
      .error fault → fault.isComplaint = true) :
    (∀ fault, Settings.load world.files world.parseData target args.settingsFile = .error fault →
      ∃ outcome, run world argv = .ok outcome ∧ outcome.exitCode = 2) ∧
    ∀ settings, Settings.load world.files world.parseData target args.settingsFile = .ok settings →
      (¬ world.files.InReach (Path.normal target) →
        ∃ path, run world argv = .error (.file ⟨path, .nameTooLong⟩)) ∧
      (world.files.InReach (Path.normal target) →
        ∃ result, (Settings.registry settings).auditTarget world.parseJava world.files settings target =
            .ok result ∧
          let least := leastSeverity args settings
          let findings := reported settings least result.audit.findings
          findings.Pairwise (fun a b => Finding.le a b = true) ∧
          findings.Perm ((result.audit.findings.map
              (Finding.regrade (settings.getD .standard).severities)).filter fun f =>
            !Suppression.isSuppressed (settings.getD .standard).keyword f.code &&
              decide (least.rank ≤ f.severity.rank)) ∧
          ∃ outcome, run world argv = .ok outcome ∧
            Reports world args target least result findings outcome ∧
            (outcome.exitCode =
              if ∃ f ∈ findings, f.severity = .error ∨ f.severity = .critical then 1 else 0) ∧
            ∀ argv' args', Arguments.read argv' = .ok args' → Asks args' target →
              args'.settingsFile = args.settingsFile → CanSave world args' →
              let least' := leastSeverity args' settings
              ∃ outcome', run world argv' = .ok outcome' ∧
                (args'.least = args.least →
                  Reports world args' target least result findings outcome' ∧
                    outcome'.exitCode = outcome.exitCode) ∧
                (least.rank ≤ least'.rank →
                  ∃ findings', Reports world args' target least' result findings' outcome' ∧
                    findings'.Perm (findings.filter fun f => decide (least'.rank ≤ f.severity.rank)) ∧
                    (outcome.exitCode = 0 → outcome'.exitCode = 0))) := by
  constructor
  · intro fault hload
    rw [run_of_read hread, perform_of_asks hasks, hload]
    exact exitCode_of_misconfigured (hcomplaint fault hload)
  · intro settings hload
    -- stated for any arguments that ask for the same, so that the other run is covered as well
    have hrun : ∀ argv' args', Arguments.read argv' = .ok args' → Asks args' target →
        args'.settingsFile = args.settingsFile →
          run world argv' = auditAndReport world args' target settings := by
      intro argv' args' hread' hasks' hfile
      rw [run_of_read hread', perform_of_asks hasks', hfile, hload]
    constructor
    · intro hfar
      obtain ⟨path, haudit⟩ := Registry.auditTarget_of_not_inReach hfar
      exact ⟨path, (hrun argv args hread hasks rfl).trans (auditAndReport_of_error haudit)⟩
    · intro hreach
      obtain ⟨result, haudit⟩ := Registry.exists_auditTarget_iff.2 hreach
      obtain ⟨outcome, houtcome, hreports, hcode⟩ := auditAndReport_of_ok hsave haudit
      refine ⟨result, haudit, pairwise_reported, reported_perm, outcome, ?_, hreports, ?_, ?_⟩
      · rw [hrun argv args hread hasks rfl, houtcome]
      · rw [hcode, exitCodeFor_eq]
      · intro argv' args' hread' hasks' hfile hsave' least'
        obtain ⟨outcome', houtcome', hreports', hcode'⟩ := auditAndReport_of_ok hsave' haudit
        refine ⟨outcome', (hrun argv' args' hread' hasks' hfile).trans houtcome', ?_, ?_⟩
        · intro hleast
          have hsame : leastSeverity args' settings = leastSeverity args settings := by
            unfold leastSeverity
            rw [hleast]
          rw [hsame] at hreports' hcode'
          exact ⟨hreports', hcode'.trans hcode.symm⟩
        · intro hle
          refine ⟨_, hreports', reported_raise hle, fun hzero => ?_⟩
          rw [hcode']
          exact exitCodeFor_raise hle (hcode.symm.trans hzero)

/-! ### A small world -/

/-- The nodes of `new java.util.Random();`, from a node and a place in the source on. -/
def randomNodes (n start : Nat) : List Node :=
  [⟨some 0, "expression_statement", true, false, start, start + 23, none⟩,
    ⟨some n, "object_creation_expression", true, false, start, start + 22, none⟩,
    ⟨some (n + 1), "new", false, false, start, start + 3, none⟩,
    ⟨some (n + 1), "scoped_type_identifier", true, false, start + 4, start + 20, some "type"⟩,
    ⟨some (n + 3), "scoped_type_identifier", true, false, start + 4, start + 13, none⟩,
    ⟨some (n + 4), "type_identifier", true, false, start + 4, start + 8, none⟩,
    ⟨some (n + 4), ".", false, false, start + 8, start + 9, none⟩,
    ⟨some (n + 4), "type_identifier", true, false, start + 9, start + 13, none⟩,
    ⟨some (n + 3), ".", false, false, start + 13, start + 14, none⟩,
    ⟨some (n + 3), "type_identifier", true, false, start + 14, start + 20, none⟩,
    ⟨some (n + 1), "argument_list", true, false, start + 20, start + 22, some "arguments"⟩,
    ⟨some (n + 10), "(", false, false, start + 20, start + 21, none⟩,
    ⟨some (n + 10), ")", false, false, start + 21, start + 22, none⟩,
    ⟨some n, ";", false, false, start + 22, start + 23, none⟩]

/-- Two predictable generators, the second one with a comment, and a path from an unknown variable. -/
def smallSource : String :=
  "new java.util.Random();\nnew java.util.Random();//quiet\nnew java.io.File(a);"

def smallNodes : List Node :=
  ⟨none, "program", true, false, 0, 75, none⟩ :: (randomNodes 1 0 ++ randomNodes 15 24 ++
    [⟨some 0, "line_comment", true, false, 47, 54, none⟩,
      ⟨some 0, "expression_statement", true, false, 55, 75, none⟩,
      ⟨some 30, "object_creation_expression", true, false, 55, 74, none⟩,
      ⟨some 31, "new", false, false, 55, 58, none⟩,
      ⟨some 31, "scoped_type_identifier", true, false, 59, 71, some "type"⟩,
      ⟨some 33, "scoped_type_identifier", true, false, 59, 66, none⟩,
      ⟨some 34, "type_identifier", true, false, 59, 63, none⟩,
      ⟨some 34, ".", false, false, 63, 64, none⟩,
      ⟨some 34, "type_identifier", true, false, 64, 66, none⟩,
      ⟨some 33, ".", false, false, 66, 67, none⟩,
      ⟨some 33, "type_identifier", true, false, 67, 71, none⟩,
      ⟨some 31, "argument_list", true, false, 71, 74, some "arguments"⟩,
      ⟨some 40, "(", false, false, 71, 72, none⟩,
      ⟨some 40, "identifier", true, false, 72, 73, none⟩,
      ⟨some 40, ")", false, false, 73, 74, none⟩,
      ⟨some 30, ";", false, false, 74, 75, none⟩])

/-- Settings that make predictable generators an error and paths a warning, and have errors reported only. -/
def smallSettingsText : String :=
  "severity_overrides:\n  INSECURE_RANDOM: ERROR\n  PATH_TRAVERSAL: WARNING\n" ++
    "suppression_keyword: quiet\nmin_severity: ERROR\n"

def smallData : Value :=
  .object [("severity_overrides",
      .object [("INSECURE_RANDOM", .str "ERROR"), ("PATH_TRAVERSAL", .str "WARNING")]),
    ("suppression_keyword", .str "quiet"), ("min_severity", .str "ERROR")]

def smallSettings : Settings :=
  { Settings.standard with
    severities := [("INSECURE_RANDOM", .error), ("PATH_TRAVERSAL", .warning)]
    keyword := "quiet"
    least := .error
    source := some "/work/.sinkscan.yml" }

/-- An empty directory. Its parsers know the empty text only: the root of a tree, and no data. -/
def emptyWorld : Surroundings where
  files := ⟨["work"], []⟩
  parseJava source := #[⟨none, "program", true, false, 0, source.utf8ByteSize, none⟩]
  parseData text := if text = "" then some .null else none
  moment := ⟨2024, 1, 1, 0, 0, 0, 0⟩
  elapsed := 0

/-- A directory with the source and the settings, and parsers that know them. -/
def smallWorld : Surroundings :=
  { emptyWorld with
    files := ⟨["work"], [(["work", "A.java"], .file smallSource.toUTF8.toList),
      (["work", ".sinkscan.yml"], .file smallSettingsText.toUTF8.toList)]⟩
    parseJava := fun source => if source = smallSource then smallNodes.toArray else emptyWorld.parseJava source
    parseData := fun text => if text = smallSettingsText then some smallData else emptyWorld.parseData text }

/-- The arguments with only a target. -/
def only (target : String) : Arguments := { Arguments.none with target := some target }

theorem eq_ok_of_toOption {ε α : Type} {x : Except ε α} {a : α} (h : x.toOption = some a) : x = .ok a := by
  cases x with
  | ok b => exact congrArg Except.ok (Option.some.inj h)
  | error fault => cases h

/-- The rule, the line and the severity of a finding. -/
def brief (f : Finding) : String × Int × Severity := (f.rule, f.line, f.severity)

/-- What an audit found, and what is reported of it at two levels. -/
def summary (result : TargetAudit) : List (List (String × Int × Severity)) :=
  [result.audit.findings, reported (some smallSettings) .error result.audit.findings,
    reported (some smallSettings) .critical result.audit.findings].map fun findings => findings.map brief

/-- The file has three findings. One generator is raised to an error and reported, the other one is suppressed
by a comment, and the path is lowered to a warning. At the level above nothing is left. -/
theorem summary_smallWorld :
    ((Settings.registry (some smallSettings)).auditTarget smallWorld.parseJava smallWorld.files
        (some smallSettings) "A.java").toOption.map summary =
      some [[("INSECURE_RANDOM", 1, .warning), ("INSECURE_RANDOM", 2, .warning),
        ("PATH_TRAVERSAL", 3, .error)], [("INSECURE_RANDOM", 1, .error)], []] := by
  decide +kernel

/-- The settings are read, and the target is a file. -/
theorem load_and_find_smallWorld :
    Settings.load smallWorld.files smallWorld.parseData "A.java" none = .ok (some smallSettings) ∧
      smallWorld.files.find (Path.normal "A.java") = .ok (.file smallSource.toUTF8.toList) := by
  obtain ⟨hload, hfind⟩ :
      (Settings.load smallWorld.files smallWorld.parseData "A.java" none).toOption = some (some smallSettings) ∧
        smallWorld.files.find (Path.normal "A.java") = .ok (.file smallSource.toUTF8.toList) := by
    decide +kernel
  exact ⟨eq_ok_of_toOption hload, hfind⟩

/-- Of three findings, two of one rule, the second is silenced and the third is made too light to count. The
first one is made an error, written to a file, and ends the run with 1. A run that asks for critical findings
reports nothing and ends with 0. -/
theorem run_on_smallWorld :
    let args := { only "A.java" with outputFile := some "r.txt" }
    let args' := { only "A.java" with least := some .critical, noBanner := true }
    Arguments.read ["-o", "r.txt", "A.java"] = .ok args ∧ Asks args "A.java" ∧ CanSave smallWorld args ∧
      Settings.load smallWorld.files smallWorld.parseData "A.java" args.settingsFile =
        .ok (some smallSettings) ∧
      smallWorld.files.InReach (Path.normal "A.java") ∧
      Arguments.read ["--min-severity", "CRITICAL", "--no-banner", "A.java"] = .ok args' ∧
      ∃ result outcome outcome',
        result.audit.findings.map brief = [("INSECURE_RANDOM", 1, .warning),
          ("INSECURE_RANDOM", 2, .warning), ("PATH_TRAVERSAL", 3, .error)] ∧
        (reported (some smallSettings) .error result.audit.findings).map brief =
          [("INSECURE_RANDOM", 1, .error)] ∧
        run smallWorld ["-o", "r.txt", "A.java"] = .ok outcome ∧
        Reports smallWorld args "A.java" .error result
          (reported (some smallSettings) .error result.audit.findings) outcome ∧
        outcome.exitCode = 1 ∧
        run smallWorld ["--min-severity", "CRITICAL", "--no-banner", "A.java"] = .ok outcome' ∧
        Reports smallWorld args' "A.java" .critical result [] outcome' ∧ outcome'.exitCode = 0 := by
  intro args args'
  obtain ⟨hload, hfind⟩ := load_and_find_smallWorld
  have hread : Arguments.read ["-o", "r.txt", "A.java"] = .ok args := eq_ok_of_toOption (by decide +kernel)
  have hread' : Arguments.read ["--min-severity", "CRITICAL", "--no-banner", "A.java"] = .ok args' :=
    eq_ok_of_toOption (by decide +kernel)
  have hasks : Asks args "A.java" := ⟨rfl, rfl, by decide⟩
  have hsave : CanSave smallWorld args := by
    intro path hpath content
    obtain rfl : "r.txt" = path := Option.some.inj hpath
    exact ⟨_, rfl⟩
  have hcomplaint : ∀ fault, Settings.load smallWorld.files smallWorld.parseData "A.java" none =
      .error fault → fault.isComplaint = true := by
    intro fault hfault
    cases hload.symm.trans hfault
  have hreach : smallWorld.files.InReach (Path.normal "A.java") := by
    refine ⟨?_, fun hdirectory => ?_⟩
    · rw [hfind]
      intro hlong
      cases hlong
    · cases hfind.symm.trans hdirectory
  obtain ⟨result, haudit, -, -, outcome, hrun, hreports, hcode, -⟩ :=
    ((run_reports_selected_findings hread hasks hsave hcomplaint).2 _ hload).2 hreach
  obtain ⟨result', haudit', -, -, outcome', hrun', hreports', hcode', -⟩ :=
    ((run_reports_selected_findings hread' ⟨rfl, rfl, by decide⟩ (fun _ hfile => nomatch hfile)
      hcomplaint).2 _ hload).2 hreach
  -- the two runs differ in what they report, but there is one audit
  obtain rfl : result' = result := Except.ok.inj (haudit'.symm.trans haudit)
  have hsummary := summary_smallWorld
  rw [haudit] at hsummary
  obtain ⟨hfound, hrest⟩ := List.cons.inj (Option.some.inj hsummary)
  obtain ⟨herrors, hrest⟩ := List.cons.inj hrest
  have hcritical : reported (some smallSettings) .critical result'.audit.findings = [] :=
    List.map_eq_nil_iff.1 (List.cons.inj hrest).1
  refine ⟨hread, hasks, hsave, hload, hreach, hread', result', outcome, outcome', hfound,
    herrors, hrun, hreports, ?_, hrun', ?_, ?_⟩
  · obtain ⟨f, hf, hbrief⟩ := List.map_eq_singleton_iff.1 herrors
    refine hcode.trans (if_pos ⟨f, ?_, .inl (congrArg (·.2.2) hbrief)⟩)
    show f ∈ reported (some smallSettings) .error result'.audit.findings
    rw [hf]
    exact List.mem_singleton_self f
  · rw [← hcritical]
    exact hreports'
  · refine hcode'.trans (if_neg ?_)
    show ¬ ∃ f ∈ reported (some smallSettings) .critical result'.audit.findings, _
    rw [hcritical]
    simp

/-- An argument that does not start with a dash is plain. -/
theorem ofArguments_plain {argument : String} (h : argument.toList.head? ≠ some '-') :
    Token.ofArguments [argument] = .ok [.plain argument] := by
  have hdash : ∀ entry ∈ Switch.spellings, entry.1.toList.head? = some '-' := by decide
  have hseparator : argument ≠ Token.separatorText := by
    rintro rfl
    exact h (by decide)
  have hspelling : Switch.ofSpelling? argument = none := by
    refine List.lookup_eq_none_iff.2 fun entry hentry => ?_
    rw [bne_iff_ne]
    rintro rfl
    exact h (hdash entry hentry)
  have htoken : Token.ofArgument argument = .ok (.plain argument) := by
    unfold Token.ofArgument
    rw [hspelling]
    dsimp only
    split
    · next hchars =>
      rw [hchars] at h
      exact absurd rfl h
    · rfl
  unfold Token.ofArguments
  rw [if_neg hseparator, htoken]
  rfl

theorem read_plain {argument : String} (h : argument.toList.head? ≠ some '-') :
    Arguments.read [argument] = .ok (only argument) := by
  unfold Arguments.read
  rw [ofArguments_plain h]
  show (Arguments.none.readTokens [.plain argument] >>= _) = _
  rw [Arguments.readTokens]
  show ((only argument).readTokens [] >>= _) = _
  rw [Arguments.readTokens]
  rfl

theorem asks_only {target : String} (h : target ≠ "") : Asks (only target) target := ⟨rfl, rfl, h⟩

theorem canSave_only (target : String) : CanSave emptyWorld (only target) :=
  fun _ hfile => nomatch hfile

theorem load_emptyWorld (target : String) :
    Settings.load emptyWorld.files emptyWorld.parseData target (only target).settingsFile = .ok none := by
  have hnone : Settings.discover emptyWorld.files target = none :=
    Settings.discover_eq_none target fun location content hentry => nomatch hentry
  unfold Settings.load
  rw [hnone]
  rfl

/-- A name with one character more than a name may have. -/
def longName : String := String.ofList (List.replicate 256 'q')

/-- Where the target has such a name, the settings are loaded and nothing has to be written, and still
the run has no outcome. -/
theorem run_breaks_off_at_longName :
    Arguments.read [longName] = .ok (only longName) ∧ Asks (only longName) longName ∧
      CanSave emptyWorld (only longName) ∧
      Settings.load emptyWorld.files emptyWorld.parseData longName (only longName).settingsFile =
        .ok none ∧
      run emptyWorld [longName] = .error (.file ⟨longName, .nameTooLong⟩) := by
  have hchars : longName.toList = List.replicate 256 'q' := String.toList_ofList
  have hread : Arguments.read [longName] = .ok (only longName) :=
    read_plain (by rw [hchars]; decide)
  have hlong : Path.nameByteLimit < longName.utf8ByteSize := by
    have hsize : longName.utf8ByteSize = String.utf8Len (List.replicate 256 'q') :=
      String.utf8ByteSize_ofList _
    rw [hsize]
    decide +kernel
  have hname : Path.IsName longName := by
    unfold Path.IsName
    rw [hchars]
    decide
  have hnul : Path.hasNul longName = false := by
    unfold Path.hasNul
    rw [hchars]
    decide
  -- the name is not written out: it differs from short names by its size
  have hne : ∀ short : String, short.utf8ByteSize ≤ Path.nameByteLimit → longName ≠ short := by
    rintro short hshort rfl
    exact absurd hlong (Nat.not_lt.2 hshort)
  have hasks : Asks (only longName) longName := asks_only (hne "" (by decide))
  have hnormal := Path.normal_of_isName hname (hne "" (by decide)) (hne Path.here (by decide))
  have hfind : emptyWorld.files.find (Path.normal longName) = .error .nameTooLong := by
    rw [hnormal]
    exact Files.find_of_long_name hname hnul hlong (by decide +kernel)
  have haudit : (Settings.registry none).auditTarget emptyWorld.parseJava emptyWorld.files none longName =
      .error ⟨longName, .nameTooLong⟩ := by
    rw [Registry.auditTarget_of_too_long hfind, hnormal]
  refine ⟨hread, hasks, canSave_only _, load_emptyWorld longName, ?_⟩
  rw [run_of_read hread, perform_of_asks hasks, load_emptyWorld longName]
  exact auditAndReport_of_error haudit

end CommandLine

end JavaAudit
