import JavaAudit.Proofs.StableOrder
import JavaAudit.Proofs.Tallies

/-!
# One list of findings in three forms

A report is shown on a console, written as text or as JSON. The text and the JSON list the findings as they
are given. The console groups them by file, which comes to sorting them (`filter_isPanel_screen`); a run hands
over a sorted list, so there the three agree (`sort_reported`). All of them give the numbers for each severity
and each rule, counted and ordered each in its own way: these are tallies of the same list.

The console asks for the source of every file with findings. A source that cannot be read is left out, but a
name with a NUL character breaks the report off (`checkedScreen_of_nul`).
-/

namespace JavaAudit

/-- Is the block a panel? -/
def Block.isPanel : Block → Bool
  | .panel .. => true
  | _ => false

/-- The rows of the table in a panel. -/
def Block.tableRows : Block → List (List Block)
  | .panel (.table _ _ rows) _ _ => rows
  | _ => []

namespace Report

variable {files : Files} {findings : List Finding}

/-! ## The panels of a screen -/

/-- The section of a file has one panel for each of its findings, in their order. -/
theorem filter_isPanel_fileSection (file : String) :
    (fileSection files findings file).filter Block.isPanel =
      (findingsIn file findings).map fun f => panel (sourceText? files f.file) f := by
  have hpanels : ∀ group : List Finding, (∀ f ∈ group, f.file = file) →
      (group.flatMap fun f => [panel (sourceText? files file) f, .blank]).filter Block.isPanel =
        group.map fun f => panel (sourceText? files f.file) f := by
    intro group hgroup
    induction group with
    | nil => rfl
    | cons f rest ih =>
      rw [List.flatMap_cons, List.filter_append, ih fun g hg => hgroup g (List.mem_cons_of_mem f hg),
        List.map_cons, hgroup f List.mem_cons_self]
      rfl
  have hheading : ([.text (.plain ("FILE: " ++ file) "bold underline cyan"), .blank] : List Block).filter
      Block.isPanel = [] := rfl
  unfold fileSection
  rw [List.filter_append, hheading, List.nil_append]
  exact hpanels _ fun f hf => (mem_findingsIn.1 hf).2

/-- Behind the two panels at the top there is one for each finding, in the order of the sorted list. -/
theorem filter_isPanel_screen (files : Files) (moment : Timestamp) (target least : String)
    (fileCount : Int) (elapsed : Float) (findings : List Finding) :
    (screen files moment target least fileCount elapsed findings).filter Block.isPanel =
      header moment target least :: statistics fileCount elapsed findings ::
        if findings = [] then [nothingFound]
        else (Finding.sort findings).map fun f => panel (sourceText? files f.file) f := by
  have hsections : ((fileNames findings).flatMap (fileSection files findings)).filter Block.isPanel =
      (Finding.sort findings).map fun f => panel (sourceText? files f.file) f := by
    rw [List.filter_flatMap, ← flatMap_findingsIn, List.map_flatMap]
    simp only [filter_isPanel_fileSection]
  by_cases hnone : findings = []
  · rw [if_pos hnone, hnone]
    rfl
  · have hempty : findings.isEmpty = false := by rwa [List.isEmpty_eq_false_iff]
    unfold screen
    rw [hempty, if_neg hnone, ← hsections]
    rfl

/-! ## Names that break a report off -/

variable {moment : Timestamp} {target least : String} {fileCount : Int} {elapsed : Float}

/-- Without a NUL in any file name the screen is drawn. -/
theorem checkedScreen_of_no_nul (h : ∀ f ∈ findings, Path.hasNul f.file = false) :
    checkedScreen files moment target least fileCount elapsed findings =
      .ok (screen files moment target least fileCount elapsed findings) := by
  have hnone : (fileNames findings).find? Path.hasNul = none := by
    refine List.find?_eq_none.2 fun file hfile => ?_
    obtain ⟨f, hf, rfl⟩ := mem_fileNames.1 hfile
    rw [h f hf]
    exact Bool.false_ne_true
  unfold checkedScreen
  rw [hnone]

/-- With one in any name it is not drawn at all. -/
theorem checkedScreen_of_nul {f : Finding} (hf : f ∈ findings) (h : Path.hasNul f.file = true) :
    ∃ file, checkedScreen files moment target least fileCount elapsed findings =
      .error ⟨file, .nulInPath⟩ := by
  have hsome : ((fileNames findings).find? Path.hasNul).isSome = true :=
    List.find?_isSome.2 ⟨f.file, mem_fileNames.2 ⟨f, hf, rfl⟩, h⟩
  obtain ⟨file, hfile⟩ := Option.isSome_iff_exists.1 hsome
  refine ⟨file, ?_⟩
  unfold checkedScreen
  rw [hfile]

/-! ## The forms side by side -/

/-- The end of a report in plain text. -/
def closing (total : Nat) (bySeverity : List (Severity × Nat)) (byRule : List (String × Nat)) : String :=
  "\n" ++ ruler ++ "\n" ++ "Total findings: " ++ toString total ++ "\n"
    ++ listing "By severity" (bySeverity.map fun entry => countLine entry.1.name entry.2)
    ++ listing "By rule" (byRule.map fun entry => countLine entry.1 entry.2)

/-- Numbers as data. -/
def numbers (counts : List (String × Nat)) : Value :=
  .object (counts.map fun entry => (entry.1, .int entry.2))

/-- The list that a run reports is sorted already. -/
theorem sort_reported (settings : Option Settings) (severity : Severity) (found : List Finding) :
    Finding.sort (CommandLine.reported settings severity found) =
      CommandLine.reported settings severity found :=
  List.mergeSort_of_pairwise (Finding.pairwise_sort _)

theorem plainText_eq (findings : List Finding) :
    plainText findings = String.join (findings.map paragraph) ++
      closing findings.length (gravestFirst (severityCounts findings)) (byName (ruleCounts findings)) := by
  unfold plainText closing
  simp only [String.append_assoc]

/-- The table on the screen ends with the counts, gravest severity first and largest rule first. -/
theorem tableRows_statistics (fileCount : Int) (elapsed : Float) (findings : List Finding) :
    (statistics fileCount elapsed findings).tableRows.drop 4 =
      ((gravestFirst (severityCounts findings)).map fun entry =>
          countRow entry.1.name entry.1.borderStyle entry.2)
        ++ [plainRow "" ""]
        ++ (largestFirst (ruleCounts findings)).map fun entry => countRow entry.1 "cyan" entry.2 :=
  rfl

/-- The summary of the data form has the same counts, by name. -/
theorem summary_toValue (moment : Timestamp) (fileCount : Int) (findings : List Finding) :
    (toValue moment fileCount findings).get? "summary" = some (.object [
      ("by_severity", numbers (byName ((severityCounts findings).map fun entry => (entry.1.name, entry.2)))),
      ("by_rule", numbers (byName (ruleCounts findings)))]) :=
  rfl

/-- The three forms of a report show the same findings. The console shows one panel for each of them, in the
order of file and place, where findings at one place keep their order, unless the name of a file has a NUL
character. JSON and text list them as given, which is the same order for the list of a run. The numbers for
each severity and each rule are tallies of the list in all three, so they agree and add up to its length. -/
theorem renderings_show_same_findings (files : Files) (moment : Timestamp) (target least : String)
    (fileCount : Int) (elapsed : Float) (findings : List Finding) :
    let blocks := screen files moment target least fileCount elapsed findings
    let printed := checkedScreen files moment target least fileCount elapsed findings
    let report := toValue moment fileCount findings
    ((∀ f ∈ findings, Path.hasNul f.file = false) → printed = .ok blocks) ∧
      ((∃ f ∈ findings, Path.hasNul f.file = true) → ∃ file, printed = .error ⟨file, .nulInPath⟩) ∧
      (blocks.filter Block.isPanel =
        header moment target least :: statistics fileCount elapsed findings ::
          if findings = [] then [nothingFound]
          else (Finding.sort findings).map fun f => panel (sourceText? files f.file) f) ∧
      Finding.StablySorted findings (Finding.sort findings) ∧ (Finding.sort findings).Perm findings ∧
      report.get? "findings" = some (.list (findings.map Finding.toValue)) ∧
      (∀ settings severity found, findings = CommandLine.reported settings severity found →
        Finding.sort findings = findings) ∧
      ∃ (bySeverity : List (Severity × Nat)) (byRule largest names : List (String × Nat)),
        plainText findings =
            String.join (findings.map paragraph) ++ closing findings.length bySeverity byRule ∧
          (statistics fileCount elapsed findings).tableRows.drop 4 =
            (bySeverity.map fun entry => countRow entry.1.name entry.1.borderStyle entry.2)
              ++ [plainRow "" ""] ++ largest.map (fun entry => countRow entry.1 "cyan" entry.2) ∧
          report.get? "summary" =
            some (.object [("by_severity", numbers names), ("by_rule", numbers byRule)]) ∧
          IsTally bySeverity (findings.map (·.severity)) ∧
          IsTally names (findings.map (·.severity.name)) ∧
          names.Perm (bySeverity.map fun entry => (entry.1.name, entry.2)) ∧
          IsTally byRule (findings.map (·.rule)) ∧ largest.Perm byRule ∧
          Table.total bySeverity = findings.length ∧ Table.total byRule = findings.length := by
  intro blocks printed report
  have hstable := Finding.stablySorted_sort findings
  have hcounts : IsTally (severityCounts findings) (findings.map (·.severity)) := Table.isTally_count _
  have hseverity := isTally_gravestFirst hcounts
  have hnames := isTally_byName (hcounts.map Severity.name_injective)
  have hrule : IsTally (byName (ruleCounts findings)) (findings.map (·.rule)) :=
    isTally_byName (Table.isTally_count _)
  have hlargest := isTally_largestFirst (Table.isTally_count (findings.map (·.rule)))
  refine ⟨checkedScreen_of_no_nul, fun ⟨f, hf, hnul⟩ => checkedScreen_of_nul hf hnul,
    filter_isPanel_screen files moment target least fileCount elapsed findings, hstable, hstable.perm,
    rfl, ?_, _, _, _, _, plainText_eq findings, tableRows_statistics fileCount elapsed findings,
    summary_toValue moment fileCount findings, hseverity, ?_, ?_, hrule, hlargest.perm hrule, ?_, ?_⟩
  · rintro settings severity found rfl
    exact sort_reported settings severity found
  · rw [List.map_map] at hnames
    exact hnames
  · exact hnames.perm (hseverity.map Severity.name_injective)
  · exact hseverity.total_eq_length.trans (List.length_map _)
  · exact hrule.total_eq_length.trans (List.length_map _)

/-! ### A name with a NUL character -/

/-- A finding in a file whose name has a NUL character. -/
def nulFinding : Finding where
  file := "a\x00b.java"
  line := 3
  column := 4
  code := "x();"
  rule := "R"
  name := "N"
  severity := .error
  message := "m"
  advice := ""
  anchor := none

/-- The console shows no panel for the finding, where the JSON lists it. -/
theorem nul_breaks_console_off :
    let moment : Timestamp := ⟨2024, 1, 2, 3, 4, 5, 678901⟩
    let printed := checkedScreen ⟨[], []⟩ moment "t" "INFO" 1 0 [nulFinding]
    printed = .error ⟨"a\x00b.java", .nulInPath⟩ ∧
      (¬ ∃ blocks, printed = .ok blocks ∧ ∃ source, panel source nulFinding ∈ blocks) ∧
      (toValue moment 1 [nulFinding]).get? "findings" = some (.list [nulFinding.toValue]) := by
  intro moment printed
  have hfind : (fileNames [nulFinding]).find? Path.hasNul = some "a\x00b.java" := by decide +kernel
  have hprinted : printed = .error ⟨"a\x00b.java", .nulInPath⟩ := by
    show checkedScreen _ _ _ _ _ _ _ = _
    unfold checkedScreen
    rw [hfind]
  refine ⟨hprinted, ?_, rfl⟩
  rintro ⟨blocks, hblocks, -⟩
  rw [hprinted] at hblocks
  cases hblocks

end Report

end JavaAudit
