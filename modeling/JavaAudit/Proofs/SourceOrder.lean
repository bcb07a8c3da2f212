import JavaAudit.Proofs.AuditedFiles
import JavaAudit.Proofs.Positions
import JavaAudit.Proofs.ReportOrder
import JavaAudit.Proofs.Traversal

/-!
# A report follows the source

In a tree whose nodes are in order a walk meets the nodes by their starts (`pairwise_preorder`), and a
later start is a later place, so the findings of an audit are in order of their places
(`pairwise_findings_audit`). An audit of a target looks at every file once, so that sorting its report
leaves the findings of one file as the walk met them (`findings_in_source_order`).
-/

namespace JavaAudit

/-! ## The walk goes forward -/

namespace SyntaxTree

variable {t : SyntaxTree} {n m : Nat}

theorem Visits.lt_size (h : t.Visits n m) (hn : n < t.size) : m < t.size := by
  cases h with
  | top => exact hn
  | part _ hc _ => exact (lt_of_mem_parts hc).2

/-- What a walk visits lies inside the node that it starts from. -/
theorem WellOrdered.inside_of_visits (ht : t.WellOrdered) (h : t.Visits n m) :
    t.start n ≤ t.start m ∧ t.stop m ≤ t.stop n := by
  induction h with
  | top => exact ⟨Nat.le_refl _, Nat.le_refl _⟩
  | part _ hc _ ih =>
    have hparent := parent?_of_mem_parts hc
    have hstart := ht.start_le _ _ hparent
    have hstop := ht.stop_le _ _ hparent
    exact ⟨by omega, by omega⟩

/-- What is visited below an earlier part starts no later than what is visited below a later one. -/
theorem WellOrdered.start_le_of_visits (ht : t.WellOrdered) {p c d a b : Nat} (hc : c ∈ t.parts p)
    (hd : d ∈ t.parts p) (hcd : c < d) (ha : t.Visits c a) (hb : t.Visits d b) :
    t.start a ≤ t.start b := by
  have ha' := ht.inside_of_visits ha
  have hb' := ht.inside_of_visits hb
  have hranges := ht.start_le_stop a (ha.lt_size (lt_of_mem_parts hc).2)
  have hsiblings := ht.siblings c d p (parent?_of_mem_parts hc) (parent?_of_mem_parts hd) hcd
  omega

/-- A walk meets the nodes in the order in which they start. -/
theorem WellOrdered.pairwise_preorder (ht : t.WellOrdered) (n : Nat) :
    (t.preorder n).Pairwise fun a b => a < t.size ∧ b < t.size ∧ t.start a ≤ t.start b := by
  induction n using parts_induction (t := t) with
  | step n ih =>
    cases hn : t.isError n with
    | true =>
      rw [preorder_of_isError hn]
      exact .nil
    | false =>
      rw [preorder_of_not_isError hn]
      refine List.pairwise_cons.2 ⟨fun b hb => ?_, List.pairwise_flatMap.2 ⟨ih, ?_⟩⟩
      · obtain ⟨c, hc, hb⟩ := List.mem_flatMap.1 hb
        have hvisits := mem_preorder_iff.1 hb
        have hlt := lt_of_mem_parts hc
        have hinside := ht.inside_of_visits (Visits.head hn hc hvisits)
        exact ⟨Nat.lt_trans hlt.1 hlt.2, hvisits.lt_size hlt.2, hinside.1⟩
      · refine (t.pairwise_parts n).imp_of_mem fun hc hd hcd a ha b hb => ?_
        have ha' := mem_preorder_iff.1 ha
        have hb' := mem_preorder_iff.1 hb
        exact ⟨ha'.lt_size (lt_of_mem_parts hc).2, hb'.lt_size (lt_of_mem_parts hd).2,
          ht.start_le_of_visits hc hd hcd ha' hb'⟩

end SyntaxTree

/-! ## Findings along a walk -/

/-- The findings are those of the nodes, one node after another. -/
inductive FoundAlong (u : CompilationUnit) : List NodeId → List Finding → Prop where
  | nil : FoundAlong u [] []
  | cons {n : NodeId} {nodes : List NodeId} {found rest : List Finding}
      (hfound : ∀ f ∈ found, ∃ r message, f = Finding.ofMatch r u n message)
      (h : FoundAlong u nodes rest) : FoundAlong u (n :: nodes) (found ++ rest)

namespace FoundAlong

variable {u : CompilationUnit} {nodes : List NodeId} {findings : List Finding} {f : Finding}

theorem exists_of_mem (h : FoundAlong u nodes findings) (hf : f ∈ findings) :
    ∃ n ∈ nodes, ∃ r message, f = Finding.ofMatch r u n message := by
  induction h with
  | nil => cases hf
  | cons hfound _ ih =>
    rcases List.mem_append.1 hf with hf | hf
    · exact ⟨_, List.mem_cons_self, hfound f hf⟩
    · obtain ⟨n, hn, hmatch⟩ := ih hf
      exact ⟨n, List.mem_cons_of_mem _ hn, hmatch⟩

theorem file_eq (h : FoundAlong u nodes findings) (hf : f ∈ findings) : f.file = u.path := by
  obtain ⟨n, -, r, message, rfl⟩ := h.exists_of_mem hf
  rfl

/-- Along nodes in the order of their starts the findings are in order of their places. -/
theorem pairwise (h : FoundAlong u nodes findings) (ht : u.tree.WellOrdered)
    (hnodes : nodes.Pairwise fun a b =>
      a < u.tree.size ∧ b < u.tree.size ∧ u.tree.start a ≤ u.tree.start b) :
    findings.Pairwise fun a b => Finding.placeLe a b = true := by
  induction h with
  | nil => exact .nil
  | cons hfound hrest ih =>
    obtain ⟨hfirst, hnodes⟩ := List.pairwise_cons.1 hnodes
    refine List.pairwise_append.2 ⟨?_, ih hnodes, fun a ha b hb => ?_⟩
    · -- one node, one place
      refine List.pairwise_of_forall_mem_list fun a ha b hb => ?_
      obtain ⟨r, message, rfl⟩ := hfound a ha
      obtain ⟨r', message', rfl⟩ := hfound b hb
      exact Finding.placeLe_iff.2 (.inr ⟨rfl, Int.le_refl _⟩)
    · obtain ⟨r, message, rfl⟩ := hfound a ha
      obtain ⟨m, hm, r', message', rfl⟩ := hrest.exists_of_mem hb
      obtain ⟨hn, hm, hle⟩ := hfirst m hm
      have hplace := SyntaxTree.position_mono ht hn hm hle
      refine Finding.placeLe_iff.2 ?_
      show (u.tree.line _ : Int) < u.tree.line _ ∨
        (u.tree.line _ : Int) = u.tree.line _ ∧ (u.tree.column _ : Int) ≤ u.tree.column _
      omega

end FoundAlong

/-! ## Findings of one audit -/

/-- What a rule reports at a node has the place of the node. -/
theorem Rule.eq_ofMatch_of_mem_report {r : Rule} {u : CompilationUnit} {n : NodeId}
    {verdict : Except RuleFault (Option String)} {f : Finding}
    (h : f ∈ (r.report u n verdict).findings) : ∃ message, f = Finding.ofMatch r u n message := by
  unfold report at h
  split at h
  · cases h
  · exact ⟨_, List.mem_singleton.1 h⟩
  · cases h

/-- Every result of a list of computations is the result of one of them. -/
theorem mem_mapM {σ α β : Type} {f : α → StateM σ β} {l : List α} {past : σ} {b : β}
    (h : b ∈ (l.mapM f past).1) : ∃ a past', b = (f a past').1 := by
  induction l generalizing past with
  | nil => cases h
  | cons a rest ih =>
    rw [List.mapM_cons] at h
    rcases List.mem_cons.1 h with h | h
    · exact ⟨a, past, h⟩
    · exact ih h

namespace Registry

variable {reg : Registry} {u : CompilationUnit} {n : Nat} {f : Finding}

/-- The findings at a node are about that node. -/
theorem eq_ofMatch_of_mem_auditNode (h : f ∈ (reg.auditNode u n).findings) :
    ∃ r message, f = Finding.ofMatch r u n message := by
  unfold auditNode at h
  simp only [Audit.concat_eq, List.mem_flatMap, List.mem_map] at h
  obtain ⟨-, ⟨r, -, rfl⟩, hf⟩ := h
  exact ⟨r, Rule.eq_ofMatch_of_mem_report hf⟩

theorem eq_ofMatch_of_mem_auditNodeRecalling {past : Recollection}
    (h : f ∈ (reg.auditNodeRecalling u n past).1.findings) :
    ∃ r message, f = Finding.ofMatch r u n message := by
  have hconcat : (reg.auditNodeRecalling u n past).1 =
      .concat ((reg.rulesFor (u.tree.kind? n)).mapM (fun r => r.auditRecalling u n) past).1 := rfl
  rw [hconcat, Audit.concat_eq] at h
  obtain ⟨result, hresult, hf⟩ := List.mem_flatMap.1 h
  obtain ⟨r, past', rfl⟩ := mem_mapM hresult
  exact ⟨r, Rule.eq_ofMatch_of_mem_report hf⟩

/-- The findings of a walk come in the order of the walk. -/
theorem foundAlong_auditFrom (pending : List NodeId) :
    FoundAlong u (pending.flatMap u.tree.preorder) (reg.auditFrom u pending).findings := by
  fun_induction auditFrom reg u pending with
  | case1 => exact .nil
  | case2 n rest herr ih =>
    rw [List.flatMap_cons, SyntaxTree.preorder_of_isError herr]
    exact ih
  | case3 n rest herr ih =>
    rw [List.flatMap_append] at ih
    rw [List.flatMap_cons, SyntaxTree.preorder_of_not_isError (Bool.eq_false_iff.2 herr)]
    exact .cons (fun f hf => eq_ofMatch_of_mem_auditNode hf) ih

/-- Shared answers do not change where something is found. -/
theorem foundAlong_auditFromRecalling (pending : List NodeId) (past : Recollection) :
    FoundAlong u (pending.flatMap u.tree.preorder) (reg.auditFromRecalling u pending past).1.findings := by
  fun_induction auditFromRecalling reg u pending generalizing past with
  | case1 => exact .nil
  | case2 n rest herr ih =>
    rw [List.flatMap_cons, SyntaxTree.preorder_of_isError herr]
    exact ih past
  | case3 n rest herr ih =>
    have hrest := ih (reg.auditNodeRecalling u n past).2
    rw [List.flatMap_append] at hrest
    rw [List.flatMap_cons, SyntaxTree.preorder_of_not_isError (Bool.eq_false_iff.2 herr)]
    exact .cons (fun f hf => eq_ofMatch_of_mem_auditNodeRecalling hf) hrest

/-- With recalled lookups, from any recollection on, the findings come in the order of the walk, too. -/
theorem foundAlong_auditRecalling (past : Recollection) :
    FoundAlong u (u.tree.preorder SyntaxTree.root) (reg.auditRecalling u past).1.findings := by
  have h := reg.foundAlong_auditFromRecalling (u := u) [SyntaxTree.root] past
  rw [List.flatMap_cons, List.flatMap_nil, List.append_nil] at h
  exact h

/-- The findings of an audit are in order of their places. -/
theorem pairwise_findings_audit (ht : u.tree.WellOrdered) :
    (reg.audit u).findings.Pairwise fun a b => Finding.placeLe a b = true := by
  have h := reg.foundAlong_auditFrom (u := u) [SyntaxTree.root]
  rw [List.flatMap_cons, List.flatMap_nil, List.append_nil] at h
  exact h.pairwise ht (ht.pairwise_preorder SyntaxTree.root)

/-- With and without recalling, the findings of a unit are in the order of its source. -/
theorem pairwise_findings_auditRecalling (ht : u.tree.WellOrdered) (past : Recollection) :
    (reg.auditRecalling u past).1.findings.Pairwise fun a b => Finding.placeLe a b = true :=
  (foundAlong_auditRecalling past).pairwise ht (ht.pairwise_preorder SyntaxTree.root)

end Registry

/-! ## The files of one run -/

/-- Whatever can be read is parsed into a tree in order. -/
def Files.ParsesInOrder (files : Files) (parse : JavaParser) : Prop :=
  ∀ path content, files.read path = .ok content →
    (SyntaxTree.ofNodes (Files.lossyText content) (parse (Files.lossyText content))).WellOrdered

namespace Registry

variable {reg : Registry} {parse : JavaParser} {files : Files} {settings : Option Settings}
  {path target : String}

theorem file_of_mem_auditFile {f : Finding}
    (h : f ∈ (reg.auditFile parse files settings path).findings) : f.file = path := by
  unfold auditFile at h
  split at h
  · cases h
  · split at h
    · cases h
    · exact (foundAlong_auditRecalling []).file_eq h

/-- The findings of a file are in the order of its source. -/
theorem pairwise_findings_auditFile (hparse : files.ParsesInOrder parse) (path : String) :
    (reg.auditFile parse files settings path).findings.Pairwise
      fun a b => Finding.placeLe a b = true := by
  unfold auditFile
  split
  · exact .nil
  · split
    · exact .nil
    · next content hread => exact pairwise_findings_auditRecalling (hparse path content hread) []

/-- Of what different files yield, one file's findings are those that it yields. -/
theorem filter_flatMap_auditFile {paths : List String} (hnodup : paths.Nodup) (hpath : path ∈ paths) :
    (paths.flatMap fun path => (reg.auditFile parse files settings path).findings).filter
        (fun f => f.file = path) =
      (reg.auditFile parse files settings path).findings := by
  rw [List.filter_flatMap, flatMap_eq_of_unique hnodup hpath, List.filter_eq_self]
  · intro f hf
    exact decide_eq_true (file_of_mem_auditFile hf)
  · intro other _ hne
    refine List.filter_eq_nil_iff.2 fun f hf => ?_
    rw [file_of_mem_auditFile hf, decide_eq_true_eq]
    exact hne

/-- Positions are what they should be: the line of a node counts the line ends before it, and its column
the characters since the last one, without a carriage return that ends the line right before the node;
the row is always a line of the source; and a later start never has an earlier place. So the findings of
an audit are in order of their places. A report is sorted by file, line and column, and lists the findings of
each file as the walk met them. -/
theorem findings_in_source_order (reg : Registry) :
    (∀ u : CompilationUnit, u.tree.WellOrdered →
      (∀ n < u.tree.size, u.tree.row n < (sourceLines u.tree.source).length ∧
        (∃ whole current rest,
          StandsAfter u.tree.source.toList (u.tree.start n) whole current rest) ∧
        ∀ whole current rest, StandsAfter u.tree.source.toList (u.tree.start n) whole current rest →
          u.tree.line n = 1 + (whole ++ current).count '\n' ∧
          u.tree.column n =
            if BehindReturn current rest then current.length - 1 else current.length) ∧
      (∀ n < u.tree.size, ∀ m < u.tree.size, u.tree.start n ≤ u.tree.start m →
        u.tree.line n < u.tree.line m ∨
          u.tree.line n = u.tree.line m ∧ u.tree.column n ≤ u.tree.column m) ∧
      (reg.audit u).findings.Pairwise fun a b => Finding.placeLe a b = true) ∧
    ∀ (parse : JavaParser) (files : Files) (settings : Option Settings) (target : String)
      (result : TargetAudit), files.WellNamed → files.ParsesInOrder parse →
      reg.auditTarget parse files settings target = .ok result →
        ∃ paths : List String, paths.Nodup ∧
          result.audit.findings =
            paths.flatMap (fun path => (reg.auditFile parse files settings path).findings) ∧
          ∀ least,
            ((CommandLine.reported settings least result.audit.findings).Pairwise fun a b =>
              a.file < b.file ∨ a.file = b.file ∧
                (a.line < b.line ∨ a.line = b.line ∧ a.column ≤ b.column)) ∧
            ∀ path ∈ paths,
              (CommandLine.reported settings least result.audit.findings).filter
                  (fun f => f.file = path) =
                Finding.select (some least) (settings.getD .standard).keyword
                  ((reg.auditFile parse files settings path).findings.map
                    (Finding.regrade (settings.getD .standard).severities)) := by
  refine ⟨fun u hu => ⟨fun n hn => ?_, fun n hn m hm => SyntaxTree.position_mono hu hn hm,
    pairwise_findings_audit hu⟩, ?_⟩
  · obtain ⟨whole, current, rest, h⟩ := hu.exists_standsAfter hn
    exact ⟨SyntaxTree.row_lt h, ⟨whole, current, rest, h⟩, fun whole current rest h =>
      ⟨SyntaxTree.line_eq h, SyntaxTree.column_eq h⟩⟩
  · intro parse files settings target result hnames hparse htarget
    obtain ⟨paths, hnodup, hfindings⟩ := exists_paths_of_auditTarget hnames htarget
    refine ⟨paths, hnodup, hfindings, fun least => ⟨?_, fun path hpath => ?_⟩⟩
    · refine (Finding.pairwise_sort _).imp fun {a b} h => ?_
      rw [Finding.le_iff, Finding.placeLe_iff] at h
      exact h
    · -- of one file the findings are in order already, and sorting keeps them there
      have hfile : result.audit.findings.filter (fun f => f.file = path) =
          (reg.auditFile parse files settings path).findings := by
        rw [hfindings]
        exact filter_flatMap_auditFile hnodup hpath
      rw [← hfile]
      refine CommandLine.filter_reported ?_ least
      rw [hfile]
      exact pairwise_findings_auditFile hparse path

/-! ### Calls behind a comment and on a second line -/

/-- Two calls, one behind a comment with a character of two bytes and one on the next line. -/
def twoCalls : SyntaxTree :=
  .ofNodes "/*é*/f();\nf();" #[
    ⟨none, "program", true, false, 0, 15, none⟩,
    ⟨some 0, "block_comment", true, false, 0, 6, none⟩,
    ⟨some 0, "expression_statement", true, false, 6, 10, none⟩,
    ⟨some 2, "method_invocation", true, false, 6, 9, none⟩,
    ⟨some 3, "identifier", true, false, 6, 7, some "name"⟩,
    ⟨some 3, "argument_list", true, false, 7, 9, some "arguments"⟩,
    ⟨some 2, ";", false, false, 9, 10, none⟩,
    ⟨some 0, "expression_statement", true, false, 11, 15, none⟩,
    ⟨some 7, "method_invocation", true, false, 11, 14, none⟩,
    ⟨some 8, "identifier", true, false, 11, 12, some "name"⟩,
    ⟨some 8, "argument_list", true, false, 12, 14, some "arguments"⟩,
    ⟨some 7, ";", false, false, 14, 15, none⟩]

theorem twoCalls_wellOrdered : twoCalls.WellOrdered := by
  have hranges : ∀ n < twoCalls.size, ∀ p ∈ twoCalls.parent? n,
      twoCalls.start p ≤ twoCalls.start n ∧ twoCalls.stop n ≤ twoCalls.stop p := by decide
  have hsiblings : ∀ c < twoCalls.size, ∀ d < twoCalls.size, c < d →
      twoCalls.parent? c = twoCalls.parent? d → twoCalls.stop c ≤ twoCalls.start d := by
    decide
  exact {
    start_isValid := by decide
    stop_isValid := by decide
    start_le := fun n p h => (hranges n (SyntaxTree.lt_size_of_parent? h) p h).1
    stop_le := fun n p h => (hranges n (SyntaxTree.lt_size_of_parent? h) p h).2
    start_le_stop := by decide
    siblings := fun c d p hc hd hcd => hsiblings c (SyntaxTree.lt_size_of_parent? hc) d
      (SyntaxTree.lt_size_of_parent? hd) hcd (hc.trans hd.symm) }

theorem wellOrdered_of_size_eq_zero {t : SyntaxTree} (h : t.size = 0) : t.WellOrdered := by
  have hnone : ∀ n, ¬ n < t.size := fun n => by omega
  exact {
    start_isValid := fun n hn => absurd hn (hnone n)
    stop_isValid := fun n hn => absurd hn (hnone n)
    start_le := fun n p hp => absurd (SyntaxTree.lt_size_of_parent? hp) (hnone n)
    stop_le := fun n p hp => absurd (SyntaxTree.lt_size_of_parent? hp) (hnone n)
    start_le_stop := fun n hn => absurd hn (hnone n)
    siblings := fun c _ p hc _ _ => absurd (SyntaxTree.lt_size_of_parent? hc) (hnone c) }

/-- The parser of a world with this one source. -/
def parseTwoCalls : JavaParser := fun source => if source = twoCalls.source then twoCalls.nodes else #[]

theorem wellOrdered_parseTwoCalls (source : String) :
    (SyntaxTree.ofNodes source (parseTwoCalls source)).WellOrdered := by
  by_cases hsource : source = twoCalls.source
  · have hnodes : parseTwoCalls source = twoCalls.nodes := if_pos hsource
    rw [hnodes, hsource]
    exact twoCalls_wellOrdered
  · have hnodes : parseTwoCalls source = #[] := if_neg hsource
    rw [hnodes]
    exact wellOrdered_of_size_eq_zero rfl

/-- A directory with the source in two files. -/
def twoFiles : Files where
  workingDirectory := ["work"]
  entries := ["A.java", "B.java"].map fun name =>
    (["work", name], .file twoCalls.source.toUTF8.toList)

/-- Behind a comment the column counts characters and not bytes. The findings of a directory come file by file,
and those of each file by place. -/
theorem findings_of_twoFiles :
    let reg := Registry.empty.add watchfulRule
    let u := CompilationUnit.ofTree "A.java" twoCalls
    u.tree.WellOrdered ∧ StandsAfter u.tree.source.toList (u.tree.start 3) [] "/*é*/".toList
        "f();\nf();".toList ∧
      u.tree.line 3 = 1 ∧ u.tree.column 3 = 5 ∧
      StandsAfter u.tree.source.toList (u.tree.start 8) "/*é*/f();\n".toList [] "f();".toList ∧
      u.tree.line 8 = 2 ∧ u.tree.column 8 = 0 ∧
      (reg.audit u).findings.Pairwise (fun a b => Finding.placeLe a b = true) ∧
      twoFiles.WellNamed ∧ twoFiles.ParsesInOrder parseTwoCalls ∧
      ∃ result, reg.auditTarget parseTwoCalls twoFiles none "." = .ok result ∧
        ∃ paths : List String, paths.Nodup ∧
          result.audit.findings =
            paths.flatMap (fun path => (reg.auditFile parseTwoCalls twoFiles none path).findings) ∧
          ∀ least,
            ((CommandLine.reported none least result.audit.findings).Pairwise fun a b =>
              a.file < b.file ∨ a.file = b.file ∧
                (a.line < b.line ∨ a.line = b.line ∧ a.column ≤ b.column)) ∧
            ∀ path ∈ paths,
              (CommandLine.reported none least result.audit.findings).filter (fun f => f.file = path) =
                Finding.select (some least) Settings.standard.keyword
                  ((reg.auditFile parseTwoCalls twoFiles none path).findings.map
                    (Finding.regrade Settings.standard.severities)) := by
  intro reg u
  have hu : u.tree.WellOrdered := twoCalls_wellOrdered
  have h := findings_in_source_order reg
  obtain ⟨hplaces, -, hpairwise⟩ := h.1 u hu
  have hfirst : StandsAfter u.tree.source.toList (u.tree.start 3) [] "/*é*/".toList
      "f();\nf();".toList :=
    ⟨by decide, by decide, by simp, by decide⟩
  have hlast : "/*é*/f();\n".toList.getLast? = some '\n' := by decide
  have hsecond : StandsAfter u.tree.source.toList (u.tree.start 8) "/*é*/f();\n".toList []
      "f();".toList := by
    refine ⟨by decide, by decide, fun c hc => ?_, by decide⟩
    rw [hlast] at hc
    exact (Option.some.inj hc).symm
  have hplace := (hplaces 3 (by decide)).2.2 _ _ _ hfirst
  have hplace' := (hplaces 8 (by decide)).2.2 _ _ _ hsecond
  have hnames : twoFiles.WellNamed := by
    unfold Files.WellNamed Path.IsName
    decide
  have hparse : twoFiles.ParsesInOrder parseTwoCalls := fun _ _ _ => wellOrdered_parseTwoCalls _
  have hfind : twoFiles.find (Path.normal ".") = .ok .directory := by decide
  have hlocate : twoFiles.locate (Path.normal ".") = .ok ["work"] := by decide
  have hreach : twoFiles.InReach (Path.normal ".") := by
    have hne : twoFiles.find (Path.normal ".") ≠ .error .nameTooLong := by
      rw [hfind]
      decide
    refine ⟨hne, fun _ => ⟨["work"], hlocate, ?_⟩⟩
    -- there are only files below
    have hfiles : ∀ way ∈ twoFiles.below ["work"],
        twoFiles.entry? (["work"] ++ way) ≠ some .directory := by decide
    intro path hpath
    obtain ⟨way, hway, rfl⟩ := List.mem_map.1 hpath
    obtain ⟨hbelow, hdirectory⟩ := List.mem_filter.1 hway
    exact absurd (of_decide_eq_true hdirectory) (hfiles way (List.mem_mergeSort.1 hbelow))
  obtain ⟨result, hresult⟩ : ∃ result, reg.auditTarget parseTwoCalls twoFiles none "." = .ok result :=
    exists_auditTarget_iff.2 hreach
  refine ⟨hu, hfirst, ?_, ?_, hsecond, ?_, ?_, hpairwise, hnames, hparse, result, hresult,
    h.2 parseTwoCalls twoFiles none "." result hnames hparse hresult⟩
  · rw [hplace.1]
    decide
  · rw [hplace.2]
    decide
  · rw [hplace'.1]
    decide
  · rw [hplace'.2]
    decide

end Registry

end JavaAudit
