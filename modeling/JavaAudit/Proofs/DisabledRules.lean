import JavaAudit.Proofs.AuditedFiles
import JavaAudit.Proofs.Recalling
import JavaAudit.Proofs.Registration
import JavaAudit.Proofs.Reliability

/-!
# Switching rules off

Rules share a registry, a traversal and the answers of earlier lookups, and still none of them sees
another. A registry with some of the rules of another visits what the other visits, less the visits of
the rules that it lacks (`visits_of_rules_eq_filter`), and each visit yields the same in both. So it finds
and logs what the other registry finds and logs by its own rules (`audit_of_rules_eq_filter`), and rules that
give up do not change that. Nor do the answers of earlier lookups, since they are those that a lookup would
have (`recalls_auditRecalling`).

Switching built-in rules off then takes their findings and their warnings out of an audit and does nothing else
to it. That carries over from source texts to files and from there to targets.
-/

namespace JavaAudit

/-! ## Results without the findings of some rules -/

/-- The same result, less what comes from the rules with these ids. -/
def Audit.without (result : Audit) (disabled : List String) : Audit :=
  result.filterRules fun id => !disabled.contains id

@[inherit_doc Audit.without]
def TargetAudit.without (result : TargetAudit) (disabled : List String) : TargetAudit :=
  { result with audit := result.audit.without disabled }

theorem Audit.without_concat (results : List Audit) (disabled : List String) :
    (concat results).without disabled = concat (results.map (·.without disabled)) := by
  rw [concat_eq, concat_eq, List.flatMap_map, List.flatMap_map]
  unfold without filterRules
  rw [List.filter_flatMap, List.filter_flatMap]

/-- No rule gave up. -/
def Audit.Undisturbed (result : Audit) : Prop := ∀ record ∈ result.log, record.rule = none

/-- Where no rule gave up, taking rules out leaves the log alone. -/
theorem Audit.Undisturbed.log_without {result : Audit} (h : result.Undisturbed) (disabled : List String) :
    (result.without disabled).log = result.log := by
  refine List.filter_eq_self.2 fun record hrecord => ?_
  rw [h record hrecord]
  rfl

/-- No rule gave up if none did in any file. -/
theorem Audit.Undisturbed.concat {results : List Audit} (h : ∀ result ∈ results, result.Undisturbed) :
    (Audit.concat results).Undisturbed := by
  rw [concat_eq]
  intro record hrecord
  obtain ⟨result, hresult, hmem⟩ := List.mem_flatMap.1 hrecord
  exact h result hresult record hmem

namespace Registry

variable {reg sub : Registry}

/-! ## Some of the rules -/

section Restriction

variable (keep : String → Bool)

/-- With some of the rules, the visits are those of these rules, in the same order. -/
theorem visits_of_rules_eq_filter (h : sub.rules = reg.rules.filter fun r => keep r.id)
    (u : CompilationUnit) : sub.visits u = (reg.visits u).filter fun v => keep v.2.id := by
  unfold visits
  rw [h, List.filter_flatMap]
  congr 1
  funext n
  -- a rule is kept by its id and asked by its kinds, in either order
  rw [List.filter_map, List.filter_filter, List.filter_filter]
  congr 2
  funext r
  exact Bool.and_comm _ _

/-- What a rule finds goes by the id of the rule. -/
theorem filter_finding? (r : Rule) (u : CompilationUnit) (n : NodeId) :
    (r.finding? u n).filter (fun f => keep f.rule) = if keep r.id then r.finding? u n else none := by
  cases hfinding : r.finding? u n with
  | none => simp
  | some f =>
    obtain ⟨-, message, -, rfl⟩ := Rule.finding?_eq_some_iff.1 hfinding
    rfl

/-- So does what it logs. -/
theorem filter_warning? (r : Rule) (u : CompilationUnit) (n : NodeId) :
    (r.warning? u n).filter (fun record => record.rule.all keep) =
      if keep r.id then r.warning? u n else none := by
  unfold Rule.warning?
  split
  · rfl
  · simp

/-- With some of the rules, the audit of a unit is what is left of the one with all of them. -/
theorem audit_of_rules_eq_filter (hsub : sub.Reachable) (hreg : reg.Reachable)
    (h : sub.rules = reg.rules.filter fun r => keep r.id) (u : CompilationUnit) :
    sub.audit u = (reg.audit u).filterRules keep := by
  have hfindings : (sub.audit u).findings = (reg.audit u).findings.filter fun f => keep f.rule := by
    rw [findings_audit hsub, findings_audit hreg, visits_of_rules_eq_filter keep h,
      List.filterMap_filter, List.filter_filterMap]
    congr 1
    funext v
    exact (filter_finding? keep v.2 u v.1).symm
  have hlog : (sub.audit u).log = (reg.audit u).log.filter fun record => record.rule.all keep := by
    rw [log_audit hsub, log_audit hreg, visits_of_rules_eq_filter keep h, List.filterMap_filter,
      List.filter_filterMap]
    congr 1
    funext v
    exact (filter_warning? keep v.2 u v.1).symm
  exact congrArg₂ Audit.mk hfindings hlog

/-- Where nodes have different keys, sharing the answers of lookups does not change that. -/
theorem auditRecalling_of_rules_eq_filter (hsub : sub.Reachable) (hreg : reg.Reachable)
    (h : sub.rules = reg.rules.filter fun r => keep r.id) {u : CompilationUnit}
    (hkeys : u.tree.DistinctKeys) :
    (sub.auditRecalling u []).1 = (reg.auditRecalling u []).1.filterRules keep := by
  have hafresh : ∀ reg : Registry, (reg.auditRecalling u []).1 = reg.audit u := fun reg =>
    (reg.recalls_auditRecalling hkeys [] CompilationUnit.faithful_nil).1
  rw [hafresh, hafresh, audit_of_rules_eq_filter keep hsub hreg h]

/-- The rules of a registry with some of the ids can be registered on their own. -/
theorem Reachable.exists_restriction (h : reg.Reachable) :
    ∃ sub, Registry.empty.registerAll (reg.rules.filter fun r => keep r.id) = .ok sub ∧
      sub.Reachable ∧ sub.rules = reg.rules.filter fun r => keep r.id := by
  have hok : Registry.empty.registerAll (reg.rules.filter fun r => keep r.id) = .ok _ :=
    registerAll_eq_ok (fun r hr => h.ids.1 r (List.mem_filter.1 hr).1) (fun _ _ => rfl)
      (List.Nodup.sublist (List.filter_sublist.map _) h.ids.2)
  exact ⟨_, hok, Reachable.empty.registerAll hok, rules_foldl_add _ _⟩

end Restriction

/-! ## The built-in rules -/

/-- The built-in rules without some are all of them with those taken out. -/
theorem rules_builtin_eq_filter (disabled : List String) :
    (builtin disabled).rules = (builtin []).rules.filter fun r => !disabled.contains r.id := by
  rw [rules_builtin, rules_builtin]
  simp

/-- Switching rules off takes what they find and log out of the audit of a unit. -/
theorem auditRecalling_builtin (disabled : List String) {u : CompilationUnit}
    (hkeys : u.tree.DistinctKeys) :
    ((builtin disabled).auditRecalling u []).1 =
      ((builtin []).auditRecalling u []).1.without disabled :=
  auditRecalling_of_rules_eq_filter _ (reachable_builtin disabled) (reachable_builtin [])
    (rules_builtin_eq_filter disabled) hkeys

end Registry

/-! ## Files and targets -/

/-- Whatever can be read is parsed into a tree whose nodes have different keys. -/
def Files.ParsesDistinctly (files : Files) (parse : JavaParser) : Prop :=
  ∀ path content, files.read path = .ok content →
    (SyntaxTree.ofNodes (Files.lossyText content) (parse (Files.lossyText content))).DistinctKeys

/-- Whatever can be read is parsed into a unit with room for every rule. -/
def Files.ParsesWithRoom (files : Files) (parse : JavaParser) : Prop :=
  ∀ path content, files.read path = .ok content →
    (CompilationUnit.ofTree path
      (.ofNodes (Files.lossyText content) (parse (Files.lossyText content)))).Fits

namespace Registry

variable {reg sub : Registry}

section Targets

variable {parse : JavaParser} {files : Files} {settings settings' : Option Settings}
  {disabled : List String} (hkeys : files.ParsesDistinctly parse)
  (haudit : ∀ u : CompilationUnit, u.tree.DistinctKeys →
    (sub.auditRecalling u []).1 = (reg.auditRecalling u []).1.without disabled)
  (hexcludes : ∀ path, settings'.any (·.excludes path) = settings.any (·.excludes path))

include hkeys haudit hexcludes

/-- For a file, switching rules off before the audit and taking them out of its result are the same. -/
theorem auditFile_without (path : String) :
    sub.auditFile parse files settings' path =
      (reg.auditFile parse files settings path).without disabled := by
  unfold auditFile
  rw [hexcludes]
  by_cases hexcluded : settings.any (·.excludes path) = true
  · rw [if_pos hexcluded, if_pos hexcluded]
    rfl
  · rw [if_neg hexcluded, if_neg hexcluded]
    cases hread : files.read path with
    | error fault => rfl
    | ok content => exact haudit _ (hkeys path content hread)

theorem auditFiles_without (paths : List String) :
    sub.auditFiles parse files settings' paths =
      (reg.auditFiles parse files settings paths).without disabled := by
  have hfile : sub.auditFile parse files settings' =
      fun path => (reg.auditFile parse files settings path).without disabled :=
    funext (auditFile_without hkeys haudit hexcludes)
  unfold auditFiles TargetAudit.without
  simp only [hexcludes, hfile, Audit.without_concat, List.map_map]
  rfl

theorem auditDirectory_without (directory : String) :
    sub.auditDirectory parse files settings' directory =
      (reg.auditDirectory parse files settings directory).map (·.without disabled) := by
  unfold auditDirectory
  cases files.locate directory with
  | error fault => rfl
  | ok location =>
    simp only [Except.mapError, bind, Except.bind]
    cases (files.directoriesBelow directory location).find? Path.isTooLong with
    | some path => rfl
    | none => exact congrArg Except.ok (auditFiles_without hkeys haudit hexcludes _)

/-- For a target, too, switching rules off before the audit and taking them out of its result are the same. -/
theorem auditTarget_without (target : String) :
    sub.auditTarget parse files settings' target =
      (reg.auditTarget parse files settings target).map (·.without disabled) := by
  unfold auditTarget
  extract_lets path
  cases files.find path with
  | error fault => cases fault <;> rfl
  | ok entry =>
    cases entry with
    | directory => exact auditDirectory_without hkeys haudit hexcludes path
    | file content =>
      by_cases hjava : isJavaPath path = true
      · simp only [hjava, if_true, auditFile_without hkeys haudit hexcludes path]
        rfl
      · simp only [hjava]
        rfl

end Targets

section Room

variable {parse : JavaParser} {files : Files} {settings : Option Settings}
  (hkeys : files.ParsesDistinctly parse) (hroom : files.ParsesWithRoom parse)

include hkeys hroom

/-- Where there is room for every rule, the built-in rules do not give up. -/
theorem undisturbed_auditFile (path : String) :
    ((builtin []).auditFile parse files settings path).Undisturbed := by
  unfold auditFile
  split
  · exact nofun
  · cases hread : files.read path with
    | error fault =>
      intro record hrecord
      rw [List.mem_singleton.1 hrecord]
    | ok content =>
      let u := CompilationUnit.ofTree path
        (.ofNodes (Files.lossyText content) (parse (Files.lossyText content)))
      have hdistinct : u.tree.DistinctKeys := hkeys path content hread
      -- a built-in rule gives up only for lack of room
      have hlog : ((builtin []).auditRecalling u []).1.log = [] := by
        rw [((builtin []).recalls_auditRecalling hdistinct [] CompilationUnit.faithful_nil).1,
          log_of_builtin (reachable_builtin []) (fun r hr => hr),
          misses_of_fits (fun r hr => hr) (hroom path content hread)]
        rfl
      intro record hrecord
      rw [show ((builtin []).auditText parse path (Files.lossyText content)).log = [] from hlog] at hrecord
      cases hrecord

/-- No built-in rule gives up in any of several files that parse into units with room. -/
theorem undisturbed_auditFiles (paths : List String) :
    ((builtin []).auditFiles parse files settings paths).audit.Undisturbed := by
  refine Audit.Undisturbed.concat fun result hresult => ?_
  obtain ⟨path, -, rfl⟩ := List.mem_map.1 hresult
  exact undisturbed_auditFile hkeys hroom path

theorem undisturbed_auditTarget {target : String} {result : TargetAudit}
    (h : (builtin []).auditTarget parse files settings target = .ok result) :
    result.audit.Undisturbed := by
  have hlogged : ∀ level message, (Audit.logged level message).Undisturbed := by
    intro level message record hrecord
    rw [List.mem_singleton.1 hrecord]
  rcases auditTarget_eq_ok_iff.1 h with ⟨content, -, rfl⟩ | ⟨-, hdirectory⟩ | ⟨fault, -, -, rfl⟩
  · split
    · exact undisturbed_auditFile hkeys hroom _
    · exact hlogged _ _
  · obtain ⟨location, -, -, rfl⟩ := auditDirectory_eq_ok_iff.1 hdirectory
    exact undisturbed_auditFiles hkeys hroom _
  · exact hlogged _ _

end Room

/-! ## Switching rules off by the settings -/

/-- A directory with the source of `newRandom` as its only file. -/
def randomFile : Files where
  workingDirectory := ["work"]
  entries := [(["work", "Random.java"], .file newRandom.tree.source.toUTF8.toList)]

/-- Reads every source as that of `newRandom`. -/
def parseRandom : JavaParser := fun _ => newRandom.tree.nodes

theorem distinctKeys_newRandom : newRandom.tree.DistinctKeys := .of_nodup (by decide)

/-- The keys of a tree do not depend on its source. -/
theorem parsesDistinctly_randomFile : randomFile.ParsesDistinctly parseRandom :=
  fun _ _ _ => distinctKeys_newRandom

theorem parsesWithRoom_randomFile : randomFile.ParsesWithRoom parseRandom := by
  have htypes : ∀ n < newRandom.tree.size, newRandom.tree.isA n typeDeclarationTypes = false := by
    decide
  have hsize : newRandom.tree.size ≤ 300 := by decide
  intro path content _
  exact CompilationUnit.fits_of_no_types hsize htypes

/-- With all rules, the generator is reported. -/
theorem exists_insecureRandom_newRandom :
    ∃ f ∈ ((builtin []).audit newRandom).findings, f.rule = "INSECURE_RANDOM" := by
  have hmem : Rule.insecureRandom ∈ Rule.builtin := by simp [Rule.builtin]
  have hkind : (newRandom.tree.kind? 2).any Rule.insecureRandom.kinds.contains = true := by
    decide
  obtain ⟨-, message, hdescribe⟩ :=
    Rule.explains_of_mem_builtin hmem newRandom 2 hkind fires_newRandom
  have hvisit : newRandom.tree.Visits SyntaxTree.root 2 :=
    .part (.part (.top (by decide +kernel)) (show 1 ∈ _ by decide +kernel) (by decide +kernel))
      (by decide +kernel) (by decide +kernel)
  refine ⟨Finding.ofMatch Rule.insecureRandom newRandom 2 message, ?_, rfl⟩
  rw [findings_audit (reachable_builtin []), List.mem_filterMap]
  exact ⟨(2, Rule.insecureRandom), mem_visits_iff.2 ⟨hvisit, hmem, hkind⟩,
    Rule.finding?_eq_some_iff.2 ⟨fires_newRandom, message, hdescribe, rfl⟩⟩

theorem auditTarget_randomFile :
    (builtin []).auditTarget parseRandom randomFile (some Settings.standard) "Random.java" =
      .ok ⟨(builtin []).audit newRandom, 1⟩ := by
  have hpath : Path.normal "Random.java" = "Random.java" := by decide +kernel
  have hread : randomFile.read "Random.java" = .ok newRandom.tree.source.toUTF8.toList := by
    decide +kernel
  have htext : Files.lossyText newRandom.tree.source.toUTF8.toList = newRandom.tree.source := by
    decide +kernel
  refine auditTarget_eq_ok_iff.2 (.inl ⟨newRandom.tree.source.toUTF8.toList, by decide +kernel, ?_⟩)
  rw [hpath, if_pos (by decide +kernel), auditFile, if_neg (by decide +kernel), hread]
  dsimp only [auditText]
  rw [htext]
  have hafresh := ((builtin []).recalls_auditRecalling distinctKeys_newRandom []
    CompilationUnit.faithful_nil).1
  exact congrArg (TargetAudit.mk · 1) hafresh

end Registry

end JavaAudit
