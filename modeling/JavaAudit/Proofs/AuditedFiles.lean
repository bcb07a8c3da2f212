import Mathlib.Data.List.Nodup
import JavaAudit.Audit.Target
import JavaAudit.Proofs.Paths
import JavaAudit.Proofs.Traversal

/-!
# The files that an audit looks at

A target is one file or a directory with all Java files below it, and it is audited unless a path on the
way is too long (`exists_auditTarget_iff`). Otherwise the audit breaks off with the path in question
(`auditTarget_of_not_inReach`). A target that is neither file nor directory is only logged.

The paths of the files are all different (`nodup_javaPaths`), so that the findings of an audit are those
of different files, one file after another (`exists_paths_of_auditTarget`).
-/

namespace JavaAudit

/-! ## Files below a directory -/

theorem nodup_eraseDups {α : Type} [BEq α] [LawfulBEq α] (l : List α) : l.eraseDups.Nodup := by
  induction hl : l.length using Nat.strongRecOn generalizing l with
  | ind k ih =>
    cases l with
    | nil => simp
    | cons a l =>
      rw [List.eraseDups_cons, List.nodup_cons]
      constructor
      · simp
      · refine ih _ ?_ _ rfl
        rw [← hl, List.length_cons]
        exact Nat.lt_succ_of_le (List.length_filter_le _ _)

namespace Files

variable {files : Files}

/-- No name in a known location holds a slash. -/
def WellNamed (files : Files) : Prop :=
  ∀ location ∈ files.locations, ∀ name ∈ location, Path.IsName name

/-- The way from a directory to a file below it is made of names, and is not empty. -/
theorem of_mem_below (h : files.WellNamed) {location way : List String}
    (hway : way ∈ files.below location) : way ≠ [] ∧ ∀ name ∈ way, Path.IsName name := by
  unfold below at hway
  simp only [List.mem_eraseDups, List.mem_flatMap, List.mem_filter, List.mem_map,
    List.mem_range] at hway
  obtain ⟨l, ⟨hl, -⟩, k, hk, rfl⟩ := hway
  constructor
  · have hpos : 0 < ((l.drop location.length).take (k + 1)).length := by
      rw [List.length_take]
      omega
    exact List.length_pos_iff.1 hpos
  · intro name hname
    exact h l hl name (List.mem_of_mem_drop (List.mem_of_mem_take hname))

/-- No Java file is listed twice. -/
theorem nodup_javaPaths (h : files.WellNamed) (directory : String) (location : List String) :
    (files.javaPaths directory location).Nodup := by
  have hways : (files.waysBelow location).Nodup :=
    List.nodup_mergeSort.2 (nodup_eraseDups _)
  have hbelow : ∀ way ∈ files.waysBelow location, way ∈ files.below location := fun way hway =>
    List.mem_mergeSort.1 hway
  refine List.Nodup.map_on (fun a ha b hb heq => ?_) (hways.filter _)
  obtain ⟨hane, haname⟩ := of_mem_below h (hbelow a (List.mem_of_mem_filter ha))
  obtain ⟨hbne, hbname⟩ := of_mem_below h (hbelow b (List.mem_of_mem_filter hb))
  exact Path.extend_injective hane hbne haname hbname heq

/-- Neither a path nor, if it leads to a directory, any directory below it is too long. -/
def InReach (files : Files) (path : String) : Prop :=
  files.find path ≠ .error .nameTooLong ∧
    (files.find path = .ok .directory → ∃ location, files.locate path = .ok location ∧
      ∀ below ∈ files.directoriesBelow path location, Path.isTooLong below = false)

end Files

/-! ## Targets -/

namespace Registry

variable {reg : Registry} {parse : JavaParser} {files : Files} {settings : Option Settings}
  {directory target : String} {result : TargetAudit}

/-- A directory is audited if it is found and none of the directories below it has a path that is too long. -/
theorem auditDirectory_eq_ok_iff :
    reg.auditDirectory parse files settings directory = .ok result ↔
      ∃ location, files.locate directory = .ok location ∧
        (files.directoriesBelow directory location).find? Path.isTooLong = none ∧
        reg.auditFiles parse files settings (files.javaPaths directory location) = result := by
  unfold auditDirectory
  cases hlocate : files.locate directory with
  | error fault =>
    constructor
    · intro h
      cases h
    · rintro ⟨location, hlocation, -⟩
      cases hlocation
  | ok location =>
    simp only [Except.mapError, bind, Except.bind, Except.ok.injEq, exists_eq_left']
    cases hlong : (files.directoriesBelow directory location).find? Path.isTooLong with
    | some path =>
      constructor
      · intro h
        cases h
      · rintro ⟨hnone, -⟩
        cases hnone
    | none =>
      constructor
      · intro h
        exact ⟨rfl, Except.ok.inj h⟩
      · rintro ⟨-, h⟩
        exact congrArg Except.ok h

/-- An audit of a target goes one of three ways: the target is a file, a directory, or nothing that can
be found. -/
theorem auditTarget_eq_ok_iff :
    reg.auditTarget parse files settings target = .ok result ↔
      (∃ content, files.find (Path.normal target) = .ok (.file content) ∧
        (if isJavaPath (Path.normal target) then
            ⟨reg.auditFile parse files settings (Path.normal target), 1⟩
          else ⟨.logged .warning (target ++ " is not a .java file"), 0⟩) = result) ∨
      files.find (Path.normal target) = .ok .directory ∧
        reg.auditDirectory parse files settings (Path.normal target) = .ok result ∨
      ∃ fault, files.find (Path.normal target) = .error fault ∧ fault ≠ .nameTooLong ∧
        ⟨.logged .error (target ++ " does not exist"), 0⟩ = result := by
  unfold auditTarget
  extract_lets path
  have hpath : Path.normal target = path := rfl
  clear_value path
  rw [hpath]
  generalize files.find path = found
  cases found with
  | error fault =>
    cases fault with
    | nameTooLong => simp
    | _ => simp
  | ok entry =>
    cases entry with
    | directory => simp
    | file content => by_cases hjava : isJavaPath path = true <;> simp [hjava]

/-- There is an audit of every target, unless its path or one of the directories below it is too long. -/
theorem exists_auditTarget_iff :
    (∃ result, reg.auditTarget parse files settings target = .ok result) ↔
      files.InReach (Path.normal target) := by
  constructor
  · rintro ⟨result, h⟩
    rcases auditTarget_eq_ok_iff.1 h with ⟨content, hfind, -⟩ | ⟨hfind, hdir⟩ | ⟨fault, hfind, hne, -⟩
    · refine ⟨?_, fun hdir => ?_⟩
      · rw [hfind]
        exact fun hlong => nomatch hlong
      · rw [hfind] at hdir
        cases hdir
    · -- only a directory is searched, so only here the paths below matter
      obtain ⟨location, hlocate, hshort, -⟩ := auditDirectory_eq_ok_iff.1 hdir
      refine ⟨?_, fun _ => ⟨location, hlocate, ?_⟩⟩
      · rw [hfind]
        exact fun hlong => nomatch hlong
      · exact fun path hpath => Bool.eq_false_iff.2 (List.find?_eq_none.1 hshort path hpath)
    · refine ⟨?_, fun hdir => ?_⟩
      · rw [hfind]
        exact fun hlong => hne (Except.error.inj hlong)
      · rw [hfind] at hdir
        cases hdir
  · rintro ⟨hfind, hdirectory⟩
    cases hfound : files.find (Path.normal target) with
    | error fault =>
      rw [hfound] at hfind
      exact ⟨_, auditTarget_eq_ok_iff.2
        (.inr (.inr ⟨fault, hfound, fun hlong => hfind (congrArg _ hlong), rfl⟩))⟩
    | ok entry =>
      cases entry with
      | file content => exact ⟨_, auditTarget_eq_ok_iff.2 (.inl ⟨content, hfound, rfl⟩)⟩
      | directory =>
        obtain ⟨location, hlocate, hshort⟩ := hdirectory hfound
        have hnone : (files.directoriesBelow (Path.normal target) location).find? Path.isTooLong = none :=
          List.find?_eq_none.2 fun path hpath => Bool.eq_false_iff.1 (hshort path hpath)
        have hdir : reg.auditDirectory parse files settings (Path.normal target) = .ok _ :=
          auditDirectory_eq_ok_iff.2 ⟨location, hlocate, hnone, rfl⟩
        exact ⟨_, auditTarget_eq_ok_iff.2 (.inr (.inl ⟨hfound, hdir⟩))⟩

/-- The only fault that keeps a target from being audited is a path that is too long. -/
theorem fault_of_auditDirectory {directory : String} {location : List String} {fault : PathFault}
    (hlocate : files.locate directory = .ok location)
    (h : reg.auditDirectory parse files settings directory = .error fault) :
    fault.fault = .nameTooLong := by
  unfold auditDirectory at h
  rw [hlocate] at h
  simp only [Except.mapError, bind, Except.bind] at h
  cases hlong : (files.directoriesBelow directory location).find? Path.isTooLong with
  | some path =>
    rw [hlong] at h
    rw [← Except.error.inj h]
  | none =>
    rw [hlong] at h
    cases h

/-- The only fault of a target is a name that is too long. -/
theorem fault_of_auditTarget {fault : PathFault}
    (h : reg.auditTarget parse files settings target = .error fault) : fault.fault = .nameTooLong := by
  unfold auditTarget at h
  extract_lets path at h
  cases hfind : files.find path with
  | error found =>
    rw [hfind] at h
    cases found with
    | nameTooLong => rw [← Except.error.inj h]
    | _ => cases h
  | ok entry =>
    rw [hfind] at h
    cases entry with
    | file content => by_cases hjava : isJavaPath path = true <;> simp [hjava] at h
    | directory =>
      obtain ⟨location, hlocate⟩ := Files.exists_locate_of_find hfind
      exact fault_of_auditDirectory hlocate h

theorem auditTarget_of_too_long (h : files.find (Path.normal target) = .error .nameTooLong) :
    reg.auditTarget parse files settings target = .error ⟨Path.normal target, .nameTooLong⟩ := by
  unfold auditTarget
  extract_lets path
  have hpath : files.find path = .error .nameTooLong := h
  rw [hpath]

/-- Where the walk meets a path that is too long, the audit of the target fails. -/
theorem auditTarget_of_not_inReach (h : ¬ files.InReach (Path.normal target)) :
    ∃ path, reg.auditTarget parse files settings target = .error ⟨path, .nameTooLong⟩ := by
  cases haudit : reg.auditTarget parse files settings target with
  | ok result => exact absurd (exists_auditTarget_iff.1 ⟨result, haudit⟩) h
  | error fault =>
    obtain ⟨path, cause⟩ := fault
    have hcause : cause = .nameTooLong := fault_of_auditTarget haudit
    rw [hcause]
    exact ⟨path, rfl⟩

/-- The findings of several files are those of each file that is not excluded, file after file. -/
theorem findings_auditFiles (paths : List String) :
    (reg.auditFiles parse files settings paths).audit.findings =
      (paths.filter fun path => !settings.any (·.excludes path)).flatMap fun path =>
        (reg.auditFile parse files settings path).findings := by
  show (Audit.concat _).findings = _
  rw [Audit.concat_eq, List.flatMap_map]

/-- An audit looks at different files, and finds what each of them yields. -/
theorem exists_paths_of_auditTarget (hnames : files.WellNamed)
    (h : reg.auditTarget parse files settings target = .ok result) :
    ∃ paths : List String, paths.Nodup ∧
      result.audit.findings =
        paths.flatMap fun path => (reg.auditFile parse files settings path).findings := by
  have hnone : ∀ level message, (Audit.logged level message).findings = [] := fun _ _ => rfl
  rcases auditTarget_eq_ok_iff.1 h with ⟨content, -, rfl⟩ | ⟨-, hdir⟩ | ⟨fault, -, -, rfl⟩
  · by_cases hjava : isJavaPath (Path.normal target) = true
    · refine ⟨[Path.normal target], List.nodup_singleton _, ?_⟩
      rw [if_pos hjava, List.flatMap_singleton]
    · refine ⟨[], List.nodup_nil, ?_⟩
      rw [if_neg hjava]
      exact hnone _ _
  · obtain ⟨location, -, -, rfl⟩ := auditDirectory_eq_ok_iff.1 hdir
    exact ⟨_, (Files.nodup_javaPaths hnames _ _).filter _, findings_auditFiles _⟩
  · exact ⟨[], List.nodup_nil, hnone _ _⟩

end Registry

end JavaAudit

