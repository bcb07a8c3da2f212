import JavaAudit.CommandLine.Run

/-!
# The order of a report

Findings are compared by file, line and column, which puts any two of them in some order
(`le_total`, `le_trans`). A report is sorted, and sorting is stable: where the findings that are picked
out by some property are in order before sorting, they are the same list afterwards
(`filter_sort_of_pairwise`).
-/

namespace JavaAudit

/-! ## Sorting and gathering -/

/-- Sorting leaves alone what is in order already, whatever stands between. -/
theorem filter_mergeSort_of_pairwise {α : Type} {le : α → α → Bool}
    (trans : ∀ a b c, le a b = true → le b c = true → le a c = true)
    (total : ∀ a b, (le a b || le b a) = true) {l : List α} {p : α → Bool}
    (h : (l.filter p).Pairwise fun a b => le a b = true) :
    (l.mergeSort le).filter p = l.filter p := by
  have hsublist : (l.filter p).Sublist (l.mergeSort le) :=
    List.sublist_mergeSort trans total h List.filter_sublist
  have hfiltered : (l.filter p).Sublist ((l.mergeSort le).filter p) := by
    have hboth := hsublist.filter p
    simp only [List.filter_filter, Bool.and_self] at hboth
    exact hboth
  exact (hfiltered.eq_of_length ((List.mergeSort_perm l le).filter p).length_eq.symm).symm

/-- What is gathered from different keys, of which only one yields anything, is what that one yields. -/
theorem flatMap_eq_of_unique {κ α : Type} {keys : List κ} {g : κ → List α} {key : κ}
    (hnodup : keys.Nodup) (hkey : key ∈ keys) (hother : ∀ k ∈ keys, k ≠ key → g k = []) :
    keys.flatMap g = g key := by
  obtain ⟨before, after, rfl⟩ := List.append_of_mem hkey
  obtain ⟨-, hcons, hdisjoint⟩ := List.nodup_append.1 hnodup
  have hbefore : before.flatMap g = [] := by
    refine List.flatMap_eq_nil_iff.2 fun k hk => hother k (List.mem_append_left _ hk) ?_
    exact hdisjoint k hk key List.mem_cons_self
  have hafter : after.flatMap g = [] := by
    refine List.flatMap_eq_nil_iff.2 fun k hk => hother k (by simp [hk]) ?_
    rintro rfl
    exact (List.nodup_cons.1 hcons).1 hk
  rw [List.flatMap_append, List.flatMap_cons, hbefore, hafter, List.nil_append, List.append_nil]

namespace Finding

variable {a b c : Finding}

theorem placeLe_iff :
    placeLe a b = true ↔ a.line < b.line ∨ a.line = b.line ∧ a.column ≤ b.column := by
  unfold placeLe
  simp only [Bool.or_eq_true, Bool.and_eq_true, decide_eq_true_eq, beq_iff_eq]

theorem le_iff : le a b = true ↔ a.file < b.file ∨ a.file = b.file ∧ placeLe a b = true := by
  unfold le
  simp only [Bool.or_eq_true, Bool.and_eq_true, decide_eq_true_eq, beq_iff_eq]

theorem placeLe_trans (a b c : Finding) (hab : placeLe a b = true) (hbc : placeLe b c = true) :
    placeLe a c = true := by
  rw [placeLe_iff] at hab hbc ⊢
  omega

theorem placeLe_total (a b : Finding) : (placeLe a b || placeLe b a) = true := by
  rw [Bool.or_eq_true, placeLe_iff, placeLe_iff]
  omega

theorem le_trans (a b c : Finding) (hab : le a b = true) (hbc : le b c = true) : le a c = true := by
  rw [le_iff] at hab hbc ⊢
  rcases hab with hab | ⟨hfile, hab⟩
  · rcases hbc with hbc | ⟨hfile', -⟩
    · exact .inl (String.lt_trans hab hbc)
    · rw [← hfile']
      exact .inl hab
  · rcases hbc with hbc | ⟨hfile', hbc⟩
    · rw [hfile]
      exact .inl hbc
    · exact .inr ⟨hfile.trans hfile', placeLe_trans a b c hab hbc⟩

theorem le_total (a b : Finding) : (le a b || le b a) = true := by
  rw [Bool.or_eq_true, le_iff, le_iff]
  by_cases hab : a.file < b.file
  · exact .inl (.inl hab)
  · by_cases hba : b.file < a.file
    · exact .inr (.inl hba)
    · have hfile : a.file = b.file := String.le_antisymm (String.not_lt.1 hba) (String.not_lt.1 hab)
      rcases Bool.or_eq_true_iff.1 (placeLe_total a b) with hplace | hplace
      · exact .inl (.inr ⟨hfile, hplace⟩)
      · exact .inr (.inr ⟨hfile.symm, hplace⟩)

theorem pairwise_sort (findings : List Finding) :
    (sort findings).Pairwise fun a b => le a b = true :=
  List.pairwise_mergeSort le_trans le_total findings

theorem sort_perm (findings : List Finding) : (sort findings).Perm findings :=
  List.mergeSort_perm findings le

/-- Findings that are in order already stay as they are. -/
theorem filter_sort_of_pairwise {findings : List Finding} {p : Finding → Bool}
    (h : (findings.filter p).Pairwise fun a b => le a b = true) :
    (sort findings).filter p = findings.filter p :=
  filter_mergeSort_of_pairwise le_trans le_total h

/-! ## Severities do not matter for the order -/

@[simp] theorem regrade_file (levels : List (String × Severity)) (f : Finding) :
    (f.regrade levels).file = f.file := by
  unfold regrade
  split <;> rfl

/-- A new severity does not move a finding. -/
theorem placeLe_regrade (levels : List (String × Severity)) (a b : Finding) :
    placeLe (a.regrade levels) (b.regrade levels) = placeLe a b := by
  unfold regrade
  split <;> split <;> rfl

/-- Picking out the findings of a file and selecting those to report can be done in either order. -/
theorem filter_select (least : Option Severity) (keyword : String) (levels : List (String × Severity))
    (findings : List Finding) (path : String) :
    (select least keyword (findings.map (regrade levels))).filter (fun f => f.file = path) =
      select least keyword ((findings.filter fun f => f.file = path).map (regrade levels)) := by
  have hmap : (findings.map (regrade levels)).filter (fun f => f.file = path) =
      (findings.filter fun f => f.file = path).map (regrade levels) := by
    rw [List.filter_map]
    simp only [Function.comp_def, regrade_file]
  unfold select
  rw [← hmap, List.filter_filter, List.filter_filter]
  simp only [Bool.and_comm]

end Finding

namespace CommandLine

/-- A report lists the findings of a file as they were found, if they were found in order. -/
theorem filter_reported {settings : Option Settings} {findings : List Finding} {path : String}
    (h : (findings.filter fun f => f.file = path).Pairwise fun a b => Finding.placeLe a b = true)
    (least : Severity) :
    (reported settings least findings).filter (fun f => f.file = path) =
      Finding.select (some least) (settings.getD .standard).keyword
        ((findings.filter fun f => f.file = path).map
          (Finding.regrade (settings.getD .standard).severities)) := by
  have hcomm := Finding.filter_select (some least) (settings.getD .standard).keyword
    (settings.getD .standard).severities findings path
  show (Finding.sort _).filter _ = _
  rw [Finding.filter_sort_of_pairwise, hcomm]
  rw [hcomm]
  refine List.Pairwise.filter _ (List.pairwise_map.2 (h.imp_of_mem fun ha hb hab => ?_))
  -- both findings are in the same file, where only places count
  have ha' := of_decide_eq_true (List.mem_filter.1 ha).2
  have hb' := of_decide_eq_true (List.mem_filter.1 hb).2
  rw [Finding.le_iff, Finding.regrade_file, Finding.regrade_file, Finding.placeLe_regrade]
  exact .inr ⟨ha'.trans hb'.symm, hab⟩

end CommandLine

end JavaAudit
