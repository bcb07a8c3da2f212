import JavaAudit.Proofs.AuditedFiles
import JavaAudit.Proofs.ReportOrder

/-!
# Findings grouped by file

A console shows the findings file by file, each group in the order of its places, where a report has them in
one order. Both are stable: findings at one place stay as they were. Two lists that are ordered and stable in
this sense are equal (`StablySorted.unique`), because their heads are at one place and so are the first of
all findings there. So the groups one after another are the sorted list (`flatMap_findingsIn`), for any
number of files and findings at one place.
-/

namespace JavaAudit

namespace Finding

/-- Are two findings at the same place of the same file? -/
def samePlace (a b : Finding) : Bool := a.file = b.file ∧ a.line = b.line ∧ a.column = b.column

theorem samePlace_iff {a b : Finding} :
    samePlace a b = true ↔ a.file = b.file ∧ a.line = b.line ∧ a.column = b.column :=
  decide_eq_true_iff

theorem samePlace_self (f : Finding) : samePlace f f = true := samePlace_iff.2 ⟨rfl, rfl, rfl⟩

/-- The findings in the order of file, line and column, those at one place as they were. -/
structure StablySorted (findings sorted : List Finding) : Prop where
  ordered : sorted.Pairwise fun a b => le a b = true
  stable : ∀ place, sorted.filter (samePlace place) = findings.filter (samePlace place)

variable {findings : List Finding}

/-- Findings that are not after each other are at the same place. -/
theorem samePlace_of_le {a b : Finding} (hab : le a b = true) (hba : le b a = true) :
    samePlace a b = true := by
  rw [le_iff, placeLe_iff] at hab hba
  rw [samePlace_iff]
  have hfile : a.file = b.file := by
    rcases hab with hlt | ⟨heq, -⟩
    · rcases hba with hgt | ⟨heq, -⟩
      · exact absurd (String.lt_trans hlt hgt) (String.lt_irrefl _)
      · exact heq.symm
    · exact heq
  have hirrefl : ¬ b.file < b.file := String.lt_irrefl _
  rw [hfile] at hab hba
  have hab := hab.resolve_left hirrefl
  have hba := hba.resolve_left hirrefl
  exact ⟨hfile, by omega, by omega⟩

/-- No finding is lost and none is added. -/
theorem StablySorted.perm {sorted : List Finding} (h : StablySorted findings sorted) :
    sorted.Perm findings := by
  refine List.perm_iff_count.2 fun f => ?_
  rw [← List.count_filter (samePlace_self f), h.stable f, List.count_filter (samePlace_self f)]

/-- The same findings in two orders start at one place, if nothing comes before the first finding in
either of them. -/
theorem samePlace_of_perm {a b : Finding} {rest rest' : List Finding}
    (ha : ∀ f ∈ rest, le a f = true) (hb : ∀ f ∈ rest', le b f = true)
    (hperm : (a :: rest).Perm (b :: rest')) : samePlace a b = true := by
  rcases List.mem_cons.1 (hperm.mem_iff.1 List.mem_cons_self) with rfl | hafter
  · exact samePlace_self a
  · rcases List.mem_cons.1 (hperm.mem_iff.2 List.mem_cons_self) with rfl | hafter'
    · exact samePlace_self b
    · exact samePlace_of_le (ha b hafter') (hb a hafter)

/-- There is one stable order only. -/
theorem StablySorted.unique {first second : List Finding} (hfirst : StablySorted findings first)
    (hsecond : StablySorted findings second) : first = second := by
  have hsame : ∀ place, first.filter (samePlace place) = second.filter (samePlace place) :=
    fun place => (hfirst.stable place).trans (hsecond.stable place).symm
  have hordered := hfirst.ordered
  have hordered' := hsecond.ordered
  have hperm := hfirst.perm.trans hsecond.perm.symm
  clear hfirst hsecond
  induction first generalizing second with
  | nil => exact hperm.nil_eq
  | cons a rest ih =>
    cases second with
    | nil => exact hperm.eq_nil
    | cons b rest' =>
      obtain ⟨ha, hrest⟩ := List.pairwise_cons.1 hordered
      obtain ⟨hb, hrest'⟩ := List.pairwise_cons.1 hordered'
      -- both heads are the first of all findings at their common place
      have hheads := hsame a
      rw [List.filter_cons_of_pos (samePlace_self a),
        List.filter_cons_of_pos (samePlace_of_perm ha hb hperm)] at hheads
      obtain ⟨rfl, -⟩ := List.cons.inj hheads
      refine congrArg (a :: ·) (ih (fun place => ?_) hrest hrest' hperm.cons_inv)
      have htails := hsame place
      rw [List.filter_cons, List.filter_cons] at htails
      split at htails
      · exact (List.cons.inj htails).2
      · exact htails

theorem le_of_samePlace {place a b : Finding} (ha : samePlace place a = true)
    (hb : samePlace place b = true) : a.file = b.file ∧ placeLe a b = true := by
  rw [samePlace_iff] at ha hb
  refine ⟨ha.1.symm.trans hb.1, placeLe_iff.2 (.inr ⟨ha.2.1.symm.trans hb.2.1, ?_⟩)⟩
  omega

/-- The sort keeps findings at one place in the order in which they were found. -/
theorem stablySorted_sort (findings : List Finding) : StablySorted findings (sort findings) where
  ordered := pairwise_sort findings
  stable place := by
    refine filter_sort_of_pairwise (List.pairwise_of_forall_mem_list fun a ha b hb => ?_)
    exact le_iff.2 (.inr (le_of_samePlace (List.mem_filter.1 ha).2 (List.mem_filter.1 hb).2))

end Finding

namespace Report

open Finding

variable {findings : List Finding} {file : String}

/-! ## The groups -/

theorem mem_fileNames : file ∈ fileNames findings ↔ ∃ f ∈ findings, f.file = file := by
  unfold fileNames
  rw [List.mem_mergeSort, List.mem_eraseDups, List.mem_map]

theorem nodup_fileNames (findings : List Finding) : (fileNames findings).Nodup :=
  List.nodup_mergeSort.2 (nodup_eraseDups _)

/-- Files are listed by name. -/
theorem pairwise_fileNames (findings : List Finding) : (fileNames findings).Pairwise (· < ·) := by
  have hordered : (fileNames findings).Pairwise fun a b => (!decide (b < a)) = true := by
    refine List.pairwise_mergeSort (fun a b c hab hbc => ?_) (fun a b => ?_) _
    · simp only [Bool.not_eq_true', decide_eq_false_iff_not, String.not_lt] at hab hbc ⊢
      exact String.le_trans hab hbc
    · simp only [Bool.or_eq_true, Bool.not_eq_true', decide_eq_false_iff_not, String.not_lt]
      exact String.le_total a b
  refine (hordered.and (nodup_fileNames findings)).imp ?_
  rintro a b ⟨hle, hne⟩
  rw [Bool.not_eq_true', decide_eq_false_iff_not, String.not_lt] at hle
  exact Decidable.byContradiction fun hnot => hne (String.le_antisymm hle (String.not_lt.1 hnot))

theorem mem_findingsIn {f : Finding} : f ∈ findingsIn file findings ↔ f ∈ findings ∧ f.file = file := by
  unfold findingsIn
  rw [List.mem_mergeSort, List.mem_filter, beq_iff_eq]

/-- The findings of one file are listed by place. -/
theorem pairwise_findingsIn (file : String) (findings : List Finding) :
    (findingsIn file findings).Pairwise fun a b => placeLe a b = true :=
  List.pairwise_mergeSort placeLe_trans placeLe_total _

/-- The group of a file has the findings at each of its places as they were. -/
theorem filter_findingsIn (place : Finding) :
    (findingsIn place.file findings).filter (samePlace place) = findings.filter (samePlace place) := by
  unfold findingsIn
  rw [filter_mergeSort_of_pairwise placeLe_trans placeLe_total, List.filter_filter]
  · refine List.filter_congr fun f _ => ?_
    cases hplace : samePlace place f with
    | false => rfl
    | true => rw [(samePlace_iff.1 hplace).1, beq_self_eq_true, Bool.and_self]
  · refine List.pairwise_of_forall_mem_list fun a ha b hb => ?_
    exact (le_of_samePlace (List.mem_filter.1 ha).2 (List.mem_filter.1 hb).2).2

/-- The groups one after another are ordered and stable. -/
theorem stablySorted_flatMap_findingsIn (findings : List Finding) :
    StablySorted findings ((fileNames findings).flatMap (findingsIn · findings)) where
  ordered := by
    refine List.pairwise_flatMap.2 ⟨fun file _ => ?_, (pairwise_fileNames findings).imp ?_⟩
    · refine (pairwise_findingsIn file findings).imp_of_mem fun ha hb hab => le_iff.2 (.inr ⟨?_, hab⟩)
      rw [(mem_findingsIn.1 ha).2, (mem_findingsIn.1 hb).2]
    · intro first second hlt a ha b hb
      rw [le_iff, (mem_findingsIn.1 ha).2, (mem_findingsIn.1 hb).2]
      exact .inl hlt
  stable place := by
    rw [List.filter_flatMap]
    by_cases hfile : place.file ∈ fileNames findings
    · rw [flatMap_eq_of_unique (nodup_fileNames findings) hfile, filter_findingsIn]
      intro other _ hne
      refine List.filter_eq_nil_iff.2 fun f hf hplace => hne ?_
      rw [← (mem_findingsIn.1 hf).2, (samePlace_iff.1 hplace).1]
    · -- no finding is in the file of this place
      have hnone : ∀ f ∈ findings, ¬ samePlace place f = true := fun f hf hplace =>
        hfile (mem_fileNames.2 ⟨f, hf, (samePlace_iff.1 hplace).1.symm⟩)
      rw [List.filter_eq_nil_iff.2 hnone, List.flatMap_eq_nil_iff]
      intro file _
      exact List.filter_eq_nil_iff.2 fun f hf => hnone f (mem_findingsIn.1 hf).1

/-- The groups of all files, one after the other, are the sorted findings. -/
theorem flatMap_findingsIn (findings : List Finding) :
    (fileNames findings).flatMap (findingsIn · findings) = sort findings :=
  (stablySorted_flatMap_findingsIn findings).unique (stablySorted_sort findings)

end Report

end JavaAudit
