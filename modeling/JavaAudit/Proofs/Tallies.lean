import Mathlib.Data.List.Count
import Mathlib.Data.List.Nodup
import JavaAudit.Proofs.Tables
import JavaAudit.Report.Summary

/-!
# Numbers of findings

A tally has everything that occurs in a list, each once, with the number of its occurrences, and nothing else
(`IsTally`). Two tallies of one list differ in their order only (`IsTally.perm`), and the numbers of a tally
add up to the length of the list (`IsTally.total_eq_length`). Counting one occurrence after another gives a
tally (`isTally_count`), and so do the three orders in which reports show the numbers.
-/

namespace JavaAudit

/-- The counts of everything that occurs, each once. -/
structure IsTally {κ : Type} [DecidableEq κ] (counts : List (κ × Nat)) (occurrences : List κ) :
    Prop where
  nodup_keys : (Table.keys counts).Nodup
  mem_iff : ∀ key n, (key, n) ∈ counts ↔ key ∈ occurrences ∧ n = occurrences.count key

namespace IsTally

variable {κ β : Type} [DecidableEq κ] [DecidableEq β] {counts other : List (κ × Nat)}
  {occurrences : List κ}

theorem nodup (h : IsTally counts occurrences) : counts.Nodup := List.Nodup.of_map _ h.nodup_keys

/-- Two tallies of the same occurrences differ in their order only. -/
theorem perm (h : IsTally counts occurrences) (h' : IsTally other occurrences) : counts.Perm other := by
  refine (List.perm_ext_iff_of_nodup h.nodup h'.nodup).2 fun entry => ?_
  rw [h.mem_iff entry.1 entry.2, h'.mem_iff entry.1 entry.2]

theorem of_perm (h : IsTally counts occurrences) (hperm : other.Perm counts) :
    IsTally other occurrences where
  nodup_keys := (hperm.map _).nodup_iff.2 h.nodup_keys
  mem_iff key n := hperm.mem_iff.trans (h.mem_iff key n)

/-- Other names for what occurs make no difference, if they are all different. -/
theorem map (h : IsTally counts occurrences) {name : κ → β} (hname : Function.Injective name) :
    IsTally (counts.map fun entry => (name entry.1, entry.2)) (occurrences.map name) where
  nodup_keys := by
    have hkeys : Table.keys (counts.map fun entry => (name entry.1, entry.2)) =
        (Table.keys counts).map name := by
      simp only [Table.keys, List.map_map, Function.comp_def]
    rw [hkeys]
    exact h.nodup_keys.map hname
  mem_iff key n := by
    simp only [List.mem_map]
    constructor
    · rintro ⟨⟨k, m⟩, hmem, hentry⟩
      obtain ⟨rfl, rfl⟩ := Prod.mk.inj hentry
      obtain ⟨hk, hm⟩ := (h.mem_iff k m).1 hmem
      exact ⟨⟨k, hk, rfl⟩, by rw [hm, List.count_map_of_injective _ _ hname]⟩
    · rintro ⟨⟨k, hk, rfl⟩, rfl⟩
      refine ⟨(k, occurrences.count k), (h.mem_iff k _).2 ⟨hk, rfl⟩, ?_⟩
      rw [List.count_map_of_injective _ _ hname]

end IsTally

/-! ## Counting -/

namespace Table

variable {κ : Type} [DecidableEq κ]

/-- Counting a key leaves the other counts alone. -/
theorem get?_bump (key other : κ) (table : List (κ × Nat)) :
    get? other (bump table key) =
      if key = other then some ((get? key table).getD 0 + 1) else get? other table :=
  get?_put key other _ table

/-- Counting on from a table adds the occurrences to what is there. -/
theorem get?_foldl_bump (key : κ) (occurrences : List κ) (table : List (κ × Nat)) :
    get? key (occurrences.foldl bump table) =
      if key ∈ occurrences then some ((get? key table).getD 0 + occurrences.count key)
      else get? key table := by
  induction occurrences generalizing table with
  | nil => simp
  | cons first rest ih =>
    rw [List.foldl_cons, ih, get?_bump]
    by_cases hfirst : first = key
    · subst hfirst
      by_cases hrest : first ∈ rest
      · simp [hrest]
        omega
      · simp [hrest, List.count_eq_zero_of_not_mem]
    · have hother : key ≠ first := Ne.symm hfirst
      simp [hfirst, hother, List.count_cons_of_ne hfirst]

theorem nodup_keys_count (occurrences : List κ) : (keys (count occurrences)).Nodup := by
  suffices h : ∀ table : List (κ × Nat), (keys table).Nodup →
      (keys (occurrences.foldl bump table)).Nodup from h [] List.nodup_nil
  induction occurrences with
  | nil => exact fun table htable => htable
  | cons first rest ih => exact fun table htable => ih _ (nodup_keys_put htable first _)

/-- Counting one by one gives a tally. -/
theorem isTally_count (occurrences : List κ) : IsTally (count occurrences) occurrences where
  nodup_keys := nodup_keys_count occurrences
  mem_iff key n := by
    rw [← get?_eq_some_iff_mem (nodup_keys_count occurrences), count, get?_foldl_bump]
    by_cases hkey : key ∈ occurrences
    · simp [hkey, get?, eq_comm]
    · simp [hkey, get?]

end Table

/-! ## Totals -/

namespace Table

variable {κ : Type}

/-- The sum of all counts. -/
def total : List (κ × Nat) → Nat
  | [] => 0
  | (_, n) :: rest => n + total rest

theorem total_perm {counts other : List (κ × Nat)} (h : counts.Perm other) :
    total counts = total other := by
  induction h with
  | nil => rfl
  | cons entry _ ih => rw [total, total, ih]
  | swap first second rest =>
    simp only [total]
    omega
  | trans _ _ ih ih' => exact ih.trans ih'

variable [DecidableEq κ]

/-- A write replaces what was there. -/
theorem total_put (key : κ) (n : Nat) (table : List (κ × Nat)) :
    total (put key n table) + (get? key table).getD 0 = total table + n := by
  induction table with
  | nil => simp [put, get?, total]
  | cons entry rest ih =>
    obtain ⟨k, m⟩ := entry
    by_cases hkey : k = key
    · rw [put, get?, if_pos hkey, if_pos hkey, total, total, Option.getD_some]
      omega
    · rw [put, get?, if_neg hkey, if_neg hkey, total, total]
      omega

/-- Each occurrence adds one to the total. -/
theorem total_foldl_bump (occurrences : List κ) (table : List (κ × Nat)) :
    total (occurrences.foldl bump table) = total table + occurrences.length := by
  induction occurrences generalizing table with
  | nil => rfl
  | cons first rest ih =>
    have hstep := total_put first ((get? first table).getD 0 + 1) table
    rw [List.foldl_cons, ih, List.length_cons, bump]
    omega

end Table

/-- The counts add up to the number of occurrences. -/
theorem IsTally.total_eq_length {κ : Type} [DecidableEq κ] {counts : List (κ × Nat)} {occurrences : List κ}
    (h : IsTally counts occurrences) : Table.total counts = occurrences.length := by
  rw [Table.total_perm (h.perm (Table.isTally_count occurrences)), Table.count, Table.total_foldl_bump]
  exact Nat.zero_add _

/-! ## The orders of the reports -/

theorem Severity.mem_all (level : Severity) : level ∈ Severity.all := by
  cases level <;> decide

theorem Severity.find?_name (level : Severity) :
    Severity.all.find? (fun other => other.name = level.name) = some level := by
  cases level <;> decide

/-- No two severities have the same name. -/
theorem Severity.name_injective : Function.Injective Severity.name := by
  intro a b h
  have hfound := a.find?_name
  rw [h, b.find?_name] at hfound
  exact (Option.some.inj hfound).symm

namespace Report

/-- Sorting by name keeps a tally. -/
theorem isTally_byName {counts : List (String × Nat)} {occurrences : List String}
    (h : IsTally counts occurrences) : IsTally (byName counts) occurrences :=
  h.of_perm (List.mergeSort_perm _ _)

theorem isTally_largestFirst {counts : List (String × Nat)} {occurrences : List String}
    (h : IsTally counts occurrences) : IsTally (largestFirst counts) occurrences :=
  h.of_perm (List.mergeSort_perm _ _)

/-- Asking for one level after another leaves no level out. -/
theorem isTally_gravestFirst {counts : List (Severity × Nat)} {occurrences : List Severity}
    (h : IsTally counts occurrences) : IsTally (gravestFirst counts) occurrences where
  nodup_keys := by
    have hlevels : Severity.all.reverse.Nodup := by decide
    refine List.pairwise_map.2 (List.pairwise_filterMap.2 (hlevels.imp fun hne entry he entry' he' => ?_))
    obtain ⟨n, -, rfl⟩ := Option.map_eq_some_iff.1 he
    obtain ⟨n', -, rfl⟩ := Option.map_eq_some_iff.1 he'
    exact hne
  mem_iff level n := by
    rw [← h.mem_iff, ← Table.get?_eq_some_iff_mem h.nodup_keys]
    unfold gravestFirst
    simp only [List.mem_filterMap, List.mem_reverse, Option.map_eq_some_iff, Prod.mk.injEq]
    constructor
    · rintro ⟨k, -, m, hm, rfl, rfl⟩
      exact hm
    · exact fun hget => ⟨level, level.mem_all, n, hget, rfl, rfl⟩

end Report

end JavaAudit
