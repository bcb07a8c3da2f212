import JavaAudit.Table

/-!
# Reading tables

What is found under a key of a table: after one entry is written (`get?_put`, `get?_putNew`), and after
many are, where the last one under a key counts (`get?_ofEntries`). A table that is written this way has
every key once, so that reading a key and looking for an entry are the same (`get?_eq_some_iff_mem`).
-/

namespace JavaAudit.Table

variable {κ α : Type} [DecidableEq κ]

/-! ## Many entries -/

/-- After several entries, the last one for a key counts. -/
theorem get?_foldl_put (key : κ) (entries table : List (κ × α)) :
    get? key (entries.foldl (fun table entry => put entry.1 entry.2 table) table) =
      ((entries.reverse.find? fun entry => entry.1 = key).map (·.2)).or (get? key table) := by
  induction entries generalizing table with
  | nil => rfl
  | cons first rest ih =>
    rw [List.foldl_cons, ih, get?_put, List.reverse_cons, List.find?_append]
    -- the first write counts only if none of the later ones is under the key
    cases rest.reverse.find? fun entry => entry.1 = key with
    | some later => rfl
    | none =>
      by_cases hfirst : first.1 = key
      · simp [hfirst]
      · simp [hfirst]

/-- Of several entries under one key the last one counts. -/
theorem get?_ofEntries (key : κ) (entries : List (κ × α)) :
    get? key (ofEntries entries) =
      (entries.reverse.find? fun entry => entry.1 = key).map (·.2) := by
  rw [ofEntries, get?_foldl_put]
  exact Option.or_none

/-- Where entries under one key have one value, a value is found exactly if it is entered. -/
theorem get?_ofEntries_eq_some_iff {key : κ} {v : α} {entries : List (κ × α)}
    (h : ∀ a ∈ entries, a.1 = key → ∀ b ∈ entries, b.1 = key → a.2 = b.2) :
    get? key (ofEntries entries) = some v ↔ (key, v) ∈ entries := by
  rw [get?_ofEntries, Option.map_eq_some_iff]
  constructor
  · rintro ⟨entry, hentry, rfl⟩
    have hkey : entry.1 = key := by simpa using List.find?_some hentry
    rw [← hkey]
    exact List.mem_reverse.1 (List.mem_of_find?_eq_some hentry)
  · intro hmem
    have hsome : (entries.reverse.find? fun entry => entry.1 = key).isSome = true :=
      List.find?_isSome.2 ⟨(key, v), List.mem_reverse.2 hmem, by simp⟩
    obtain ⟨entry, hentry⟩ := Option.isSome_iff_exists.1 hsome
    have hkey : entry.1 = key := by simpa using List.find?_some hentry
    have hentry' := List.mem_reverse.1 (List.mem_of_find?_eq_some hentry)
    exact ⟨entry, hentry, h entry hentry' hkey (key, v) hmem rfl⟩

/-- A value is found under a key exactly if it is that of the last entry under the key. -/
theorem get?_ofEntries_eq_some_iff_last {key : κ} {v : α} {entries : List (κ × α)} :
    get? key (ofEntries entries) = some v ↔
      ∃ before after, entries = before ++ (key, v) :: after ∧ ∀ e ∈ after, e.1 ≠ key := by
  rw [get?_ofEntries, Option.map_eq_some_iff]
  simp only [List.find?_eq_some_iff_append, decide_eq_true_eq, Bool.not_eq_true',
    decide_eq_false_iff_not]
  constructor
  · rintro ⟨⟨k, w⟩, ⟨rfl, later, earlier, hsplit, hlater⟩, rfl⟩
    refine ⟨earlier.reverse, later.reverse, ?_, fun e he => hlater e (List.mem_reverse.1 he)⟩
    rw [← List.reverse_inj, hsplit]
    simp
  · rintro ⟨before, after, rfl, hafter⟩
    refine ⟨(key, v), ⟨rfl, after.reverse, before.reverse, by simp, fun e he => ?_⟩, rfl⟩
    exact hafter e (List.mem_reverse.1 he)

/-! ## Entries for new keys only -/

theorem get?_append (key : κ) (table rest : List (κ × α)) :
    get? key (table ++ rest) = (get? key table).or (get? key rest) := by
  induction table with
  | nil => rfl
  | cons entry table ih =>
    obtain ⟨k, v⟩ := entry
    by_cases hk : k = key
    · simp [get?, hk]
    · simp [get?, hk, ih]

/-- An entry under a key that is there already has no effect. -/
theorem get?_putNew (key other : κ) (v : α) (table : List (κ × α)) :
    get? other (putNew key v table) = (get? other table).or (if key = other then some v else none) := by
  unfold putNew
  split
  · next hthere =>
    by_cases hkey : key = other
    · subst hkey
      obtain ⟨w, hw⟩ := Option.isSome_iff_exists.1 hthere
      rw [hw, Option.some_or]
    · rw [if_neg hkey, Option.or_none]
  · rw [get?_append]
    rfl

/-! ## Keys -/

/-- An entry for a known key keeps its place, and one for a new key comes last. -/
theorem keys_put (key : κ) (v : α) (table : List (κ × α)) :
    keys (put key v table) = if key ∈ keys table then keys table else keys table ++ [key] := by
  induction table with
  | nil => rfl
  | cons entry rest ih =>
    obtain ⟨k, w⟩ := entry
    by_cases hk : k = key
    · simp [put, keys, hk]
    · have hput : keys (put key v ((k, w) :: rest)) = k :: keys (put key v rest) := by
        simp [put, keys, hk]
      rw [hput, ih]
      by_cases hrest : key ∈ keys rest
      · have hmem : key ∈ keys ((k, w) :: rest) := List.mem_cons_of_mem k hrest
        rw [if_pos hrest, if_pos hmem]
        rfl
      · have hnot : key ∉ keys ((k, w) :: rest) := List.not_mem_cons_of_ne_of_not_mem (Ne.symm hk) hrest
        rw [if_neg hrest, if_neg hnot]
        rfl

theorem nodup_keys_put {table : List (κ × α)} (h : (keys table).Nodup) (key : κ) (v : α) :
    (keys (put key v table)).Nodup := by
  rw [keys_put]
  split
  · exact h
  · next hnot =>
    rw [List.nodup_append]
    refine ⟨h, by simp, ?_⟩
    rintro k hk _ hkey rfl
    exact hnot (List.mem_singleton.1 hkey ▸ hk)

/-- Entries written one after another leave every key once. -/
theorem nodup_keys_ofEntries (entries : List (κ × α)) : (keys (ofEntries entries)).Nodup := by
  -- from any table with distinct keys on
  suffices h : ∀ table : List (κ × α), (keys table).Nodup →
      (keys (entries.foldl (fun table entry => put entry.1 entry.2 table) table)).Nodup from
    h [] List.nodup_nil
  induction entries with
  | nil => exact fun table htable => htable
  | cons entry rest ih => exact fun table htable => ih _ (nodup_keys_put htable entry.1 entry.2)

theorem exists_get?_of_mem_keys {key : κ} {table : List (κ × α)} (h : key ∈ keys table) :
    ∃ v, get? key table = some v := by
  induction table with
  | nil => cases h
  | cons entry rest ih =>
    obtain ⟨k, w⟩ := entry
    by_cases hk : k = key
    · exact ⟨w, if_pos hk⟩
    · obtain ⟨v, hv⟩ := ih ((List.mem_cons.1 h).resolve_left (Ne.symm hk))
      exact ⟨v, (if_neg hk).trans hv⟩

theorem mem_keys_of_get? {key : κ} {v : α} {table : List (κ × α)} (h : get? key table = some v) :
    key ∈ keys table := by
  refine Decidable.byContradiction fun hnot => ?_
  rw [get?_eq_none_of_not_mem hnot] at h
  cases h

/-- Where no key stands twice, an entry is found exactly if it is there. -/
theorem get?_eq_some_iff_mem {key : κ} {v : α} {table : List (κ × α)} (h : (keys table).Nodup) :
    get? key table = some v ↔ (key, v) ∈ table := by
  induction table with
  | nil => simp [get?]
  | cons entry rest ih =>
    obtain ⟨k, w⟩ := entry
    obtain ⟨hk, hrest⟩ := List.nodup_cons.1 h
    rw [get?, List.mem_cons]
    by_cases hkey : k = key
    · -- the key of the first entry is not that of a later one
      subst hkey
      have hlater : (k, v) ∉ rest := fun hmem => hk (List.mem_map.2 ⟨(k, v), hmem, rfl⟩)
      rw [if_pos rfl]
      simp [hlater, eq_comm]
    · rw [if_neg hkey, ih hrest]
      simp [Ne.symm hkey]

end JavaAudit.Table
