/-!
# Tables in order of insertion

A table is a list of entries with distinct keys. Writing under a key that is already there replaces the
value and keeps the place; a new key goes to the end.
-/

namespace JavaAudit.Table

variable {κ α : Type} [DecidableEq κ]

/-- The value under a key. -/
def get? (key : κ) : List (κ × α) → Option α
  | [] => none
  | (k, v) :: rest => if k = key then some v else get? key rest

/-- Write a value under a key. -/
def put (key : κ) (v : α) : List (κ × α) → List (κ × α)
  | [] => [(key, v)]
  | (k, w) :: rest => if k = key then (k, v) :: rest else (k, w) :: put key v rest

/-- Write a value under a key that is not there yet. -/
def putNew (key : κ) (v : α) (table : List (κ × α)) : List (κ × α) :=
  if (get? key table).isSome then table else table ++ [(key, v)]

/-- The table of entries that are written one after another. -/
def ofEntries (entries : List (κ × α)) : List (κ × α) :=
  entries.foldl (fun table entry => put entry.1 entry.2 table) []

def keys (table : List (κ × α)) : List κ := table.map (·.1)

/-- Count one more occurrence of a key. -/
def bump (table : List (κ × Nat)) (key : κ) : List (κ × Nat) :=
  put key ((get? key table).getD 0 + 1) table

/-- How often each key occurs, in order of first occurrence. -/
def count (occurrences : List κ) : List (κ × Nat) := occurrences.foldl bump []

/-! ## Reading after writing -/

theorem get?_eq_none_of_not_mem {key : κ} {table : List (κ × α)} (h : key ∉ keys table) :
    get? key table = none := by
  induction table with
  | nil => rfl
  | cons entry rest ih =>
    obtain ⟨k, v⟩ := entry
    simp only [keys, List.map_cons, List.mem_cons, not_or] at h
    simp [get?, Ne.symm h.1, ih h.2]

theorem get?_put (key other : κ) (v : α) (table : List (κ × α)) :
    get? other (put key v table) = if key = other then some v else get? other table := by
  induction table with
  | nil => simp [put, get?]
  | cons entry rest ih =>
    obtain ⟨k, w⟩ := entry
    by_cases hk : k = key
    · subst hk
      by_cases ho : k = other <;> simp [put, get?, ho]
    · by_cases ho : k = other
      · subst ho
        simp [put, get?, hk, Ne.symm hk]
      · simp [put, get?, hk, ho, ih]

end JavaAudit.Table
