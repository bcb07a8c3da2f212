import JavaAudit.CompilationUnit.Lookup
import JavaAudit.Table

/-!
# Lookups that are remembered

A run of lookups in one unit keeps its answers. A question is told from another by the name and by the
key of the node, so a node that shares its key with an earlier one gets the answer that the earlier
one got, the answer that there is nothing included. Where nodes have different keys, remembering
changes no answer: `consult` then gives what `lookup` gives, whatever was asked before
(`consult_eq_lookup`), and keeps the recollection faithful (`faithful_consult`).
-/

namespace JavaAudit

/-- A name, and the key of the node where its meaning was asked. -/
abbrev Question : Type := String × Nat × Nat × String

/-- The answers given so far. -/
abbrev Recollection : Type := List (Question × Option Symbol)

namespace CompilationUnit

variable (u : CompilationUnit)

/-- The question what a name means at a node. -/
def question (name : String) (n : NodeId) : Question := (name, u.tree.key n)

/-- Answer as before if the question was asked before; otherwise look the name up and keep the
answer. -/
def consult (past : Recollection) (name : String) (n : NodeId) : Option Symbol × Recollection :=
  match Table.get? (u.question name n) past with
  | some answer => (answer, past)
  | none => (u.lookup name n, Table.put (u.question name n) (u.lookup name n) past)

/-- The recollection after a run of lookups. -/
def consultAll (past : Recollection) (asked : List (String × NodeId)) : Recollection :=
  asked.foldl (fun past q => (u.consult past q.1 q.2).2) past

/-- Every answer that a recollection holds for a node is the one that looking it up gives. -/
def Faithful (past : Recollection) : Prop :=
  ∀ name n answer, n < u.tree.size → Table.get? (u.question name n) past = some answer →
    answer = u.lookup name n

/-! ## Asking again -/

variable {u} {past : Recollection}

theorem consult_of_get?_eq_none {name : String} {n : NodeId}
    (h : Table.get? (u.question name n) past = none) :
    (u.consult past name n).1 = u.lookup name n := by
  simp [consult, h]

/-! ## Remembering changes no answer where keys differ -/

theorem faithful_nil : u.Faithful [] := by
  intro name n answer _ h
  simp [Table.get?] at h

theorem consult_eq_lookup {name : String} {n : NodeId} (hp : u.Faithful past)
    (hn : n < u.tree.size) : (u.consult past name n).1 = u.lookup name n := by
  cases h : Table.get? (u.question name n) past with
  | none => exact consult_of_get?_eq_none h
  | some answer => simpa [consult, h] using hp name n answer hn h

theorem faithful_consult {name : String} {n : NodeId}
    (hk : ∀ m < u.tree.size, ∀ k < u.tree.size, u.tree.key m = u.tree.key k → m = k)
    (hp : u.Faithful past) (hn : n < u.tree.size) : u.Faithful (u.consult past name n).2 := by
  intro other m answer hm h
  cases hq : Table.get? (u.question name n) past with
  | some known => exact hp other m answer hm (by simpa [consult, hq] using h)
  | none =>
    simp only [consult, hq, Table.get?_put] at h
    split at h
    · next same =>
      simp only [question, Prod.mk.injEq] at same
      obtain rfl := hk n hn m hm (by simpa [Prod.ext_iff] using same.2)
      simpa [same.1] using h.symm
    · exact hp other m answer hm h

theorem faithful_consultAll
    (hk : ∀ m < u.tree.size, ∀ k < u.tree.size, u.tree.key m = u.tree.key k → m = k)
    {asked : List (String × NodeId)} (hp : u.Faithful past)
    (ha : ∀ q ∈ asked, q.2 < u.tree.size) : u.Faithful (u.consultAll past asked) := by
  induction asked generalizing past with
  | nil => exact hp
  | cons q rest ih =>
    exact ih (faithful_consult hk hp (ha q (by simp))) fun r hr => ha r (by simp [hr])

end CompilationUnit

end JavaAudit
