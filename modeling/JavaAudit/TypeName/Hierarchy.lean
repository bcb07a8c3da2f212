import JavaAudit.TypeName.Catalogue

/-!
# Type hierarchies

A hierarchy gives every type its direct supertypes; all but finitely many types have none. `visit`
collects what can be reached from some types, breadth first or depth first, each type once. It ends
although types may inherit from each other in cycles: every visit of a type that has supertypes makes
one of the finitely many such types seen.
-/

namespace JavaAudit

/-- Direct supertypes, where only the `declared` types have any. -/
structure Hierarchy where
  declared : List String
  direct : String → List String
  direct_eq_nil : ∀ name, name ∉ declared → direct name = []

/-- Where newly found types go: behind the types still waiting, or in front of them. -/
inductive Strategy where
  | breadthFirst
  | depthFirst
  deriving DecidableEq, Repr

/-- Put newly found types with the waiting ones. -/
def Strategy.add (found waiting : List String) : Strategy → List String
  | .breadthFirst => waiting ++ found
  | .depthFirst => found ++ waiting

theorem Strategy.add_nil (s : Strategy) (waiting : List String) : s.add [] waiting = waiting := by
  cases s <;> simp [add]

namespace Hierarchy

variable (h : Hierarchy)

/-- How many declared types have not been seen. -/
def unseen (seen : List String) : Nat := h.declared.countP fun a => !seen.contains a

theorem unseen_cons_le (a : String) (seen : List String) : h.unseen (a :: seen) ≤ h.unseen seen := by
  refine List.countP_mono_left fun b _ hb => ?_
  simp_all

theorem unseen_cons_lt {a : String} {seen : List String} (hd : a ∈ h.declared)
    (ha : seen.contains a = false) : h.unseen (a :: seen) < h.unseen seen := by
  obtain ⟨before, after, hsplit⟩ := List.append_of_mem hd
  have mono : ∀ l : List String,
      l.countP (fun b => !(a :: seen).contains b) ≤ l.countP (fun b => !seen.contains b) :=
    fun l => List.countP_mono_left fun b _ hb => by simp_all
  have h₁ := mono before
  have h₂ := mono after
  simp only [unseen, hsplit, List.countP_append, List.countP_cons]
  simp only [ha, List.contains_cons, BEq.rfl, Bool.true_or, Bool.not_true, Bool.not_false] at h₁ h₂ ⊢
  simp only [if_true, Bool.false_eq_true, if_false]
  omega

/-- The types reached from the waiting ones without passing through a type already seen, in the order
in which they are met. -/
def visit (s : Strategy) (seen : List String) : (waiting : List String) → List String
  | [] => []
  | a :: rest =>
    if seen.contains a then visit s seen rest
    else a :: visit s (a :: seen) (s.add (h.direct a) rest)
termination_by waiting => (h.unseen seen, waiting.length)
decreasing_by
  · exact Prod.Lex.right _ (by simp)
  · rename_i ha
    by_cases hd : a ∈ h.declared
    · exact Prod.Lex.left _ _ (h.unseen_cons_lt hd (by simpa using ha))
    · rw [h.direct_eq_nil a hd, Strategy.add_nil]
      rcases Nat.lt_or_eq_of_le (h.unseen_cons_le a seen) with hlt | heq
      · exact Prod.Lex.left _ _ hlt
      · rw [heq]
        exact Prod.Lex.right _ (by simp)

/-- A type followed by all its supertypes, breadth first. -/
def lineage (name : String) : List String := h.visit .breadthFirst [] [name]

/-- Is the type, or one of its supertypes, among these? -/
def isSubtype (name : String) (parents : List String) : Bool :=
  name ≠ "" && (h.lineage name).any parents.contains

/-- Both hierarchies together, supertypes of the first one in front. -/
def join (g h : Hierarchy) : Hierarchy where
  declared := g.declared ++ h.declared
  direct name := g.direct name ++ h.direct name
  direct_eq_nil name hname := by
    simp only [List.mem_append, not_or] at hname
    simp [g.direct_eq_nil name hname.1, h.direct_eq_nil name hname.2]

end Hierarchy

theorem Catalogue.supertypes_eq_nil {name : String}
    (hname : name ∉ supertypeTable.map (·.1)) : supertypes name = [] := by
  have : supertypeTable.lookup name = none := by
    rw [List.lookup_eq_none_iff]
    intro entry hentry
    simp only [List.mem_map, not_exists, not_and] at hname
    simpa using fun heq => hname entry hentry heq.symm
  simp [supertypes, this]

/-- The hierarchy of the listed types. -/
def Catalogue.hierarchy : Hierarchy where
  declared := supertypeTable.map (·.1)
  direct := supertypes
  direct_eq_nil _ := supertypes_eq_nil

end JavaAudit
