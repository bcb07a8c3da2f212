import Mathlib.Logic.Relation
import JavaAudit.TypeName.Hierarchy

/-!
# Visiting a hierarchy is reachability

`visit` keeps a list of types that it has seen and one of types that wait. In whatever order the waiting
types are taken, it comes to exactly the types that chains of direct supertypes lead to
(`mem_visit_iff`), in hierarchies with cycles too. Nothing else is visited (`reaches_of_mem_visit`), no
waiting type is passed over (`mem_visit_of_waiting`), and the visited types are closed under direct
supertypes (`mem_visit_of_direct`).
-/

namespace JavaAudit

theorem Strategy.mem_add {s : Strategy} {found waiting : List String} {a : String} :
    a ∈ s.add found waiting ↔ a ∈ found ∨ a ∈ waiting := by
  cases s with
  | breadthFirst => exact List.mem_append.trans Or.comm
  | depthFirst => exact List.mem_append

namespace Hierarchy

variable {h : Hierarchy} {s : Strategy} {seen waiting : List String} {a b : String}

/-- The second type is a direct supertype of the first. -/
def Above (h : Hierarchy) (a b : String) : Prop := b ∈ h.direct a

/-- The second type is the first one or a supertype of it, direct or not. -/
def Reaches (h : Hierarchy) : String → String → Prop := Relation.ReflTransGen h.Above

/-- What is visited is within reach of a type that waits. -/
theorem reaches_of_mem_visit (hb : b ∈ h.visit s seen waiting) :
    ∃ a ∈ waiting, h.Reaches a b := by
  fun_induction visit h s seen waiting with
  | case1 => cases hb
  | case2 seen a rest _ ih =>
    obtain ⟨c, hc, hreach⟩ := ih hb
    exact ⟨c, List.mem_cons_of_mem a hc, hreach⟩
  | case3 seen a rest _ ih =>
    rcases List.mem_cons.1 hb with rfl | hb
    · exact ⟨b, List.mem_cons_self, .refl⟩
    · obtain ⟨c, hc, hreach⟩ := ih hb
      rcases Strategy.mem_add.1 hc with hdirect | hrest
      · exact ⟨a, List.mem_cons_self, .head hdirect hreach⟩
      · exact ⟨c, List.mem_cons_of_mem a hrest, hreach⟩

/-- A waiting type is visited unless it was seen before. -/
theorem mem_visit_of_waiting (ha : a ∈ waiting) : a ∈ seen ∨ a ∈ h.visit s seen waiting := by
  fun_induction visit h s seen waiting with
  | case1 => cases ha
  | case2 seen first rest hseen ih =>
    rcases List.mem_cons.1 ha with rfl | hrest
    · exact .inl (List.contains_iff_mem.1 hseen)
    · exact ih hrest
  | case3 seen first rest _ ih =>
    rcases List.mem_cons.1 ha with rfl | hrest
    · exact .inr List.mem_cons_self
    · rcases ih (Strategy.mem_add.2 (.inr hrest)) with hseen | hvisit
      · rcases List.mem_cons.1 hseen with rfl | hseen
        · exact .inr List.mem_cons_self
        · exact .inl hseen
      · exact .inr (List.mem_cons_of_mem first hvisit)

/-- A direct supertype of a visited type is visited unless it was seen before. -/
theorem mem_visit_of_direct (ha : a ∈ h.visit s seen waiting) (hb : h.Above a b) :
    b ∈ seen ∨ b ∈ h.visit s seen waiting := by
  fun_induction visit h s seen waiting with
  | case1 => cases ha
  | case2 seen first rest _ ih => exact ih ha
  | case3 seen first rest _ ih =>
    have hlater : b ∈ first :: seen ∨
        b ∈ h.visit s (first :: seen) (s.add (h.direct first) rest) := by
      rcases List.mem_cons.1 ha with rfl | ha
      · exact mem_visit_of_waiting (Strategy.mem_add.2 (.inl hb))
      · exact ih ha
    rcases hlater with hseen | hvisit
    · rcases List.mem_cons.1 hseen with rfl | hseen
      · exact .inr List.mem_cons_self
      · exact .inl hseen
    · exact .inr (List.mem_cons_of_mem first hvisit)

/-- With nothing seen before, a visit comes to exactly what can be reached. -/
theorem mem_visit_iff : b ∈ h.visit s [] waiting ↔ ∃ a ∈ waiting, h.Reaches a b := by
  constructor
  · exact reaches_of_mem_visit
  · rintro ⟨a, ha, hreach⟩
    -- a chain of direct supertypes never leaves the visited types
    induction hreach with
    | refl => exact (mem_visit_of_waiting ha).resolve_left List.not_mem_nil
    | tail _ hdirect ih => exact (mem_visit_of_direct ih hdirect).resolve_left List.not_mem_nil

/-- A visit that starts from the direct supertypes of a type comes to all its supertypes. -/
theorem mem_visit_direct_iff :
    b ∈ h.visit s [] (h.direct a) ↔ Relation.TransGen h.Above a b := by
  rw [mem_visit_iff, Relation.TransGen.head'_iff]
  rfl

end Hierarchy

end JavaAudit
