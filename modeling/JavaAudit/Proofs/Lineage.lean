import Mathlib.Order.Lattice.Nat
import JavaAudit.CompilationUnit.Basic
import JavaAudit.Expression.Typing
import JavaAudit.Proofs.Reachability

/-!
# Lineages

A type is followed by its supertypes, breadth first. Types may inherit from each other in cycles and on
several ways, so the list of waiting types can hold a type that has been seen, or hold it twice. Still
every type comes once (`nodup_visit`), and types come in the order of their distance from the first one
(`pairwise_distance_visit`). For the order the waiting types are split into those of one level and those
found for the next one; `Level` says what the visit knows about both.

What is asked of lineages follows from reachability: being a subtype is reflexive and transitive
(`isSubtype_iff`), and a member is reached through every subtype of its owner, a constructor only through
its own type (`isAmong_iff`, `isAmong_constructor_iff`).
-/

namespace JavaAudit

namespace Hierarchy

variable {h : Hierarchy} {s : Strategy} {seen waiting level next : List String} {t a b c : String}
  {m n : Nat}

/-! ## Each type once -/

/-- A visit leaves out the types that have been seen. -/
theorem not_mem_seen_of_mem_visit (hb : b ∈ h.visit s seen waiting) : b ∉ seen := by
  fun_induction visit h s seen waiting with
  | case1 => cases hb
  | case2 seen a rest _ ih => exact ih hb
  | case3 seen a rest hseen ih =>
    rcases List.mem_cons.1 hb with rfl | hb
    · exact fun hmem => hseen (List.contains_iff_mem.2 hmem)
    · exact fun hmem => ih hb (List.mem_cons_of_mem a hmem)

/-- A visit comes to each type once. -/
theorem nodup_visit : (h.visit s seen waiting).Nodup := by
  fun_induction visit h s seen waiting with
  | case1 => exact List.nodup_nil
  | case2 seen a rest _ ih => exact ih
  | case3 seen a rest _ ih =>
    refine List.nodup_cons.2 ⟨fun hmem => ?_, ih⟩
    exact not_mem_seen_of_mem_visit hmem List.mem_cons_self

/-! ## Distances -/

/-- A chain of `n` direct supertypes leads from the first type to the second one. -/
inductive Climbs (h : Hierarchy) (t : String) : Nat → String → Prop where
  | here : Climbs h t 0 t
  | up {n : Nat} {b c : String} (hb : Climbs h t n b) (hc : h.Above b c) : Climbs h t (n + 1) c

/-- How many direct supertypes it takes at least to come from the first type to the second one. -/
noncomputable def distance (h : Hierarchy) (t b : String) : Nat := sInf {n | h.Climbs t n b}

theorem Climbs.reaches (hb : h.Climbs t n b) : h.Reaches t b := by
  induction hb with
  | here => exact .refl
  | up _ hc ih => exact ih.tail hc

theorem Reaches.exists_climbs (hb : h.Reaches t b) : ∃ n, h.Climbs t n b := by
  induction hb with
  | refl => exact ⟨0, .here⟩
  | tail _ hc ih =>
    obtain ⟨n, hn⟩ := ih
    exact ⟨n + 1, .up hn hc⟩

theorem Climbs.distance_le (hb : h.Climbs t n b) : h.distance t b ≤ n := Nat.sInf_le hb

/-- A type that can be reached, but by no chain shorter than `n`, is at least at distance `n`. -/
theorem le_distance (hb : h.Reaches t b) (hn : ∀ m < n, ¬ h.Climbs t m b) : n ≤ h.distance t b := by
  have hmem : h.Climbs t (h.distance t b) b := Nat.sInf_mem hb.exists_climbs
  by_contra hlt
  exact hn _ (Nat.lt_of_not_le hlt) hmem

/-! ## Levels

A breadth-first visit that started from `t` takes the types of level `n`, while those that it finds
queue up for level `n + 1`. -/

/-- What a breadth-first visit from `t` has done when `level` and then `next` are waiting. -/
structure Level (h : Hierarchy) (t : String) (n : Nat) (seen level next : List String) : Prop where
  /-- Everything nearer than the level has been seen. -/
  nearer : ∀ m < n, ∀ b, h.Climbs t m b → b ∈ seen
  /-- Everything on the level has been seen or is waiting. -/
  onLevel : ∀ b, h.Climbs t n b → b ∈ seen ∨ b ∈ level
  climbs_level : ∀ b ∈ level, h.Climbs t n b
  climbs_next : ∀ b ∈ next, h.Climbs t (n + 1) b
  /-- What is above a seen type has been seen or is waiting. -/
  above_seen : ∀ a ∈ seen, ∀ b, h.Above a b → b ∈ seen ∨ b ∈ level ∨ b ∈ next

namespace Level

theorem start : h.Level t 0 [] [t] [] where
  nearer m hm := absurd hm (Nat.not_lt_zero m)
  onLevel b hb := by
    cases hb
    exact .inr List.mem_cons_self
  climbs_level b hb := by
    rw [List.mem_singleton.1 hb]
    exact .here
  climbs_next b hb := by cases hb
  above_seen a ha := by cases ha

/-- When a level is done the next one begins. -/
theorem advance (hl : h.Level t n seen [] next) : h.Level t (n + 1) seen next [] where
  nearer m hm b hb := by
    rcases Nat.lt_or_eq_of_le (Nat.le_of_lt_succ hm) with hlt | rfl
    · exact hl.nearer m hlt b hb
    · exact (hl.onLevel b hb).resolve_right List.not_mem_nil
  onLevel c hc := by
    cases hc with
    | up hb hc =>
      have hseen := (hl.onLevel _ hb).resolve_right List.not_mem_nil
      exact (hl.above_seen _ hseen c hc).imp_right (Or.resolve_left · List.not_mem_nil)
  climbs_level := hl.climbs_next
  climbs_next b hb := by cases hb
  above_seen a ha b hb :=
    (hl.above_seen a ha b hb).imp_right fun hwait => .inl (hwait.resolve_left List.not_mem_nil)

/-- A waiting type that has been seen is dropped. -/
theorem skip (hl : h.Level t n seen (a :: level) next) (ha : a ∈ seen) :
    h.Level t n seen level next where
  nearer := hl.nearer
  onLevel b hb := by
    rcases hl.onLevel b hb with hseen | hmem
    · exact .inl hseen
    · rcases List.mem_cons.1 hmem with rfl | hlevel
      · exact .inl ha
      · exact .inr hlevel
  climbs_level b hb := hl.climbs_level b (List.mem_cons_of_mem a hb)
  climbs_next := hl.climbs_next
  above_seen d hd b hb := by
    rcases hl.above_seen d hd b hb with hseen | hmem | hnext
    · exact .inl hseen
    · rcases List.mem_cons.1 hmem with rfl | hlevel
      · exact .inl ha
      · exact .inr (.inl hlevel)
    · exact .inr (.inr hnext)

/-- A waiting type is taken, and what is above it queues up for the next level. -/
theorem take (hl : h.Level t n seen (a :: level) next) :
    h.Level t n (a :: seen) level (next ++ h.direct a) where
  nearer m hm b hb := List.mem_cons_of_mem a (hl.nearer m hm b hb)
  onLevel b hb := by
    rcases hl.onLevel b hb with hseen | hmem
    · exact .inl (List.mem_cons_of_mem a hseen)
    · rcases List.mem_cons.1 hmem with rfl | hlevel
      · exact .inl List.mem_cons_self
      · exact .inr hlevel
  climbs_level b hb := hl.climbs_level b (List.mem_cons_of_mem a hb)
  climbs_next b hb := by
    rcases List.mem_append.1 hb with hnext | hdirect
    · exact hl.climbs_next b hnext
    · exact .up (hl.climbs_level a List.mem_cons_self) hdirect
  above_seen d hd b hb := by
    rcases List.mem_cons.1 hd with rfl | hd
    · exact .inr (.inr (List.mem_append_right next hb))
    · rcases hl.above_seen d hd b hb with hseen | hmem | hnext
      · exact .inl (List.mem_cons_of_mem a hseen)
      · rcases List.mem_cons.1 hmem with rfl | hlevel
        · exact .inl List.mem_cons_self
        · exact .inr (.inl hlevel)
      · exact .inr (.inr (List.mem_append_left (h.direct a) hnext))

/-- The first waiting type is on the level that is being visited, or begins the next one. -/
theorem exists_cons {rest : List String} (hl : h.Level t n seen level next)
    (hw : level ++ next = a :: rest) :
    ∃ n' level' next', rest = level' ++ next' ∧ h.Level t n' seen (a :: level') next' := by
  cases level with
  | cons first level =>
    obtain ⟨rfl, hrest⟩ := List.cons.inj hw
    exact ⟨n, level, next, hrest.symm, hl⟩
  | nil =>
    rw [List.nil_append] at hw
    subst hw
    exact ⟨n + 1, rest, [], (List.append_nil rest).symm, hl.advance⟩

/-- What is visited from here on can be reached, and is not nearer than the level. -/
theorem le_distance_of_mem_visit (hl : h.Level t n seen level next)
    (hb : b ∈ h.visit s seen (level ++ next)) : n ≤ h.distance t b := by
  obtain ⟨a, ha, hreach⟩ := reaches_of_mem_visit hb
  have hstart : h.Reaches t a := by
    rcases List.mem_append.1 ha with hlevel | hnext
    · exact (hl.climbs_level a hlevel).reaches
    · exact (hl.climbs_next a hnext).reaches
  refine le_distance (hstart.trans hreach) fun m hm hclimb => ?_
  exact not_mem_seen_of_mem_visit hb (hl.nearer m hm b hclimb)

end Level

/-- A breadth-first visit comes to nearer types first. -/
theorem pairwise_distance_visit (hl : h.Level t n seen level next)
    (hw : waiting = level ++ next) :
    (h.visit .breadthFirst seen waiting).Pairwise fun b c => h.distance t b ≤ h.distance t c := by
  fun_induction visit h .breadthFirst seen waiting generalizing n level next with
  | case1 => exact List.Pairwise.nil
  | case2 seen a rest hseen ih =>
    obtain ⟨n', level', next', hrest, hl'⟩ := hl.exists_cons hw.symm
    exact ih (hl'.skip (List.contains_iff_mem.1 hseen)) hrest
  | case3 seen a rest _ ih =>
    obtain ⟨n', level', next', hrest, hl'⟩ := hl.exists_cons hw.symm
    have hwaiting : Strategy.breadthFirst.add (h.direct a) rest = level' ++ (next' ++ h.direct a) := by
      rw [Strategy.add, hrest, List.append_assoc]
    refine List.pairwise_cons.2 ⟨fun b hb => ?_, ih hl'.take hwaiting⟩
    rw [hwaiting] at hb
    have ha := (hl'.climbs_level a List.mem_cons_self).distance_le
    exact Nat.le_trans ha (hl'.take.le_distance_of_mem_visit hb)

/-! ## Lineages -/

theorem lineage_eq_cons (h : Hierarchy) (t : String) :
    h.lineage t = t :: h.visit .breadthFirst [t] (h.direct t) := by
  rw [lineage, visit, if_neg (by simp)]
  rfl

/-- The lineage holds the types within reach, and the type itself. -/
theorem mem_lineage_iff : b ∈ h.lineage t ↔ h.Reaches t b := by
  rw [lineage, mem_visit_iff]
  simp

/-- Nearer types come earlier. -/
theorem pairwise_distance_lineage (h : Hierarchy) (t : String) :
    (h.lineage t).Pairwise fun b c => h.distance t b ≤ h.distance t c :=
  pairwise_distance_visit .start rfl

/-- A type with a name is a subtype of those within its reach. -/
theorem isSubtype_iff {parents : List String} :
    h.isSubtype t parents = true ↔ t ≠ "" ∧ ∃ b ∈ parents, h.Reaches t b := by
  unfold isSubtype
  rw [Bool.and_eq_true, decide_eq_true_iff, List.any_eq_true]
  simp only [mem_lineage_iff, List.contains_iff_mem, and_comm]

end Hierarchy

namespace CallTarget

variable {h : Hierarchy} {sinks : List String} {owner member : String}

/-- A method is listed if it is for the owner or for a type that the owner inherits from. -/
theorem isAmong_iff (hm : member ≠ constructorName) :
    isAmong h sinks ⟨owner, member⟩ = true ↔
      ∃ b, h.Reaches owner b ∧ b ++ "." ++ member ∈ sinks := by
  unfold isAmong
  rw [if_neg hm, List.any_eq_true]
  simp only [Hierarchy.mem_lineage_iff, List.contains_iff_mem]

/-- Constructors are not inherited, so that only the owner's own counts. -/
theorem isAmong_constructor_iff :
    isAmong h sinks ⟨owner, constructorName⟩ = true ↔ owner ++ "." ++ constructorName ∈ sinks := by
  unfold isAmong
  rw [if_pos rfl, List.contains_iff_mem]
  rfl

end CallTarget

/-! ## The known types and those of a unit -/

/-- The known types, together with those of a unit where there is one. -/
def hierarchyOf : (symbols : Option CompilationUnit) → Hierarchy
  | none => Catalogue.hierarchy
  | some u => u.fullHierarchy

/-- The supertypes that a unit declares add to those of the catalogue. -/
theorem above_hierarchyOf_iff {symbols : Option CompilationUnit} {a b : String} :
    (hierarchyOf symbols).Above a b ↔
      b ∈ Catalogue.supertypes a ∨ ∃ u, symbols = some u ∧ b ∈ u.supertypes a := by
  cases symbols with
  | none =>
    constructor
    · exact .inl
    · rintro (hlisted | ⟨u, hu, -⟩)
      · exact hlisted
      · cases hu
  | some u =>
    constructor
    · intro hab
      exact (List.mem_append.1 hab).imp_right fun hdeclared => ⟨u, rfl, hdeclared⟩
    · rintro (hlisted | ⟨v, hv, hdeclared⟩)
      · exact List.mem_append_left _ hlisted
      · cases hv
        exact List.mem_append_right _ hdeclared

/-- A lineage begins with its type and holds, once each, exactly the types that chains of direct
supertypes lead to, the listed ones and those of the unit, nearer ones first. A type with a name is a subtype
of what is in its lineage, and a member is among the sinks if it is listed for a type in the lineage. So
every type with a name is a subtype of itself, a subtype of a subtype is one, and a member of a supertype is
among the sinks only if the same member of the type is; a constructor has to be among them itself. -/
theorem lineage_lists_supertypes_by_distance (symbols : Option CompilationUnit) (t : String) :
    let h := hierarchyOf symbols
    (∀ a b, h.Above a b ↔
        b ∈ Catalogue.supertypes a ∨ ∃ u, symbols = some u ∧ b ∈ u.supertypes a) ∧
      (h.lineage t).head? = some t ∧
      (h.lineage t).Nodup ∧
      (∀ b, b ∈ h.lineage t ↔ h.Reaches t b) ∧
      (h.lineage t).Pairwise (fun b c => h.distance t b ≤ h.distance t c) ∧
      (∀ parents, h.isSubtype t parents = true ↔ t ≠ "" ∧ ∃ b ∈ h.lineage t, b ∈ parents) ∧
      (∀ member sinks, member ≠ CallTarget.constructorName →
        (CallTarget.isAmong h sinks ⟨t, member⟩ = true ↔
          ∃ b ∈ h.lineage t, b ++ "." ++ member ∈ sinks)) ∧
      (t ≠ "" → h.isSubtype t [t] = true) ∧
      (∀ b parents, h.isSubtype t [b] = true → h.isSubtype b parents = true →
        h.isSubtype t parents = true) ∧
      (∀ b member sinks, member ≠ CallTarget.constructorName → b ∈ h.lineage t →
        CallTarget.isAmong h sinks ⟨b, member⟩ = true →
        CallTarget.isAmong h sinks ⟨t, member⟩ = true) ∧
      ∀ sinks, CallTarget.isAmong h sinks ⟨t, CallTarget.constructorName⟩ = true ↔
        t ++ "." ++ CallTarget.constructorName ∈ sinks := by
  intro h
  refine ⟨fun a b => above_hierarchyOf_iff, ?_, Hierarchy.nodup_visit,
    fun b => Hierarchy.mem_lineage_iff, h.pairwise_distance_lineage t, ?_, ?_, ?_, ?_, ?_, ?_⟩
  · rw [Hierarchy.lineage_eq_cons]
    rfl
  · intro parents
    simp only [Hierarchy.isSubtype_iff, Hierarchy.mem_lineage_iff, and_comm]
  · intro member sinks hmember
    simp only [CallTarget.isAmong_iff hmember, Hierarchy.mem_lineage_iff]
  · intro ht
    exact Hierarchy.isSubtype_iff.2 ⟨ht, t, List.mem_singleton_self t, .refl⟩
  · intro b parents hb hparents
    obtain ⟨ht, b', hmem, htb⟩ := Hierarchy.isSubtype_iff.1 hb
    obtain rfl := List.mem_singleton.1 hmem
    obtain ⟨-, p, hp, hbp⟩ := Hierarchy.isSubtype_iff.1 hparents
    exact Hierarchy.isSubtype_iff.2 ⟨ht, p, hp, htb.trans hbp⟩
  · intro b member sinks hmember hb hsink
    obtain ⟨owner, howner, hlisted⟩ := (CallTarget.isAmong_iff hmember).1 hsink
    have htb := Hierarchy.mem_lineage_iff.1 hb
    exact (CallTarget.isAmong_iff hmember).2 ⟨owner, htb.trans howner, hlisted⟩
  · exact fun sinks => CallTarget.isAmong_constructor_iff

/-- Two interfaces that extend each other; one of them extends a known type too. -/
def circularTypes : CompilationUnit :=
  .ofTree "A.java" (.ofNodes "interface A extends B\x7b\x7dinterface B extends A,Error\x7b\x7d" #[
    ⟨none, "program", true, false, 0, 52, none⟩,
    ⟨some 0, "interface_declaration", true, false, 0, 23, none⟩,
    ⟨some 1, "interface", false, false, 0, 9, none⟩,
    ⟨some 1, "identifier", true, false, 10, 11, some "name"⟩,
    ⟨some 1, "extends_interfaces", true, false, 12, 21, none⟩,
    ⟨some 4, "extends", false, false, 12, 19, none⟩,
    ⟨some 4, "type_list", true, false, 20, 21, none⟩,
    ⟨some 6, "type_identifier", true, false, 20, 21, none⟩,
    ⟨some 1, "interface_body", true, false, 21, 23, some "body"⟩,
    ⟨some 8, "\x7b", false, false, 21, 22, none⟩,
    ⟨some 8, "\x7d", false, false, 22, 23, none⟩,
    ⟨some 0, "interface_declaration", true, false, 23, 52, none⟩,
    ⟨some 11, "interface", false, false, 23, 32, none⟩,
    ⟨some 11, "identifier", true, false, 33, 34, some "name"⟩,
    ⟨some 11, "extends_interfaces", true, false, 35, 50, none⟩,
    ⟨some 14, "extends", false, false, 35, 42, none⟩,
    ⟨some 14, "type_list", true, false, 43, 50, none⟩,
    ⟨some 16, "type_identifier", true, false, 43, 44, none⟩,
    ⟨some 16, ",", false, false, 44, 45, none⟩,
    ⟨some 16, "type_identifier", true, false, 45, 50, none⟩,
    ⟨some 11, "interface_body", true, false, 50, 52, some "body"⟩,
    ⟨some 20, "\x7b", false, false, 50, 51, none⟩,
    ⟨some 20, "\x7d", false, false, 51, 52, none⟩])

/-- Two types that extend each other are listed once each, and both have the supertypes that one of them has in
the library. -/
theorem lineage_of_circularTypes :
    let h := hierarchyOf (some circularTypes)
    h.Above "A" "B" ∧ h.Above "B" "A" ∧ h.Above "B" "java.lang.Error" ∧
      (h.lineage "A").Nodup ∧ "A" ∈ h.lineage "B" ∧ "java.lang.Throwable" ∈ h.lineage "A" ∧
      h.isSubtype "A" ["A"] = true ∧
      h.isSubtype "A" ["java.lang.Throwable"] = true ∧
      CallTarget.isAmong h ["java.lang.Throwable.getCause"] ⟨"A", "getCause"⟩ = true := by
  intro h
  obtain ⟨habove, -, hnodup, hmem, -, -, -, hrefl, htrans, hsink, -⟩ :=
    lineage_lists_supertypes_by_distance (some circularTypes) "A"
  obtain ⟨-, -, -, hmemB, -⟩ :=
    lineage_lists_supertypes_by_distance (some circularTypes) "B"
  obtain ⟨hb, ha, he⟩ : "B" ∈ circularTypes.supertypes "A" ∧ "A" ∈ circularTypes.supertypes "B" ∧
      "java.lang.Error" ∈ circularTypes.supertypes "B" := by
    decide +kernel
  have hab : h.Above "A" "B" := (habove "A" "B").2 (.inr ⟨_, rfl, hb⟩)
  have hba : h.Above "B" "A" := (habove "B" "A").2 (.inr ⟨_, rfl, ha⟩)
  have hbe : h.Above "B" "java.lang.Error" := (habove "B" _).2 (.inr ⟨_, rfl, he⟩)
  have het : h.Above "java.lang.Error" "java.lang.Throwable" :=
    (habove _ _).2 (.inl (by decide +kernel))
  -- from one type through the other into the library
  have herror : h.Reaches "A" "java.lang.Error" := .tail (.tail .refl hab) hbe
  have hreach : h.Reaches "A" "java.lang.Throwable" := herror.tail het
  refine ⟨hab, hba, hbe, hnodup, (hmemB "A").2 (.tail .refl hba), (hmem _).2 hreach,
    hrefl (by decide), ?_, ?_⟩
  · refine htrans "java.lang.Error" _ ?_ ?_
    · exact Hierarchy.isSubtype_iff.2 ⟨by decide, _, List.mem_singleton_self _, herror⟩
    · exact Hierarchy.isSubtype_iff.2 ⟨by decide, _, List.mem_singleton_self _, .tail .refl het⟩
  · refine hsink "java.lang.Throwable" _ _ (by decide) ((hmem _).2 hreach) ?_
    exact (CallTarget.isAmong_iff (by decide)).2 ⟨_, .refl, List.mem_singleton_self _⟩

end JavaAudit
