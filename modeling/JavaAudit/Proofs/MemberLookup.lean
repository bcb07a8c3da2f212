import JavaAudit.Proofs.DeclaredTypes
import JavaAudit.Proofs.Lineage

/-!
# Members along the hierarchy

A field or a method of a type is looked for in the type itself and in the supertypes that the unit
declares. Fields are searched depth first, with one set of seen types for all branches of the search;
methods are searched breadth first. In both searches a type may be left out because it has been seen, and
types may inherit from each other in cycles. No member is lost by that: a search succeeds exactly if a
type within reach declares the name (`answers_fieldOf`, `answers_methodOf`). A field of the type itself
comes first (`fieldOf_of_hasOwnField`), and a method comes from a type as near as any that declares one
(`methodOf_nearest`).
-/

namespace JavaAudit

namespace SyntaxTree

/-- A method that a type body itself declares, at its top or in the part behind the constants of an
enum. -/
structure IsMethod (t : SyntaxTree) (name : String) (body m : NodeId) : Prop where
  type : t.type m = "method_declaration"
  names : t.Names name m
  member : m ∈ t.parts body ∨
    ∃ part, t.childOfType? body ["enum_body_declarations"] = some part ∧ m ∈ t.parts part

end SyntaxTree

namespace CompilationUnit

open SyntaxTree

variable {u : CompilationUnit} {name type owner : String} {s : Symbol} {n d m : Nat}

/-! ## Declared types -/

/-- The declaration under a name declares the type. -/
theorem declares_of_declaration? (h : u.declaration? type = some n) : u.Declares n type := by
  unfold declaration? at h
  rw [u.types_eq, TypeTable.declarations_collect, Table.get?_ofEntries] at h
  obtain ⟨entry, hentry, rfl⟩ := Option.map_eq_some_iff.1 h
  have hname : entry.1 = type := by simpa using List.find?_some hentry
  rw [← hname]
  exact mem_entries_iff.1 (List.mem_reverse.1 (List.mem_of_find?_eq_some hentry))

/-- A type that some node declares has a declaration under its name. -/
theorem Declares.exists_declaration? (h : u.Declares n type) :
    ∃ decl, u.declaration? type = some decl := by
  refine Option.isSome_iff_exists.1 ?_
  unfold declaration?
  rw [u.types_eq, TypeTable.declarations_collect, Table.get?_ofEntries, Option.isSome_map]
  exact List.find?_isSome.2 ⟨(type, n), List.mem_reverse.2 (mem_entries_iff.2 h), by simp⟩

/-! ## Members of one type -/

/-- A method that a declared type itself has. -/
def HasOwnMethod (u : CompilationUnit) (name type : String) (m : NodeId) : Prop :=
  ∃ decl, u.declaration? type = some decl ∧
    ∃ body, u.tree.field? decl "body" = some body ∧ u.tree.IsMethod name body m

/-- The members of a body, and those behind the constants of an enum. -/
theorem mem_membersOf_iff {body : Nat} :
    m ∈ u.membersOf body ↔ m ∈ u.tree.parts body ∨
      ∃ part, u.tree.childOfType? body ["enum_body_declarations"] = some part ∧
        m ∈ u.tree.parts part := by
  unfold membersOf
  rw [List.mem_append]
  cases u.tree.childOfType? body ["enum_body_declarations"] with
  | none => simp
  | some part => simp

/-- A method is found in the type that declares it, by its name. -/
theorem answers_ownMethod (type : String) :
    Answers (u.ownMethod type name) name
      fun k d => k = .method ∧ u.HasOwnMethod name type d where
  sound s hs := by
    obtain ⟨body, hbody, hs⟩ := Option.bind_eq_some_iff.1 hs
    obtain ⟨decl, hdecl, hbody⟩ := Option.bind_eq_some_iff.1 hbody
    obtain ⟨m, hm, rfl⟩ := Option.map_eq_some_iff.1 hs
    have hmem := mem_membersOf_iff.1 (List.mem_of_find?_eq_some hm)
    have htest := List.find?_some hm
    rw [Bool.and_eq_true, decide_eq_true_iff, decide_eq_true_iff] at htest
    exact ⟨rfl, rfl, decl, hdecl, body, hbody, htest.1, htest.2, hmem⟩
  complete k m hm := by
    obtain ⟨-, decl, hdecl, body, hbody, hmethod⟩ := hm
    simp only [ownMethod, hdecl, Option.bind_some, hbody, Option.isSome_map]
    refine List.find?_isSome.2 ⟨m, mem_membersOf_iff.2 hmethod.member, ?_⟩
    rw [Bool.and_eq_true, decide_eq_true_iff, decide_eq_true_iff]
    exact ⟨hmethod.type, hmethod.names⟩

theorem owner_of_ownMethod (hs : u.ownMethod type name = some s) : s.owner = some type := by
  obtain ⟨body, -, hs⟩ := Option.bind_eq_some_iff.1 hs
  obtain ⟨m, -, rfl⟩ := Option.map_eq_some_iff.1 hs
  rfl

/-! ## Members of all types within reach -/

/-- A search for a field finds one exactly if a type within reach declares it. -/
theorem answers_fieldOf (owner : String) :
    Answers (u.fieldOf owner name) name fun k d =>
      k = .field ∧ ∃ type, u.hierarchy.Reaches owner type ∧ u.HasOwnField name type d := by
  apply Answers.congr
  · exact .findSome? fun type _ => answers_ownField type
  · intro k d
    simp only [Hierarchy.mem_visit_iff, List.mem_singleton, exists_eq_left]
    constructor
    · rintro ⟨type, hreach, rfl, hd⟩
      exact ⟨rfl, type, hreach, hd⟩
    · rintro ⟨rfl, type, hreach, hd⟩
      exact ⟨type, hreach, rfl, hd⟩

/-- A search for a method finds one exactly if a type within reach declares it. -/
theorem answers_methodOf (owner : String) :
    Answers (u.methodOf owner name) name fun k d =>
      k = .method ∧ ∃ type, u.hierarchy.Reaches owner type ∧ u.HasOwnMethod name type d := by
  apply Answers.congr
  · exact .findSome? fun type _ => answers_ownMethod type
  · intro k d
    simp only [Hierarchy.mem_lineage_iff]
    constructor
    · rintro ⟨type, hreach, rfl, hd⟩
      exact ⟨rfl, type, hreach, hd⟩
    · rintro ⟨rfl, type, hreach, hd⟩
      exact ⟨type, hreach, rfl, hd⟩

/-- The type itself is asked first. -/
theorem fieldOf_of_hasOwnField (hd : u.HasOwnField name owner d) :
    ∃ s, u.fieldOf owner name = some s ∧ u.HasOwnField name owner s.declaration := by
  have hsome := (answers_ownField owner).complete .field d ⟨rfl, hd⟩
  obtain ⟨s, hs⟩ := Option.isSome_iff_exists.1 hsome
  refine ⟨s, ?_, ((answers_ownField owner).sound s hs).2.2⟩
  unfold fieldOf
  rw [Hierarchy.visit, if_neg (by simp), List.findSome?_cons, hs]

/-- A method is found in a type that declares it, and no other type that does is nearer. -/
theorem methodOf_nearest (hs : u.methodOf owner name = some s) :
    ∃ type, s.owner = some type ∧ u.hierarchy.Reaches owner type ∧
      u.HasOwnMethod name type s.declaration ∧
      ∀ other m, u.hierarchy.Reaches owner other → u.HasOwnMethod name other m →
        u.hierarchy.distance owner type ≤ u.hierarchy.distance owner other := by
  obtain ⟨front, type, back, hsplit, hown, hfront⟩ := List.findSome?_eq_some_iff.1 hs
  have hmem : type ∈ u.hierarchy.lineage owner := by
    rw [hsplit]
    exact List.mem_append_right front List.mem_cons_self
  have hmethod := ((answers_ownMethod type).sound s hown).2.2
  refine ⟨type, owner_of_ownMethod hown, Hierarchy.mem_lineage_iff.1 hmem, hmethod, ?_⟩
  intro other m hreach hother
  have horder := u.hierarchy.pairwise_distance_lineage owner
  have hlisted := Hierarchy.mem_lineage_iff.2 hreach
  rw [hsplit] at horder hlisted
  rcases List.mem_append.1 hlisted with hmem | hmem
  · -- a type in front of the first that answers declares no such method
    have hsome := (answers_ownMethod other).complete .method m ⟨rfl, hother⟩
    rw [hfront other hmem] at hsome
    cases hsome
  · rcases List.mem_cons.1 hmem with rfl | hmem
    · exact Nat.le_refl _
    · exact List.rel_of_pairwise_cons (List.pairwise_append.1 horder).2.1 hmem

/-- Whatever the types of a unit inherit from each other, a field or a method of a type is found exactly
if the type or one of the supertypes that chains within the unit lead to declares it. What is found bears
the name and is such a member. A field of the type itself is preferred, and a method comes from a type
that no other one with such a method is nearer than. -/
theorem members_found_iff_within_reach (u : CompilationUnit) (owner name : String) :
    (∀ type, (∃ decl, u.declaration? type = some decl) ↔ ∃ n, u.Declares n type) ∧
      ((u.fieldOf owner name).isSome = true ↔
        ∃ type d, u.hierarchy.Reaches owner type ∧ u.HasOwnField name type d) ∧
      (∀ s, u.fieldOf owner name = some s → s.name = name ∧ s.kind = .field ∧
        ∃ type, u.hierarchy.Reaches owner type ∧ u.HasOwnField name type s.declaration) ∧
      ((∃ d, u.HasOwnField name owner d) →
        ∃ s, u.fieldOf owner name = some s ∧ u.HasOwnField name owner s.declaration) ∧
      ((u.methodOf owner name).isSome = true ↔
        ∃ type m, u.hierarchy.Reaches owner type ∧ u.HasOwnMethod name type m) ∧
      ∀ s, u.methodOf owner name = some s → s.name = name ∧ s.kind = .method ∧
        ∃ type, s.owner = some type ∧ u.hierarchy.Reaches owner type ∧
          u.HasOwnMethod name type s.declaration ∧
          ∀ other m, u.hierarchy.Reaches owner other → u.HasOwnMethod name other m →
            u.hierarchy.distance owner type ≤ u.hierarchy.distance owner other := by
  have hfield : Answers (u.fieldOf owner name) name _ := answers_fieldOf owner
  have hmethod : Answers (u.methodOf owner name) name _ := answers_methodOf owner
  refine ⟨fun type => ⟨?_, ?_⟩, ⟨?_, ?_⟩, ?_, ?_, ⟨?_, ?_⟩, ?_⟩
  · rintro ⟨decl, hdecl⟩
    exact ⟨decl, declares_of_declaration? hdecl⟩
  · rintro ⟨n, hn⟩
    exact hn.exists_declaration?
  · intro hsome
    obtain ⟨s, hs⟩ := Option.isSome_iff_exists.1 hsome
    obtain ⟨-, -, type, hreach, hd⟩ := hfield.sound s hs
    exact ⟨type, s.declaration, hreach, hd⟩
  · rintro ⟨type, d, hreach, hd⟩
    exact hfield.complete .field d ⟨rfl, type, hreach, hd⟩
  · exact hfield.sound
  · rintro ⟨d, hd⟩
    exact fieldOf_of_hasOwnField hd
  · intro hsome
    obtain ⟨s, hs⟩ := Option.isSome_iff_exists.1 hsome
    obtain ⟨-, -, type, hreach, hm⟩ := hmethod.sound s hs
    exact ⟨type, s.declaration, hreach, hm⟩
  · rintro ⟨type, m, hreach, hm⟩
    exact hmethod.complete .method m ⟨rfl, type, hreach, hm⟩
  · intro s hs
    obtain ⟨hname, hkind, -⟩ := hmethod.sound s hs
    exact ⟨hname, hkind, methodOf_nearest hs⟩

/-- Two interfaces that extend each other, one with a constant and one with a method. -/
def circularMembers : CompilationUnit :=
  .ofTree "A.java" (.ofNodes "interface A extends B\x7bT x=0;\x7dinterface B extends A\x7bT f();\x7d" #[
    ⟨none, "program", true, false, 0, 58, none⟩,
    ⟨some 0, "interface_declaration", true, false, 0, 29, none⟩,
    ⟨some 1, "interface", false, false, 0, 9, none⟩,
    ⟨some 1, "identifier", true, false, 10, 11, some "name"⟩,
    ⟨some 1, "extends_interfaces", true, false, 12, 21, none⟩,
    ⟨some 4, "extends", false, false, 12, 19, none⟩,
    ⟨some 4, "type_list", true, false, 20, 21, none⟩,
    ⟨some 6, "type_identifier", true, false, 20, 21, none⟩,
    ⟨some 1, "interface_body", true, false, 21, 29, some "body"⟩,
    ⟨some 8, "\x7b", false, false, 21, 22, none⟩,
    ⟨some 8, "constant_declaration", true, false, 22, 28, none⟩,
    ⟨some 10, "type_identifier", true, false, 22, 23, some "type"⟩,
    ⟨some 10, "variable_declarator", true, false, 24, 27, some "declarator"⟩,
    ⟨some 12, "identifier", true, false, 24, 25, some "name"⟩,
    ⟨some 12, "=", false, false, 25, 26, none⟩,
    ⟨some 12, "decimal_integer_literal", true, false, 26, 27, some "value"⟩,
    ⟨some 10, ";", false, false, 27, 28, none⟩,
    ⟨some 8, "\x7d", false, false, 28, 29, none⟩,
    ⟨some 0, "interface_declaration", true, false, 29, 58, none⟩,
    ⟨some 18, "interface", false, false, 29, 38, none⟩,
    ⟨some 18, "identifier", true, false, 39, 40, some "name"⟩,
    ⟨some 18, "extends_interfaces", true, false, 41, 50, none⟩,
    ⟨some 21, "extends", false, false, 41, 48, none⟩,
    ⟨some 21, "type_list", true, false, 49, 50, none⟩,
    ⟨some 23, "type_identifier", true, false, 49, 50, none⟩,
    ⟨some 18, "interface_body", true, false, 50, 58, some "body"⟩,
    ⟨some 25, "\x7b", false, false, 50, 51, none⟩,
    ⟨some 25, "method_declaration", true, false, 51, 57, none⟩,
    ⟨some 27, "type_identifier", true, false, 51, 52, some "type"⟩,
    ⟨some 27, "identifier", true, false, 53, 54, some "name"⟩,
    ⟨some 27, "formal_parameters", true, false, 54, 56, some "parameters"⟩,
    ⟨some 30, "(", false, false, 54, 55, none⟩,
    ⟨some 30, ")", false, false, 55, 56, none⟩,
    ⟨some 27, ";", false, false, 56, 57, none⟩,
    ⟨some 25, "\x7d", false, false, 57, 58, none⟩])

/-- Types that extend each other have each other's members. -/
theorem members_of_circularMembers :
    let u := circularMembers
    u.hierarchy.Above "A" "B" ∧ u.hierarchy.Above "B" "A" ∧
      u.HasOwnField "x" "A" 12 ∧ u.HasOwnMethod "f" "B" 27 ∧
      (∃ s, u.fieldOf "A" "x" = some s ∧ u.HasOwnField "x" "A" s.declaration) ∧
      (u.fieldOf "B" "x").isSome = true ∧
      ∃ s type, u.methodOf "A" "f" = some s ∧ s.owner = some type ∧
        u.hierarchy.Reaches "A" type ∧ u.HasOwnMethod "f" type s.declaration := by
  intro u
  obtain ⟨⟨hab, hba⟩, ⟨hA, hbodyA, hmember, hconstant, hdeclarator, hx⟩, hB, hbodyB, hmethod, hf, hplace⟩ :
      ("B" ∈ u.supertypes "A" ∧ "A" ∈ u.supertypes "B") ∧
      (u.declaration? "A" = some 1 ∧ u.tree.field? 1 "body" = some 8 ∧ 10 ∈ u.tree.parts 8 ∧
        u.tree.type 10 = "constant_declaration" ∧ 12 ∈ u.tree.fields 10 "declarator" ∧
        u.tree.fieldText? 12 "name" = some "x") ∧
      u.declaration? "B" = some 18 ∧ u.tree.field? 18 "body" = some 25 ∧
        u.tree.type 27 = "method_declaration" ∧ u.tree.fieldText? 27 "name" = some "f" ∧
        27 ∈ u.tree.parts 25 := by
    decide +kernel
  have hx : u.HasOwnField "x" "A" 12 :=
    ⟨1, hA, .inr ⟨8, hbodyA, .declarator hmember (.inr hconstant) ⟨hdeclarator, hx⟩⟩⟩
  have hf : u.HasOwnMethod "f" "B" 27 := ⟨18, hB, 25, hbodyB, hmethod, hf, .inl hplace⟩
  obtain ⟨-, -, -, hown, -, -⟩ := members_found_iff_within_reach u "A" "x"
  obtain ⟨-, hfield, -, -, -, -⟩ := members_found_iff_within_reach u "B" "x"
  obtain ⟨-, -, -, -, hsome, hmethod⟩ := members_found_iff_within_reach u "A" "f"
  obtain ⟨s, hs⟩ := Option.isSome_iff_exists.1 (hsome.2 ⟨"B", 27, .tail .refl hab, hf⟩)
  obtain ⟨-, -, type, howner, hreach, hm, -⟩ := hmethod s hs
  exact ⟨hab, hba, hx, hf, hown ⟨12, hx⟩, hfield.2 ⟨"A", 12, .tail .refl hba, hx⟩,
    s, type, hs, howner, hreach, hm⟩

end CompilationUnit

end JavaAudit
