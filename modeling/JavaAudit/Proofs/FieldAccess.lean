import JavaAudit.Expression.Constant
import JavaAudit.Proofs.DeclaredTypes
import JavaAudit.Proofs.Flattening
import JavaAudit.Proofs.Scoping

/-!
# Fields of the current object by their names alone

Inside a type the name `x` and the access `this.x` are two ways to one field. The access asks the type:
record components first, then the members of the body, then inherited fields (`fieldOf_eq_or`). The name
asks the scopes around it: the body with all that it inherits, and the header of a record only after
that. Behind the constants of an enum there is even one more scope, with all that the enum inherits,
before the constants are asked.

So both find the same field, unless the type has a second one under the name that the scopes come to
first (`simple_name_denotes_field_of_this`). A record with a component that has the name of an inherited
constant is such a type: the access finds the component and the name finds the constant
(`component_hidden_by_constant`).
-/

namespace JavaAudit

/-! ## Where a use stands -/

namespace SyntaxTree

/-- The part of an enum behind its constants. -/
structure IsMemberPart (t : SyntaxTree) (body part : NodeId) : Prop where
  mem_parts : part ∈ t.parts body
  body_type : t.type body = "enum_body"
  part_type : t.type part = "enum_body_declarations"

/-- The members of a body are below it. -/
theorem IsMember.mem_ancestors {t : SyntaxTree} {name : String} {body d : Nat}
    (h : t.IsMember name body d) : body ∈ t.ancestors d := by
  induction h with
  | declarator hmember _ hd =>
    exact mem_ancestors_step (parent?_of_mem_fields hd.1)
      (mem_ancestors_of_parent? (parent?_of_mem_parts hmember))
  | enumConstant hmember _ _ => exact mem_ancestors_of_parent? (parent?_of_mem_parts hmember)
  | behindConstants hmember _ _ ih =>
    exact mem_ancestors_trans (mem_ancestors_of_parent? (parent?_of_mem_parts hmember)) ih

end SyntaxTree

namespace CompilationUnit

open SyntaxTree

/-- A use stands in the body of a declared type, and no other type declaration is around it there. -/
structure InBody (u : CompilationUnit) (type : String) (decl body n : NodeId) : Prop where
  declares : u.Declares decl type
  hasBody : u.tree.field? decl "body" = some body
  isBody : u.tree.isA body typeBodyTypes = true
  inside : body ∈ u.tree.ancestors n
  nearest : ∀ a ∈ n :: u.tree.ancestors n, body ∈ u.tree.ancestors a →
    u.tree.isA a typeDeclarationTypes = false

/-- No scope between a use and the body binds the name, apart from the part behind the constants of an
enum. -/
def FreeBelow (u : CompilationUnit) (name : String) (body n : NodeId) : Prop :=
  ∀ a ∈ u.tree.ancestors n, body ∈ u.tree.ancestors a → ¬ u.tree.IsMemberPart body a →
    ∀ kind d, ¬ u.Binds name (u.tree.start n) a kind d

/-- The type has no second field under the name that the scopes around a use come to first. Beside a
component of that name the body neither declares nor inherits another field. Beside a member outside the
part behind the constants of an enum, that part declares none and the enum inherits none. -/
structure Unambiguous (u : CompilationUnit) (name type : String) (decl body n : NodeId) : Prop where
  component : u.tree.type decl = "record_declaration" → ∀ d, u.tree.IsParameter name decl d →
    ∀ e, ¬ u.tree.IsMember name body e ∧ ¬ u.InheritsField name type e
  constant : ∀ part ∈ u.tree.ancestors n, u.tree.IsMemberPart body part →
    ∀ d, u.tree.IsMember name body d → ¬ u.tree.IsMember name part d →
      ∀ e, ¬ u.tree.IsMember name part e ∧ ¬ u.InheritsField name type e

variable {u : CompilationUnit} {name type : String} {decl body n : Nat}

theorem InBody.parent? (h : u.InBody type decl body n) : u.tree.parent? body = some decl :=
  parent?_of_field? h.hasBody

/-- Above a use in a body come the body and, next to it, the declaration. -/
theorem InBody.ancestors_eq (h : u.InBody type decl body n) :
    ∃ inner, u.tree.ancestors n = inner ++ body :: decl :: u.tree.ancestors decl := by
  obtain ⟨inner, hinner⟩ := ancestors_eq_append h.inside
  refine ⟨inner, ?_⟩
  rw [hinner, ancestors_of_parent? h.parent?]

theorem not_isA_typeDeclarationTypes {a : Nat} (h : u.tree.isA a typeBodyTypes = true) :
    u.tree.isA a typeDeclarationTypes = false := by
  have hmem : u.tree.type a ∈ typeBodyTypes := List.contains_iff_mem.1 h
  unfold SyntaxTree.isA
  simp only [typeBodyTypes, List.mem_cons, List.not_mem_nil, or_false] at hmem
  rcases hmem with htype | htype | htype | htype | htype <;> rw [htype] <;> rfl

/-- The type around a use in its body is that type. -/
theorem InBody.enclosingType (h : u.InBody type decl body n) (hkeys : u.tree.DistinctKeys) :
    u.enclosingType n = some type := by
  obtain ⟨inner, hsplit⟩ := h.ancestors_eq
  have hfind : (n :: u.tree.ancestors n).find? (fun a => u.tree.isA a typeDeclarationTypes) =
      some decl := by
    rw [hsplit]
    -- from the use up to the body nothing is a declaration
    refine List.find?_eq_some_iff_append.2 ⟨h.declares.isA, n :: (inner ++ [body]),
      u.tree.ancestors decl, by simp, ?_⟩
    intro a ha
    rw [Bool.not_eq_true']
    rcases List.mem_cons.1 ha with rfl | ha
    · exact h.nearest a List.mem_cons_self h.inside
    · rcases List.mem_append.1 ha with ha | ha
      · have habove : a ∈ u.tree.ancestors n := by
          rw [hsplit]
          exact List.mem_append_left _ ha
        exact h.nearest a (List.mem_cons_of_mem n habove) (mem_ancestors_of_append hsplit ha)
      · rw [List.mem_singleton.1 ha]
        exact not_isA_typeDeclarationTypes h.isBody
  unfold CompilationUnit.enclosingType
  rw [hfind]
  exact (declaredName?_eq_some_iff hkeys h.declares.lt_size).2 h.declares

/-! ## What the scopes of a type bind -/

/-- The component of a record with this name. -/
def component? (u : CompilationUnit) (name : String) (decl : NodeId) : Option Symbol :=
  if u.tree.type decl = "record_declaration" then u.parameter? decl name .field else none

/-- The only names that a type declaration itself binds are its components. -/
theorem binding?_of_declares (h : u.Declares decl type) (position : Nat) :
    u.binding? decl position name = u.component? name decl := by
  have hmem : u.tree.type decl ∈ typeDeclarationTypes := List.contains_iff_mem.1 h.isA
  unfold binding? component?
  simp only [typeDeclarationTypes, List.mem_cons, List.not_mem_nil, or_false] at hmem
  rcases hmem with htype | htype | htype | htype | htype <;> rw [htype] <;> rfl

/-- The body of a type binds its own members and what the type inherits. -/
theorem bodyBinding_eq {scope : Nat} (htype : u.typeOfBody scope = some type) (hne : type ≠ "") :
    u.bodyBinding scope name = (u.fieldInBody scope name).or (u.inheritedField type name) := by
  have hkept : (some type).filter (· ≠ "") = some type := by
    rw [Option.filter_eq_some_iff]
    exact ⟨rfl, decide_eq_true hne⟩
  unfold bodyBinding
  rw [htype, hkept]
  rfl

/-- The type that a body belongs to is the one whose declaration holds it. -/
theorem InBody.typeOfBody (h : u.InBody type decl body n) (hkeys : u.tree.DistinctKeys) :
    u.typeOfBody body = some type :=
  typeOfBody_eq_some_iff.2 ⟨decl, ⟨h.declares.isA, .inl h.parent?⟩,
    (declaredName?_eq_some_iff hkeys h.declares.lt_size).2 h.declares⟩

theorem InBody.typeOfBody_part (h : u.InBody type decl body n) (hkeys : u.tree.DistinctKeys)
    {part : Nat} (hpart : u.tree.IsMemberPart body part) : u.typeOfBody part = some type :=
  typeOfBody_eq_some_iff.2
    ⟨decl, ⟨h.declares.isA,
      .inr ⟨body, parent?_of_mem_parts hpart.mem_parts, hpart.body_type, h.parent?⟩⟩,
      (declaredName?_eq_some_iff hkeys h.declares.lt_size).2 h.declares⟩

/-- The access asks the components, the members of the body and the inherited fields, in this order. -/
theorem InBody.fieldOf_eq_or (h : u.InBody type decl body n) (hunique : u.UniqueTypes)
    (hacyclic : u.hierarchy.Acyclic) :
    u.fieldOf type name = (u.component? name decl).or
      ((u.fieldInBody body name).or (u.inheritedField type name)) := by
  rw [fieldOf_eq hacyclic, ← Option.or_assoc]
  unfold ownField component?
  rw [(declaration?_eq_some_iff hunique).2 h.declares]
  simp only [Option.bind_some, h.hasBody]

/-! ## Members on one side or the other -/

theorem fieldInBody_eq_none (h : ∀ d, ¬ u.tree.IsMember name body d) :
    u.fieldInBody body name = none :=
  Option.eq_none_iff_forall_ne_some.2 fun s hs => h _ ((answers_fieldInBody body).sound s hs).2.2

theorem inheritedField_eq_none (h : ∀ d, ¬ u.InheritsField name type d) :
    u.inheritedField type name = none :=
  Option.eq_none_iff_forall_ne_some.2 fun s hs => h _ ((answers_inheritedField type).sound s hs).2.2

theorem isMember_of_fieldInBody {s : Symbol} (h : u.fieldInBody body name = some s) :
    u.tree.IsMember name body s.declaration :=
  ((answers_fieldInBody body).sound s h).2.2

/-- What a member of a body declares is the member itself or below it. -/
theorem mem_ancestors_of_memberField? {member : Nat} {s : Symbol}
    (h : u.memberField? name member = some s) :
    member ∈ s.declaration :: u.tree.ancestors s.declaration := by
  unfold memberField? at h
  split at h
  · obtain ⟨-, -, hd⟩ := (answers_declaredIn member []).sound s h
    exact List.mem_cons_of_mem _ (mem_ancestors_of_parent? (parent?_of_mem_fields hd.1))
  · obtain ⟨-, -, hd⟩ := (answers_declaredIn member constantModifiers).sound s h
    exact List.mem_cons_of_mem _ (mem_ancestors_of_parent? (parent?_of_mem_fields hd.1))
  · obtain ⟨-, -, hd, -⟩ := (answers_enumConstant? member).sound s h
    rw [hd]
    exact List.mem_cons_self
  · exact List.mem_cons_of_mem _ (isMember_of_fieldInBody h).mem_ancestors
  · cases h

/-- If what a body finds is in the part behind the constants, that part finds it too. -/
theorem fieldInBody_part {part : Nat} {s : Symbol} (hpart : u.tree.IsMemberPart body part)
    (h : u.fieldInBody body name = some s) (hs : u.tree.IsMember name part s.declaration) :
    u.fieldInBody part name = some s := by
  rw [fieldInBody_eq] at h
  obtain ⟨member, hmember, hfound⟩ := List.exists_of_findSome?_eq_some h
  -- the field has only one ancestor among the parts of the body
  have hsame : member = part := by
    have hp := parent?_of_mem_parts hpart.mem_parts
    have hm := parent?_of_mem_parts hmember
    rcases mem_ancestors_total (mem_ancestors_of_memberField? hfound)
      (List.mem_cons_of_mem _ hs.mem_ancestors) with heq | habove | habove
    · exact heq
    · exact absurd habove (not_mem_ancestors_of_sibling hm hp)
    · exact absurd habove (not_mem_ancestors_of_sibling hp hm)
  rw [hsame, memberField?, hpart.part_type] at hfound
  exact hfound

/-! ## The scopes agree with the access -/

section Agreement

variable (h : u.InBody type decl body n) (hkeys : u.tree.DistinctKeys) (hunique : u.UniqueTypes)
  (hacyclic : u.hierarchy.Acyclic) (hne : type ≠ "") (hclear : u.Unambiguous name type decl body n)
  {s : Symbol} (hs : u.fieldOf type name = some s)

include h hunique hacyclic hs in
/-- What the access finds is a component or, where there is none of the name, in the body or
inherited. -/
theorem InBody.component_or_rest :
    u.component? name decl = some s ∨
      u.component? name decl = none ∧
        (u.fieldInBody body name).or (u.inheritedField type name) = some s := by
  rw [h.fieldOf_eq_or hunique hacyclic] at hs
  cases hc : u.component? name decl with
  | some c =>
    rw [hc, Option.some_or] at hs
    exact .inl hs
  | none =>
    rw [hc, Option.none_or] at hs
    exact .inr ⟨rfl, hs⟩

include hclear in
/-- Beside a component the body has nothing to offer. -/
theorem Unambiguous.of_component {c : Symbol} (hc : u.component? name decl = some c) :
    (∀ d, ¬ u.tree.IsMember name body d) ∧ u.inheritedField type name = none := by
  unfold component? at hc
  split at hc
  · next hrecord =>
    have hparam := ((answers_parameter? decl).sound c hc).2.2
    have hnone := hclear.component hrecord c.declaration hparam
    exact ⟨fun d => (hnone d).1, inheritedField_eq_none fun d => (hnone d).2⟩
  · cases hc

include h hkeys hunique hacyclic hne hclear hs in
/-- The body binds the name to the field that the access finds, or not at all. -/
theorem binding?_body (position : Nat) :
    u.binding? body position name = none ∨ u.binding? body position name = some s := by
  rw [binding?_of_isA_typeBodyTypes h.isBody, bodyBinding_eq (h.typeOfBody hkeys) hne]
  rcases h.component_or_rest hunique hacyclic hs with hc | ⟨-, hrest⟩
  · obtain ⟨hmember, hinherited⟩ := hclear.of_component hc
    rw [fieldInBody_eq_none hmember, hinherited]
    exact .inl rfl
  · exact .inr hrest

include h hkeys hunique hacyclic hne hclear hs in
theorem binding?_part {part : Nat} (habove : part ∈ u.tree.ancestors n)
    (hpart : u.tree.IsMemberPart body part) (position : Nat) :
    u.binding? part position name = none ∨ u.binding? part position name = some s := by
  have hscope : u.tree.isA part typeBodyTypes = true := by
    rw [isA, hpart.part_type]
    decide
  -- the part has no members that the body does not have
  have hmembers : ∀ d, u.tree.IsMember name part d → u.tree.IsMember name body d := fun d hd =>
    .behindConstants hpart.mem_parts hpart.part_type hd
  rw [binding?_of_isA_typeBodyTypes hscope, bodyBinding_eq (h.typeOfBody_part hkeys hpart) hne]
  rcases h.component_or_rest hunique hacyclic hs with hc | ⟨-, hrest⟩
  · obtain ⟨hmember, hinherited⟩ := hclear.of_component hc
    rw [fieldInBody_eq_none fun d hd => hmember d (hmembers d hd), hinherited]
    exact .inl rfl
  · cases hb : u.fieldInBody body name with
    | none =>
      have hnone : u.fieldInBody part name = none := fieldInBody_eq_none fun d hd => by
        have hsome := (answers_fieldInBody body).complete .field d ⟨rfl, hmembers d hd⟩
        rw [hb] at hsome
        cases hsome
      rw [hb] at hrest
      rw [hnone]
      exact .inr hrest
    | some b =>
      rw [hb, Option.some_or] at hrest
      cases hrest
      by_cases hin : u.tree.IsMember name part s.declaration
      · rw [fieldInBody_part hpart hb hin]
        exact .inr rfl
      · have hnone := hclear.constant part habove hpart s.declaration (isMember_of_fieldInBody hb) hin
        rw [fieldInBody_eq_none fun d => (hnone d).1, inheritedField_eq_none fun d => (hnone d).2]
        exact .inl rfl

include h hunique hacyclic hs in
/-- The header of a record, with its components, binds the name to that field, or not at all. -/
theorem binding?_header (position : Nat) :
    u.binding? decl position name = none ∨ u.binding? decl position name = some s := by
  rw [binding?_of_declares h.declares]
  rcases h.component_or_rest hunique hacyclic hs with hc | ⟨hc, -⟩
  · exact .inr hc
  · exact .inl hc

include h hkeys hunique hacyclic hne hs in
/-- One of the scopes of the type finds what the access finds. -/
theorem binding?_body_or_header (position : Nat) :
    u.binding? body position name = some s ∨ u.binding? decl position name = some s := by
  rw [binding?_of_isA_typeBodyTypes h.isBody, bodyBinding_eq (h.typeOfBody hkeys) hne,
    binding?_of_declares h.declares]
  rcases h.component_or_rest hunique hacyclic hs with hc | ⟨-, hrest⟩
  · exact .inr hc
  · exact .inl hrest

end Agreement

/-- A search that finds one thing or nothing at every place, and finds it at some place. -/
theorem findSome?_eq_some_of_forall {α β : Type} {f : α → Option β} {l : List α} {b : β}
    (hall : ∀ a ∈ l, f a = none ∨ f a = some b) (hex : ∃ a ∈ l, f a = some b) :
    l.findSome? f = some b := by
  induction l with
  | nil =>
    obtain ⟨a, ha, -⟩ := hex
    cases ha
  | cons first rest ih =>
    rw [List.findSome?_cons]
    rcases hall first List.mem_cons_self with hfirst | hfirst
    · rw [hfirst]
      refine ih (fun a ha => hall a (List.mem_cons_of_mem first ha)) ?_
      obtain ⟨a, ha, hfa⟩ := hex
      rcases List.mem_cons.1 ha with rfl | ha
      · rw [hfirst] at hfa
        cases hfa
      · exact ⟨a, ha, hfa⟩
    · rw [hfirst]

/-- The name means what the access finds. -/
theorem InBody.lookup_eq (h : u.InBody type decl body n) (hkeys : u.tree.DistinctKeys)
    (hunique : u.UniqueTypes) (hacyclic : u.hierarchy.Acyclic)
    (hne : type ≠ "") (hfree : u.FreeBelow name body n)
    (hclear : u.Unambiguous name type decl body n) {s : Symbol} (hs : u.fieldOf type name = some s) :
    u.lookup name n = some s := by
  obtain ⟨inner, hsplit⟩ := h.ancestors_eq
  have hscopes : ((inner ++ [body, decl]).findSome? fun scope =>
      u.binding? scope (u.tree.start n) name) = some s := by
    -- no scope up to the declaration has another meaning for the name, and one of the last two has this one
    refine findSome?_eq_some_of_forall (fun a ha => ?_) ?_
    · simp only [List.mem_append, List.mem_cons, List.not_mem_nil, or_false] at ha
      rcases ha with ha | rfl | rfl
      · have habove : a ∈ u.tree.ancestors n := by
          rw [hsplit]
          exact List.mem_append_left _ ha
        by_cases hpart : u.tree.IsMemberPart body a
        · exact binding?_part h hkeys hunique hacyclic hne hclear hs habove hpart _
        · exact .inl (binding?_eq_none_iff.2
            (hfree a habove (mem_ancestors_of_append hsplit ha) hpart))
      · exact binding?_body h hkeys hunique hacyclic hne hclear hs _
      · exact binding?_header h hunique hacyclic hs _
    · rcases binding?_body_or_header h hkeys hunique hacyclic hne hs (u.tree.start n) with hb | hd
      · exact ⟨body, by simp, hb⟩
      · exact ⟨decl, by simp, hd⟩
  have hlist : u.tree.ancestors n = (inner ++ [body, decl]) ++ u.tree.ancestors decl := by
    rw [hsplit]
    simp
  unfold lookup
  rw [hlist, List.findSome?_append, hscopes]
  rfl

/-- Outside enums nothing comes before the body. -/
theorem InBody.lookup_of_body (h : u.InBody type decl body n) (hfree : u.FreeBelow name body n)
    (henum : u.tree.type body ≠ "enum_body") {s : Symbol}
    (hs : u.binding? body (u.tree.start n) name = some s) : u.lookup name n = some s := by
  obtain ⟨inner, hsplit⟩ := h.ancestors_eq
  unfold lookup
  rw [hsplit]
  refine List.findSome?_eq_some_iff.2 ⟨inner, body, _, rfl, hs, fun a ha => ?_⟩
  have habove : a ∈ u.tree.ancestors n := by
    rw [hsplit]
    exact List.mem_append_left _ ha
  exact binding?_eq_none_iff.2 (hfree a habove (mem_ancestors_of_append hsplit ha)
    fun hpart => henum hpart.body_type)

/-- Some scope has a binding, whichever it is. -/
theorem InBody.isSome_lookup (h : u.InBody type decl body n) (hkeys : u.tree.DistinctKeys)
    (hunique : u.UniqueTypes) (hacyclic : u.hierarchy.Acyclic) (hne : type ≠ "") {s : Symbol}
    (hs : u.fieldOf type name = some s) : (u.lookup name n).isSome = true := by
  have hdecl : decl ∈ u.tree.ancestors n :=
    mem_ancestors_trans (mem_ancestors_of_parent? h.parent?) h.inside
  refine Option.isSome_iff_ne_none.2 fun hnone => ?_
  have hall := List.findSome?_eq_none_iff.1 hnone
  rcases binding?_body_or_header h hkeys hunique hacyclic hne hs (u.tree.start n) with hb | hd
  · rw [hall body h.inside] at hb
    cases hb
  · rw [hall decl hdecl] at hd
    cases hd

/-! ## References -/

/-- An access through `this` finds the field of the type around it. -/
theorem fieldOfThis_eq_some_iff {s : Symbol} (h : u.enclosingType n = some type) :
    u.fieldOfThis n name = some s ↔ type ≠ "" ∧ u.fieldOf type name = some s := by
  unfold fieldOfThis
  rw [h, Option.bind_eq_some_iff]
  simp only [Option.filter_eq_some_iff, Option.some.injEq, decide_eq_true_eq]
  constructor
  · rintro ⟨owner, ⟨rfl, hne⟩, hs⟩
    exact ⟨hne, hs⟩
  · rintro ⟨hne, hs⟩
    exact ⟨type, ⟨rfl, hne⟩, hs⟩

/-- The access `this.name`, with or without parentheses around `this`. -/
structure IsThisAccess (u : CompilationUnit) (name : String) (f : NodeId) : Prop where
  type : u.tree.type f = "field_access"
  object : ∃ object target, u.tree.field? f "object" = some object ∧
    u.tree.unwrap object = some target ∧ u.tree.type target = "this"
  field : u.tree.fieldText? f "field" = some name

theorem unwrap_eq_self (h : u.tree.type n ≠ "parenthesized_expression") : u.tree.unwrap n = some n :=
  unwrap_of_not_isParen (Bool.eq_false_iff.2 fun hp => h (isParen_iff.1 hp))

/-- A simple name is looked up in the scopes around it. -/
theorem reference?_of_identifier (h : u.tree.type n = "identifier") :
    u.reference? n = u.lookup (u.tree.text n) n := by
  have hself : u.tree.unwrap n = some n := unwrap_eq_self (by rw [h]; decide)
  rw [reference?]
  split
  · next hnone =>
    rw [hself] at hnone
    cases hnone
  · next e he =>
    rw [hself] at he
    cases he
    rw [if_pos h]

/-- An access through `this` does not look at the scopes. -/
theorem IsThisAccess.reference? {f : Nat} (h : u.IsThisAccess name f) :
    u.reference? f = u.fieldOfThis f name := by
  have hself : u.tree.unwrap f = some f := unwrap_eq_self (by rw [h.type]; decide)
  obtain ⟨object, target, hobject, htarget, hthis⟩ := h.object
  rw [CompilationUnit.reference?]
  split
  · next hnone =>
    rw [hself] at hnone
    cases hnone
  · next e he =>
    rw [hself] at he
    cases he
    rw [if_neg (by rw [h.type]; decide), if_neg (by rw [h.type]; decide)]
    split
    · next o member ho hm =>
      rw [hobject] at ho
      rw [h.field] at hm
      cases ho
      cases hm
      split
      · next hnone =>
        rw [htarget] at hnone
        cases hnone
      · next t ht =>
        rw [htarget] at ht
        cases ht
        rw [if_pos hthis]
    · next hno => exact absurd h.field (hno object name hobject)

/-- References to one symbol are constant or not together. -/
theorem isConstant_of_reference? {m : Nat} (htype : u.tree.isA m referenceTypes = true) {s : Symbol}
    (hs : u.reference? m = some s) : u.isConstant m = s.isConstant := by
  have hmem : u.tree.type m ∈ referenceTypes := List.contains_iff_mem.1 htype
  simp only [referenceTypes, List.mem_cons, List.not_mem_nil, or_false] at hmem
  have hself : u.tree.unwrap m = some m :=
    unwrap_eq_self (by rcases hmem with h | h <;> rw [h] <;> decide)
  have hliteral : u.tree.isA m literalTypes = false := by
    unfold SyntaxTree.isA
    rcases hmem with h | h <;> rw [h] <;> rfl
  unfold isConstant classifierDepth
  rw [isConstantWithin, hself]
  simp only [hliteral, htype, hs, Bool.false_eq_true, if_false, if_true, Option.any_some]

/-- A name in the body of a type means some field whenever `this` has one under it. Unless the type has a
second field that the scopes come to first, it is the same one, and so an access `this.name` in the type
and the name alone refer to one symbol and are constant or not together. -/
theorem simple_name_denotes_field_of_this (hkeys : u.tree.DistinctKeys) (hunique : u.UniqueTypes)
    (hacyclic : u.hierarchy.Acyclic) (h : u.InBody type decl body n) (hfree : u.FreeBelow name body n)
    {s : Symbol} (hs : u.fieldOfThis n name = some s) :
    (u.lookup name n).isSome = true ∧
      (u.Unambiguous name type decl body n →
        u.lookup name n = some s ∧
          (u.tree.type n = "identifier" → u.tree.text n = name → ∀ f, u.IsThisAccess name f →
            u.enclosingType f = some type →
              u.reference? n = some s ∧ u.reference? f = some s ∧ u.isConstant n = u.isConstant f)) := by
  obtain ⟨hne, hfield⟩ := (fieldOfThis_eq_some_iff (h.enclosingType hkeys)).1 hs
  refine ⟨h.isSome_lookup hkeys hunique hacyclic hne hfield, fun hclear => ?_⟩
  have hlookup := h.lookup_eq hkeys hunique hacyclic hne hfree hclear hfield
  refine ⟨hlookup, fun hident htext f hf htype => ?_⟩
  have hn : u.reference? n = some s := by rw [reference?_of_identifier hident, htext, hlookup]
  have hthis : u.reference? f = some s := by
    rw [hf.reference?]
    exact (fieldOfThis_eq_some_iff htype).2 ⟨hne, hfield⟩
  have href : u.tree.isA n referenceTypes = true := by
    rw [isA, hident]
    decide
  have href' : u.tree.isA f referenceTypes = true := by
    rw [isA, hf.type]
    decide
  refine ⟨hn, hthis, ?_⟩
  rw [isConstant_of_reference? href hn, isConstant_of_reference? href' hthis]

/-- A record that implements an interface with a constant. One of its two components has the name of
that constant, and its method uses both by their names and by accesses. -/
def hidingRecord : CompilationUnit :=
  .ofTree "A.java" (.ofNodes ("interface I\x7bT x=0;\x7drecord R(T x,T y)implements I"
    ++ "\x7bT f()\x7breturn x+this.x+y+this.y;\x7d\x7d") #[
    ⟨none, "program", true, false, 0, 82, none⟩,
    ⟨some 0, "interface_declaration", true, false, 0, 19, none⟩,
    ⟨some 1, "interface", false, false, 0, 9, none⟩,
    ⟨some 1, "identifier", true, false, 10, 11, some "name"⟩,
    ⟨some 1, "interface_body", true, false, 11, 19, some "body"⟩,
    ⟨some 4, "\x7b", false, false, 11, 12, none⟩,
    ⟨some 4, "constant_declaration", true, false, 12, 18, none⟩,
    ⟨some 6, "type_identifier", true, false, 12, 13, some "type"⟩,
    ⟨some 6, "variable_declarator", true, false, 14, 17, some "declarator"⟩,
    ⟨some 8, "identifier", true, false, 14, 15, some "name"⟩,
    ⟨some 8, "=", false, false, 15, 16, none⟩,
    ⟨some 8, "decimal_integer_literal", true, false, 16, 17, some "value"⟩,
    ⟨some 6, ";", false, false, 17, 18, none⟩,
    ⟨some 4, "\x7d", false, false, 18, 19, none⟩,
    ⟨some 0, "record_declaration", true, false, 19, 82, none⟩,
    ⟨some 14, "record", false, false, 19, 25, none⟩,
    ⟨some 14, "identifier", true, false, 26, 27, some "name"⟩,
    ⟨some 14, "formal_parameters", true, false, 27, 36, some "parameters"⟩,
    ⟨some 17, "(", false, false, 27, 28, none⟩,
    ⟨some 17, "formal_parameter", true, false, 28, 31, none⟩,
    ⟨some 19, "type_identifier", true, false, 28, 29, some "type"⟩,
    ⟨some 19, "identifier", true, false, 30, 31, some "name"⟩,
    ⟨some 17, ",", false, false, 31, 32, none⟩,
    ⟨some 17, "formal_parameter", true, false, 32, 35, none⟩,
    ⟨some 23, "type_identifier", true, false, 32, 33, some "type"⟩,
    ⟨some 23, "identifier", true, false, 34, 35, some "name"⟩,
    ⟨some 17, ")", false, false, 35, 36, none⟩,
    ⟨some 14, "super_interfaces", true, false, 36, 48, some "interfaces"⟩,
    ⟨some 27, "implements", false, false, 36, 46, none⟩,
    ⟨some 27, "type_list", true, false, 47, 48, none⟩,
    ⟨some 29, "type_identifier", true, false, 47, 48, none⟩,
    ⟨some 14, "class_body", true, false, 48, 82, some "body"⟩,
    ⟨some 31, "\x7b", false, false, 48, 49, none⟩,
    ⟨some 31, "method_declaration", true, false, 49, 81, none⟩,
    ⟨some 33, "type_identifier", true, false, 49, 50, some "type"⟩,
    ⟨some 33, "identifier", true, false, 51, 52, some "name"⟩,
    ⟨some 33, "formal_parameters", true, false, 52, 54, some "parameters"⟩,
    ⟨some 36, "(", false, false, 52, 53, none⟩,
    ⟨some 36, ")", false, false, 53, 54, none⟩,
    ⟨some 33, "block", true, false, 54, 81, some "body"⟩,
    ⟨some 39, "\x7b", false, false, 54, 55, none⟩,
    ⟨some 39, "return_statement", true, false, 55, 80, none⟩,
    ⟨some 41, "return", false, false, 55, 61, none⟩,
    ⟨some 41, "binary_expression", true, false, 62, 79, none⟩,
    ⟨some 43, "binary_expression", true, false, 62, 72, some "left"⟩,
    ⟨some 44, "binary_expression", true, false, 62, 70, some "left"⟩,
    ⟨some 45, "identifier", true, false, 62, 63, some "left"⟩,
    ⟨some 45, "+", false, false, 63, 64, some "operator"⟩,
    ⟨some 45, "field_access", true, false, 64, 70, some "right"⟩,
    ⟨some 48, "this", true, false, 64, 68, some "object"⟩,
    ⟨some 48, ".", false, false, 68, 69, none⟩,
    ⟨some 48, "identifier", true, false, 69, 70, some "field"⟩,
    ⟨some 44, "+", false, false, 70, 71, some "operator"⟩,
    ⟨some 44, "identifier", true, false, 71, 72, some "right"⟩,
    ⟨some 43, "+", false, false, 72, 73, some "operator"⟩,
    ⟨some 43, "field_access", true, false, 73, 79, some "right"⟩,
    ⟨some 55, "this", true, false, 73, 77, some "object"⟩,
    ⟨some 55, ".", false, false, 77, 78, none⟩,
    ⟨some 55, "identifier", true, false, 78, 79, some "field"⟩,
    ⟨some 41, ";", false, false, 79, 80, none⟩,
    ⟨some 39, "\x7d", false, false, 80, 81, none⟩,
    ⟨some 31, "\x7d", false, false, 81, 82, none⟩])

theorem hidingRecord_distinctKeys : hidingRecord.tree.DistinctKeys := .of_nodup (by decide)

/-- The two types, and that the bodies have nothing with the name of the second component. -/
theorem hidingRecord_types :
    (TypeTable.entries hidingRecord.tree hidingRecord.header.package = [("I", 1), ("R", 14)] ∧
      hidingRecord.supertypes "R" = ["I"] ∧ hidingRecord.writtenSupertypes 1 = []) ∧
    (hidingRecord.tree.type 1 = "interface_declaration" ∧ hidingRecord.tree.field? 1 "body" = some 4 ∧
      hidingRecord.fieldInBody 4 "y" = none) ∧
    hidingRecord.tree.field? 14 "body" = some 31 ∧ hidingRecord.tree.type 31 = "class_body" ∧
      hidingRecord.fieldInBody 31 "y" = none := by
  decide +kernel

/-- The components, and the constant that the first one hides. -/
theorem hidingRecord_fields :
    ((hidingRecord.component? "x" 14).map (fun s => (s.declaration, s.isConstant)) = some (19, false) ∧
      (hidingRecord.component? "y" 14).map (·.declaration) = some 23) ∧
    (hidingRecord.fieldInBody 4 "x").map (fun s => (s.declaration, s.isConstant)) = some (8, true) ∧
      hidingRecord.fieldInBody 31 "x" = none := by
  decide +kernel

/-- The four uses are in the body of the record, with nothing between that binds their names. -/
theorem hidingRecord_uses :
    ((∀ m ∈ [46, 53], hidingRecord.tree.type m = "identifier") ∧ hidingRecord.tree.text 46 = "x" ∧
      hidingRecord.tree.text 53 = "y") ∧
    (∀ m ∈ [46, 48, 53, 55], 31 ∈ hidingRecord.tree.ancestors m ∧
      ∀ a ∈ m :: hidingRecord.tree.ancestors m, 31 ∈ hidingRecord.tree.ancestors a →
        hidingRecord.tree.isA a typeDeclarationTypes = false) ∧
    (∀ use ∈ [(46, "x"), (53, "y")], ∀ a ∈ hidingRecord.tree.ancestors use.1,
      31 ∈ hidingRecord.tree.ancestors a →
        hidingRecord.binding? a (hidingRecord.tree.start use.1) use.2 = none) ∧
    ∀ access ∈ [(48, "x"), (55, "y")], hidingRecord.tree.type access.1 = "field_access" ∧
      hidingRecord.tree.field? access.1 "object" = some (access.1 + 1) ∧
        hidingRecord.tree.type (access.1 + 1) = "this" ∧
          hidingRecord.tree.fieldText? access.1 "field" = some access.2 := by
  decide +kernel

/-- The source declares an interface and a record. -/
theorem hidingRecord_declares_iff {m : Nat} {a : String} :
    hidingRecord.Declares m a ↔ a = "I" ∧ m = 1 ∨ a = "R" ∧ m = 14 := by
  obtain ⟨⟨hentries, -⟩, -⟩ := hidingRecord_types
  rw [← mem_entries_iff, hentries]
  simp

theorem hidingRecord_uniqueTypes : hidingRecord.UniqueTypes := by
  intro a m k hm hk
  rw [hidingRecord_declares_iff] at hm hk
  rcases hm with ⟨rfl, rfl⟩ | ⟨rfl, rfl⟩ <;> simpa [eq_comm] using hk

theorem hidingRecord_supertypes :
    hidingRecord.supertypes "R" = ["I"] ∧ ∀ a ≠ "R", hidingRecord.supertypes a = [] := by
  obtain ⟨⟨-, hsuper, hwritten⟩, -⟩ := hidingRecord_types
  refine ⟨hsuper, fun a ha => ?_⟩
  unfold supertypes
  cases hdecl : hidingRecord.declaration? a with
  | none => rfl
  | some m =>
    -- the only other declaration is the interface, which extends nothing
    have hone : m = 1 := by
      rw [declaration?_eq_some_iff hidingRecord_uniqueTypes, hidingRecord_declares_iff] at hdecl
      rcases hdecl with ⟨-, hm⟩ | ⟨hR, -⟩
      · exact hm
      · exact absurd hR ha
    simp only [hone, hwritten, List.filterMap_nil, List.filter_nil]

theorem hidingRecord_acyclic : hidingRecord.hierarchy.Acyclic := by
  refine Hierarchy.acyclic_of_level (fun a => if a = "R" then 1 else 0) fun a _ b hb => ?_
  change b ∈ hidingRecord.supertypes a at hb
  by_cases ha : a = "R"
  · rw [ha, hidingRecord_supertypes.1, List.mem_singleton] at hb
    rw [ha, hb]
    decide
  · rw [hidingRecord_supertypes.2 a ha] at hb
    cases hb

/-- What the record inherits is what the interface has. -/
theorem hidingRecord_inheritedField (name : String) :
    hidingRecord.inheritedField "R" name = hidingRecord.fieldInBody 4 name := by
  have hvisit : hidingRecord.hierarchy.visit .depthFirst [] ["I"] = ["I"] := by
    have hdirect : Strategy.add (hidingRecord.hierarchy.direct "I") [] .depthFirst = [] := by
      change hidingRecord.supertypes "I" ++ [] = []
      rw [hidingRecord_supertypes.2 "I" (by decide), List.append_nil]
    rw [Hierarchy.visit, if_neg (by decide), hdirect, Hierarchy.visit]
  have hdecl : hidingRecord.declaration? "I" = some 1 :=
    (declaration?_eq_some_iff hidingRecord_uniqueTypes).2
      (hidingRecord_declares_iff.2 (.inl ⟨rfl, rfl⟩))
  obtain ⟨-, ⟨htype, hbody, -⟩, -⟩ := hidingRecord_types
  unfold inheritedField ownField
  simp [hidingRecord_supertypes.1, hvisit, hdecl, htype, hbody]

theorem hidingRecord_inBody {m : Nat} (hm : m ∈ [46, 48, 53, 55]) :
    hidingRecord.InBody "R" 14 31 m := by
  obtain ⟨-, -, hbody, htype, -⟩ := hidingRecord_types
  obtain ⟨hinside, hnearest⟩ := hidingRecord_uses.2.1 m hm
  refine ⟨hidingRecord_declares_iff.2 (.inr ⟨rfl, rfl⟩), hbody, ?_, hinside, hnearest⟩
  rw [isA, htype]
  decide

/-- No scope within the body binds either name. -/
theorem hidingRecord_freeBelow {m : Nat} {name : String}
    (hm : (m, name) = (46, "x") ∨ (m, name) = (53, "y")) : hidingRecord.FreeBelow name 31 m := by
  intro a ha hbody _
  exact binding?_eq_none_iff.1 (hidingRecord_uses.2.2.1 (m, name) (by simpa using hm) a ha hbody)

theorem hidingRecord_isThisAccess {f : Nat} {name : String}
    (hf : (f, name) = (48, "x") ∨ (f, name) = (55, "y")) : hidingRecord.IsThisAccess name f := by
  obtain ⟨htype, hobject, hthis, hfield⟩ := hidingRecord_uses.2.2.2 (f, name) (by simpa using hf)
  exact ⟨htype, ⟨f + 1, f + 1, hobject, unwrap_eq_self (by rw [hthis]; decide), hthis⟩, hfield⟩

/-- The component `y` has no namesake in the body or among the inherited fields. -/
theorem hidingRecord_unambiguous : hidingRecord.Unambiguous "y" "R" 14 31 53 := by
  obtain ⟨-, ⟨-, -, hinterface⟩, -, htype, hown⟩ := hidingRecord_types
  have hinherited : hidingRecord.inheritedField "R" "y" = none := by
    rw [hidingRecord_inheritedField, hinterface]
  refine ⟨fun _ d _ e => ⟨fun he => ?_, fun he => ?_⟩, fun part _ hpart => ?_⟩
  · have hsome := (answers_fieldInBody 31).complete .field e ⟨rfl, he⟩
    rw [hown] at hsome
    cases hsome
  · have hsome := (answers_inheritedField "R").complete .field e ⟨rfl, he⟩
    rw [hinherited] at hsome
    cases hsome
  · -- a record has no constants for a part to be behind
    have hbody := hpart.body_type
    rw [htype] at hbody
    exact absurd hbody (by decide)

/-- The component with a name of its own is found by it. -/
theorem component_found_by_name :
    let u := hidingRecord
    u.tree.DistinctKeys ∧ u.UniqueTypes ∧ u.hierarchy.Acyclic ∧ u.InBody "R" 14 31 53 ∧
      u.FreeBelow "y" 31 53 ∧ u.Unambiguous "y" "R" 14 31 53 ∧ u.IsThisAccess "y" 55 ∧
      ∃ s, u.fieldOfThis 53 "y" = some s ∧ s.declaration = 23 ∧ u.lookup "y" 53 = some s ∧
        u.reference? 53 = some s ∧ u.reference? 55 = some s ∧ u.isConstant 53 = u.isConstant 55 := by
  intro u
  have hin : u.InBody "R" 14 31 53 := hidingRecord_inBody (by decide)
  have hfree : u.FreeBelow "y" 31 53 := hidingRecord_freeBelow (.inr rfl)
  have hthis : u.IsThisAccess "y" 55 := hidingRecord_isThisAccess (.inr rfl)
  have htype : u.enclosingType 55 = some "R" :=
    (hidingRecord_inBody (by decide)).enclosingType hidingRecord_distinctKeys
  obtain ⟨⟨htypes, -, htext⟩, -⟩ := hidingRecord_uses
  obtain ⟨s, hs, hdecl⟩ := Option.map_eq_some_iff.1 hidingRecord_fields.1.2
  have hfield : u.fieldOfThis 53 "y" = some s := by
    refine (fieldOfThis_eq_some_iff (hin.enclosingType hidingRecord_distinctKeys)).2 ⟨by decide, ?_⟩
    rw [hin.fieldOf_eq_or hidingRecord_uniqueTypes hidingRecord_acyclic, hs, Option.some_or]
  obtain ⟨hlookup, hrefs⟩ := (simple_name_denotes_field_of_this hidingRecord_distinctKeys
    hidingRecord_uniqueTypes hidingRecord_acyclic hin hfree hfield).2 hidingRecord_unambiguous
  have huse := hrefs (htypes 53 (by decide)) htext 55 hthis htype
  exact ⟨hidingRecord_distinctKeys, hidingRecord_uniqueTypes, hidingRecord_acyclic, hin, hfree,
    hidingRecord_unambiguous, hthis, s, hfield, hdecl, hlookup, huse⟩

/-- The component with the name of the inherited constant is hidden by it: the name means the constant,
the access means the component, and only one of them is constant. -/
theorem component_hidden_by_constant :
    let u := hidingRecord
    u.tree.DistinctKeys ∧ u.UniqueTypes ∧ u.hierarchy.Acyclic ∧ u.InBody "R" 14 31 46 ∧
      u.FreeBelow "x" 31 46 ∧ u.IsThisAccess "x" 48 ∧
      (∃ s, u.fieldOfThis 46 "x" = some s ∧ s.declaration = 19) ∧
      (∃ s, u.lookup "x" 46 = some s ∧ s.declaration = 8) ∧
      u.isConstant 46 = true ∧ u.isConstant 48 = false := by
  intro u
  have hin : u.InBody "R" 14 31 46 := hidingRecord_inBody (by decide)
  have hfree : u.FreeBelow "x" 31 46 := hidingRecord_freeBelow (.inl rfl)
  have hthis : u.IsThisAccess "x" 48 := hidingRecord_isThisAccess (.inl rfl)
  obtain ⟨⟨hcomponent, -⟩, hconstant, hown⟩ := hidingRecord_fields
  obtain ⟨⟨htypes, htext, -⟩, -⟩ := hidingRecord_uses
  obtain ⟨s, hs, hpair⟩ := Option.map_eq_some_iff.1 hcomponent
  obtain ⟨hdecl, hnot⟩ := Prod.mk.inj hpair
  have hfield : u.fieldOf "R" "x" = some s := by
    rw [hin.fieldOf_eq_or hidingRecord_uniqueTypes hidingRecord_acyclic, hs, Option.some_or]
  have haccess : u.reference? 48 = some s := by
    rw [hthis.reference?]
    have hin' : u.InBody "R" 14 31 48 := hidingRecord_inBody (by decide)
    exact (fieldOfThis_eq_some_iff (hin'.enclosingType hidingRecord_distinctKeys)).2
      ⟨by decide, hfield⟩
  obtain ⟨c, hc, hpair'⟩ := Option.map_eq_some_iff.1 hconstant
  obtain ⟨hdecl', hyes⟩ := Prod.mk.inj hpair'
  -- the body answers with what it inherits, and the header behind it is not asked
  have hbody : u.binding? 31 (u.tree.start 46) "x" = some c := by
    rw [binding?_of_isA_typeBodyTypes hin.isBody,
      bodyBinding_eq (hin.typeOfBody hidingRecord_distinctKeys) (by decide), hown,
      hidingRecord_inheritedField, hc, Option.none_or]
  have hclass : u.tree.type 31 ≠ "enum_body" := by
    rw [hidingRecord_types.2.2.2.1]
    decide
  have hlookup : u.lookup "x" 46 = some c := hin.lookup_of_body hfree hclass hbody
  have hident : u.tree.type 46 = "identifier" := htypes 46 (by decide)
  have hname : u.reference? 46 = some c := by rw [reference?_of_identifier hident, htext, hlookup]
  refine ⟨hidingRecord_distinctKeys, hidingRecord_uniqueTypes, hidingRecord_acyclic, hin, hfree, hthis,
    ⟨s, ?_, hdecl⟩, ⟨c, hlookup, hdecl'⟩, ?_, ?_⟩
  · exact (fieldOfThis_eq_some_iff (hin.enclosingType hidingRecord_distinctKeys)).2
      ⟨by decide, hfield⟩
  · have href : u.tree.isA 46 referenceTypes = true := by
      rw [isA, hident]
      decide
    rw [isConstant_of_reference? href hname, hyes]
  · have href : u.tree.isA 48 referenceTypes = true := by
      rw [isA, hthis.type]
      decide
    rw [isConstant_of_reference? href haccess, hnot]

end CompilationUnit

end JavaAudit
