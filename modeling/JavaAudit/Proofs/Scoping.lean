import JavaAudit.CompilationUnit.Recollection
import JavaAudit.Proofs.Bindings

/-!
# A name means its innermost binding

Whatever was asked before, a lookup answers with what the innermost enclosing scope that binds the name
declares for it, and answers nothing only if no enclosing scope binds the name
(`consult_eq_innermost`). Answers are kept by the keys of nodes, so this is for trees whose nodes have
keys of their own.
-/

namespace JavaAudit

/-! ## What a binding says about its declaration -/

namespace SyntaxTree

variable {t : SyntaxTree} {name : String} {body d callable scope : Nat}

/-- The declaration bears the name, in its `name` role or in the way of parameters. -/
def CarriesName (t : SyntaxTree) (name : String) (d : NodeId) : Prop :=
  t.Names name d ∨ t.NamesParameter name d

theorem IsMember.names (h : t.IsMember name body d) : t.Names name d := by
  induction h with
  | declarator _ _ hd => exact hd.2
  | enumConstant _ _ hname => exact hname
  | behindConstants _ _ _ ih => exact ih

theorem IsParameter.namesParameter (h : t.IsParameter name callable d) : t.NamesParameter name d := by
  obtain ⟨_, _, _, hname⟩ := h
  exact hname

theorem IsParameter.mem_ancestors (h : t.IsParameter name callable d) : callable ∈ t.ancestors d := by
  obtain ⟨params, hparams, hparam, -⟩ := h
  have hcallable := mem_ancestors_of_parent? (parent?_of_field? hparams)
  rcases hparam with ⟨-, rfl⟩ | ⟨-, hpart⟩
  · exact hcallable
  · exact mem_ancestors_step (parent?_of_mem_parts hpart) hcallable

theorem IsEarlierPart.mem_parts {position part : Nat} (h : t.IsEarlierPart scope position part) :
    part ∈ t.parts scope := by
  obtain ⟨before, after, hsplit, -⟩ := h
  rw [hsplit]
  exact List.mem_append_right before List.mem_cons_self

theorem IsEarlierPart.start_lt {position part : Nat} (h : t.IsEarlierPart scope position part) :
    t.start part < position := by
  obtain ⟨before, after, -, hearlier⟩ := h
  exact hearlier part (List.mem_append_right before List.mem_cons_self)

end SyntaxTree

namespace CompilationUnit

open SyntaxTree

variable {u : CompilationUnit} {name type : String} {kind : SymbolKind} {position scope d : Nat}

theorem HasOwnField.carriesName (h : u.HasOwnField name type d) : u.tree.CarriesName name d := by
  obtain ⟨decl, -, ⟨-, hparam⟩ | ⟨body, -, hmember⟩⟩ := h
  · exact .inr hparam.namesParameter
  · exact .inl hmember.names

/-- Whatever a scope binds carries the name. -/
theorem Binds.carriesName (h : u.Binds name position scope kind d) : u.tree.CarriesName name d := by
  cases h with
  | localVariable _ _ _ hd => exact .inl hd.2
  | loopHead _ _ _ hd => exact .inl hd.2
  | loopVariable _ hname => exact .inl hname
  | resource _ _ _ _ _ hname => exact .inl hname
  | catchParameter _ _ hname => exact .inl hname
  | parameter _ hparam => exact .inr hparam.namesParameter
  | component _ hparam => exact .inr hparam.namesParameter
  | ownField _ hd => exact .inl hd.names
  | inheritedField _ _ _ _ hd =>
    obtain ⟨super, -, hfield⟩ := hd
    exact hfield.carriesName

/-- Variables, resources and parameters are declared in the scope that binds them. -/
theorem Binds.eq_or_mem_ancestors (h : u.Binds name position scope kind d) (hkind : kind ≠ .field) :
    d = scope ∨ scope ∈ u.tree.ancestors d := by
  cases h with
  | localVariable _ hearlier _ hd =>
    have hstatement := mem_ancestors_of_parent? (parent?_of_mem_parts hearlier.mem_parts)
    exact .inr (mem_ancestors_step (parent?_of_mem_fields hd.1) hstatement)
  | loopHead _ hinit _ hd =>
    have hhead := mem_ancestors_of_parent? (parent?_of_mem_fields hinit)
    exact .inr (mem_ancestors_step (parent?_of_mem_fields hd.1) hhead)
  | loopVariable => exact .inl rfl
  | resource _ hspec hr _ _ _ =>
    have hspec' := mem_ancestors_of_parent? (parent?_of_field? hspec)
    exact .inr (mem_ancestors_step (parent?_of_mem_parts hr) hspec')
  | catchParameter _ hparam _ => exact .inr (mem_ancestors_of_parent? (parent?_of_childOfType? hparam))
  | parameter _ hparam => exact .inr hparam.mem_ancestors
  | component => exact absurd rfl hkind
  | ownField => exact absurd rfl hkind
  | inheritedField => exact absurd rfl hkind

/-- A local variable is declared by an earlier statement of a block, or by the head of a loop. -/
theorem Binds.of_localVariable (h : u.Binds name position scope .localVariable d) :
    (∃ statement ∈ u.tree.parts scope, u.tree.parent? d = some statement ∧
        u.tree.start statement < position) ∨
      u.tree.type scope = "for_statement" ∨ u.tree.type scope = "enhanced_for_statement" := by
  cases h with
  | localVariable _ hearlier _ hd =>
    exact .inl ⟨_, hearlier.mem_parts, parent?_of_mem_fields hd.1, hearlier.start_lt⟩
  | loopHead hscope => exact .inr (.inl hscope)
  | loopVariable hscope => exact .inr (.inr hscope)

/-- A resource is bound only behind the place where it starts. -/
theorem Binds.of_resource (h : u.Binds name position scope .resource d) :
    u.tree.start d < position := by
  cases h with
  | resource _ _ _ _ hearlier _ => exact hearlier

/-- A field belongs to a record or a type body, or to a supertype of the type that the body is of. -/
theorem Binds.of_field (h : u.Binds name position scope .field d) :
    u.tree.type scope = "record_declaration" ∧ u.tree.IsParameter name scope d ∨
      u.tree.isA scope typeBodyTypes = true ∧
        (u.tree.IsMember name scope d ∨ ∃ holder type, u.tree.IsBodyOf scope holder ∧
          u.declaredName? holder = some type ∧ u.InheritsField name type d) := by
  cases h with
  | component hscope hparam => exact .inl ⟨hscope, hparam⟩
  | ownField hscope hd => exact .inr ⟨hscope, .inl hd⟩
  | inheritedField hscope hholder htype _ hd => exact .inr ⟨hscope, .inr ⟨_, _, hholder, htype, hd⟩⟩

/-! ## From the inside out -/

/-- A scope that is silent about a name binds nothing under it. -/
theorem binding?_eq_none_iff :
    u.binding? scope position name = none ↔ ∀ kind d, ¬ u.Binds name position scope kind d := by
  constructor
  · intro h kind d hd
    have hsome := (answers_binding? scope position).complete kind d hd
    rw [h] at hsome
    cases hsome
  · intro h
    refine Option.eq_none_iff_forall_ne_some.2 fun s hs => ?_
    exact h _ _ (binds_of_binding? hs).2

/-- A name means nothing exactly if no scope around it binds it. -/
theorem lookup_eq_none_iff {n : Nat} :
    u.lookup name n = none ↔
      ∀ a ∈ u.tree.ancestors n, ∀ kind d, ¬ u.Binds name (u.tree.start n) a kind d := by
  unfold lookup
  simp only [List.findSome?_eq_none_iff, binding?_eq_none_iff]

/-- A lookup finds a binding of some enclosing node, and no node further in binds the name. -/
theorem lookup_eq_some {n : Nat} {s : Symbol} (h : u.lookup name n = some s) :
    s.name = name ∧ ∃ inner scope outer, u.tree.ancestors n = inner ++ scope :: outer ∧
      u.Binds name (u.tree.start n) scope s.kind s.declaration ∧
      ∀ a ∈ inner, ∀ kind d, ¬ u.Binds name (u.tree.start n) a kind d := by
  obtain ⟨inner, scope, outer, hsplit, hbinding, hinner⟩ := List.findSome?_eq_some_iff.1 h
  obtain ⟨hname, hbinds⟩ := binds_of_binding? hbinding
  exact ⟨hname, inner, scope, outer, hsplit, hbinds, fun a ha => binding?_eq_none_iff.1 (hinner a ha)⟩

/-- Whatever was asked before, a name means its innermost binding. What a lookup finds bears the name
and is declared by an enclosing node: a variable, a resource or a parameter inside that node, a variable
of a block and a resource before the use, and a field in the record or the type body or in a supertype of
its type. No node between the use and that one binds the name. A lookup finds nothing exactly if no
enclosing node binds the name. -/
theorem consult_eq_innermost (hkeys : u.tree.DistinctKeys) {asked : List (String × NodeId)}
    (hasked : ∀ q ∈ asked, q.2 < u.tree.size) (name : String) {n : Nat} (hn : n < u.tree.size) :
    (∀ s, (u.consult (u.consultAll [] asked) name n).1 = some s →
      s.name = name ∧ u.tree.CarriesName name s.declaration ∧
        ∃ inner scope outer, u.tree.ancestors n = inner ++ scope :: outer ∧
          u.Binds name (u.tree.start n) scope s.kind s.declaration ∧
          (s.kind ≠ .field → s.declaration = scope ∨ scope ∈ u.tree.ancestors s.declaration) ∧
          (s.kind = .localVariable →
            (∃ statement ∈ u.tree.parts scope, u.tree.parent? s.declaration = some statement ∧
                u.tree.start statement < u.tree.start n) ∨
              u.tree.type scope = "for_statement" ∨ u.tree.type scope = "enhanced_for_statement") ∧
          (s.kind = .resource → u.tree.start s.declaration < u.tree.start n) ∧
          (s.kind = .field →
            u.tree.type scope = "record_declaration" ∧ u.tree.IsParameter name scope s.declaration ∨
              u.tree.isA scope typeBodyTypes = true ∧
                (u.tree.IsMember name scope s.declaration ∨
                  ∃ holder type, u.tree.IsBodyOf scope holder ∧
                    u.declaredName? holder = some type ∧
                    u.InheritsField name type s.declaration)) ∧
          ∀ a ∈ inner, ∀ kind d, ¬ u.Binds name (u.tree.start n) a kind d) ∧
      ((u.consult (u.consultAll [] asked) name n).1 = none ↔
        ∀ a ∈ u.tree.ancestors n, ∀ kind d, ¬ u.Binds name (u.tree.start n) a kind d) := by
  have hfaithful := faithful_consultAll hkeys faithful_nil hasked
  rw [consult_eq_lookup hfaithful hn]
  refine ⟨fun s hs => ?_, lookup_eq_none_iff⟩
  obtain ⟨hname, inner, scope, outer, hsplit, hbinds, hinner⟩ := lookup_eq_some hs
  refine ⟨hname, hbinds.carriesName, inner, scope, outer, hsplit, hbinds,
    hbinds.eq_or_mem_ancestors, ?_, ?_, ?_, hinner⟩
  · intro hkind
    rw [hkind] at hbinds
    exact hbinds.of_localVariable
  · intro hkind
    rw [hkind] at hbinds
    exact hbinds.of_resource
  · intro hkind
    rw [hkind] at hbinds
    exact hbinds.of_field

/-! ### A local variable in front of a field -/

/-- A class whose method declares a variable under the name of a field and then uses the name. -/
def shadowedField : CompilationUnit :=
  .ofTree "A.java" (.ofNodes "class A\x7bint x;void f()\x7bint x;x++;\x7d\x7d" #[
    ⟨none, "program", true, false, 0, 35, none⟩,
    ⟨some 0, "class_declaration", true, false, 0, 35, none⟩,
    ⟨some 1, "class", false, false, 0, 5, none⟩,
    ⟨some 1, "identifier", true, false, 6, 7, some "name"⟩,
    ⟨some 1, "class_body", true, false, 7, 35, some "body"⟩,
    ⟨some 4, "\x7b", false, false, 7, 8, none⟩,
    ⟨some 4, "field_declaration", true, false, 8, 14, none⟩,
    ⟨some 6, "integral_type", true, false, 8, 11, some "type"⟩,
    ⟨some 7, "int", false, false, 8, 11, none⟩,
    ⟨some 6, "variable_declarator", true, false, 12, 13, some "declarator"⟩,
    ⟨some 9, "identifier", true, false, 12, 13, some "name"⟩,
    ⟨some 6, ";", false, false, 13, 14, none⟩,
    ⟨some 4, "method_declaration", true, false, 14, 34, none⟩,
    ⟨some 12, "void_type", true, false, 14, 18, some "type"⟩,
    ⟨some 12, "identifier", true, false, 19, 20, some "name"⟩,
    ⟨some 12, "formal_parameters", true, false, 20, 22, some "parameters"⟩,
    ⟨some 15, "(", false, false, 20, 21, none⟩,
    ⟨some 15, ")", false, false, 21, 22, none⟩,
    ⟨some 12, "block", true, false, 22, 34, some "body"⟩,
    ⟨some 18, "\x7b", false, false, 22, 23, none⟩,
    ⟨some 18, "local_variable_declaration", true, false, 23, 29, none⟩,
    ⟨some 20, "integral_type", true, false, 23, 26, some "type"⟩,
    ⟨some 21, "int", false, false, 23, 26, none⟩,
    ⟨some 20, "variable_declarator", true, false, 27, 28, some "declarator"⟩,
    ⟨some 23, "identifier", true, false, 27, 28, some "name"⟩,
    ⟨some 20, ";", false, false, 28, 29, none⟩,
    ⟨some 18, "expression_statement", true, false, 29, 33, none⟩,
    ⟨some 26, "update_expression", true, false, 29, 32, none⟩,
    ⟨some 27, "identifier", true, false, 29, 30, none⟩,
    ⟨some 27, "++", false, false, 30, 32, none⟩,
    ⟨some 26, ";", false, false, 32, 33, none⟩,
    ⟨some 18, "\x7d", false, false, 33, 34, none⟩,
    ⟨some 4, "\x7d", false, false, 34, 35, none⟩])

/-- After other questions, the name means the local variable and not the field. -/
theorem consult_shadowedField :
    let u := shadowedField
    let asked := [("x", 10), ("x", 28), ("y", 28)]
    u.tree.DistinctKeys ∧ (∀ q ∈ asked, q.2 < u.tree.size) ∧ 28 < u.tree.size ∧
      ∃ s, (u.consult (u.consultAll [] asked) "x" 28).1 = some s ∧ s.name = "x" ∧
        s.kind = .localVariable ∧ s.declaration = 23 ∧
        ∃ inner scope outer, u.tree.ancestors 28 = inner ++ scope :: outer ∧
          u.Binds "x" (u.tree.start 28) scope .localVariable 23 ∧
          ∀ a ∈ inner, ∀ kind d, ¬ u.Binds "x" (u.tree.start 28) a kind d := by
  intro u asked
  have hkeys : u.tree.DistinctKeys := .of_nodup (by decide)
  have hasked : ∀ q ∈ asked, q.2 < u.tree.size := by decide
  have hn : 28 < u.tree.size := by decide
  have hanswer : ((u.consult (u.consultAll [] asked) "x" 28).1.map fun s => (s.kind, s.declaration)) =
      some (.localVariable, 23) := by decide +kernel
  obtain ⟨s, hs, hpair⟩ := Option.map_eq_some_iff.1 hanswer
  obtain ⟨hkind, hdecl⟩ := Prod.mk.inj hpair
  obtain ⟨hname, -, inner, scope, outer, hsplit, hbinds, -, -, -, -, hinner⟩ :=
    (consult_eq_innermost hkeys hasked "x" hn).1 s hs
  rw [hkind, hdecl] at hbinds
  exact ⟨hkeys, hasked, hn, s, hs, hname, hkind, hdecl, inner, scope, outer, hsplit, hbinds, hinner⟩

end CompilationUnit

end JavaAudit
