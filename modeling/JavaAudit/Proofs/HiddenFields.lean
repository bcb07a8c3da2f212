import JavaAudit.Proofs.FieldAccess
import JavaAudit.Proofs.ReleasedResources

/-!
# Local variables and the fields behind them

A local variable is in front of every field of its name, and so a use of it is no constant of a class
(`local_variable_hides_fields_within_block`). For the search through the scopes this holds from the
declaration to the end of the block, with two limits. The header of a record inside the block has the
components of the record in front of the variable. And the groups of statements in a `switch` are blocks
of their own, so that a variable of one group is passed over by the uses in the groups behind it, although
it is in scope there.

Beside what a name means, it is followed where the modifiers of a symbol are written, because only these
make it a constant.
-/

namespace JavaAudit

namespace SyntaxTree

variable {t : SyntaxTree} {name : String} {v n : Nat}

/-- A node declares a variable or a parameter of this name, and its modifiers are those of the variable. -/
inductive DeclaresVariable (t : SyntaxTree) (name : String) : NodeId → Prop where
  | declarator {v d : NodeId} (htype : t.type v = "local_variable_declaration")
      (hd : t.IsDeclarator name v d) : DeclaresVariable t name v
  | named {v : NodeId}
      (htype : t.isA v
        ["enhanced_for_statement", "resource", "catch_formal_parameter", "formal_parameter"] = true)
      (hname : t.Names name v) : DeclaresVariable t name v
  | spread {v d : NodeId} (htype : t.type v = "spread_parameter")
      (hd : t.childOfType? v ["variable_declarator"] = some d) (hname : t.Names name d) :
      DeclaresVariable t name v

theorem isA_of_type (h : t.type n = name) {types : List String} (hmem : name ∈ types) :
    t.isA n types = true := by
  rw [isA, h]
  exact List.contains_iff_mem.2 hmem

theorem not_isA_of_type (h : t.type n = name) {types : List String} (hmem : name ∉ types) :
    ¬ t.isA n types = true := by
  rw [isA, h]
  exact fun hcontains => hmem (List.contains_iff_mem.1 hcontains)

/-- What declares a variable is not a block. -/
theorem DeclaresVariable.not_isBlock (h : t.DeclaresVariable name v) : ¬ t.isA v blockTypes = true := by
  cases h with
  | declarator htype _ => exact not_isA_of_type htype (by decide)
  | named htype _ =>
    have hmem := List.contains_iff_mem.1 htype
    simp only [List.mem_cons, List.not_mem_nil, or_false] at hmem
    rcases hmem with h | h | h | h <;> exact not_isA_of_type h (by decide)
  | spread htype _ _ => exact not_isA_of_type htype (by decide)

end SyntaxTree

namespace CompilationUnit

open SyntaxTree

variable {u : CompilationUnit} {name : String} {kind : SymbolKind} {s : Symbol}
  {block decl d use scope position : Nat}

/-! ## Where modifiers are written -/

/-- The modifiers of a symbol are those of a node in the scope that declares a variable of this name, or
there are none. -/
def WrittenIn (u : CompilationUnit) (name : String) (scope : NodeId) (s : Symbol) : Prop :=
  s.modifiers = [] ∨ ∃ v, u.tree.DeclaresVariable name v ∧ (v = scope ∨ scope ∈ u.tree.ancestors v) ∧
    s.modifiers = u.modifiersOf v

theorem writtenIn_of_namedVariable {holder declaration : Nat} {typeNode initializer : Option NodeId}
    (hs : u.namedVariable holder declaration name kind typeNode initializer = some s)
    (htype : u.tree.isA holder
      ["enhanced_for_statement", "resource", "catch_formal_parameter", "formal_parameter"] = true)
    (hin : holder = scope ∨ scope ∈ u.tree.ancestors holder) : u.WrittenIn name scope s := by
  unfold namedVariable at hs
  split at hs
  · next hname =>
    cases hs
    exact .inr ⟨holder, .named htype hname, hin, rfl⟩
  · cases hs

/-- The modifiers of a local variable are those of its declaration. -/
theorem writtenIn_of_declaredIn (hs : u.declaredIn decl name kind [] = some s)
    (htype : u.tree.type decl = "local_variable_declaration") (hin : scope ∈ u.tree.ancestors decl) :
    u.WrittenIn name scope s := by
  obtain ⟨-, -, hd⟩ := (answers_declaredIn decl []).sound s hs
  obtain ⟨d, -, rfl⟩ := Option.map_eq_some_iff.1 hs
  exact .inr ⟨decl, .declarator htype hd, .inr hin, List.append_nil _⟩

theorem writtenIn_of_parameterSymbol {callable param : Nat}
    (hs : u.parameterSymbol callable param name kind = some s) (hin : scope ∈ u.tree.ancestors param) :
    u.WrittenIn name scope s := by
  unfold parameterSymbol at hs
  dsimp only at hs
  split at hs
  · -- a bare name has no place for modifiers
    split at hs
    · cases hs
      exact .inl rfl
    · cases hs
  · next htype => exact writtenIn_of_namedVariable hs (isA_of_type htype (by decide)) (.inr hin)
  · next htype =>
    obtain ⟨d, hd, hs⟩ := Option.bind_eq_some_iff.1 hs
    obtain ⟨found, hfound, rfl⟩ := Option.map_eq_some_iff.1 hs
    obtain ⟨-, -, -, hname⟩ := (answers_namedVariable d param _ _).sound found hfound
    exact .inr ⟨param, .spread htype hd hname, .inr hin, rfl⟩
  · cases hs

theorem writtenIn_of_parameter? (hs : u.parameter? scope name kind = some s) : u.WrittenIn name scope s := by
  obtain ⟨params, hparams, hs⟩ := Option.bind_eq_some_iff.1 hs
  obtain ⟨param, hmem, hs⟩ := List.exists_of_findSome?_eq_some hs
  have hscope := mem_ancestors_of_parent? (parent?_of_field? hparams)
  refine writtenIn_of_parameterSymbol hs ?_
  split at hmem
  · rw [List.mem_singleton.1 hmem]
    exact hscope
  · exact mem_ancestors_step (parent?_of_mem_parts hmem) hscope

/-- What a scope other than the body of a type binds has its modifiers in that scope. -/
theorem writtenIn_of_binding? (hs : u.binding? scope position name = some s)
    (hbody : ¬ u.tree.isA scope typeBodyTypes = true) : u.WrittenIn name scope s := by
  -- one case for each kind of scope: a block, the two `for` statements, `try`, `catch`, a callable, a record
  unfold binding? at hs
  dsimp only at hs
  split at hs
  · obtain ⟨statement, hmem, hs⟩ := List.exists_of_findSome?_eq_some hs
    obtain ⟨hearlier, htype⟩ := List.mem_filter.1 hmem
    have hpart := (List.takeWhile_sublist _).mem hearlier
    exact writtenIn_of_declaredIn hs (of_decide_eq_true htype)
      (mem_ancestors_of_parent? (parent?_of_mem_parts hpart))
  split at hs
  · obtain ⟨init, hmem, hs⟩ := List.exists_of_findSome?_eq_some hs
    obtain ⟨hinit, htype⟩ := List.mem_filter.1 hmem
    exact writtenIn_of_declaredIn hs (of_decide_eq_true htype)
      (mem_ancestors_of_parent? (parent?_of_mem_fields hinit))
  split at hs
  · next htype => exact writtenIn_of_namedVariable hs (isA_of_type htype (by decide)) (.inl rfl)
  split at hs
  · obtain ⟨r, hmem, hs⟩ := List.exists_of_findSome?_eq_some hs
    obtain ⟨hr, htype⟩ := List.mem_filter.1 hmem
    rw [Bool.and_eq_true, decide_eq_true_eq] at htype
    refine writtenIn_of_namedVariable hs (isA_of_type htype.1 (by decide)) (.inr ?_)
    cases hspec : u.tree.field? scope "resources" with
    | none =>
      rw [hspec] at hr
      cases hr
    | some spec =>
      rw [hspec] at hr
      exact mem_ancestors_step (parent?_of_mem_parts hr) (mem_ancestors_of_parent? (parent?_of_field? hspec))
  split at hs
  · obtain ⟨param, hparam, hs⟩ := Option.bind_eq_some_iff.1 hs
    have htype : u.tree.type param = "catch_formal_parameter" :=
      List.mem_singleton.1 (List.contains_iff_mem.1 (isA_of_childOfType? hparam))
    exact writtenIn_of_namedVariable hs (isA_of_type htype (by decide))
      (.inr (mem_ancestors_of_parent? (parent?_of_childOfType? hparam)))
  split at hs
  · exact writtenIn_of_parameter? hs
  split at hs
  · exact writtenIn_of_parameter? hs
  split at hs
  · next htype => exact absurd htype hbody
  · cases hs

/-! ## What hides a binding -/

/-- A name that a scope around its use binds means something in that scope, or something further in. -/
theorem lookup_within (hscope : block ∈ u.tree.ancestors use)
    (hbinds : u.Binds name (u.tree.start use) block kind d) :
    ∃ s scope, u.lookup name use = some s ∧ u.binding? scope (u.tree.start use) name = some s ∧
      scope ∈ u.tree.ancestors use ∧ (scope = block ∨ block ∈ u.tree.ancestors scope) := by
  have hsome : u.lookup name use ≠ none := fun hnone =>
    lookup_eq_none_iff.1 hnone block hscope kind d hbinds
  obtain ⟨s, hs⟩ := Option.ne_none_iff_exists'.1 hsome
  obtain ⟨inner, scope, outer, hsplit, hbinding, hinner⟩ := List.findSome?_eq_some_iff.1 hs
  have hmem : scope ∈ u.tree.ancestors use := by
    rw [hsplit]
    exact List.mem_append_right inner List.mem_cons_self
  refine ⟨s, scope, hs, hbinding, hmem, ?_⟩
  rw [hsplit] at hscope
  rcases List.mem_append.1 hscope with hmem | hmem
  · -- the scope that answers is the innermost one that binds the name
    exact absurd hbinds (binding?_eq_none_iff.1 (hinner block hmem) kind d)
  · rcases List.mem_cons.1 hmem with heq | houter
    · exact .inl heq.symm
    · rw [← ancestors_of_append hsplit] at houter
      exact .inr houter

/-- A scope that binds nothing is passed over. -/
theorem lookup_beyond (hscope : scope ∈ u.tree.ancestors use)
    (hnone : ∀ a ∈ u.tree.ancestors use, a = scope ∨ scope ∈ u.tree.ancestors a →
      ∀ kind d, ¬ u.Binds name (u.tree.start use) a kind d) :
    u.lookup name use =
      (u.tree.ancestors scope).findSome? fun a => u.binding? a (u.tree.start use) name := by
  obtain ⟨inner, hsplit⟩ := ancestors_eq_append hscope
  have hfront : ∀ a ∈ inner ++ [scope], u.binding? a (u.tree.start use) name = none := by
    intro a ha
    refine binding?_eq_none_iff.2 (hnone a ?_ ?_)
    · rw [hsplit]
      simp only [List.mem_append, List.mem_cons, List.not_mem_nil, or_false] at ha ⊢
      exact ha.imp_right .inl
    · rcases List.mem_append.1 ha with hinner | hlast
      · exact .inr (mem_ancestors_of_append hsplit hinner)
      · exact .inl (List.mem_singleton.1 hlast)
  have hassoc : u.tree.ancestors use = (inner ++ [scope]) ++ u.tree.ancestors scope := by
    rw [hsplit, List.append_assoc]
    rfl
  rw [lookup, hassoc, List.findSome?_append, List.findSome?_eq_none_iff.2 hfront, Option.none_or]

/-- The body of a switch binds nothing itself, since the statements are in its groups. -/
theorem not_binds_of_switch_block (h : u.tree.type scope = "switch_block") :
    ¬ u.Binds name position scope kind d := by
  refine binding?_eq_none_iff.1 ?_ kind d
  unfold binding?
  rw [h]
  rfl

/-! ## Uses behind a declaration -/

/-- A use of the name of a local variable, behind its declaration. -/
structure IsUsedBehind (u : CompilationUnit) (name : String) (decl use : NodeId) : Prop where
  type : u.tree.type use = "identifier"
  text : u.tree.text use = name
  after : u.tree.start decl < u.tree.start use

/-- There is no body of a type between a block and a node in it. -/
def NoBodyBetween (u : CompilationUnit) (block n : NodeId) : Prop :=
  ∀ a ∈ u.tree.ancestors n, block ∈ u.tree.ancestors a → ¬ u.tree.isA a typeBodyTypes = true

theorem IsUsedBehind.isConstant (h : u.IsUsedBehind name decl use) (hs : u.lookup name use = some s) :
    u.isConstant use = s.isConstant := by
  refine isConstant_of_reference? (isA_of_type h.type (by decide)) ?_
  rw [reference?_of_identifier h.type, h.text, hs]

/-- A block, or a scope inside it, is the body of a type only if there is one in between. -/
theorem NoBodyBetween.not_isBody (h : u.NoBodyBetween block use) (hisBlock : u.tree.isA block blockTypes = true)
    (hmem : scope ∈ u.tree.ancestors use) (hscope : scope = block ∨ block ∈ u.tree.ancestors scope) :
    ¬ u.tree.isA scope typeBodyTypes = true := by
  rcases hscope with rfl | habove
  · intro hbody
    have hb := List.contains_iff_mem.1 hisBlock
    have ht := List.contains_iff_mem.1 hbody
    revert ht
    simp only [blockTypes, List.mem_cons, List.not_mem_nil, or_false] at hb
    rcases hb with h | h | h <;> rw [h] <;> decide
  · exact h scope hmem habove

section Variables

variable (hlocal : u.tree.IsLocalDeclaration block decl) (ht : u.tree.WellFormed)
  (hd : u.tree.IsDeclarator name decl d)

include hlocal ht hd

/-- The block binds the name for every use behind the declaration. -/
theorem IsUsedBehind.binds (huse : u.IsUsedBehind name decl use) :
    u.Binds name (u.tree.start use) block .localVariable d :=
  .localVariable hlocal.isBlock (ht.isEarlierPart hlocal.statement huse.after) hlocal.type hd

/-- Inside the block, the name means a field only in the header of a record, and a constant only if one is
declared in the block. -/
theorem IsUsedBehind.lookup (huse : u.IsUsedBehind name decl use) (hin : block ∈ u.tree.ancestors use)
    (hbody : u.NoBodyBetween block use) :
    ∃ s, u.lookup name use = some s ∧
      (s.kind = .field → ∃ record ∈ u.tree.ancestors use, block ∈ u.tree.ancestors record ∧
        u.tree.type record = "record_declaration" ∧ u.tree.IsParameter name record s.declaration) ∧
      (s.isConstant = true → ∃ v, block ∈ u.tree.ancestors v ∧ u.tree.DeclaresVariable name v ∧
        "static" ∈ u.modifiersOf v ∧ "final" ∈ u.modifiersOf v) := by
  obtain ⟨s, scope, hs, hbinding, hmem, hscope⟩ := lookup_within hin (huse.binds hlocal ht hd)
  have hnobody := hbody.not_isBody hlocal.isBlock hmem hscope
  refine ⟨s, hs, fun hkind => ?_, fun hconstant => ?_⟩
  · have hfound := (binds_of_binding? hbinding).2
    rw [hkind] at hfound
    rcases hfound.of_field with ⟨hrecord, hparam⟩ | ⟨hisBody, -⟩
    · refine ⟨scope, hmem, ?_, hrecord, hparam⟩
      rcases hscope with rfl | habove
      · exact absurd hlocal.isBlock (not_isA_of_type hrecord (by decide))
      · exact habove
    · exact absurd hisBody hnobody
  · unfold Symbol.isConstant Symbol.isFinal Symbol.isStatic at hconstant
    rw [Bool.and_eq_true, List.contains_iff_mem, List.contains_iff_mem] at hconstant
    rcases writtenIn_of_binding? hbinding hnobody with hnone | ⟨v, hv, hplace, hwritten⟩
    · rw [hnone] at hconstant
      cases hconstant.1
    · rw [hwritten] at hconstant
      refine ⟨v, ?_, hv, hconstant.2, hconstant.1⟩
      -- the declaration is in the scope, and the scope is the block or inside it
      rcases hplace with rfl | hplace
      · rcases hscope with rfl | habove
        · exact absurd hlocal.isBlock hv.not_isBlock
        · exact habove
      · rcases hscope with rfl | habove
        · exact hplace
        · exact mem_ancestors_trans habove hplace

/-- Where nothing else declares the name, it means the variable. -/
theorem IsUse.lookup_eq (huse : u.IsUse name block decl use) (honce : u.tree.DeclaresOnce block) :
    u.lookup name use = some (u.declaratorSymbol decl d name .localVariable []) := by
  have hbehind : u.IsUsedBehind name decl use := ⟨huse.type, huse.text, huse.after⟩
  obtain ⟨s, scope, hs, hbinding, hmem, rfl | habove⟩ :=
    lookup_within huse.inside (hbehind.binds hlocal ht hd)
  · have hblock : u.binding? scope (u.tree.start use) name =
        u.blockBinding scope (u.tree.start use) name := if_pos hlocal.isBlock
    rw [hblock] at hbinding
    obtain ⟨statement, hstatement, hdeclared⟩ := List.exists_of_findSome?_eq_some hbinding
    obtain ⟨hearlier, htype⟩ := List.mem_filter.1 hstatement
    have hpart := (List.takeWhile_sublist _).mem hearlier
    obtain ⟨-, -, hd'⟩ := (answers_declaredIn statement []).sound s hdeclared
    obtain ⟨d', -, rfl⟩ := Option.map_eq_some_iff.1 hdeclared
    -- the block declares the name once, so that what is found is this declarator
    obtain rfl : d' = d :=
      honce name statement decl d' d ⟨of_decide_eq_true htype, hlocal.isBlock, hpart⟩ hlocal hd' hd
    obtain rfl : statement = decl :=
      Option.some.inj ((parent?_of_mem_fields hd'.1).symm.trans (parent?_of_mem_fields hd.1))
    exact hs
  · exact absurd (binds_of_binding? hbinding).2 (huse.free scope hmem habove _ _)

/-- Outside the block, the variable is not found. -/
theorem declaration_ne_of_lookup (hout : block ∉ u.tree.ancestors use) (hs : u.lookup name use = some s) :
    s.declaration ≠ d := by
  rintro rfl
  obtain ⟨-, inner, scope, outer, hsplit, hbinds, -⟩ := lookup_eq_some hs
  obtain ⟨rfl, -, -⟩ := hbinds.of_declarator hlocal ht hd.1
  refine hout ?_
  rw [hsplit]
  exact List.mem_append_right inner List.mem_cons_self

/-- From its declaration to the end of the block, a local variable hides the fields of its name. A use
that no body of a type parts from the block means a variable or a parameter, or in the header of a record
one of its components; it is a constant only if a variable of the name in the block is written as one.
Where nothing else declares the name it means the variable itself, which is no constant unless it is
written as `static`. In a `switch`, the variable of one group is passed over by the uses in the other
groups, and what the name means there is decided outside the `switch`. -/
theorem local_variable_hides_fields_within_block (huse : u.IsUsedBehind name decl use) :
    (block ∈ u.tree.ancestors use → u.NoBodyBetween block use →
      (∃ s, u.lookup name use = some s ∧
        (s.kind = .field → ∃ record ∈ u.tree.ancestors use, block ∈ u.tree.ancestors record ∧
          u.tree.type record = "record_declaration" ∧ u.tree.IsParameter name record s.declaration)) ∧
      (u.isConstant use = true → ∃ v, block ∈ u.tree.ancestors v ∧ u.tree.DeclaresVariable name v ∧
        "static" ∈ u.modifiersOf v ∧ "final" ∈ u.modifiersOf v)) ∧
    (u.IsUse name block decl use → u.tree.DeclaresOnce block →
      (∃ s, u.lookup name use = some s ∧ s.kind = .localVariable ∧ s.declaration = d) ∧
      ("static" ∉ u.modifiersOf decl → u.isConstant use = false)) ∧
    (∀ switch, u.tree.parent? block = some switch → u.tree.type switch = "switch_block" →
      switch ∈ u.tree.ancestors use → block ∉ u.tree.ancestors use →
      (∀ s, u.lookup name use = some s → s.declaration ≠ d) ∧
      ((∀ a ∈ u.tree.ancestors use, switch ∈ u.tree.ancestors a →
          ∀ kind d, ¬ u.Binds name (u.tree.start use) a kind d) →
        u.lookup name use =
          (u.tree.ancestors switch).findSome? fun a => u.binding? a (u.tree.start use) name)) := by
  refine ⟨fun hin hbody => ?_, fun hfree honce => ?_, fun switch _ htype hswitch hout => ⟨?_, ?_⟩⟩
  · obtain ⟨s, hs, hfield, hconstant⟩ := huse.lookup hlocal ht hd hin hbody
    refine ⟨⟨s, hs, hfield⟩, fun h => hconstant ?_⟩
    rw [← huse.isConstant hs]
    exact h
  · have hs := hfree.lookup_eq hlocal ht hd honce
    refine ⟨⟨_, hs, rfl, rfl⟩, fun hstatic => ?_⟩
    rw [huse.isConstant hs]
    simp [Symbol.isConstant, Symbol.isStatic, declaratorSymbol, hstatic]
  · exact fun s hs => declaration_ne_of_lookup hlocal ht hd hout hs
  · intro hfree
    refine lookup_beyond hswitch fun a ha habove kind e => ?_
    rcases habove with rfl | habove
    · exact not_binds_of_switch_block htype
    · exact hfree a ha habove kind e

end Variables

/-- A `switch` that declares a variable in its first group, under the name of a constant of the class. The
variable is used in that group and in the one behind it. -/
def groupedVariable : CompilationUnit :=
  .ofTree "A.java" (.ofNodes "class A\x7bstatic final int x=0;int f(int k)\x7bswitch(k)\x7bcase 0:int x;x=k;default:x=k;return x;\x7d\x7d\x7d" #[
    ⟨none, "program", true, false, 0, 93, none⟩,
    ⟨some 0, "class_declaration", true, false, 0, 93, none⟩,
    ⟨some 1, "class", false, false, 0, 5, none⟩,
    ⟨some 1, "identifier", true, false, 6, 7, some "name"⟩,
    ⟨some 1, "class_body", true, false, 7, 93, some "body"⟩,
    ⟨some 4, "\x7b", false, false, 7, 8, none⟩,
    ⟨some 4, "field_declaration", true, false, 8, 29, none⟩,
    ⟨some 6, "modifiers", true, false, 8, 20, none⟩,
    ⟨some 7, "static", false, false, 8, 14, none⟩,
    ⟨some 7, "final", false, false, 15, 20, none⟩,
    ⟨some 6, "integral_type", true, false, 21, 24, some "type"⟩,
    ⟨some 10, "int", false, false, 21, 24, none⟩,
    ⟨some 6, "variable_declarator", true, false, 25, 28, some "declarator"⟩,
    ⟨some 12, "identifier", true, false, 25, 26, some "name"⟩,
    ⟨some 12, "=", false, false, 26, 27, none⟩,
    ⟨some 12, "decimal_integer_literal", true, false, 27, 28, some "value"⟩,
    ⟨some 6, ";", false, false, 28, 29, none⟩,
    ⟨some 4, "method_declaration", true, false, 29, 92, none⟩,
    ⟨some 17, "integral_type", true, false, 29, 32, some "type"⟩,
    ⟨some 18, "int", false, false, 29, 32, none⟩,
    ⟨some 17, "identifier", true, false, 33, 34, some "name"⟩,
    ⟨some 17, "formal_parameters", true, false, 34, 41, some "parameters"⟩,
    ⟨some 21, "(", false, false, 34, 35, none⟩,
    ⟨some 21, "formal_parameter", true, false, 35, 40, none⟩,
    ⟨some 23, "integral_type", true, false, 35, 38, some "type"⟩,
    ⟨some 24, "int", false, false, 35, 38, none⟩,
    ⟨some 23, "identifier", true, false, 39, 40, some "name"⟩,
    ⟨some 21, ")", false, false, 40, 41, none⟩,
    ⟨some 17, "block", true, false, 41, 92, some "body"⟩,
    ⟨some 28, "\x7b", false, false, 41, 42, none⟩,
    ⟨some 28, "switch_expression", true, false, 42, 91, none⟩,
    ⟨some 30, "switch", false, false, 42, 48, none⟩,
    ⟨some 30, "parenthesized_expression", true, false, 48, 51, some "condition"⟩,
    ⟨some 32, "(", false, false, 48, 49, none⟩,
    ⟨some 32, "identifier", true, false, 49, 50, none⟩,
    ⟨some 32, ")", false, false, 50, 51, none⟩,
    ⟨some 30, "switch_block", true, false, 51, 91, some "body"⟩,
    ⟨some 36, "\x7b", false, false, 51, 52, none⟩,
    ⟨some 36, "switch_block_statement_group", true, false, 52, 69, none⟩,
    ⟨some 38, "switch_label", true, false, 52, 58, none⟩,
    ⟨some 39, "case", false, false, 52, 56, none⟩,
    ⟨some 39, "decimal_integer_literal", true, false, 57, 58, none⟩,
    ⟨some 38, ":", false, false, 58, 59, none⟩,
    ⟨some 38, "local_variable_declaration", true, false, 59, 65, none⟩,
    ⟨some 43, "integral_type", true, false, 59, 62, some "type"⟩,
    ⟨some 44, "int", false, false, 59, 62, none⟩,
    ⟨some 43, "variable_declarator", true, false, 63, 64, some "declarator"⟩,
    ⟨some 46, "identifier", true, false, 63, 64, some "name"⟩,
    ⟨some 43, ";", false, false, 64, 65, none⟩,
    ⟨some 38, "expression_statement", true, false, 65, 69, none⟩,
    ⟨some 49, "assignment_expression", true, false, 65, 68, none⟩,
    ⟨some 50, "identifier", true, false, 65, 66, some "left"⟩,
    ⟨some 50, "=", false, false, 66, 67, some "operator"⟩,
    ⟨some 50, "identifier", true, false, 67, 68, some "right"⟩,
    ⟨some 49, ";", false, false, 68, 69, none⟩,
    ⟨some 36, "switch_block_statement_group", true, false, 69, 90, none⟩,
    ⟨some 55, "switch_label", true, false, 69, 76, none⟩,
    ⟨some 56, "default", false, false, 69, 76, none⟩,
    ⟨some 55, ":", false, false, 76, 77, none⟩,
    ⟨some 55, "expression_statement", true, false, 77, 81, none⟩,
    ⟨some 59, "assignment_expression", true, false, 77, 80, none⟩,
    ⟨some 60, "identifier", true, false, 77, 78, some "left"⟩,
    ⟨some 60, "=", false, false, 78, 79, some "operator"⟩,
    ⟨some 60, "identifier", true, false, 79, 80, some "right"⟩,
    ⟨some 59, ";", false, false, 80, 81, none⟩,
    ⟨some 55, "return_statement", true, false, 81, 90, none⟩,
    ⟨some 65, "return", false, false, 81, 87, none⟩,
    ⟨some 65, "identifier", true, false, 88, 89, none⟩,
    ⟨some 65, ";", false, false, 89, 90, none⟩,
    ⟨some 36, "\x7d", false, false, 90, 91, none⟩,
    ⟨some 28, "\x7d", false, false, 91, 92, none⟩,
    ⟨some 4, "\x7d", false, false, 92, 93, none⟩])

/-- The first group with its declaration, and the `switch` around both groups. The second use is not in the
first group. -/
theorem groupedVariable_parts :
    let t := groupedVariable.tree
    (t.parts 38 = [39, 43, 49] ∧ t.fields 43 "declarator" = [46] ∧
      [39, 43, 49].map t.type = ["switch_label", "local_variable_declaration", "expression_statement"] ∧
      t.fieldText? 46 "name" = some "x" ∧
      groupedVariable.modifiersOf 43 = [] ∧ t.isA 38 blockTypes = true) ∧
    (t.parent? 38 = some 36 ∧ t.type 36 = "switch_block" ∧ 36 ∈ t.ancestors 67 ∧ 38 ∉ t.ancestors 67) ∧
    ∀ s < t.size, t.type s = "local_variable_declaration" →
      ∀ d ∈ t.fields s "declarator", t.type d = "variable_declarator" := by
  decide +kernel

/-- What the two uses are and what is between them and their blocks. The name means the field at the second. -/
theorem groupedVariable_uses :
    let u := groupedVariable
    (∀ n ∈ [51, 67], u.tree.type n = "identifier" ∧ u.tree.text n = "x" ∧ u.tree.start 43 < u.tree.start n) ∧
    (38 ∈ u.tree.ancestors 51 ∧ u.NoBodyBetween 38 51 ∧ ∀ a ∈ u.tree.ancestors 51,
      38 ∈ u.tree.ancestors a → u.binding? a (u.tree.start 51) "x" = none) ∧
    u.NoBodyBetween 36 67 ∧ (u.lookup "x" 67).map (fun s => (s.kind, s.isConstant)) = some (.field, true) := by
  unfold NoBodyBetween
  decide +kernel

theorem groupedVariable_isLocalDeclaration {s : Nat} :
    groupedVariable.tree.IsLocalDeclaration 38 s ↔ s = 43 := by
  obtain ⟨⟨hparts, -, htypes, -, -, hblock⟩, -⟩ := groupedVariable_parts
  simp only [List.map_cons, List.map_nil, List.cons.injEq, and_true] at htypes
  constructor
  · rintro ⟨htype, -, hmem⟩
    rw [hparts] at hmem
    simp only [List.mem_cons, List.not_mem_nil, or_false] at hmem
    rcases hmem with rfl | rfl | rfl
    · exact absurd (htypes.1.symm.trans htype) (by decide)
    · rfl
    · exact absurd (htypes.2.2.symm.trans htype) (by decide)
  · rintro rfl
    exact ⟨htypes.2.1, hblock, by rw [hparts]; decide⟩

theorem groupedVariable_isDeclarator :
    groupedVariable.tree.IsDeclarator "x" 43 46 ∧ "static" ∉ groupedVariable.modifiersOf 43 := by
  obtain ⟨⟨-, hdeclarators, -, hname, hmodifiers, -⟩, -⟩ := groupedVariable_parts
  refine ⟨⟨?_, hname⟩, ?_⟩
  · rw [hdeclarators]
    exact List.mem_singleton_self 46
  · rw [hmodifiers]
    exact List.not_mem_nil

/-- One use stands in the group of the declaration, the other in the group behind. -/
theorem groupedVariable_isUsedBehind {use : Nat} (h : use ∈ [51, 67]) :
    groupedVariable.IsUsedBehind "x" 43 use := by
  obtain ⟨htype, htext, hafter⟩ := groupedVariable_uses.1 use h
  exact ⟨htype, htext, hafter⟩

/-- In its own group the name means the variable, which is no constant. In the group behind it means another
one. -/
theorem variable_of_groupedVariable :
    let u := groupedVariable
    u.tree.IsLocalDeclaration 38 43 ∧ u.tree.WellFormed ∧ u.tree.IsDeclarator "x" 43 46 ∧
      (u.IsUsedBehind "x" 43 51 ∧ u.IsUse "x" 38 43 51 ∧ u.tree.DeclaresOnce 38 ∧
        "static" ∉ u.modifiersOf 43 ∧ u.NoBodyBetween 38 51 ∧ u.isConstant 51 = false ∧
        ∃ s, u.lookup "x" 51 = some s ∧ s.declaration = 46) ∧
      u.IsUsedBehind "x" 43 67 ∧ ∀ s, u.lookup "x" 67 = some s → s.declaration ≠ 46 := by
  intro u
  obtain ⟨⟨-, hdeclarators, -⟩, ⟨hparent, htype, hswitch, hout⟩, hvariables⟩ := groupedVariable_parts
  obtain ⟨-, ⟨hinside, hbody, hnone⟩, -⟩ := groupedVariable_uses
  have hlocal : u.tree.IsLocalDeclaration 38 43 := groupedVariable_isLocalDeclaration.2 rfl
  have ht : u.tree.WellFormed := .of_pairwise (by decide) hvariables
  have honce : u.tree.DeclaresOnce 38 := by
    intro name s s' d d' hs hs' hd hd'
    obtain rfl := groupedVariable_isLocalDeclaration.1 hs
    obtain rfl := groupedVariable_isLocalDeclaration.1 hs'
    have hmem := hd.1
    have hmem' := hd'.1
    rw [hdeclarators, List.mem_singleton] at hmem hmem'
    rw [hmem, hmem']
  obtain ⟨hd, hstatic⟩ := groupedVariable_isDeclarator
  have hnear : u.IsUsedBehind "x" 43 51 := groupedVariable_isUsedBehind (by decide)
  have hfar : u.IsUsedBehind "x" 43 67 := groupedVariable_isUsedBehind (by decide)
  have huse : u.IsUse "x" 38 43 51 := ⟨hnear.type, hnear.text, hnear.after, hinside, fun a ha hblock =>
    binding?_eq_none_iff.1 (hnone a ha hblock)⟩
  -- at the first use the variable is in scope, at the second one only the `switch` is around both
  obtain ⟨-, hmeans, -⟩ := local_variable_hides_fields_within_block hlocal ht hd hnear
  obtain ⟨-, -, hpassed⟩ := local_variable_hides_fields_within_block hlocal ht hd hfar
  obtain ⟨⟨s, hs, -, hdecl⟩, hconstant⟩ := hmeans huse honce
  exact ⟨hlocal, ht, hd, ⟨hnear, huse, honce, hstatic, hbody, hconstant hstatic, s, hs, hdecl⟩, hfar,
    (hpassed 36 hparent htype hswitch hout).1⟩

/-- A variable of one group is in scope in the groups behind it, but a use there is taken for the constant
of the class. -/
theorem constant_behind_group :
    let u := groupedVariable
    u.tree.IsLocalDeclaration 38 43 ∧ u.tree.IsDeclarator "x" 43 46 ∧ "static" ∉ u.modifiersOf 43 ∧
      u.tree.parent? 38 = some 36 ∧ u.tree.type 36 = "switch_block" ∧ 36 ∈ u.tree.ancestors 67 ∧
      u.IsUsedBehind "x" 43 67 ∧ u.NoBodyBetween 36 67 ∧
      (∃ s, u.lookup "x" 67 = some s ∧ s.kind = .field) ∧ u.isConstant 67 = true := by
  intro u
  obtain ⟨hd, hstatic⟩ := groupedVariable_isDeclarator
  have hfar : u.IsUsedBehind "x" 43 67 := groupedVariable_isUsedBehind (by decide)
  obtain ⟨-, -, hbody, hfield⟩ := groupedVariable_uses
  obtain ⟨s, hs, heq⟩ := Option.map_eq_some_iff.1 hfield
  obtain ⟨hkind, hconstant⟩ := Prod.mk.inj heq
  obtain ⟨-, ⟨hparent, htype, hswitch, -⟩, -⟩ := groupedVariable_parts
  exact ⟨groupedVariable_isLocalDeclaration.2 rfl, hd, hstatic, hparent, htype, hswitch, hfar, hbody,
    ⟨s, hs, hkind⟩, (hfar.isConstant hs).trans hconstant⟩

end CompilationUnit

end JavaAudit
