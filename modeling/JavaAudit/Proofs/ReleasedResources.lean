import JavaAudit.Proofs.FieldAccess
import JavaAudit.Proofs.MemberLookup
import JavaAudit.Proofs.SufficientRoom
import JavaAudit.Proofs.TypeErasure
import JavaAudit.Audit.Walk

/-!
# Resources and the uses that release them

The rule on resources compares declarations that are found on two ways: from the statement down to its
declarators, and from a use outwards through the scopes around it. For a declaration among the statements
of a block the comparison comes to a condition on uses of the name (`refersTo_iff`): an expression refers
to the variable exactly if, inside any parentheses, it is an identifier of that name that stands behind
the beginning of the declaration and inside the block, with no scope in between that binds the name. An
access to a field never refers to it, since fields are declared elsewhere (`not_hasOwnField`).

So a declaration is reported exactly if one of its variables is a resource and none of these uses is the
receiver of `close` in a `finally` clause or is taken over by a `try` statement
(`leak_iff_no_use_releases`).
-/

namespace JavaAudit

/-! ## Declarations in a block -/

namespace SyntaxTree

variable {t : SyntaxTree} {name : String} {n block decl callable d body : Nat}

/-- A declaration of local variables among the statements of a block. -/
structure IsLocalDeclaration (t : SyntaxTree) (block decl : NodeId) : Prop where
  type : t.type decl = "local_variable_declaration"
  isBlock : t.isA block blockTypes = true
  statement : decl ∈ t.parts block

/-- The nearest method, constructor or lambda around a node, with no header of a `try` statement in
between. -/
structure IsCallableAround (t : SyntaxTree) (callable n : NodeId) : Prop where
  isCallable : t.isA callable callableTypes = true
  nearest : ∃ inner outer, t.ancestors n = inner ++ callable :: outer ∧
    ∀ a ∈ inner, t.isA a callableTypes = false ∧ t.type a ≠ "resource_specification"

/-- The statements of a block declare no name twice. -/
def DeclaresOnce (t : SyntaxTree) (block : NodeId) : Prop :=
  ∀ name s s' d d', t.IsLocalDeclaration block s → t.IsLocalDeclaration block s' →
    t.IsDeclarator name s d → t.IsDeclarator name s' d' → d = d'

/-- A tree is well formed if its nodes are numbered in the order in which they start. -/
theorem WellFormed.of_pairwise (hordered : (t.nodes.toList.map Node.start).Pairwise (· ≤ ·))
    (hdeclarators : ∀ s < t.size, t.type s = "local_variable_declaration" →
      ∀ d ∈ t.fields s "declarator", t.type d = "variable_declarator") : t.WellFormed where
  ordered c d p _ hd hlt := of_pairwise_nodes hordered hlt (lt_size_of_parent? hd)
  declarators s htype := hdeclarators s (lt_size_of_type_ne (by rw [htype]; decide)) htype

/-- A statement of a block is passed before everything that starts behind it. -/
theorem WellFormed.isEarlierPart {position : Nat} (ht : t.WellFormed)
    (hdecl : decl ∈ t.parts block) (hstart : t.start decl < position) :
    t.IsEarlierPart block position decl := by
  obtain ⟨before, after, hsplit⟩ := List.append_of_mem hdecl
  refine ⟨before, after, hsplit, fun e he => ?_⟩
  rcases List.mem_append.1 he with hbefore | hlast
  · have hnumbers := t.pairwise_parts block
    rw [hsplit] at hnumbers
    have hlt := (List.pairwise_append.1 hnumbers).2.2 e hbefore decl List.mem_cons_self
    have hmem : e ∈ t.parts block := by
      rw [hsplit]
      exact List.mem_append_left _ hbefore
    have hle := ht.ordered e decl block (parent?_of_mem_parts hmem) (parent?_of_mem_parts hdecl) hlt
    exact Nat.lt_of_le_of_lt hle hstart
  · rw [List.mem_singleton.1 hlast]
    exact hstart

theorem isA_of_childOfType? {c : Nat} {types : List String} (h : t.childOfType? n types = some c) :
    t.isA c types = true := by
  have hfound := List.find?_some h
  exact hfound

/-- Parameters are of three types. -/
theorem NamesParameter.type_mem (h : t.NamesParameter name d) :
    t.type d ∈ ["identifier", "formal_parameter", "spread_parameter"] := by
  rcases h with ⟨htype, -⟩ | ⟨htype, -⟩ | ⟨htype, -⟩ <;> rw [htype] <;> decide

/-- Members are constants of an enum, or declarators of fields and constants. -/
theorem IsMember.type_or_parent? (h : t.IsMember name body d) :
    t.type d = "enum_constant" ∨ ∃ member, t.parent? d = some member ∧
      (t.type member = "field_declaration" ∨ t.type member = "constant_declaration") := by
  induction h with
  | declarator _ htype hd => exact .inr ⟨_, parent?_of_mem_fields hd.1, htype⟩
  | enumConstant _ htype _ => exact .inl htype
  | behindConstants _ _ _ ih => exact ih

theorem CarriesName.lt_size (h : t.CarriesName name d) : d < t.size := by
  rcases h with hnames | hparam
  · obtain ⟨c, hc, -⟩ := Option.map_eq_some_iff.1 hnames
    exact Nat.lt_trans (lt_of_field? hc).1 (lt_of_field? hc).2
  · refine lt_size_of_type_ne fun hempty => ?_
    have hmem := hparam.type_mem
    rw [hempty] at hmem
    revert hmem
    decide

end SyntaxTree

namespace CompilationUnit

open SyntaxTree

variable {u : CompilationUnit} {name : String} {kind : SymbolKind} {block decl d use position scope : Nat}

/-! ## Uses of a local variable -/

/-- An identifier stands for the variable that a statement of a block declares under its name. -/
structure IsUse (u : CompilationUnit) (name : String) (block decl use : NodeId) : Prop where
  type : u.tree.type use = "identifier"
  text : u.tree.text use = name
  after : u.tree.start decl < u.tree.start use
  inside : block ∈ u.tree.ancestors use
  /-- No scope between the use and the block binds the name. -/
  free : ∀ a ∈ u.tree.ancestors use, block ∈ u.tree.ancestors a →
    ∀ kind d, ¬ u.Binds name (u.tree.start use) a kind d

/-! ## What else could declare the variable -/

section Declarator

variable (hlocal : u.tree.IsLocalDeclaration block decl) (ht : u.tree.WellFormed)
  (hd : d ∈ u.tree.fields decl "declarator")

include hlocal ht hd

/-- A local variable is no parameter. -/
theorem not_namesParameter : ¬ u.tree.NamesParameter name d := by
  intro hparam
  have hmem := hparam.type_mem
  rw [ht.declarators decl hlocal.type d hd] at hmem
  exact absurd hmem (by decide)

/-- A local variable is no member of a type. -/
theorem not_isMember {body : Nat} : ¬ u.tree.IsMember name body d := by
  intro hmember
  rcases hmember.type_or_parent? with hconstant | ⟨member, hparent, htype⟩
  · rw [ht.declarators decl hlocal.type d hd] at hconstant
    exact absurd hconstant (by decide)
  · rw [parent?_of_mem_fields hd, Option.some.injEq] at hparent
    rw [← hparent, hlocal.type] at htype
    exact absurd htype (by decide)

theorem not_hasOwnField {type : String} : ¬ u.HasOwnField name type d := by
  rintro ⟨holder, -, ⟨-, hparam⟩ | ⟨body, -, hmember⟩⟩
  · exact not_namesParameter hlocal ht hd hparam.namesParameter
  · exact not_isMember hlocal ht hd hmember

/-- Only the block binds the variable, and only behind the beginning of the declaration. -/
theorem Binds.of_declarator (h : u.Binds name position scope kind d) :
    scope = block ∧ u.tree.start decl < position ∧ u.tree.IsDeclarator name decl d := by
  have htype := ht.declarators decl hlocal.type d hd
  have hparent := parent?_of_mem_fields hd
  have hblock := parent?_of_mem_parts hlocal.statement
  cases h with
  | localVariable _ hearlier _ hd' =>
    obtain rfl := Option.some.inj ((parent?_of_mem_fields hd'.1).symm.trans hparent)
    obtain rfl := Option.some.inj ((parent?_of_mem_parts hearlier.mem_parts).symm.trans hblock)
    exact ⟨rfl, hearlier.start_lt, hd'⟩
  | loopHead hscope hinit _ hd' =>
    -- the declaration would be the head of a loop, but it is in a block
    obtain rfl := Option.some.inj ((parent?_of_mem_fields hd'.1).symm.trans hparent)
    obtain rfl := Option.some.inj ((parent?_of_mem_fields hinit).symm.trans hblock)
    have hisBlock := hlocal.isBlock
    rw [isA, hscope] at hisBlock
    exact absurd hisBlock (by decide)
  | loopVariable hscope _ =>
    rw [htype] at hscope
    exact absurd hscope (by decide)
  | resource _ _ _ hresource _ _ =>
    rw [htype] at hresource
    exact absurd hresource (by decide)
  | catchParameter _ hparam _ =>
    have hisA := isA_of_childOfType? hparam
    rw [isA, htype] at hisA
    exact absurd hisA (by decide)
  | parameter _ hparam =>
    exact absurd hparam.namesParameter (not_namesParameter hlocal ht hd)
  | component _ hparam =>
    exact absurd hparam.namesParameter (not_namesParameter hlocal ht hd)
  | ownField _ hmember => exact absurd hmember (not_isMember hlocal ht hd)
  | inheritedField _ _ _ _ hinherits =>
    obtain ⟨super, -, hfield⟩ := hinherits
    exact absurd hfield (not_hasOwnField hlocal ht hd)

end Declarator

/-! ## What a use refers to -/

/-- The scopes between a use and the block are the ones in front of it. -/
theorem mem_inner_of_mem_ancestors {a : Nat} {inner outer : List Nat}
    (hsplit : u.tree.ancestors use = inner ++ block :: outer) (ha : a ∈ u.tree.ancestors use)
    (hblock : block ∈ u.tree.ancestors a) : a ∈ inner := by
  have hlt := lt_of_mem_ancestors hblock
  rw [hsplit] at ha
  rcases List.mem_append.1 ha with hinner | hrest
  · exact hinner
  · rcases List.mem_cons.1 hrest with rfl | houter
    · exact absurd hlt (Nat.lt_irrefl a)
    · rw [← ancestors_of_append hsplit] at houter
      exact absurd hlt (Nat.lt_asymm (lt_of_mem_ancestors houter))

section Uses

variable (hlocal : u.tree.IsLocalDeclaration block decl) (ht : u.tree.WellFormed)
  (hd : u.tree.IsDeclarator name decl d)

include hlocal ht hd

/-- An identifier that means the variable is a use of it. -/
theorem isUse_of_lookup {s : Symbol} (htype : u.tree.type use = "identifier")
    (hs : u.lookup (u.tree.text use) use = some s) (hdecl : s.declaration = d) :
    u.IsUse name block decl use := by
  obtain ⟨-, inner, scope, outer, hsplit, hbinds, hinner⟩ := lookup_eq_some hs
  rw [hdecl] at hbinds
  obtain ⟨rfl, hafter, hd'⟩ := hbinds.of_declarator hlocal ht hd.1
  have htext : u.tree.text use = name := Option.some.inj (hd'.2.symm.trans hd.2)
  rw [htext] at hinner
  refine ⟨htype, htext, hafter, ?_, fun a ha hblock => ?_⟩
  · rw [hsplit]
    exact List.mem_append_right inner List.mem_cons_self
  · exact hinner a (mem_inner_of_mem_ancestors hsplit ha hblock)

/-- A use of the variable means it, where the block declares no other one under the name. -/
theorem IsUse.lookup (honce : u.tree.DeclaresOnce block) (huse : u.IsUse name block decl use) :
    ∃ s, u.lookup (u.tree.text use) use = some s ∧ s.declaration = d := by
  have hearlier := ht.isEarlierPart hlocal.statement huse.after
  have hbinding : u.binding? block (u.tree.start use) name =
      u.blockBinding block (u.tree.start use) name := if_pos hlocal.isBlock
  have hsome := (answers_blockBinding block (u.tree.start use)).complete .localVariable d
    ⟨rfl, decl, hearlier, hlocal.type, hd⟩
  obtain ⟨s, hs⟩ := Option.isSome_iff_exists.1 hsome
  obtain ⟨-, -, statement, hstatement, htype, hd'⟩ := (answers_blockBinding block _).sound s hs
  -- no scope further in binds the name, so that the block is asked
  refine ⟨s, ?_, ?_⟩
  · obtain ⟨inner, hsplit⟩ := ancestors_eq_append huse.inside
    rw [huse.text]
    unfold CompilationUnit.lookup
    rw [hsplit]
    refine List.findSome?_eq_some_iff.2 ⟨inner, block, _, rfl, hbinding.trans hs, fun a ha => ?_⟩
    have hmem : a ∈ u.tree.ancestors use := by
      rw [hsplit]
      exact List.mem_append_left _ ha
    exact binding?_eq_none_iff.2 (huse.free a hmem (mem_ancestors_of_append hsplit ha))
  · exact honce name statement decl s.declaration d
      ⟨htype, hlocal.isBlock, hstatement.mem_parts⟩ hlocal hd' hd

end Uses

/-- What a field access refers to is a field of some type. -/
theorem hasOwnField_of_reference? {n : Nat} {s : Symbol} (htype : u.tree.type n = "field_access")
    (hs : u.reference? n = some s) : ∃ name type, u.HasOwnField name type s.declaration := by
  have hself : u.tree.unwrap n = some n := unwrap_eq_self (by rw [htype]; decide)
  have hfield : ∀ (o : Option String) (member : String),
      (o.bind fun owner => u.fieldOf owner member) = some s →
        ∃ name type, u.HasOwnField name type s.declaration := by
    intro o member h
    obtain ⟨owner, -, h⟩ := Option.bind_eq_some_iff.1 h
    obtain ⟨-, -, type, -, hown⟩ := (answers_fieldOf owner).sound s h
    exact ⟨member, type, hown⟩
  rw [reference?] at hs
  split at hs
  · cases hs
  · next e he =>
    rw [hself] at he
    cases he
    rw [if_neg (by rw [htype]; decide), if_neg (by rw [htype]; decide)] at hs
    split at hs
    · split at hs
      · cases hs
      · -- whatever the object is, its type is asked for the field
        split at hs
        · exact hfield _ _ hs
        split at hs
        · exact hfield _ _ hs
        split at hs
        · exact hfield _ _ hs
        · cases hs
    · cases hs

end CompilationUnit

/-! ## Releases -/

namespace Rule.ResourceLeak

open SyntaxTree CompilationUnit

variable {u : CompilationUnit} {name : String} {block decl callable d : Nat} {s : Symbol}

/-- An expression is in a place where a resource is released: it is the receiver of a call of `close`
inside a `finally` clause, or a part of a resource without a name of its own, with or without parentheses
around it. -/
inductive Releases (t : SyntaxTree) (callable use : NodeId) : Prop where
  | closed {clause call receiver : NodeId}
      (hclause : clause ∈ t.descendantsOfType callable ["finally_clause"])
      (hcall : call ∈ t.descendantsOfType clause ["method_invocation"])
      (hname : t.fieldText? call "name" = some "close")
      (hreceiver : t.field? call "object" = some receiver) (huse : t.unwrap receiver = some use) :
      Releases t callable use
  | takenOver {resource part : NodeId}
      (hresource : resource ∈ t.descendantsOfType callable ["resource"])
      (hname : t.field? resource "name" = none) (hpart : part ∈ t.parts resource)
      (huse : t.unwrap part = some use) : Releases t callable use

/-- The type of a variable that a declaration declares: the one that is written, or the one that its
initialiser has where `var` is written. -/
inductive HasType (u : CompilationUnit) (decl d : NodeId) (type : String) : Prop where
  | written {text : String} (htext : u.tree.fieldText? decl "type" = some text)
      (htype : u.qualify text = some type) : HasType u decl d type
  | inferred {text : String} {value : NodeId} (htext : u.tree.fieldText? decl "type" = some text)
      (hvar : TypeName.erase text = "var") (hvalue : u.tree.field? d "value" = some value)
      (htype : u.typeOf value = some type) : HasType u decl d type

/-- The variable is of a type that has to be closed, or of a subtype of one. -/
def IsResource (u : CompilationUnit) (decl d : NodeId) : Prop :=
  ∃ type, HasType u decl d type ∧ type ≠ "" ∧
    ∃ super ∈ resourceTypes, u.fullHierarchy.Reaches type super

/-! ### References and releases -/

section Release

variable (hkeys : u.tree.DistinctKeys) (hlocal : u.tree.IsLocalDeclaration block decl)
  (ht : u.tree.WellFormed) (honce : u.tree.DeclaresOnce block)
  (hd : u.tree.IsDeclarator name decl d) (hs : s.declaration = d)

include hkeys hlocal ht honce hd hs

/-- An expression refers to the variable exactly if it is a use of it. -/
theorem refersTo_iff {expr : Nat} :
    refersTo u s expr = true ↔
      ∃ use, u.tree.unwrap expr = some use ∧ u.IsUse name block decl use := by
  have hsize : d < u.tree.size := (lt_of_mem_fields hd.1).2
  unfold refersTo
  rw [Option.any_eq_true]
  constructor
  · rintro ⟨use, huse, hrefers⟩
    rw [Bool.and_eq_true, Option.any_eq_true] at hrefers
    obtain ⟨hisA, found, hfound, hkey⟩ := hrefers
    rw [hs, beq_iff_eq] at hkey
    refine ⟨use, huse, ?_⟩
    have hmem : u.tree.type use ∈ referenceTypes := List.contains_iff_mem.1 hisA
    simp only [referenceTypes, List.mem_cons, List.not_mem_nil, or_false] at hmem
    rcases hmem with hidentifier | haccess
    · rw [reference?_of_identifier hidentifier] at hfound
      obtain ⟨-, _, _, _, -, hbinds, -⟩ := lookup_eq_some hfound
      have hdecl := hkeys _ hbinds.carriesName.lt_size _ hsize hkey
      exact isUse_of_lookup hlocal ht hd hidentifier hfound hdecl
    · -- a field has a declaration of its own
      obtain ⟨field, type, hown⟩ := hasOwnField_of_reference? haccess hfound
      have hdecl := hkeys _ hown.carriesName.lt_size _ hsize hkey
      rw [hdecl] at hown
      exact absurd hown (not_hasOwnField hlocal ht hd.1)
  · rintro ⟨use, huse, hisUse⟩
    obtain ⟨found, hfound, hdecl⟩ := hisUse.lookup hlocal ht hd honce
    refine ⟨use, huse, ?_⟩
    rw [Bool.and_eq_true, Option.any_eq_true, reference?_of_identifier hisUse.type]
    refine ⟨?_, found, hfound, ?_⟩
    · rw [isA, hisUse.type]
      decide
    · rw [hs, hdecl]
      exact beq_self_eq_true _

/-- The variable is released exactly if one of its uses is where resources are released. -/
theorem isReleased_iff :
    isReleased u s callable = true ↔
      ∃ use, u.IsUse name block decl use ∧ Releases u.tree callable use := by
  unfold isReleased closes takesOver
  simp only [Bool.or_eq_true, List.any_eq_true, Bool.and_eq_true, decide_eq_true_eq,
    Option.any_eq_true, Option.isNone_iff_eq_none, refersTo_iff hkeys hlocal ht honce hd hs]
  constructor
  · rintro (⟨clause, hclause, call, hcall, hname, receiver, hreceiver, use, huse, hisUse⟩ |
      ⟨resource, hresource, hname, part, hpart, use, huse, hisUse⟩)
    · exact ⟨use, hisUse, .closed hclause hcall hname hreceiver huse⟩
    · exact ⟨use, hisUse, .takenOver hresource hname hpart huse⟩
  · rintro ⟨use, hisUse, hreleases⟩
    cases hreleases with
    | closed hclause hcall hname hreceiver huse =>
      exact .inl ⟨_, hclause, _, hcall, hname, _, hreceiver, use, huse, hisUse⟩
    | takenOver hresource hname hpart huse =>
      exact .inr ⟨_, hresource, hname, _, hpart, use, huse, hisUse⟩

end Release

/-! ### Types of variables -/

theorem erase_empty : TypeName.erase "" = "" := TypeName.erase_of_allBlank TypeName.allBlank_nil

/-- A type that can be qualified is written, and not as `var`. -/
theorem erase_of_qualify {text type : String} (h : u.qualify text = some type) :
    TypeName.erase text ≠ "" ∧ TypeName.erase text ≠ "var" := by
  unfold qualify at h
  refine ⟨fun hempty => ?_, fun hvar => ?_⟩
  · simp [hempty] at h
  · simp [hvar] at h

theorem qualifyDeclared_eq {text : String} : u.qualifyDeclared (some text) = u.qualify text := by
  unfold qualifyDeclared
  by_cases hempty : text = ""
  · have hnone : u.qualify text = none := by
      refine Option.eq_none_iff_forall_ne_some.2 fun type htype => ?_
      rw [hempty] at htype
      exact (erase_of_qualify htype).1 erase_empty
    rw [hempty] at hnone ⊢
    exact hnone.symm
  · rw [Option.filter_some, if_pos (decide_eq_true hempty)]
    rfl

/-- The rule sees the type that a variable has. -/
theorem variableType_eq_some_iff {kind : SymbolKind} {implicit : List String} {type : String}
    (hne : type ≠ "") :
    variableType u (u.declaratorSymbol decl d name kind implicit) = some type ↔
      HasType u decl d type := by
  unfold variableType declaratorSymbol
  cases htext : u.tree.fieldText? decl "type" with
  | none =>
    have hnone : ¬ HasType u decl d type := by
      rintro (⟨htext', -⟩ | ⟨htext', -, -, -⟩) <;> rw [htext] at htext' <;> cases htext'
    have hvar : TypeName.erase ((none : Option String).getD "") ≠ "var" := by
      rw [Option.getD_none, erase_empty]
      decide
    simp only [hnone, iff_false, if_neg hvar]
    exact fun h => nomatch h
  | some text =>
    simp only [qualifyDeclared_eq, Option.getD_some, Option.or_eq_some_iff,
      Option.filter_eq_some_iff, decide_eq_true_eq]
    constructor
    · rintro (⟨hwritten, -⟩ | ⟨-, hinferred⟩)
      · exact .written htext hwritten
      · split at hinferred
        · next hvar =>
          obtain ⟨value, hvalue, htype⟩ := Option.bind_eq_some_iff.1 hinferred
          exact .inferred htext hvar hvalue htype
        · cases hinferred
    · rintro (⟨htext', hwritten⟩ | ⟨htext', hvar, hvalue, htype⟩)
      · cases htext.symm.trans htext'
        exact .inl ⟨hwritten, hne⟩
      · cases htext.symm.trans htext'
        refine .inr ⟨?_, ?_⟩
        · -- `var` is no type, so that nothing is in the way of inference
          cases hq : u.qualify text with
          | none => rfl
          | some written => exact absurd hvar (erase_of_qualify hq).2
        · rw [if_pos hvar, hvalue]
          exact htype

/-- The rule takes a variable for a resource exactly if it is one. -/
theorem any_variableType_iff {kind : SymbolKind} {implicit : List String} :
    (variableType u (u.declaratorSymbol decl d name kind implicit)).any
        (u.fullHierarchy.isSubtype · resourceTypes) = true ↔ IsResource u decl d := by
  unfold IsResource
  rw [Option.any_eq_true]
  constructor
  · rintro ⟨type, htype, hsub⟩
    obtain ⟨hne, hreach⟩ := Hierarchy.isSubtype_iff.1 hsub
    exact ⟨type, (variableType_eq_some_iff hne).1 htype, hne, hreach⟩
  · rintro ⟨type, htype, hne, hreach⟩
    exact ⟨type, (variableType_eq_some_iff hne).2 htype, Hierarchy.isSubtype_iff.2 ⟨hne, hreach⟩⟩

/-! ### Declared variables -/

/-- The variables that a declaration declares are those of its declarators. -/
theorem mem_declaredSymbols_iff (hlocal : u.tree.IsLocalDeclaration block decl)
    (honce : u.tree.DeclaresOnce block) :
    s ∈ u.declaredSymbols decl ↔ ∃ name d, u.tree.IsDeclarator name decl d ∧
      s = u.declaratorSymbol decl d name .localVariable [] := by
  have hkind : u.tree.type decl ≠ "field_declaration" := by
    rw [hlocal.type]
    decide
  have hfound : ∀ name d, u.tree.IsDeclarator name decl d →
      u.declaredIn decl name .localVariable [] =
        some (u.declaratorSymbol decl d name .localVariable []) := by
    intro name d hd
    have hsome := (answers_declaredIn decl []).complete .localVariable d ⟨rfl, hd⟩
    obtain ⟨found, hfound⟩ := Option.isSome_iff_exists.1 hsome
    obtain ⟨d', hd', rfl⟩ := Option.map_eq_some_iff.1 hfound
    have hname := List.find?_some hd'
    rw [decide_eq_true_iff] at hname
    -- the search finds the first declarator of the name, and there is no other one
    have hsame : d' = d :=
      honce name decl decl d' d hlocal hlocal ⟨List.mem_of_find?_eq_some hd', hname⟩ hd
    rw [hfound, hsame]
  unfold declaredSymbols
  simp only [if_neg hkind, List.mem_filterMap]
  constructor
  · rintro ⟨name, ⟨d, hd, hname⟩, hs⟩
    rw [hfound name d ⟨hd, hname⟩] at hs
    exact ⟨name, d, ⟨hd, hname⟩, (Option.some.inj hs).symm⟩
  · rintro ⟨name, d, hd, rfl⟩
    exact ⟨name, ⟨d, hd.1, hd.2⟩, hfound name d hd⟩

/-- The declaration has to be released in the callable around it. -/
theorem scope?_eq_some (h : u.tree.IsCallableAround callable decl) : scope? u decl = some callable := by
  obtain ⟨inner, outer, hsplit, hinner⟩ := h.nearest
  have hfind : ((u.tree.ancestors decl).find? fun a =>
      u.tree.isA a callableTypes || u.tree.type a = "resource_specification") = some callable := by
    refine List.find?_eq_some_iff_append.2 ⟨?_, inner, outer, hsplit, fun a ha => ?_⟩
    · rw [h.isCallable, Bool.true_or]
    · simp [hinner a ha]
  unfold scope?
  rw [hfind]
  rfl

/-- A declaration fires exactly if one of its variables leaks. -/
theorem fires_declaration_iff (hlocal : u.tree.IsLocalDeclaration block decl)
    (honce : u.tree.DeclaresOnce block) (hcallable : u.tree.IsCallableAround callable decl) :
    fires u decl = true ↔ ∃ name d, u.tree.IsDeclarator name decl d ∧
      leaks u callable (u.declaratorSymbol decl d name .localVariable []) = true := by
  have hkind : u.tree.kind? decl = some .declaration := by
    unfold kind?
    rw [hlocal.type]
    rfl
  have hscope : u.tree.type callable ≠ "resource_specification" := by
    intro heq
    have hisA := hcallable.isCallable
    rw [isA, heq] at hisA
    exact absurd hisA (by decide)
  unfold fires leakingVariable
  rw [hkind]
  simp only [scope?_eq_some hcallable, Option.bind_some, if_neg hscope, List.find?_isSome,
    mem_declaredSymbols_iff hlocal honce]
  constructor
  · rintro ⟨s, ⟨name, d, hd, rfl⟩, hleaks⟩
    exact ⟨name, d, hd, hleaks⟩
  · rintro ⟨name, d, hd, hleaks⟩
    exact ⟨_, ⟨name, d, hd, rfl⟩, hleaks⟩

/-- A declaration of local variables in a block of a callable is reported exactly if one of its variables
is a resource and no use of it is where resources are released. To refer to the variable is to be a use of
it: an access such as `this.name`, or a name that a scope further in binds, never does. The rule answers so
wherever it does not run out of room. -/
theorem leak_iff_no_use_releases (hkeys : u.tree.DistinctKeys)
    (hlocal : u.tree.IsLocalDeclaration block decl) (hcallable : u.tree.IsCallableAround callable decl)
    (honce : u.tree.DeclaresOnce block) (ht : u.tree.WellFormed) :
    (fires u decl = true ↔ ∃ name d, u.tree.IsDeclarator name decl d ∧ IsResource u decl d ∧
        ∀ use, u.IsUse name block decl use → ¬ Releases u.tree callable use) ∧
      (∀ name d, u.tree.IsDeclarator name decl d → ∀ expr,
        refersTo u (u.declaratorSymbol decl d name .localVariable []) expr = true ↔
          ∃ use, u.tree.unwrap expr = some use ∧ u.IsUse name block decl use) ∧
      resourceLeak.Answers u (fires u) := by
  refine ⟨?_, ?_, answers_of_means (means u)⟩
  · rw [fires_declaration_iff hlocal honce hcallable]
    refine exists_congr fun name => exists_congr fun d => and_congr_right fun hd => ?_
    have hreleased : isReleased u (u.declaratorSymbol decl d name .localVariable []) callable = true ↔
        ∃ use, u.IsUse name block decl use ∧ Releases u.tree callable use :=
      isReleased_iff hkeys hlocal ht honce hd rfl
    unfold leaks
    rw [Bool.and_eq_true, any_variableType_iff, Bool.not_eq_true', ← Bool.not_eq_true, hreleased]
    simp only [not_exists, not_and]
  · intro name d hd expr
    exact refersTo_iff hkeys hlocal ht honce hd rfl

/-- A method with two readers, one of which it closes. -/
def halfReleased : CompilationUnit :=
  .ofTree "A.java" (.ofNodes "class A\x7bvoid f()\x7bjava.io.Reader r,q;try\x7b\x7dfinally\x7b(r).close();\x7d\x7d\x7d" #[
    ⟨none, "program", true, false, 0, 64, none⟩,
    ⟨some 0, "class_declaration", true, false, 0, 64, none⟩,
    ⟨some 1, "class", false, false, 0, 5, none⟩,
    ⟨some 1, "identifier", true, false, 6, 7, some "name"⟩,
    ⟨some 1, "class_body", true, false, 7, 64, some "body"⟩,
    ⟨some 4, "\x7b", false, false, 7, 8, none⟩,
    ⟨some 4, "method_declaration", true, false, 8, 63, none⟩,
    ⟨some 6, "void_type", true, false, 8, 12, some "type"⟩,
    ⟨some 6, "identifier", true, false, 13, 14, some "name"⟩,
    ⟨some 6, "formal_parameters", true, false, 14, 16, some "parameters"⟩,
    ⟨some 9, "(", false, false, 14, 15, none⟩,
    ⟨some 9, ")", false, false, 15, 16, none⟩,
    ⟨some 6, "block", true, false, 16, 63, some "body"⟩,
    ⟨some 12, "\x7b", false, false, 16, 17, none⟩,
    ⟨some 12, "local_variable_declaration", true, false, 17, 36, none⟩,
    ⟨some 14, "scoped_type_identifier", true, false, 17, 31, some "type"⟩,
    ⟨some 15, "scoped_type_identifier", true, false, 17, 24, none⟩,
    ⟨some 16, "type_identifier", true, false, 17, 21, none⟩,
    ⟨some 16, ".", false, false, 21, 22, none⟩,
    ⟨some 16, "type_identifier", true, false, 22, 24, none⟩,
    ⟨some 15, ".", false, false, 24, 25, none⟩,
    ⟨some 15, "type_identifier", true, false, 25, 31, none⟩,
    ⟨some 14, "variable_declarator", true, false, 32, 33, some "declarator"⟩,
    ⟨some 22, "identifier", true, false, 32, 33, some "name"⟩,
    ⟨some 14, ",", false, false, 33, 34, none⟩,
    ⟨some 14, "variable_declarator", true, false, 34, 35, some "declarator"⟩,
    ⟨some 25, "identifier", true, false, 34, 35, some "name"⟩,
    ⟨some 14, ";", false, false, 35, 36, none⟩,
    ⟨some 12, "try_statement", true, false, 36, 62, none⟩,
    ⟨some 28, "try", false, false, 36, 39, none⟩,
    ⟨some 28, "block", true, false, 39, 41, some "body"⟩,
    ⟨some 30, "\x7b", false, false, 39, 40, none⟩,
    ⟨some 30, "\x7d", false, false, 40, 41, none⟩,
    ⟨some 28, "finally_clause", true, false, 41, 62, none⟩,
    ⟨some 33, "finally", false, false, 41, 48, none⟩,
    ⟨some 33, "block", true, false, 48, 62, none⟩,
    ⟨some 35, "\x7b", false, false, 48, 49, none⟩,
    ⟨some 35, "expression_statement", true, false, 49, 61, none⟩,
    ⟨some 37, "method_invocation", true, false, 49, 60, none⟩,
    ⟨some 38, "parenthesized_expression", true, false, 49, 52, some "object"⟩,
    ⟨some 39, "(", false, false, 49, 50, none⟩,
    ⟨some 39, "identifier", true, false, 50, 51, none⟩,
    ⟨some 39, ")", false, false, 51, 52, none⟩,
    ⟨some 38, ".", false, false, 52, 53, none⟩,
    ⟨some 38, "identifier", true, false, 53, 58, some "name"⟩,
    ⟨some 38, "argument_list", true, false, 58, 60, some "arguments"⟩,
    ⟨some 45, "(", false, false, 58, 59, none⟩,
    ⟨some 45, ")", false, false, 59, 60, none⟩,
    ⟨some 37, ";", false, false, 60, 61, none⟩,
    ⟨some 35, "\x7d", false, false, 61, 62, none⟩,
    ⟨some 12, "\x7d", false, false, 62, 63, none⟩,
    ⟨some 4, "\x7d", false, false, 63, 64, none⟩])

/-- The declaration is reported for the reader that stays open, although the use at the end releases the other
one. -/
theorem leak_of_halfReleased :
    let u := halfReleased
    u.tree.DistinctKeys ∧ u.tree.IsLocalDeclaration 12 14 ∧ u.tree.IsCallableAround 6 14 ∧
      u.tree.DeclaresOnce 12 ∧ u.tree.WellFormed ∧ fires u 14 = true ∧
      refersTo u (u.declaratorSymbol 14 22 "r" .localVariable []) 39 = true ∧
      Releases u.tree 6 41 := by
  intro u
  have hkeys : u.tree.DistinctKeys := .of_nodup (by decide)
  have ht : u.tree.WellFormed := .of_pairwise (by decide) (by decide +kernel)
  obtain ⟨⟨hparts, htypes, hblock⟩, ⟨hdeclarators, hr, hq⟩, hmethod, habove, hnearest⟩ :
      (u.tree.parts 12 = [14, 28] ∧
        [14, 28].map u.tree.type = ["local_variable_declaration", "try_statement"] ∧
        u.tree.isA 12 blockTypes = true) ∧
      (u.tree.fields 14 "declarator" = [22, 25] ∧ u.tree.fieldText? 22 "name" = some "r" ∧
        u.tree.fieldText? 25 "name" = some "q") ∧
      u.tree.isA 6 callableTypes = true ∧ u.tree.ancestors 14 = [12] ++ 6 :: [4, 1, 0] ∧
        ∀ a ∈ [12], u.tree.isA a callableTypes = false ∧ u.tree.type a ≠ "resource_specification" := by
    decide +kernel
  simp only [List.map_cons, List.map_nil, List.cons.injEq, and_true] at htypes
  have hlocal : u.tree.IsLocalDeclaration 12 14 := ⟨htypes.1, hblock, by rw [hparts]; decide⟩
  have hcallable : u.tree.IsCallableAround 6 14 := ⟨hmethod, [12], [4, 1, 0], habove, hnearest⟩
  have honly : ∀ s, u.tree.IsLocalDeclaration 12 s → s = 14 := by
    intro s hs
    have hmem := hs.statement
    rw [hparts] at hmem
    simp only [List.mem_cons, List.not_mem_nil, or_false] at hmem
    rcases hmem with rfl | rfl
    · rfl
    · exact absurd (htypes.2.symm.trans hs.type) (by decide)
  have honce : u.tree.DeclaresOnce 12 := by
    intro name s s' d d' hs hs' hd hd'
    obtain rfl := honly s hs
    obtain rfl := honly s' hs'
    obtain ⟨hmem, hname⟩ := hd
    obtain ⟨hmem', hname'⟩ := hd'
    rw [hdeclarators] at hmem hmem'
    simp only [List.mem_cons, List.not_mem_nil, or_false] at hmem hmem'
    unfold Names at hname hname'
    rcases hmem with rfl | rfl <;> rcases hmem' with rfl | rfl <;> simp_all
  obtain ⟨hfires, hrefers, -⟩ := leak_iff_no_use_releases hkeys hlocal hcallable honce ht
  obtain ⟨⟨hclauses, hcalls, hresources⟩, hclose, hobject, hunwrap⟩ :
      (u.tree.descendantsOfType 6 ["finally_clause"] = [33] ∧
        u.tree.descendantsOfType 33 ["method_invocation"] = [38] ∧
        u.tree.descendantsOfType 6 ["resource"] = []) ∧
      u.tree.fieldText? 38 "name" = some "close" ∧ u.tree.field? 38 "object" = some 39 ∧
        u.tree.unwrap 39 = some 41 := by
    decide +kernel
  -- the type of the readers, and the use behind their declaration
  obtain ⟨⟨hwritten, hqualify, hresource⟩, ⟨huse, htext, hbehind, hinside⟩, hnone⟩ :
      (u.tree.fieldText? 14 "type" = some "java.io.Reader" ∧
        u.qualify "java.io.Reader" = some "java.io.Reader" ∧ "java.io.Reader" ∈ resourceTypes) ∧
      (u.tree.type 41 = "identifier" ∧ u.tree.text 41 = "r" ∧ u.tree.start 14 < u.tree.start 41 ∧
        12 ∈ u.tree.ancestors 41) ∧
      ∀ a ∈ u.tree.ancestors 41, 12 ∈ u.tree.ancestors a → u.binding? a (u.tree.start 41) "r" = none := by
    decide +kernel
  refine ⟨hkeys, hlocal, hcallable, honce, ht, ?_, ?_, ?_⟩
  · refine hfires.2 ⟨"q", 25, ⟨by rw [hdeclarators]; decide, hq⟩, ?_, fun use huse hreleases => ?_⟩
    · exact ⟨"java.io.Reader", .written hwritten hqualify, by decide, "java.io.Reader", hresource, .refl⟩
    · -- the only receiver of `close` is the other reader
      cases hreleases with
      | closed hclause hcall _ hreceiver hreleased =>
        rw [hclauses, List.mem_singleton] at hclause
        subst hclause
        rw [hcalls, List.mem_singleton] at hcall
        subst hcall
        cases hobject.symm.trans hreceiver
        cases hunwrap.symm.trans hreleased
        exact absurd (htext.symm.trans huse.text) (by decide)
      | takenOver hresource _ _ _ =>
        rw [hresources] at hresource
        cases hresource
  · refine (hrefers "r" 22 ⟨by rw [hdeclarators]; decide, hr⟩ 39).2 ⟨41, hunwrap, ?_⟩
    exact ⟨huse, htext, hbehind, hinside, fun a ha hblock => binding?_eq_none_iff.1 (hnone a ha hblock)⟩
  · have hclause : 33 ∈ u.tree.descendantsOfType 6 ["finally_clause"] := by
      rw [hclauses]
      exact List.mem_singleton_self 33
    have hcall : 38 ∈ u.tree.descendantsOfType 33 ["method_invocation"] := by
      rw [hcalls]
      exact List.mem_singleton_self 38
    exact .closed hclause hcall hclose hobject hunwrap

end Rule.ResourceLeak

end JavaAudit
