import JavaAudit.CompilationUnit.Lookup
import JavaAudit.Proofs.Ancestry
import JavaAudit.Proofs.Reachability

/-!
# What a scope binds

`Binds` says, declaration by declaration, which nodes bind a name for a use at some position: local
variables that are declared before it, variables of loop heads, resources opened before it, parameters,
record components, and fields of type bodies, own or inherited. The search through a scope is compared
with it as a whole: what `binding?` finds bears the name and is bound by the scope, and it finds
something whenever the scope binds the name (`answers_binding?`).

Both directions are proved together. `Answers` pairs a search with the declarations that it is for, and
has one rule for each way in which searches are put together.
-/

namespace JavaAudit

/-! ## Searches and what they are for -/

/-- A search for a name is right about some declarations: what it finds bears the name and is one of
them, and it finds something if there is one. -/
structure Answers (answer : Option Symbol) (name : String)
    (isDeclaration : SymbolKind → NodeId → Prop) : Prop where
  sound : ∀ s, answer = some s → s.name = name ∧ isDeclaration s.kind s.declaration
  complete : ∀ kind d, isDeclaration kind d → answer.isSome = true

namespace Answers

variable {a b : Option Symbol} {name : String} {P Q : SymbolKind → NodeId → Prop} {α : Type}

theorem congr (h : Answers a name P) (hPQ : ∀ kind d, P kind d ↔ Q kind d) : Answers a name Q where
  sound s hs := ⟨(h.sound s hs).1, (hPQ _ _).1 (h.sound s hs).2⟩
  complete kind d hd := h.complete kind d ((hPQ kind d).2 hd)

theorem none (h : ∀ kind d, ¬ P kind d) : Answers none name P where
  sound _ hs := by cases hs
  complete kind d hd := absurd hd (h kind d)

/-- A single declaration, found under a condition. -/
theorem single {s : Symbol} {c : Prop} [Decidable c] (hname : s.name = name) :
    Answers (if c then some s else .none) name
      fun kind d => kind = s.kind ∧ d = s.declaration ∧ c where
  sound s' hs := by
    split at hs
    · next hc =>
      cases hs
      exact ⟨hname, rfl, rfl, hc⟩
    · cases hs
  complete kind d hd := by
    rw [if_pos hd.2.2]
    rfl

/-- Two searches, the second one only if the first one fails. -/
theorem or (ha : Answers a name P) (hb : Answers b name Q) :
    Answers (a.or b) name fun kind d => P kind d ∨ Q kind d where
  sound s hs := by
    rcases Option.or_eq_some_iff.1 hs with hs | ⟨-, hs⟩
    · exact ⟨(ha.sound s hs).1, .inl (ha.sound s hs).2⟩
    · exact ⟨(hb.sound s hs).1, .inr (hb.sound s hs).2⟩
  complete kind d hd := by
    rw [Option.isSome_or, Bool.or_eq_true]
    exact hd.imp (ha.complete kind d) (hb.complete kind d)

/-- A search at a place that may be absent. -/
theorem bind {o : Option α} {f : α → Option Symbol} {R : α → SymbolKind → NodeId → Prop}
    (h : ∀ x, o = .some x → Answers (f x) name (R x)) :
    Answers (o.bind f) name fun kind d => ∃ x, o = .some x ∧ R x kind d where
  sound s hs := by
    obtain ⟨x, hx, hs⟩ := Option.bind_eq_some_iff.1 hs
    exact ⟨((h x hx).sound s hs).1, x, hx, ((h x hx).sound s hs).2⟩
  complete kind d hd := by
    obtain ⟨x, hx, hd⟩ := hd
    rw [hx]
    exact (h x hx).complete kind d hd

/-- The first success of searches at several places. -/
theorem findSome? {l : List α} {f : α → Option Symbol} {R : α → SymbolKind → NodeId → Prop}
    (h : ∀ x ∈ l, Answers (f x) name (R x)) :
    Answers (l.findSome? f) name fun kind d => ∃ x ∈ l, R x kind d where
  sound s hs := by
    obtain ⟨x, hx, hs⟩ := List.exists_of_findSome?_eq_some hs
    exact ⟨((h x hx).sound s hs).1, x, hx, ((h x hx).sound s hs).2⟩
  complete kind d hd := by
    obtain ⟨x, hx, hd⟩ := hd
    exact List.findSome?_isSome_iff.2 ⟨x, hx, (h x hx).complete kind d hd⟩

/-- A search that is made under a condition only. -/
theorem guard {c : Prop} [Decidable c] (h : c → Answers a name P) :
    Answers (if c then a else .none) name fun kind d => c ∧ P kind d := by
  by_cases hc : c
  · rw [if_pos hc]
    exact (h hc).congr fun _ _ => (and_iff_right hc).symm
  · rw [if_neg hc]
    exact .none fun _ _ hd => hc hd.1

/-- A search whose findings are rewritten without touching what they are. -/
theorem map {f : Symbol → Symbol} (h : Answers a name P)
    (hf : ∀ s, (f s).name = s.name ∧ (f s).kind = s.kind ∧ (f s).declaration = s.declaration) :
    Answers (a.map f) name P where
  sound s hs := by
    obtain ⟨found, hfound, rfl⟩ := Option.map_eq_some_iff.1 hs
    obtain ⟨hname, hkind, hdecl⟩ := hf found
    rw [hname, hkind, hdecl]
    exact h.sound found hfound
  complete kind d hd := by
    rw [Option.isSome_map]
    exact h.complete kind d hd

end Answers

/-! ## Declarations that bear a name -/

namespace SyntaxTree

variable (t : SyntaxTree) (name : String)

/-- The node has the name in its `name` role. -/
def Names (n : NodeId) : Prop := t.fieldText? n "name" = some name

/-- One of the declarators of a declaration. -/
def IsDeclarator (decl d : NodeId) : Prop := d ∈ t.fields decl "declarator" ∧ t.Names name d

/-- A parameter, written as a bare name, with its type, or with its type and three dots. -/
def NamesParameter (param : NodeId) : Prop :=
  t.type param = "identifier" ∧ t.text param = name ∨
    t.type param = "formal_parameter" ∧ t.Names name param ∨
    t.type param = "spread_parameter" ∧
      ∃ d, t.childOfType? param ["variable_declarator"] = some d ∧ t.Names name d

/-- One of the parameters of a callable, or of the components of a record. A lambda may have a single
name in place of a list. -/
def IsParameter (callable param : NodeId) : Prop :=
  ∃ params, t.field? callable "parameters" = some params ∧
    (t.type params = "identifier" ∧ param = params ∨
      t.type params ≠ "identifier" ∧ param ∈ t.parts params) ∧
    t.NamesParameter name param

/-- A field or a constant that a type body itself declares. Members of an enum may stand in a part of
their own behind its constants. -/
inductive IsMember : (body d : NodeId) → Prop where
  | declarator {body member d : NodeId} (hmember : member ∈ t.parts body)
      (htype : t.type member = "field_declaration" ∨ t.type member = "constant_declaration")
      (hd : t.IsDeclarator name member d) : IsMember body d
  | enumConstant {body member : NodeId} (hmember : member ∈ t.parts body)
      (htype : t.type member = "enum_constant") (hname : t.Names name member) : IsMember body member
  | behindConstants {body member d : NodeId} (hmember : member ∈ t.parts body)
      (htype : t.type member = "enum_body_declarations") (hd : IsMember member d) : IsMember body d

/-- A part of a block that is reached before a position when the parts are gone through in order. -/
def IsEarlierPart (scope : NodeId) (position : Nat) (part : NodeId) : Prop :=
  ∃ before after, t.parts scope = before ++ part :: after ∧
    ∀ e ∈ before ++ [part], t.start e < position

/-- A type declaration and its body; the part behind the constants of an enum counts as body too. -/
def IsBodyOf (body holder : NodeId) : Prop :=
  t.isA holder typeDeclarationTypes = true ∧
    (t.parent? body = some holder ∨
      ∃ constants, t.parent? body = some constants ∧ t.type constants = "enum_body" ∧
        t.parent? constants = some holder)

end SyntaxTree

namespace CompilationUnit

variable (u : CompilationUnit) (name : String)

/-- A field that a declared type itself has. -/
def HasOwnField (type : String) (d : NodeId) : Prop :=
  ∃ decl, u.declaration? type = some decl ∧
    (u.tree.type decl = "record_declaration" ∧ u.tree.IsParameter name decl d ∨
      ∃ body, u.tree.field? decl "body" = some body ∧ u.tree.IsMember name body d)

/-- A field of a proper supertype of a declared type, within this unit. -/
def InheritsField (type : String) (d : NodeId) : Prop :=
  ∃ super, Relation.TransGen u.hierarchy.Above type super ∧ u.HasOwnField name super d

/-- A scope binds a name for a use at byte `position`, by which kind of declaration and where. -/
inductive Binds (position : Nat) (scope : NodeId) : SymbolKind → NodeId → Prop where
  | localVariable {statement d : NodeId} (hscope : u.tree.isA scope blockTypes = true)
      (hearlier : u.tree.IsEarlierPart scope position statement)
      (htype : u.tree.type statement = "local_variable_declaration")
      (hd : u.tree.IsDeclarator name statement d) : Binds position scope .localVariable d
  | loopHead {init d : NodeId} (hscope : u.tree.type scope = "for_statement")
      (hinit : init ∈ u.tree.fields scope "init")
      (htype : u.tree.type init = "local_variable_declaration")
      (hd : u.tree.IsDeclarator name init d) : Binds position scope .localVariable d
  | loopVariable (hscope : u.tree.type scope = "enhanced_for_statement")
      (hname : u.tree.Names name scope) : Binds position scope .localVariable scope
  | resource {spec r : NodeId} (hscope : u.tree.type scope = "try_with_resources_statement")
      (hspec : u.tree.field? scope "resources" = some spec) (hr : r ∈ u.tree.parts spec)
      (htype : u.tree.type r = "resource") (hearlier : u.tree.start r < position)
      (hname : u.tree.Names name r) : Binds position scope .resource r
  | catchParameter {param : NodeId} (hscope : u.tree.type scope = "catch_clause")
      (hparam : u.tree.childOfType? scope ["catch_formal_parameter"] = some param)
      (hname : u.tree.Names name param) : Binds position scope .parameter param
  | parameter {param : NodeId} (hscope : u.tree.isA scope callableTypes = true)
      (hparam : u.tree.IsParameter name scope param) : Binds position scope .parameter param
  | component {param : NodeId} (hscope : u.tree.type scope = "record_declaration")
      (hparam : u.tree.IsParameter name scope param) : Binds position scope .field param
  | ownField {d : NodeId} (hscope : u.tree.isA scope typeBodyTypes = true)
      (hd : u.tree.IsMember name scope d) : Binds position scope .field d
  | inheritedField {holder d : NodeId} {type : String}
      (hscope : u.tree.isA scope typeBodyTypes = true) (hholder : u.tree.IsBodyOf scope holder)
      (htype : u.declaredName? holder = some type) (hne : type ≠ "")
      (hd : u.InheritsField name type d) : Binds position scope .field d

end CompilationUnit

/-! ## Searches for declarations -/

namespace CompilationUnit

open SyntaxTree

variable {u : CompilationUnit} {name : String} {kind : SymbolKind}

theorem answers_namedVariable (holder declaration : NodeId) (typeNode initializer : Option NodeId) :
    Answers (u.namedVariable holder declaration name kind typeNode initializer) name
      fun k d => k = kind ∧ d = declaration ∧ u.tree.Names name holder :=
  .single rfl

theorem answers_enumConstant? (member : NodeId) :
    Answers (u.enumConstant? member name) name
      fun k d => k = .field ∧ d = member ∧ u.tree.Names name member :=
  .single rfl

theorem answers_declaredIn (decl : NodeId) (implicit : List String) :
    Answers (u.declaredIn decl name kind implicit) name
      fun k d => k = kind ∧ u.tree.IsDeclarator name decl d where
  sound s hs := by
    obtain ⟨d, hd, rfl⟩ := Option.map_eq_some_iff.1 hs
    have hname := List.find?_some hd
    rw [decide_eq_true_eq] at hname
    exact ⟨rfl, rfl, List.mem_of_find?_eq_some hd, hname⟩
  complete k d hd := by
    rw [declaredIn, Option.isSome_map, List.find?_isSome]
    exact ⟨d, hd.2.1, decide_eq_true hd.2.2⟩

/-- A parameter is found by its name, whatever node its name is written in. -/
theorem answers_parameterSymbol (callable param : NodeId) :
    Answers (u.parameterSymbol callable param name kind) name
      fun k d => k = kind ∧ d = param ∧ u.tree.NamesParameter name param := by
  unfold parameterSymbol NamesParameter
  dsimp only
  split
  · next htype =>
    apply Answers.congr
    · exact .single rfl
    · simp [htype]
  · next htype =>
    apply Answers.congr
    · exact answers_namedVariable param param _ _
    · simp [htype]
  · next htype =>
    apply Answers.congr
    · exact .bind fun v _ => (answers_namedVariable v param _ _).map fun _ => ⟨rfl, rfl, rfl⟩
    · simp [htype, and_left_comm]
  · next h1 h2 h3 =>
    refine .none fun k d hd => ?_
    rcases hd.2.2 with ⟨h, -⟩ | ⟨h, -⟩ | ⟨h, -⟩
    · exact h1 h
    · exact h2 h
    · exact h3 h

theorem answers_parameter? (callable : NodeId) :
    Answers (u.parameter? callable name kind) name
      fun k d => k = kind ∧ u.tree.IsParameter name callable d := by
  refine (Answers.bind fun params _ => .findSome? fun param _ =>
    answers_parameterSymbol callable param).congr fun k d => ?_
  unfold IsParameter
  constructor
  · rintro ⟨params, hparams, param, hparam, rfl, rfl, hname⟩
    refine ⟨rfl, params, hparams, ?_, hname⟩
    split at hparam
    · next htype => exact .inl ⟨htype, List.mem_singleton.1 hparam⟩
    · next htype => exact .inr ⟨htype, hparam⟩
  · rintro ⟨rfl, params, hparams, hparam, hname⟩
    refine ⟨params, hparams, d, ?_, rfl, rfl, hname⟩
    rcases hparam with ⟨htype, rfl⟩ | ⟨htype, hparam⟩
    · rw [if_pos htype]
      exact List.mem_singleton_self d
    · rw [if_neg htype]
      exact hparam

/-! ### Members -/

/-- The field that one member of a type body declares under a name. -/
def memberField? (u : CompilationUnit) (name : String) (member : NodeId) : Option Symbol :=
  match u.tree.type member with
  | "field_declaration" => u.declaredIn member name .field []
  | "constant_declaration" => u.declaredIn member name .field constantModifiers
  | "enum_constant" => u.enumConstant? member name
  | "enum_body_declarations" => u.fieldInBody member name
  | _ => none

theorem fieldInBody_eq (body : NodeId) :
    u.fieldInBody body name = (u.tree.parts body).findSome? (u.memberField? name) := by
  rw [fieldInBody]
  simp only [List.findSome?_subtype, List.unattach_attach]
  rfl

/-- The members of a body, one level at a time: the declarations of an enum are in a body of their own below it.
-/
theorem isMember_iff {body d : NodeId} :
    u.tree.IsMember name body d ↔ ∃ member ∈ u.tree.parts body,
      (u.tree.type member = "field_declaration" ∨ u.tree.type member = "constant_declaration") ∧
          u.tree.IsDeclarator name member d ∨
        u.tree.type member = "enum_constant" ∧ d = member ∧ u.tree.Names name member ∨
        u.tree.type member = "enum_body_declarations" ∧ u.tree.IsMember name member d := by
  constructor
  · rintro (⟨hmember, htype, hd⟩ | ⟨hmember, htype, hname⟩ | ⟨hmember, htype, hd⟩)
    · exact ⟨_, hmember, .inl ⟨htype, hd⟩⟩
    · exact ⟨_, hmember, .inr (.inl ⟨htype, rfl, hname⟩)⟩
    · exact ⟨_, hmember, .inr (.inr ⟨htype, hd⟩)⟩
  · rintro ⟨member, hmember, ⟨htype, hd⟩ | ⟨htype, rfl, hname⟩ | ⟨htype, hd⟩⟩
    · exact .declarator hmember htype hd
    · exact .enumConstant hmember htype hname
    · exact .behindConstants hmember htype hd

/-- A body is searched for its own fields, and for those among the declarations of an enum. -/
theorem answers_fieldInBody (body : NodeId) :
    Answers (u.fieldInBody body name) name fun k d => k = .field ∧ u.tree.IsMember name body d := by
  induction body using parts_induction (t := u.tree) with
  | step body ih =>
    rw [fieldInBody_eq]
    apply Answers.congr
    · refine .findSome? (R := fun member k d => k = .field ∧
        ((u.tree.type member = "field_declaration" ∨ u.tree.type member = "constant_declaration") ∧
            u.tree.IsDeclarator name member d ∨
          u.tree.type member = "enum_constant" ∧ d = member ∧ u.tree.Names name member ∨
          u.tree.type member = "enum_body_declarations" ∧ u.tree.IsMember name member d))
        fun member hmember => ?_
      -- a member of any other type than these declares no field
      unfold memberField?
      split
      · next htype => exact (answers_declaredIn member _).congr (by simp [htype])
      · next htype => exact (answers_declaredIn member _).congr (by simp [htype])
      · next htype => exact (answers_enumConstant? member).congr (by simp [htype])
      · next htype => exact (ih member hmember).congr (by simp [htype])
      · next h1 h2 h3 h4 =>
        refine .none fun k d hd => ?_
        rcases hd.2 with ⟨h | h, -⟩ | ⟨h, -⟩ | ⟨h, -⟩
        · exact h1 h
        · exact h2 h
        · exact h3 h
        · exact h4 h
    · intro k d
      rw [isMember_iff]
      simp only [exists_and_left, and_left_comm]

theorem answers_ownField (type : String) :
    Answers (u.ownField type name) name fun k d => k = .field ∧ u.HasOwnField name type d := by
  apply Answers.congr
  · exact .bind fun decl _ => .or (.guard fun _ => answers_parameter? decl)
      (.bind fun body _ => answers_fieldInBody body)
  · intro k d
    unfold HasOwnField
    constructor
    · rintro ⟨decl, hdecl, ⟨htype, rfl, hparam⟩ | ⟨body, hbody, rfl, hmember⟩⟩
      · exact ⟨rfl, decl, hdecl, .inl ⟨htype, hparam⟩⟩
      · exact ⟨rfl, decl, hdecl, .inr ⟨body, hbody, hmember⟩⟩
    · rintro ⟨rfl, decl, hdecl, ⟨htype, hparam⟩ | ⟨body, hbody, hmember⟩⟩
      · exact ⟨decl, hdecl, .inl ⟨htype, rfl, hparam⟩⟩
      · exact ⟨decl, hdecl, .inr ⟨body, hbody, rfl, hmember⟩⟩

theorem answers_inheritedField (type : String) :
    Answers (u.inheritedField type name) name
      fun k d => k = .field ∧ u.InheritsField name type d := by
  apply Answers.congr
  · exact .findSome? fun super _ => answers_ownField super
  · intro k d
    unfold InheritsField
    constructor
    · rintro ⟨super, hsuper, rfl, hd⟩
      exact ⟨rfl, super, Hierarchy.mem_visit_direct_iff.1 hsuper, hd⟩
    · rintro ⟨rfl, super, hsuper, hd⟩
      exact ⟨super, Hierarchy.mem_visit_direct_iff.2 hsuper, rfl, hd⟩

/-- The type that a body belongs to is the one whose declaration holds the body. -/
theorem typeOfBody_eq_some_iff {body : NodeId} {type : String} :
    u.typeOfBody body = some type ↔
      ∃ holder, u.tree.IsBodyOf body holder ∧ u.declaredName? holder = some type := by
  -- a body in another one belongs to the `enum` around that, and the outer body is no declaration itself
  have henum : ∀ holder, u.tree.isA holder typeDeclarationTypes = true →
      u.tree.type holder ≠ "enum_body" := by
    intro holder hholder heq
    rw [isA, heq] at hholder
    revert hholder
    decide
  unfold typeOfBody IsBodyOf
  simp only [Option.bind_eq_some_iff, Option.filter_eq_some_iff]
  cases hp : u.tree.parent? body with
  | none => simp
  | some p =>
    constructor
    · rintro ⟨holder, ⟨hholder, hdecl⟩, hname⟩
      refine ⟨holder, ⟨hdecl, ?_⟩, hname⟩
      dsimp only at hholder
      split at hholder
      · next htype => exact .inr ⟨p, rfl, htype, hholder⟩
      · exact .inl hholder
    · rintro ⟨holder, ⟨hdecl, hparent | ⟨constants, hconstants, htype, hparent⟩⟩, hname⟩
      · cases hparent
        refine ⟨p, ⟨?_, hdecl⟩, hname⟩
        dsimp only
        rw [if_neg (henum p hdecl)]
      · cases hconstants
        refine ⟨holder, ⟨?_, hdecl⟩, hname⟩
        dsimp only
        rw [if_pos htype, hparent]

/-! ### Scopes -/

/-- What is taken from a list while a condition holds: the elements up to which all satisfy it. -/
theorem mem_takeWhile_iff {α : Type} {p : α → Bool} {l : List α} {x : α} :
    x ∈ l.takeWhile p ↔ ∃ before after, l = before ++ x :: after ∧ ∀ e ∈ before ++ [x], p e = true := by
  constructor
  · intro h
    obtain ⟨before, after, hsplit⟩ := List.append_of_mem h
    refine ⟨before, after ++ l.dropWhile p, ?_, fun e he => ?_⟩
    · conv => lhs; rw [← List.takeWhile_append_dropWhile (p := p) (l := l), hsplit]
      simp
    · refine List.all_eq_true.1 (List.all_takeWhile (l := l)) e ?_
      rw [hsplit]
      simp only [List.mem_append, List.mem_cons, List.not_mem_nil, or_false] at he ⊢
      exact he.imp_right .inl
  · rintro ⟨before, after, rfl, hall⟩
    have hassoc : before ++ x :: after = (before ++ [x]) ++ after := by simp
    rw [hassoc, List.takeWhile_append_of_pos hall]
    simp

/-- A block binds the variables of the statements before the position, and of no others. -/
theorem answers_blockBinding (scope : NodeId) (position : Nat) :
    Answers (u.blockBinding scope position name) name fun k d => k = .localVariable ∧
      ∃ statement, u.tree.IsEarlierPart scope position statement ∧
        u.tree.type statement = "local_variable_declaration" ∧
        u.tree.IsDeclarator name statement d := by
  apply Answers.congr
  · exact .findSome? fun statement _ => answers_declaredIn statement []
  · intro k d
    simp only [List.mem_filter, mem_takeWhile_iff, decide_eq_true_eq, IsEarlierPart]
    constructor
    · rintro ⟨statement, ⟨hearlier, htype⟩, rfl, hd⟩
      exact ⟨rfl, statement, hearlier, htype, hd⟩
    · rintro ⟨rfl, statement, hearlier, htype, hd⟩
      exact ⟨statement, ⟨hearlier, htype⟩, rfl, hd⟩

theorem answers_loopBinding (scope : NodeId) :
    Answers (u.loopBinding scope name) name fun k d => k = .localVariable ∧
      ∃ init ∈ u.tree.fields scope "init", u.tree.type init = "local_variable_declaration" ∧
        u.tree.IsDeclarator name init d := by
  apply Answers.congr
  · exact .findSome? fun init _ => answers_declaredIn init []
  · intro k d
    simp only [List.mem_filter, decide_eq_true_eq]
    constructor
    · rintro ⟨init, ⟨hinit, htype⟩, rfl, hd⟩
      exact ⟨rfl, init, hinit, htype, hd⟩
    · rintro ⟨rfl, init, hinit, htype, hd⟩
      exact ⟨init, ⟨hinit, htype⟩, rfl, hd⟩

/-- A try binds the resources that start before the position. -/
theorem answers_resourceBinding (scope : NodeId) (position : Nat) :
    Answers (u.resourceBinding scope position name) name fun k d => k = .resource ∧
      ∃ spec, u.tree.field? scope "resources" = some spec ∧ d ∈ u.tree.parts spec ∧
        u.tree.type d = "resource" ∧ u.tree.start d < position ∧ u.tree.Names name d := by
  apply Answers.congr
  · exact .findSome? fun r _ => answers_namedVariable r r none _
  · intro k d
    simp only [List.mem_filter, Bool.and_eq_true, decide_eq_true_eq]
    cases u.tree.field? scope "resources" with
    | none => simp
    | some spec =>
      constructor
      · rintro ⟨r, ⟨hr, htype, hearlier⟩, rfl, rfl, hname⟩
        exact ⟨rfl, spec, rfl, hr, htype, hearlier, hname⟩
      · rintro ⟨rfl, other, hspec, hr, htype, hearlier, hname⟩
        cases hspec
        exact ⟨d, ⟨hr, htype, hearlier⟩, rfl, rfl, hname⟩

theorem answers_catchBinding (scope : NodeId) :
    Answers (u.catchBinding scope name) name fun k d => k = .parameter ∧
      u.tree.childOfType? scope ["catch_formal_parameter"] = some d ∧ u.tree.Names name d := by
  apply Answers.congr
  · exact .bind fun param _ => answers_namedVariable param param _ none
  · intro k d
    constructor
    · rintro ⟨param, hparam, rfl, rfl, hname⟩
      exact ⟨rfl, hparam, hname⟩
    · rintro ⟨rfl, hparam, hname⟩
      exact ⟨d, hparam, rfl, rfl, hname⟩

/-- The body of a type binds its own fields and those that the type inherits. -/
theorem answers_bodyBinding (body : NodeId) :
    Answers (u.bodyBinding body name) name fun k d => k = .field ∧
      (u.tree.IsMember name body d ∨ ∃ holder type, u.tree.IsBodyOf body holder ∧
        u.declaredName? holder = some type ∧ type ≠ "" ∧ u.InheritsField name type d) := by
  apply Answers.congr
  · exact .or (answers_fieldInBody body) (.bind fun type _ => answers_inheritedField type)
  · intro k d
    simp only [Option.filter_eq_some_iff, decide_eq_true_eq, typeOfBody_eq_some_iff]
    constructor
    · rintro (⟨rfl, hd⟩ | ⟨type, ⟨⟨holder, hbody, hname⟩, hne⟩, rfl, hd⟩)
      · exact ⟨rfl, .inl hd⟩
      · exact ⟨rfl, .inr ⟨holder, type, hbody, hname, hne, hd⟩⟩
    · rintro ⟨rfl, hd | ⟨holder, type, hbody, hname, hne, hd⟩⟩
      · exact .inl ⟨rfl, hd⟩
      · exact .inr ⟨type, ⟨⟨holder, hbody, hname⟩, hne⟩, rfl, hd⟩

/-! ### One scope after another -/

/-- Callables and type bodies are none of the scopes that are asked for before them. -/
theorem binding?_of_isA_callableTypes {scope position : Nat}
    (h : u.tree.isA scope callableTypes = true) :
    u.binding? scope position name = u.parameter? scope name .parameter := by
  have hmem : u.tree.type scope ∈ callableTypes := List.contains_iff_mem.1 h
  unfold binding?
  simp only [callableTypes, List.mem_cons, List.not_mem_nil, or_false] at hmem
  rcases hmem with htype | htype | htype <;> rw [htype] <;> rfl

theorem binding?_of_isA_typeBodyTypes {scope position : Nat}
    (h : u.tree.isA scope typeBodyTypes = true) :
    u.binding? scope position name = u.bodyBinding scope name := by
  have hmem : u.tree.type scope ∈ typeBodyTypes := List.contains_iff_mem.1 h
  unfold binding?
  simp only [typeBodyTypes, List.mem_cons, List.not_mem_nil, or_false] at hmem
  rcases hmem with htype | htype | htype | htype | htype <;> rw [htype] <;> rfl

/-- What a scope is found to bind it does bind, under the name that was searched. -/
theorem binds_of_binding? {scope position : Nat} {s : Symbol}
    (h : u.binding? scope position name = some s) :
    s.name = name ∧ u.Binds name position scope s.kind s.declaration := by
  -- the tests are made in this order, and the first that succeeds tells the type of the scope
  unfold binding? at h
  dsimp only at h
  split at h
  · next hscope =>
    obtain ⟨hname, hkind, statement, hearlier, htype, hd⟩ :=
      (answers_blockBinding scope position).sound s h
    rw [hkind]
    exact ⟨hname, .localVariable hscope hearlier htype hd⟩
  split at h
  · next hscope =>
    obtain ⟨hname, hkind, init, hinit, htype, hd⟩ := (answers_loopBinding scope).sound s h
    rw [hkind]
    exact ⟨hname, .loopHead hscope hinit htype hd⟩
  split at h
  · next hscope =>
    obtain ⟨hname, hkind, hd, hnames⟩ := (answers_namedVariable scope scope none none).sound s h
    rw [hkind, hd]
    exact ⟨hname, .loopVariable hscope hnames⟩
  split at h
  · next hscope =>
    obtain ⟨hname, hkind, spec, hspec, hr, htype, hearlier, hnames⟩ :=
      (answers_resourceBinding scope position).sound s h
    rw [hkind]
    exact ⟨hname, .resource hscope hspec hr htype hearlier hnames⟩
  split at h
  · next hscope =>
    obtain ⟨hname, hkind, hparam, hnames⟩ := (answers_catchBinding scope).sound s h
    rw [hkind]
    exact ⟨hname, .catchParameter hscope hparam hnames⟩
  split at h
  · next hscope =>
    obtain ⟨hname, hkind, hparam⟩ := (answers_parameter? scope).sound s h
    rw [hkind]
    exact ⟨hname, .parameter hscope hparam⟩
  split at h
  · next hscope =>
    obtain ⟨hname, hkind, hparam⟩ := (answers_parameter? scope).sound s h
    rw [hkind]
    exact ⟨hname, .component hscope hparam⟩
  split at h
  · next hscope =>
    obtain ⟨hname, hkind, hd⟩ := (answers_bodyBinding scope).sound s h
    rw [hkind]
    rcases hd with hd | ⟨holder, type, hholder, htype, hne, hd⟩
    · exact ⟨hname, .ownField hscope hd⟩
    · exact ⟨hname, .inheritedField hscope hholder htype hne hd⟩
  · cases h

/-- A search of a scope is right about what the scope binds. -/
theorem answers_binding? (scope position : Nat) :
    Answers (u.binding? scope position name) name (u.Binds name position scope) where
  sound _ hs := binds_of_binding? hs
  complete kind d hd := by
    -- here the type of the scope is given, so no other test than its own succeeds
    cases hd with
    | localVariable hscope hearlier htype hd =>
      have hblock : u.binding? scope position name = u.blockBinding scope position name :=
        if_pos hscope
      rw [hblock]
      exact (answers_blockBinding scope position).complete _ d ⟨rfl, _, hearlier, htype, hd⟩
    | loopHead hscope hinit htype hd =>
      rw [binding?, hscope]
      exact (answers_loopBinding scope).complete _ d ⟨rfl, _, hinit, htype, hd⟩
    | loopVariable hscope hname =>
      rw [binding?, hscope]
      exact (answers_namedVariable scope scope none none).complete _ scope ⟨rfl, rfl, hname⟩
    | resource hscope hspec hr htype hearlier hname =>
      rw [binding?, hscope]
      exact (answers_resourceBinding scope position).complete _ d
        ⟨rfl, _, hspec, hr, htype, hearlier, hname⟩
    | catchParameter hscope hparam hname =>
      rw [binding?, hscope]
      exact (answers_catchBinding scope).complete _ d ⟨rfl, hparam, hname⟩
    | parameter hscope hparam =>
      rw [binding?_of_isA_callableTypes hscope]
      exact (answers_parameter? scope).complete _ d ⟨rfl, hparam⟩
    | component hscope hparam =>
      rw [binding?, hscope]
      exact (answers_parameter? scope).complete _ d ⟨rfl, hparam⟩
    | ownField hscope hd =>
      rw [binding?_of_isA_typeBodyTypes hscope]
      exact (answers_bodyBinding scope).complete _ d ⟨rfl, .inl hd⟩
    | inheritedField hscope hholder htype hne hd =>
      rw [binding?_of_isA_typeBodyTypes hscope]
      exact (answers_bodyBinding scope).complete _ d ⟨rfl, .inr ⟨_, _, hholder, htype, hne, hd⟩⟩

end CompilationUnit

end JavaAudit
