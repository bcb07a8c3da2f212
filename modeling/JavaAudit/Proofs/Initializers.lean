import JavaAudit.CompilationUnit.Reference
import JavaAudit.Proofs.Bindings

/-!
# Where initialisers come from

A symbol that has an initialiser has it from its declaration, in the role `value`, however the symbol was
found (`initializer_of_reference?`). So two references with the same declaration have the same
initialiser, and whoever remembers declarations remembers initialisers.

Searches are put together from a few pieces, and `FromDeclarations` has one rule for each of them.
-/

namespace JavaAudit.CompilationUnit

variable {u : CompilationUnit} {name : String} {kind : SymbolKind}

/-- Whatever a search finds has no other initialiser than the one in its declaration. -/
def FromDeclarations (u : CompilationUnit) (answer : Option Symbol) : Prop :=
  ∀ s, answer = some s → ∀ c, s.initializer = some c → u.tree.field? s.declaration "value" = some c

/-! ## Putting searches together -/

namespace FromDeclarations

variable {a b : Option Symbol} {α : Type}

theorem none : u.FromDeclarations none := by
  intro s hs
  cases hs

/-- A single declaration that has no initialiser, or the one that it holds. -/
theorem single {s : Symbol}
    (h : s.initializer = .none ∨ s.initializer = u.tree.field? s.declaration "value") :
    u.FromDeclarations (some s) := by
  intro found hfound c hc
  cases hfound
  rcases h with h | h
  · rw [h] at hc
    cases hc
  · rw [← h, hc]

theorem guard {p : Prop} [Decidable p] (h : p → u.FromDeclarations a) :
    u.FromDeclarations (if p then a else .none) := by
  by_cases hp : p
  · rw [if_pos hp]
    exact h hp
  · rw [if_neg hp]
    exact none

theorem or (ha : u.FromDeclarations a) (hb : u.FromDeclarations b) : u.FromDeclarations (a.or b) := by
  intro s hs
  rcases Option.or_eq_some_iff.1 hs with hs | ⟨-, hs⟩
  · exact ha s hs
  · exact hb s hs

theorem bind {o : Option α} {f : α → Option Symbol} (h : ∀ x, u.FromDeclarations (f x)) :
    u.FromDeclarations (o.bind f) := by
  intro s hs
  obtain ⟨x, -, hs⟩ := Option.bind_eq_some_iff.1 hs
  exact h x s hs

theorem findSome? {l : List α} {f : α → Option Symbol} (h : ∀ x ∈ l, u.FromDeclarations (f x)) :
    u.FromDeclarations (l.findSome? f) := by
  intro s hs
  obtain ⟨x, hx, hs⟩ := List.exists_of_findSome?_eq_some hs
  exact h x hx s hs

end FromDeclarations

/-! ## Declarations -/

/-- A variable has no initialiser or the one in its declaration. -/
theorem fromDeclarations_namedVariable {holder declaration : NodeId}
    {typeNode initializer : Option NodeId}
    (h : initializer = none ∨ initializer = u.tree.field? declaration "value") :
    u.FromDeclarations (u.namedVariable holder declaration name kind typeNode initializer) :=
  .guard fun _ => .single h

theorem fromDeclarations_declaredIn (decl : NodeId) (implicit : List String) :
    u.FromDeclarations (u.declaredIn decl name kind implicit) := by
  intro s hs c hc
  obtain ⟨d, -, rfl⟩ := Option.map_eq_some_iff.1 hs
  exact hc

theorem fromDeclarations_parameterSymbol (callable param : NodeId) :
    u.FromDeclarations (u.parameterSymbol callable param name kind) := by
  unfold parameterSymbol
  dsimp only
  split
  · exact .guard fun _ => .single (.inl rfl)
  · exact fromDeclarations_namedVariable (.inl rfl)
  · refine .bind fun d => ?_
    intro s hs
    obtain ⟨found, hfound, rfl⟩ := Option.map_eq_some_iff.1 hs
    exact fromDeclarations_namedVariable (.inl rfl) found hfound
  · exact .none

theorem fromDeclarations_parameter? (callable : NodeId) :
    u.FromDeclarations (u.parameter? callable name kind) :=
  .bind fun _ => .findSome? fun param _ => fromDeclarations_parameterSymbol callable param

/-- Fields come from the declarations in a body, at any depth of the parts of an enum. -/
theorem fromDeclarations_fieldInBody (body : NodeId) :
    u.FromDeclarations (u.fieldInBody body name) := by
  induction body using SyntaxTree.parts_induction (t := u.tree) with
  | step body ih =>
    rw [fieldInBody_eq]
    refine .findSome? fun member hmember => ?_
    unfold memberField?
    split
    · exact fromDeclarations_declaredIn member _
    · exact fromDeclarations_declaredIn member _
    · exact .guard fun _ => .single (.inl rfl)
    · exact ih member hmember
    · exact .none

theorem fromDeclarations_ownField (type : String) : u.FromDeclarations (u.ownField type name) :=
  .bind fun decl => .or (.guard fun _ => fromDeclarations_parameter? decl)
    (.bind fun body => fromDeclarations_fieldInBody body)

/-- Inherited fields bring the initialiser of the type that declares them. -/
theorem fromDeclarations_fieldOf (type : String) : u.FromDeclarations (u.fieldOf type name) :=
  .findSome? fun a _ => fromDeclarations_ownField a

/-! ## Scopes and references -/

theorem fromDeclarations_binding? (scope position : Nat) :
    u.FromDeclarations (u.binding? scope position name) := by
  unfold binding?
  dsimp only
  split
  · exact .findSome? fun statement _ => fromDeclarations_declaredIn statement _
  split
  · exact .findSome? fun init _ => fromDeclarations_declaredIn init _
  split
  · exact fromDeclarations_namedVariable (.inl rfl)
  split
  · -- only a resource is declared by the node that holds its name and its value
    exact .findSome? fun r _ => fromDeclarations_namedVariable (.inr rfl)
  split
  · exact .bind fun param => fromDeclarations_namedVariable (.inl rfl)
  split
  · exact fromDeclarations_parameter? scope
  split
  · exact fromDeclarations_parameter? scope
  split
  · exact .or (fromDeclarations_fieldInBody scope)
      (.bind fun owner => .findSome? fun super _ => fromDeclarations_ownField super)
  · exact .none

theorem fromDeclarations_lookup (n : NodeId) : u.FromDeclarations (u.lookup name n) :=
  .findSome? fun scope _ => fromDeclarations_binding? scope _

/-- Neither do names, nor accesses through `this` or a type. -/
theorem fromDeclarations_reference? (n : NodeId) : u.FromDeclarations (u.reference? n) := by
  rw [reference?]
  split
  · exact .none
  · next e he =>
    split
    · exact fromDeclarations_lookup e
    split
    · exact .none
    split
    · split
      · exact .none
      · split
        · exact .bind fun owner => fromDeclarations_fieldOf owner
        split
        · exact .bind fun owner => fromDeclarations_fieldOf owner
        split
        · exact .bind fun owner => fromDeclarations_fieldOf owner
        · exact .none
    · exact .none

/-- The initialiser of what an expression refers to is the value in its declaration. -/
theorem initializer_of_reference? {n c : NodeId} {s : Symbol} (hs : u.reference? n = some s)
    (hc : s.initializer = some c) : u.tree.field? s.declaration "value" = some c :=
  fromDeclarations_reference? n s hs c hc

end JavaAudit.CompilationUnit
