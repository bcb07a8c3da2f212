import JavaAudit.Proofs.Bindings
import JavaAudit.Proofs.Tables

/-!
# The types that a unit declares

`Declares` says which nodes declare which types: named type declarations anywhere in the tree, under
their qualified names. The two tables of a unit are read against it. A declaration is found under its
name where no two declarations have the same name (`declaration?_eq_some_iff`), and a name under its
declaration where nodes have keys of their own (`declaredName?_eq_some_iff`).

Types of one unit may inherit from each other. Where no type inherits from itself, the field of a type
is its own one or else an inherited one (`fieldOf_eq`).
-/

namespace JavaAudit

/-! ## Declarations -/

namespace TypeTable

variable (t : SyntaxTree) (package : String)

/-- The type declarations that have a name, with their qualified names. -/
def entries : List (String × NodeId) :=
  (t.descendantsOfType SyntaxTree.root typeDeclarationTypes).filterMap fun n =>
    (t.fieldText? n "name").map fun name => (qualifiedName t package n name, n)

/-- The table after some declarations holds, before the entries that it had, one for each declaration with a
name. -/
theorem foldl_add (nodes : List NodeId) (types : TypeTable) :
    let named := nodes.filterMap fun n =>
      (t.fieldText? n "name").map fun name => (qualifiedName t package n name, n)
    (nodes.foldl (add t package) types).declarations =
        named.foldl (fun table entry => Table.put entry.1 entry.2 table) types.declarations ∧
      (nodes.foldl (add t package) types).names =
        (named.map fun entry => (t.key entry.2, entry.1)).foldl
          (fun table entry => Table.put entry.1 entry.2 table) types.names := by
  induction nodes generalizing types with
  | nil => exact ⟨rfl, rfl⟩
  | cons n rest ih =>
    simp only [List.foldl_cons, List.filterMap_cons]
    cases hname : t.fieldText? n "name" with
    | none =>
      have hadd : add t package types n = types := by rw [add, hname]
      rw [hadd]
      exact ih types
    | some name =>
      have h := ih (add t package types n)
      rw [add, hname] at h ⊢
      exact h

theorem declarations_collect :
    (collect t package).declarations = Table.ofEntries (entries t package) :=
  (foldl_add t package _ empty).1

theorem names_collect :
    (collect t package).names =
      Table.ofEntries ((entries t package).map fun entry => (t.key entry.2, entry.1)) :=
  (foldl_add t package _ empty).2

end TypeTable

namespace CompilationUnit

variable {u : CompilationUnit} {type other : String} {n m : Nat}

/-- A node declares a type: a type declaration with a name, which makes up its qualified name together
with the package and the names around it. -/
def Declares (u : CompilationUnit) (n : NodeId) (type : String) : Prop :=
  n ∈ u.tree.descendantsOfType SyntaxTree.root typeDeclarationTypes ∧
    ∃ name, u.tree.fieldText? n "name" = some name ∧
      TypeTable.qualifiedName u.tree u.header.package n name = type

/-- No two nodes declare one type. -/
def UniqueTypes (u : CompilationUnit) : Prop :=
  ∀ type m n, u.Declares m type → u.Declares n type → m = n

/-- The entries are the declarations with their full names. -/
theorem mem_entries_iff :
    (type, n) ∈ TypeTable.entries u.tree u.header.package ↔ u.Declares n type := by
  unfold TypeTable.entries Declares
  simp only [List.mem_filterMap, Option.map_eq_some_iff, Prod.mk.injEq]
  constructor
  · rintro ⟨m, hm, name, hname, htype, rfl⟩
    exact ⟨hm, name, hname, htype⟩
  · rintro ⟨hn, name, hname, htype⟩
    exact ⟨n, hn, name, hname, htype, rfl⟩

theorem Declares.isA (h : u.Declares n type) : u.tree.isA n typeDeclarationTypes = true :=
  (List.mem_filter.1 h.1).2

theorem Declares.lt_size (h : u.Declares n type) : n < u.tree.size := by
  have hdesc := (List.mem_filter.1 h.1).1
  exact SyntaxTree.lt_size_of_mem_ancestors
    (SyntaxTree.isNamed_and_mem_ancestors_of_mem_descendants hdesc).2

/-- A node declares at most one type. -/
theorem Declares.unique (h : u.Declares n type) (h' : u.Declares n other) : type = other := by
  obtain ⟨-, name, hname, rfl⟩ := h
  obtain ⟨-, name', hname', rfl⟩ := h'
  rw [hname] at hname'
  cases hname'
  rfl

/-- The declaration under a name is the node that declares the type. -/
theorem declaration?_eq_some_iff (h : u.UniqueTypes) :
    u.declaration? type = some n ↔ u.Declares n type := by
  unfold declaration?
  rw [u.types_eq, TypeTable.declarations_collect, Table.get?_ofEntries_eq_some_iff, mem_entries_iff]
  rintro ⟨a, m⟩ hm ha ⟨b, k⟩ hk hb
  subst ha hb
  exact h _ m k (mem_entries_iff.1 hm) (mem_entries_iff.1 hk)

/-- The name under a declaration is that of the type it declares. -/
theorem declaredName?_eq_some_iff (hkeys : u.tree.DistinctKeys) (hn : n < u.tree.size) :
    u.declaredName? n = some type ↔ u.Declares n type := by
  -- names are listed by the keys of the declarations, which belong to one node each
  have hsame : ∀ a m, (a, m) ∈ TypeTable.entries u.tree u.header.package →
      u.tree.key m = u.tree.key n → u.Declares n a := by
    intro a m hm hkey
    have hdecl := mem_entries_iff.1 hm
    rwa [hkeys m hdecl.lt_size n hn hkey] at hdecl
  unfold declaredName?
  rw [u.types_eq, TypeTable.names_collect, Table.get?_ofEntries_eq_some_iff, List.mem_map]
  · constructor
    · rintro ⟨⟨a, m⟩, hm, heq⟩
      obtain ⟨hkey, rfl⟩ := Prod.mk.inj heq
      exact hsame a m hm hkey
    · intro hdecl
      exact ⟨(type, n), mem_entries_iff.2 hdecl, rfl⟩
  · intro x hx hxkey y hy hykey
    obtain ⟨⟨a, m⟩, hm, rfl⟩ := List.mem_map.1 hx
    obtain ⟨⟨b, k⟩, hk, rfl⟩ := List.mem_map.1 hy
    exact (hsame a m hm hxkey).unique (hsame b k hk hykey)

end CompilationUnit

/-! ## Fields along the hierarchy -/

namespace Hierarchy

variable {h : Hierarchy} {s : Strategy} {seen seen' waiting : List String}

/-- No type is a supertype of itself. -/
def Acyclic (h : Hierarchy) : Prop := ∀ a, ¬ Relation.TransGen h.Above a a

/-- Types are acyclic if direct supertypes stand on a lower level. -/
theorem acyclic_of_level (level : String → Nat)
    (hlevel : ∀ a ∈ h.declared, ∀ b ∈ h.direct a, level b < level a) : h.Acyclic := by
  have hstep : ∀ {a b}, h.Above a b → level b < level a := by
    intro a b hab
    by_cases ha : a ∈ h.declared
    · exact hlevel a ha b hab
    · rw [Above, h.direct_eq_nil a ha] at hab
      cases hab
  have hdown : ∀ {a b}, Relation.TransGen h.Above a b → level b < level a := by
    intro a b hab
    induction hab with
    | single hab => exact hstep hab
    | tail _ hbc ih => exact Nat.lt_trans (hstep hbc) ih
  exact fun a ha => Nat.lt_irrefl _ (hdown ha)

/-- What was seen before matters only where it can be reached. -/
theorem visit_congr_seen
    (hseen : ∀ a ∈ waiting, ∀ b, h.Reaches a b → (b ∈ seen ↔ b ∈ seen')) :
    h.visit s seen waiting = h.visit s seen' waiting := by
  fun_induction visit h s seen waiting generalizing seen' with
  | case1 => rw [visit]
  | case2 seen a rest ha ih =>
    have ha' : seen'.contains a = true :=
      List.contains_iff_mem.2 ((hseen a List.mem_cons_self a .refl).1 (List.contains_iff_mem.1 ha))
    rw [visit, if_pos ha']
    exact ih fun c hc => hseen c (List.mem_cons_of_mem a hc)
  | case3 seen a rest ha ih =>
    have ha' : ¬ seen'.contains a = true := fun hmem =>
      ha (List.contains_iff_mem.2
        ((hseen a List.mem_cons_self a .refl).2 (List.contains_iff_mem.1 hmem)))
    conv => rhs; rw [visit, if_neg ha']
    congr 1
    refine ih fun c hc b hb => ?_
    -- whatever is reached from the new waiting types was within reach before
    have hb' : b ∈ seen ↔ b ∈ seen' := by
      rcases Strategy.mem_add.1 hc with hdirect | hrest
      · exact hseen a List.mem_cons_self b (.head hdirect hb)
      · exact hseen c (List.mem_cons_of_mem a hrest) b hb
    rw [List.mem_cons, List.mem_cons, hb']

end Hierarchy

namespace CompilationUnit

variable {u : CompilationUnit} {type name : String}

/-- The field of a type that does not inherit from itself is its own one, or else an inherited one. -/
theorem fieldOf_eq (h : u.hierarchy.Acyclic) :
    u.fieldOf type name = (u.ownField type name).or (u.inheritedField type name) := by
  have hvisit : u.hierarchy.visit .depthFirst [type] (u.supertypes type) =
      u.hierarchy.visit .depthFirst [] (u.supertypes type) := by
    refine Hierarchy.visit_congr_seen fun a ha b hb => ?_
    have hne : b ≠ type := by
      rintro rfl
      exact h b (.head' ha hb)
    simp [hne]
  unfold fieldOf inheritedField
  rw [Hierarchy.visit, if_neg (by simp)]
  have hdirect : Strategy.add (u.hierarchy.direct type) [] .depthFirst = u.supertypes type :=
    List.append_nil _
  rw [hdirect, hvisit, List.findSome?_cons]
  cases u.ownField type name with
  | some s => rfl
  | none => rfl

end CompilationUnit

end JavaAudit
