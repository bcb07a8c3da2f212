import Mathlib.Data.List.TakeDrop
import JavaAudit.Proofs.MemberLookup
import JavaAudit.Proofs.TypeErasure

/-!
# The names of declared types

One walk over the tree enters every type declaration that has a name into three tables: its qualified name
by its key, the declaration by its qualified name, where a later entry replaces an earlier one, and the
qualified name by its simple name, where the first entry stays. `fullName` says what the qualified name of
a declaration is, from the names that are met on the way from the root down to it.

Each table is equated with a search through the walk: for the simple names this is done here
(`get?_simpleNames`), for the other two it is known. So the three agree with each other and with
`fullName`, however declarations are nested and whatever names they share
(`declared_types_keep_their_names`).
-/

namespace JavaAudit

/-! ## Names on the way down -/

namespace SyntaxTree

variable {t : SyntaxTree} {n p : Nat}

/-- A type declaration below the root. -/
structure IsTypeDeclaration (t : SyntaxTree) (n : NodeId) : Prop where
  below : root ∈ t.ancestors n
  named : t.isNamed n = true
  type : t.isA n typeDeclarationTypes = true

/-- A node belongs to a declaration: it is inside it, and neither is it itself a type declaration nor is
it inside a further one. -/
structure BelongsTo (t : SyntaxTree) (decl n : NodeId) : Prop where
  inside : decl ∈ t.ancestors n
  plain : t.isA n typeDeclarationTypes = false
  nearest : ∀ a ∈ t.ancestors n, decl ∈ t.ancestors a → t.isA a typeDeclarationTypes = false

/-- The name that a node adds to the names of what is inside it. -/
def ownName (t : SyntaxTree) (n : NodeId) : List String :=
  if t.isA n typeDeclarationTypes then ((t.fieldText? n "name").filter (· ≠ "")).toList else []

/-- The names of the type declarations around a node, from the outside in. A declaration without a name,
or with an empty one, is passed over. -/
def namesAround (t : SyntaxTree) (n : NodeId) : List String :=
  match _h : t.parent? n with
  | none => []
  | some p => namesAround t p ++ t.ownName p
termination_by n
decreasing_by exact lt_of_parent? _h

theorem namesAround_of_parent?_eq_none (h : t.parent? n = none) : t.namesAround n = [] := by
  rw [namesAround]
  split
  · rfl
  · next q hq => rw [h] at hq; cases hq

theorem namesAround_of_parent? (h : t.parent? n = some p) :
    t.namesAround n = t.namesAround p ++ t.ownName p := by
  rw [namesAround]
  split
  · next hq => rw [h] at hq; cases hq
  · next q hq =>
    rw [h] at hq
    cases hq
    rfl

/-- The names of the enclosing declarations are the same, read from the node upwards or from the root
downwards. -/
theorem outerNames_eq (t : SyntaxTree) (n : NodeId) : TypeTable.outerNames t n = t.namesAround n := by
  induction n using climb_induction (t := t) with
  | root n hn =>
    rw [namesAround_of_parent?_eq_none hn, TypeTable.outerNames, ancestors_of_parent?_eq_none hn]
    rfl
  | step n p hp ih =>
    rw [namesAround_of_parent? hp, ← ih]
    unfold TypeTable.outerNames ownName
    rw [ancestors_of_parent? hp]
    dsimp only
    by_cases hdecl : t.isA p typeDeclarationTypes = true
    · rw [List.filter_cons, if_pos hdecl, if_pos hdecl, List.reverse_cons, List.map_append,
        List.filter_append]
      congr 1
      simp only [List.map_cons, List.map_nil]
      cases t.fieldText? p "name" with
      | none => rfl
      | some name => by_cases hname : name = "" <;> simp [Option.filter, hname]
    · rw [List.filter_cons, if_neg hdecl, if_neg hdecl, List.append_nil]

end SyntaxTree

namespace CompilationUnit

open SyntaxTree

variable {u : CompilationUnit} {n decl : Nat} {name type : String}

/-- The qualified name of a declaration with this name: the package, if there is one, the names around the
declaration, and its own. -/
def fullName (u : CompilationUnit) (n : NodeId) (name : String) : String :=
  let package := if u.header.package = "" then [] else [u.header.package]
  ".".intercalate (package ++ u.tree.namesAround n ++ [name])

theorem qualifiedName_eq (u : CompilationUnit) (n : NodeId) (name : String) :
    TypeTable.qualifiedName u.tree u.header.package n name = u.fullName n name := by
  rw [TypeTable.qualifiedName, outerNames_eq]
  rfl

/-! ## The name of a declaration -/

/-- The walk for declarations comes past all of them. -/
theorem mem_walk_iff (habove : u.tree.NamedAbove) :
    n ∈ u.tree.descendantsOfType root typeDeclarationTypes ↔ u.tree.IsTypeDeclaration n := by
  unfold descendantsOfType
  rw [List.mem_filter, mem_descendants_iff habove]
  constructor
  · rintro ⟨⟨hnamed, hbelow⟩, htype⟩
    exact ⟨hbelow, hnamed, htype⟩
  · rintro ⟨hbelow, hnamed, htype⟩
    exact ⟨⟨hnamed, hbelow⟩, htype⟩

/-- A declaration declares the type with its full name. -/
theorem declares_iff (habove : u.tree.NamedAbove) :
    u.Declares n type ↔ u.tree.IsTypeDeclaration n ∧
      ∃ name, u.tree.fieldText? n "name" = some name ∧ u.fullName n name = type := by
  unfold Declares
  rw [mem_walk_iff habove]
  simp only [qualifiedName_eq]

/-- A declaration is itself the type around its header. -/
theorem enclosingType_of_isA (h : u.tree.isA n typeDeclarationTypes = true) :
    u.enclosingType n = u.declaredName? n := by
  unfold enclosingType
  rw [List.find?_cons, h]
  rfl

/-- The type around a declaration is the one that it declares. -/
theorem enclosingType_eq_some_iff (hkeys : u.tree.DistinctKeys)
    (htype : u.tree.isA n typeDeclarationTypes = true) (hn : n < u.tree.size) :
    u.enclosingType n = some type ↔ u.Declares n type := by
  rw [enclosingType_of_isA htype, declaredName?_eq_some_iff hkeys hn]

/-- What belongs to a declaration has the same type around it. -/
theorem enclosingType_of_belongsTo (htype : u.tree.isA decl typeDeclarationTypes = true)
    (h : u.tree.BelongsTo decl n) : u.enclosingType n = u.enclosingType decl := by
  obtain ⟨inner, hsplit⟩ := ancestors_eq_append h.inside
  have hinner : ∀ a ∈ n :: inner, ¬ u.tree.isA a typeDeclarationTypes = true := by
    intro a ha
    rcases List.mem_cons.1 ha with rfl | ha
    · exact Bool.eq_false_iff.1 h.plain
    · have hmem : a ∈ u.tree.ancestors n := by
        rw [hsplit]
        exact List.mem_append_left _ ha
      exact Bool.eq_false_iff.1 (h.nearest a hmem (mem_ancestors_of_append hsplit ha))
  -- the search goes past everything in front of the declaration
  have hfind : (n :: u.tree.ancestors n).find? (fun a => u.tree.isA a typeDeclarationTypes) = some decl := by
    rw [hsplit, ← List.cons_append, List.find?_append, List.find?_eq_none.2 hinner, Option.none_or,
      List.find?_cons, htype]
  rw [enclosingType_of_isA htype]
  unfold enclosingType
  rw [hfind]
  rfl

/-! ## The last declaration of a qualified name -/

/-- A declaration is found under a name exactly if it is the last one in the walk that declares it. -/
theorem declaration?_eq_some_iff_last :
    u.declaration? type = some n ↔ u.Declares n type ∧
      ∃ before after, u.tree.descendantsOfType root typeDeclarationTypes = before ++ n :: after ∧
        ∀ m ∈ after, ¬ u.Declares m type := by
  unfold declaration?
  rw [u.types_eq, TypeTable.declarations_collect, Table.get?_ofEntries_eq_some_iff_last]
  constructor
  · rintro ⟨earlier, later, hentries, hlater⟩
    have hmem : (type, n) ∈ TypeTable.entries u.tree u.header.package := by
      rw [hentries]
      exact List.mem_append_right earlier List.mem_cons_self
    refine ⟨mem_entries_iff.1 hmem, ?_⟩
    -- the entries come from the walk in order, so a split of them is one of the walk
    obtain ⟨before, rest, hwalk, -, hrest⟩ := List.filterMap_eq_append_iff.1 hentries
    obtain ⟨skipped, m, after, rfl, -, hm, hafter⟩ := List.filterMap_eq_cons_iff.1 hrest
    obtain ⟨name, -, heq⟩ := Option.map_eq_some_iff.1 hm
    obtain rfl := (Prod.mk.inj heq).2
    refine ⟨before ++ skipped, after, by rw [hwalk, List.append_assoc], fun k hk hdecl => ?_⟩
    obtain ⟨-, name', hname', htype⟩ := hdecl
    refine hlater (type, k) ?_ rfl
    rw [← hafter]
    exact List.mem_filterMap.2 ⟨k, hk, by rw [hname', Option.map_some, htype]⟩
  · rintro ⟨⟨-, name, hname, htype⟩, before, after, hwalk, hafter⟩
    unfold TypeTable.entries
    rw [hwalk, List.filterMap_append, List.filterMap_cons, hname]
    dsimp only [Option.map_some]
    rw [htype]
    refine ⟨_, _, rfl, ?_⟩
    rintro ⟨other, k⟩ he rfl
    obtain ⟨m, hm, hentry⟩ := List.mem_filterMap.1 he
    obtain ⟨name', hname', heq⟩ := Option.map_eq_some_iff.1 hentry
    have hmem : m ∈ u.tree.descendantsOfType root typeDeclarationTypes := by
      rw [hwalk]
      exact List.mem_append_right before (List.mem_cons_of_mem n hm)
    exact hafter m hm ⟨hmem, name', hname', (Prod.mk.inj heq).1⟩

/-! ## The first declaration of a simple name -/

/-- The first declaration of a simple name counts, from any table on. -/
theorem get?_simpleNames_foldl (t : SyntaxTree) (package : String) (nodes : List NodeId)
    (types : TypeTable) :
    Table.get? name (nodes.foldl (TypeTable.add t package) types).simpleNames =
      (Table.get? name types.simpleNames).or
        ((nodes.find? fun n => t.fieldText? n "name" = some name).map fun n =>
          TypeTable.qualifiedName t package n name) := by
  induction nodes generalizing types with
  | nil => exact Option.or_none.symm
  | cons n rest ih =>
    rw [List.foldl_cons, ih, List.find?_cons]
    cases hname : t.fieldText? n "name" with
    | none =>
      have hadd : TypeTable.add t package types n = types := by rw [TypeTable.add, hname]
      rw [hadd]
      rfl
    | some own =>
      have hadd : (TypeTable.add t package types n).simpleNames =
          Table.putNew own (TypeTable.qualifiedName t package n own) types.simpleNames := by
        rw [TypeTable.add, hname]
      rw [hadd, Table.get?_putNew]
      -- a name that was entered before keeps its entry, and a new one takes that of this declaration
      by_cases hown : own = name
      · subst hown
        simp
      · simp [hown]

/-- A simple name stands for the first declaration in the walk that bears it. -/
theorem get?_simpleNames (u : CompilationUnit) (name : String) :
    Table.get? name u.types.simpleNames =
      ((u.tree.descendantsOfType root typeDeclarationTypes).find? fun n =>
        u.tree.fieldText? n "name" = some name).map fun n => u.fullName n name := by
  rw [u.types_eq]
  unfold TypeTable.collect
  rw [get?_simpleNames_foldl]
  simp only [qualifiedName_eq]
  rfl

/-! ## Names in the source -/

theorem cutFirst_of_not_mem {sep : Char} {s : String} (h : sep ∉ s.toList) :
    Text.cutFirst sep s = (s, none) := by
  have hall : ∀ c ∈ s.toList, decide (c ≠ sep) = true := by
    intro c hc
    exact decide_eq_true fun heq => h (heq ▸ hc)
  rw [Text.cutFirst, List.span_eq_takeWhile_dropWhile, List.takeWhile_eq_self_iff.2 hall,
    List.dropWhile_eq_nil_iff.2 hall]
  show (String.ofList s.toList, none) = (s, none)
  rw [String.ofList_toList]

theorem cutFirst_append {sep : Char} {front rest : List Char} (h : sep ∉ front) :
    Text.cutFirst sep (String.ofList (front ++ sep :: rest)) = (String.ofList front, some (String.ofList rest)) := by
  have hall : ∀ c ∈ front, decide (c ≠ sep) = true := by
    intro c hc
    exact decide_eq_true fun heq => h (heq ▸ hc)
  rw [Text.cutFirst, String.toList_ofList, List.span_eq_takeWhile_dropWhile, List.takeWhile_append_of_pos hall,
    List.dropWhile_append_of_pos hall]
  simp

/-- A single name means what it stands for in the tables. -/
theorem qualify_of_isIdentifier (hname : TypeName.IsIdentifier name.toList) (hvar : name ≠ "var")
    (hprimitive : name ∉ Catalogue.primitiveTypes) : u.qualify name = u.qualifySimple name := by
  have hdot : '.' ∉ name.toList := fun hmem => (hname.plain '.' hmem).2 (by decide)
  have hne : name ≠ "" := by
    rintro rfl
    exact hname.ne_nil rfl
  unfold qualify
  rw [TypeName.erase_of_isIdentifier hname]
  dsimp only
  rw [if_neg (by simp [hne, hvar]), if_neg (by simpa using hprimitive), cutFirst_of_not_mem hdot]

/-- A dotted name is the full name of a type if its first part is in lower case and is no type itself. -/
theorem qualify_of_dotted {head next : String} {names : List String}
    (hnames : ∀ name ∈ head :: next :: names, TypeName.IsIdentifier name.toList)
    (hhead : u.qualifySimple head = none) (hlower : Text.startsLower head = true) :
    u.qualify (".".intercalate (head :: next :: names)) = some (".".intercalate (head :: next :: names)) := by
  have hdot : '.' ∉ head.toList := fun hmem => ((hnames head List.mem_cons_self).plain '.' hmem).2 (by decide)
  have herase := TypeName.erase_intercalate (List.cons_ne_nil head (next :: names)) hnames
  obtain ⟨rest, hrest⟩ : ∃ rest : List Char, ".".intercalate (head :: next :: names) =
      String.ofList (head.toList ++ '.' :: rest) := by
    refine ⟨['.'].intercalate ((next :: names).map String.toList), String.toList_injective ?_⟩
    rw [String.toList_intercalate, List.map_cons, List.map_cons, List.intercalate_cons_cons, List.append_assoc]
    exact String.toList_ofList.symm
  generalize hname : ".".intercalate (head :: next :: names) = name at herase hrest ⊢
  -- the names that are not looked up have no dot
  have hplain : ∀ other ∈ "" :: "var" :: Catalogue.primitiveTypes, name ≠ other := by
    have hnone : ∀ other ∈ "" :: "var" :: Catalogue.primitiveTypes, '.' ∉ other.toList := by decide
    rintro other hother rfl
    refine hnone name hother ?_
    rw [hrest, String.toList_ofList]
    exact List.mem_append_right _ List.mem_cons_self
  have hprimitive : name ∉ Catalogue.primitiveTypes := fun hmem =>
    hplain name (List.mem_cons_of_mem _ (List.mem_cons_of_mem _ hmem)) rfl
  unfold qualify
  rw [herase]
  dsimp only
  rw [if_neg (by simp [hplain "" (by simp), hplain "var" (by simp)]), if_neg (by simpa using hprimitive)]
  have hcut : Text.cutFirst '.' name = (head, some (String.ofList rest)) := by
    rw [hrest, cutFirst_append hdot, String.ofList_toList]
  rw [hcut]
  dsimp only
  rw [hhead, Option.filter_none]
  exact if_pos hlower

/-- A name that some declaration bears means the first of them, whatever is imported. -/
theorem qualify_of_declared (hname : TypeName.IsIdentifier name.toList) (hvar : name ≠ "var")
    (hprimitive : name ∉ Catalogue.primitiveTypes) {qualified : String}
    (h : Table.get? name u.types.simpleNames = some qualified) : u.qualify name = some qualified := by
  rw [qualify_of_isIdentifier hname hvar hprimitive, qualifySimple, h]

/-- The tables of declared types agree. The walk comes to every declaration. The type around a declaration
with a name is its full name, and so is the type around everything that belongs to it. A declaration that is
found under a qualified name has that name, and no later one has it. A simple name that a declaration bears
stands for the full name of the first declaration that bears it, which is a name under which a declaration
is found. -/
theorem declared_types_keep_their_names (hkeys : u.tree.DistinctKeys) (habove : u.tree.NamedAbove) :
    let walk := u.tree.descendantsOfType root typeDeclarationTypes
    (∀ n, n ∈ walk ↔ u.tree.IsTypeDeclaration n) ∧
    (∀ n name, u.tree.IsTypeDeclaration n → u.tree.fieldText? n "name" = some name →
      u.enclosingType n = some (u.fullName n name) ∧
        ∀ m, u.tree.BelongsTo n m → u.enclosingType m = u.enclosingType n) ∧
    (∀ type n, u.declaration? type = some n →
      u.enclosingType n = some type ∧
        ∃ before after, walk = before ++ n :: after ∧ ∀ m ∈ after, u.enclosingType m ≠ some type) ∧
    (∀ name, TypeName.IsIdentifier name.toList → name ≠ "var" → name ∉ Catalogue.primitiveTypes →
      (∃ n, u.tree.IsTypeDeclaration n ∧ u.tree.fieldText? n "name" = some name) →
        ∃ n before after, walk = before ++ n :: after ∧ u.tree.fieldText? n "name" = some name ∧
          (∀ m ∈ before, u.tree.fieldText? m "name" ≠ some name) ∧
          u.qualify name = some (u.fullName n name) ∧
          u.fullName n name ∈ Table.keys u.types.declarations) := by
  intro walk
  have hwalk : ∀ {n}, n ∈ walk → ∀ type, u.enclosingType n = some type ↔ u.Declares n type := by
    intro n hn type
    have hdecl := (mem_walk_iff habove).1 hn
    exact enclosingType_eq_some_iff hkeys hdecl.type (lt_size_of_mem_ancestors hdecl.below)
  refine ⟨fun n => mem_walk_iff habove, ?_, ?_, ?_⟩
  · intro n name hdecl hname
    refine ⟨(hwalk ((mem_walk_iff habove).2 hdecl) _).2 ?_, fun m hm => ?_⟩
    · exact (declares_iff habove).2 ⟨hdecl, name, hname, rfl⟩
    · exact enclosingType_of_belongsTo hdecl.type hm
  · intro type n hn
    obtain ⟨hdecl, before, after, hsplit, hafter⟩ := declaration?_eq_some_iff_last.1 hn
    refine ⟨(hwalk hdecl.1 type).2 hdecl, before, after, hsplit, fun m hm htype => ?_⟩
    have hmem : m ∈ walk := by
      rw [show walk = before ++ n :: after from hsplit]
      exact List.mem_append_right before (List.mem_cons_of_mem n hm)
    exact hafter m hm ((hwalk hmem type).1 htype)
  · rintro name hidentifier hvar hprimitive ⟨m, hm, hmname⟩
    -- the walk comes to a declaration with the name, so there is a first one
    have hsome : (walk.find? fun n => u.tree.fieldText? n "name" = some name).isSome = true :=
      List.find?_isSome.2 ⟨m, (mem_walk_iff habove).2 hm, by simp [hmname]⟩
    obtain ⟨n, hn⟩ := Option.isSome_iff_exists.1 hsome
    obtain ⟨hname, before, after, hsplit, hbefore⟩ := List.find?_eq_some_iff_append.1 hn
    rw [decide_eq_true_eq] at hname
    have hqualified : Table.get? name u.types.simpleNames = some (u.fullName n name) := by
      rw [get?_simpleNames, show _ = some n from hn]
      rfl
    refine ⟨n, before, after, hsplit, hname, fun k hk => by simpa using hbefore k hk,
      qualify_of_declared hidentifier hvar hprimitive hqualified, ?_⟩
    have hdecl : u.Declares n (u.fullName n name) :=
      (declares_iff habove).2 ⟨(mem_walk_iff habove).1 (List.mem_of_find?_eq_some hn), name, hname, rfl⟩
    obtain ⟨last, hlast⟩ := hdecl.exists_declaration?
    exact Table.mem_keys_of_get? hlast

/-- Two classes with one name in a package. The second one has a method with a class of its own. -/
def sharedName : CompilationUnit :=
  .ofTree "A.java" (.ofNodes "package p;class A\x7b\x7dclass A\x7bvoid f()\x7bclass B\x7b\x7d\x7d\x7d" #[
    ⟨none, "program", true, false, 0, 47, none⟩,
    ⟨some 0, "package_declaration", true, false, 0, 10, none⟩,
    ⟨some 1, "package", false, false, 0, 7, none⟩,
    ⟨some 1, "identifier", true, false, 8, 9, none⟩,
    ⟨some 1, ";", false, false, 9, 10, none⟩,
    ⟨some 0, "class_declaration", true, false, 10, 19, none⟩,
    ⟨some 5, "class", false, false, 10, 15, none⟩,
    ⟨some 5, "identifier", true, false, 16, 17, some "name"⟩,
    ⟨some 5, "class_body", true, false, 17, 19, some "body"⟩,
    ⟨some 8, "\x7b", false, false, 17, 18, none⟩,
    ⟨some 8, "\x7d", false, false, 18, 19, none⟩,
    ⟨some 0, "class_declaration", true, false, 19, 47, none⟩,
    ⟨some 11, "class", false, false, 19, 24, none⟩,
    ⟨some 11, "identifier", true, false, 25, 26, some "name"⟩,
    ⟨some 11, "class_body", true, false, 26, 47, some "body"⟩,
    ⟨some 14, "\x7b", false, false, 26, 27, none⟩,
    ⟨some 14, "method_declaration", true, false, 27, 46, none⟩,
    ⟨some 16, "void_type", true, false, 27, 31, some "type"⟩,
    ⟨some 16, "identifier", true, false, 32, 33, some "name"⟩,
    ⟨some 16, "formal_parameters", true, false, 33, 35, some "parameters"⟩,
    ⟨some 19, "(", false, false, 33, 34, none⟩,
    ⟨some 19, ")", false, false, 34, 35, none⟩,
    ⟨some 16, "block", true, false, 35, 46, some "body"⟩,
    ⟨some 22, "\x7b", false, false, 35, 36, none⟩,
    ⟨some 22, "class_declaration", true, false, 36, 45, none⟩,
    ⟨some 24, "class", false, false, 36, 41, none⟩,
    ⟨some 24, "identifier", true, false, 42, 43, some "name"⟩,
    ⟨some 24, "class_body", true, false, 43, 45, some "body"⟩,
    ⟨some 27, "\x7b", false, false, 43, 44, none⟩,
    ⟨some 27, "\x7d", false, false, 44, 45, none⟩,
    ⟨some 22, "\x7d", false, false, 45, 46, none⟩,
    ⟨some 14, "\x7d", false, false, 46, 47, none⟩])

/-- The full name means the second of the two classes, whose method holds a class named after it. The simple
name is qualified by the first declaration of it. -/
theorem names_of_sharedName :
    let u := sharedName
    u.tree.DistinctKeys ∧ u.tree.NamedAbove ∧
      u.enclosingType 24 = some (u.fullName 24 "B") ∧ u.enclosingType 22 = some (u.fullName 11 "A") ∧
      (u.declaration? "p.A" = some 11 ∧ u.enclosingType 11 = some "p.A") ∧
      ∃ n before after, u.tree.descendantsOfType root typeDeclarationTypes = before ++ n :: after ∧
        (∀ m ∈ before, u.tree.fieldText? m "name" ≠ some "A") ∧
        u.qualify "A" = some (u.fullName n "A") := by
  intro u
  have hkeys : u.tree.DistinctKeys := .of_nodup (by decide)
  obtain ⟨habove, htypes, ⟨hnameA, hnameB, hdecl⟩, hinside, hplain, hnearest⟩ : u.tree.NamedAbove ∧
      (∀ n ∈ [11, 24], root ∈ u.tree.ancestors n ∧ u.tree.isNamed n = true ∧
        u.tree.isA n typeDeclarationTypes = true) ∧
      (u.tree.fieldText? 11 "name" = some "A" ∧ u.tree.fieldText? 24 "name" = some "B" ∧
        u.declaration? "p.A" = some 11) ∧
      11 ∈ u.tree.ancestors 22 ∧ u.tree.isA 22 typeDeclarationTypes = false ∧ ∀ a ∈ u.tree.ancestors 22,
        11 ∈ u.tree.ancestors a → u.tree.isA a typeDeclarationTypes = false := by
    unfold NamedAbove
    decide +kernel
  obtain ⟨-, hnamed, hlast, hfirst⟩ := declared_types_keep_their_names hkeys habove
  have htype : ∀ n ∈ [11, 24], u.tree.IsTypeDeclaration n := fun n hn =>
    ⟨(htypes n hn).1, (htypes n hn).2.1, (htypes n hn).2.2⟩
  have hA := htype 11 (by decide)
  have hB := htype 24 (by decide)
  have hbody : u.tree.BelongsTo 11 22 := ⟨hinside, hplain, hnearest⟩
  have hidentifier : TypeName.IsIdentifier "A".toList := by decide
  obtain ⟨hencloses, hsame⟩ := hnamed 11 "A" hA hnameA
  obtain ⟨n, before, after, hsplit, -, hbefore, hqualify, -⟩ :=
    hfirst "A" hidentifier (by decide) (by decide) ⟨11, hA, hnameA⟩
  exact ⟨hkeys, habove, (hnamed 24 "B" hB hnameB).1, (hsame 22 hbody).trans hencloses,
    ⟨hdecl, (hlast "p.A" 11 hdecl).1⟩, n, before, after, hsplit, hbefore, hqualify⟩

end CompilationUnit

end JavaAudit
