import Mathlib.Data.List.Chain
import Mathlib.Data.List.Perm.Subperm
import JavaAudit.Proofs.Bindings

/-!
# Searching for a field with limited room

The search for an inherited field calls itself for every type on the way. Where it comes to an end, it has found
what the list of all supertypes, depth first, has first: a search that has gone through some types leaves the rest
of the list for later (`findSome?_visit_of_searchEach`, `findSome?_visit_of_fieldWithin`).

It comes to an end if there is room for every type on its way. The types that are being searched form a chain in
which none occurs twice, since a type that was seen is not searched again, so the longest such chain tells the room
that is enough (`ChainsWithin`). Names are looked up in enclosing nodes one after another, and only type bodies start
such a search, so the same room is enough for them.
-/

namespace JavaAudit.CompilationUnit

variable {u : CompilationUnit} {name : String} {room : Nat} {found : Option Symbol}
  {seen seen' : List String} {type : String}

/-! ## What a search finds -/

section Found

variable {search : List String → String → Option (Option Symbol × List String)}

/-- Types that are searched one after another are found first in the list, if each of them is. -/
theorem findSome?_visit_of_searchEach
    (hsearch : ∀ {seen type found seen'}, search seen type = some (found, seen') → ∀ rest,
      (type :: u.hierarchy.visit .depthFirst seen (u.supertypes type ++ rest)).findSome?
          (u.ownField · name) =
        found.or ((u.hierarchy.visit .depthFirst seen' rest).findSome? (u.ownField · name)))
    {types : List String} (h : searchEach search seen types = some (found, seen')) (rest : List String) :
    (u.hierarchy.visit .depthFirst seen (types ++ rest)).findSome? (u.ownField · name) =
      found.or ((u.hierarchy.visit .depthFirst seen' rest).findSome? (u.ownField · name)) := by
  induction types generalizing seen with
  | nil =>
    cases h
    rfl
  | cons a types ih =>
    rw [searchEach] at h
    rw [List.cons_append, Hierarchy.visit]
    by_cases ha : seen.contains a = true
    · rw [if_pos ha] at h ⊢
      exact ih h
    · rw [if_neg ha] at h ⊢
      -- the visit goes through the supertypes of `a` before the rest, as the search does
      have hfirst := @hsearch (a :: seen) a
      split at h
      · cases h
      · next first seen₁ hone =>
        cases h
        exact (hfirst hone (types ++ rest)).trans rfl
      · next seen₁ hone =>
        exact (hfirst hone (types ++ rest)).trans (ih h)

end Found

/-- A search that does not give up finds what the visit of the type and then of the rest would, if it goes on
from the types seen. -/
theorem findSome?_visit_of_fieldWithin (h : u.fieldWithin name room seen type = some (found, seen'))
    (rest : List String) :
    (type :: u.hierarchy.visit .depthFirst seen (u.supertypes type ++ rest)).findSome?
        (u.ownField · name) =
      found.or ((u.hierarchy.visit .depthFirst seen' rest).findSome? (u.ownField · name)) := by
  induction room generalizing seen type found seen' rest with
  | zero => cases h
  | succ room ih =>
    rw [fieldWithin] at h
    split at h
    · next own hown =>
      cases h
      simp [hown]
    · next hown =>
      rw [List.findSome?_cons, hown]
      exact findSome?_visit_of_searchEach (fun h => ih h) h rest

/-- Where the search for a field comes to an end, it finds the field of the type. -/
theorem eq_fieldOf_of_fieldWithin (h : u.fieldWithin name room [type] type = some (found, seen')) :
    found = u.fieldOf type name := by
  have hall := findSome?_visit_of_fieldWithin h []
  rw [Hierarchy.visit, List.findSome?_nil, Option.or_none] at hall
  rw [← hall, fieldOf, Hierarchy.visit, if_neg (by simp)]
  rfl

/-- Started at the supertypes, the search that does not give up finds the inherited field. -/
theorem eq_inheritedField_of_searchEach
    (h : searchEach (u.fieldWithin name room) [] (u.supertypes type) = some (found, seen')) :
    found = u.inheritedField type name := by
  have hall := findSome?_visit_of_searchEach (fun h => findSome?_visit_of_fieldWithin h) h []
  rw [List.append_nil, Hierarchy.visit, List.findSome?_nil, Option.or_none] at hall
  exact hall.symm

/-! ## How much room is enough -/

/-- No chain of types in which each is a direct supertype of the next, and none occurs twice, is longer. -/
def ChainsWithin (u : CompilationUnit) (length : Nat) : Prop :=
  ∀ chain : List String, chain.Nodup → chain.IsChain (fun a b => a ∈ u.supertypes b) →
    chain.length ≤ length

/-- All types of such a chain but the first are declared in the unit. -/
theorem chainsWithin_succ_declared (u : CompilationUnit) :
    u.ChainsWithin (u.hierarchy.declared.length + 1) := by
  intro chain hnodup hchain
  cases chain with
  | nil => exact Nat.zero_le _
  | cons a rest =>
    have hdeclared : ∀ b ∈ rest, b ∈ u.hierarchy.declared := by
      intro b hb
      by_contra hnot
      have hnone : u.supertypes b = [] := u.hierarchy.direct_eq_nil b hnot
      obtain ⟨before, after, rfl⟩ := List.append_of_mem hb
      obtain ⟨c, hc⟩ : ∃ c, c ∈ u.supertypes b := by
        rw [← List.cons_append, List.isChain_append] at hchain
        exact ⟨_, hchain.2.2 _ (List.getLast_mem_getLast? (List.cons_ne_nil a before)) b rfl⟩
      rw [hnone] at hc
      cases hc
    have hsub : rest.Subperm u.hierarchy.declared := (List.nodup_cons.1 hnodup).2.subperm hdeclared
    exact Nat.succ_le_succ hsub.length_le

section Room

variable {search : List String → String → Option (Option Symbol × List String)}

/-- What has been seen stays seen. -/
theorem subset_of_searchEach
    (hsearch : ∀ {seen type found seen'}, search seen type = some (found, seen') → seen ⊆ seen')
    {types : List String} (h : searchEach search seen types = some (found, seen')) : seen ⊆ seen' := by
  induction types generalizing seen with
  | nil =>
    cases h
    exact List.Subset.refl _
  | cons a types ih =>
    rw [searchEach] at h
    split at h
    · exact ih h
    · have hfirst := @hsearch (a :: seen) a
      split at h
      · cases h
      · next first seen₁ hone =>
        cases h
        exact List.Subset.trans (List.subset_cons_self a seen) (hfirst hone)
      · next seen₁ hone =>
        exact List.Subset.trans (List.Subset.trans (List.subset_cons_self a seen) (hfirst hone)) (ih h)

theorem subset_of_fieldWithin (h : u.fieldWithin name room seen type = some (found, seen')) :
    seen ⊆ seen' := by
  induction room generalizing seen type found seen' with
  | zero => cases h
  | succ room ih =>
    rw [fieldWithin] at h
    split at h
    · cases h
      exact List.Subset.refl seen
    · exact subset_of_searchEach (fun h => ih h) h

/-- Types are searched to the end if each of them is, once it has been seen. -/
theorem isSome_searchEach {types : List String} (path : List String)
    (hsubset : ∀ {seen type found seen'}, search seen type = some (found, seen') → seen ⊆ seen')
    (hsearch : ∀ a ∈ types, ∀ seen, path ⊆ seen → a ∉ seen → (search (a :: seen) a).isSome = true)
    (hpath : path ⊆ seen) : (searchEach search seen types).isSome = true := by
  induction types generalizing seen with
  | nil => rfl
  | cons a types ih =>
    have hrest : ∀ seen, path ⊆ seen → (searchEach search seen types).isSome = true := fun seen hseen =>
      ih (fun b hb => hsearch b (List.mem_cons_of_mem a hb)) hseen
    rw [searchEach]
    split
    · exact hrest seen hpath
    · next ha =>
      obtain ⟨⟨first, seen₁⟩, hone⟩ := Option.isSome_iff_exists.1
        (hsearch a List.mem_cons_self seen hpath (by simpa using ha))
      rw [hone]
      cases first with
      | some found => rfl
      | none =>
        have hseen : seen ⊆ seen₁ := List.Subset.trans (List.subset_cons_self a seen) (hsubset hone)
        exact hrest seen₁ (List.Subset.trans hpath hseen)

end Room

/-- The search from a type has enough room if the chain of the types that are being searched can be continued as far
as a chain can go. -/
theorem isSome_fieldWithin {length : Nat} (hlength : u.ChainsWithin length) {path : List String}
    (hnodup : (type :: path).Nodup) (hchain : (type :: path).IsChain (fun a b => a ∈ u.supertypes b))
    (hseen : type :: path ⊆ seen) (hroom : length ≤ path.length + room) :
    (u.fieldWithin name room seen type).isSome = true := by
  induction room generalizing seen type path with
  | zero =>
    have hle := hlength _ hnodup hchain
    rw [List.length_cons] at hle
    omega
  | succ room ih =>
    rw [fieldWithin]
    split
    · rfl
    · refine isSome_searchEach _ (fun h => subset_of_fieldWithin h) ?_ hseen
      intro a ha seen₁ hpath hnot
      -- the type that is searched next continues the chain
      refine ih (List.nodup_cons.2 ⟨fun hmem => hnot (hpath hmem), hnodup⟩)
        (List.isChain_cons_cons.2 ⟨ha, hchain⟩) (List.cons_subset_cons a hpath) ?_
      rw [List.length_cons]
      omega

/-- With room for the longest chain of supertypes, the search from a type does not give up. -/
theorem isSome_fieldWithin_self {length : Nat} (hlength : u.ChainsWithin length) (hroom : length ≤ room) :
    (u.fieldWithin name room [type] type).isSome = true :=
  isSome_fieldWithin hlength (by simp) (List.isChain_singleton type)
    (List.Subset.refl [type]) (by simpa using hroom)

theorem isSome_searchEach_supertypes {length : Nat} (hlength : u.ChainsWithin length)
    (hroom : length ≤ room) :
    (searchEach (u.fieldWithin name room) [] (u.supertypes type)).isSome = true := by
  refine isSome_searchEach [] (fun h => subset_of_fieldWithin h) ?_ (List.Subset.refl [])
  intro a _ seen _ _
  exact isSome_fieldWithin hlength (by simp) (List.isChain_singleton a)
    (List.cons_subset_cons a (List.nil_subset seen)) (by simpa using hroom)

/-! ## Lookups -/

section Lookups

variable {binding : NodeId → Option (Option Symbol)} {b : NodeId → Option Symbol}

/-- If each scope is searched rightly where the search does not give up, so are all scopes. -/
theorem eq_findSome?_of_firstBinding (hbinding : ∀ {scope found}, binding scope = some found → found = b scope)
    {scopes : List NodeId} (h : firstBinding binding scopes = some found) : found = scopes.findSome? b := by
  induction scopes with
  | nil =>
    cases h
    rfl
  | cons scope rest ih =>
    rw [firstBinding] at h
    rw [List.findSome?_cons]
    split at h
    · cases h
    · next hone =>
      cases h
      rw [← hbinding hone]
    · next hone =>
      rw [← hbinding hone]
      exact ih h

theorem isSome_firstBinding (hbinding : ∀ scope, (binding scope).isSome = true) (scopes : List NodeId) :
    (firstBinding binding scopes).isSome = true := by
  induction scopes with
  | nil => rfl
  | cons scope rest ih =>
    obtain ⟨first, hone⟩ := Option.isSome_iff_exists.1 (hbinding scope)
    rw [firstBinding, hone]
    cases first with
    | some found => rfl
    | none => exact ih

end Lookups

variable {position n scope : Nat}

/-- A scope that is not given up binds what it is meant to bind. -/
theorem eq_binding?_of_bindingWithin (h : u.bindingWithin room position name scope = some found) :
    found = u.binding? scope position name := by
  unfold bindingWithin at h
  split at h
  · next hbody =>
    rw [Bool.and_eq_true] at hbody
    have hown : u.fieldInBody scope name = none := Option.isNone_iff_eq_none.1 hbody.2
    rw [binding?_of_isA_typeBodyTypes hbody.1, bodyBinding, hown, Option.none_or]
    split at h
    · next howner =>
      cases h
      rw [howner]
      rfl
    · next owner howner =>
      obtain ⟨⟨result, seen⟩, hsearch, rfl⟩ := Option.map_eq_some_iff.1 h
      rw [howner]
      exact eq_inheritedField_of_searchEach hsearch
  · cases h
    rfl

theorem isSome_bindingWithin {length : Nat} (hlength : u.ChainsWithin length) (hroom : length ≤ room)
    (scope : NodeId) : (u.bindingWithin room position name scope).isSome = true := by
  unfold bindingWithin
  split
  · split
    · rfl
    · rw [Option.isSome_map]
      exact isSome_searchEach_supertypes hlength hroom
  · rfl

/-- Where a lookup comes to an end, it has the answer. -/
theorem eq_lookup_of_lookupWithin (h : u.lookupWithin room name n = some found) :
    found = u.lookup name n :=
  eq_findSome?_of_firstBinding (fun h => eq_binding?_of_bindingWithin h) h

/-- With room for the longest chain of supertypes, no lookup is given up. -/
theorem isSome_lookupWithin {length : Nat} (hlength : u.ChainsWithin length) (hroom : length ≤ room) :
    (u.lookupWithin room name n).isSome = true :=
  isSome_firstBinding (isSome_bindingWithin hlength hroom) _

end JavaAudit.CompilationUnit
