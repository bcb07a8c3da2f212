import JavaAudit.Proofs.DeepQuery

/-!
# How deep a query may lie

The search for an unsafe query gives up after a number of levels, and then it answers that the query is
safe. So an unsafe concatenation is reported only if some way to it has fewer levels, and it is certain to
be reported if no way of the search is longer than that (`query_reported_unless_too_deep`). In between,
nothing is reported: the concatenation itself is left to the call, however deep it lies.

A way goes through parentheses, branches and initialisers. It counts the branches and the initialisers, and
follows no declaration twice.
-/

namespace JavaAudit

namespace Rule.SqlInjection

open SyntaxTree

variable {u : CompilationUnit} {e n m c k depth : Nat} {seen followed : List (Nat × Nat × String)}

/-! ## Ways of the search -/

/-- A way from an expression to another one, with the number of its levels and the declarations that it
follows. -/
inductive Way (u : CompilationUnit) (e : NodeId) : Nat → List (Nat × Nat × String) → NodeId → Prop where
  | start : Way u e 0 [] e
  | paren {k : Nat} {followed : List (Nat × Nat × String)} {m c : NodeId} (way : Way u e k followed m)
      (hm : u.tree.isParen m = true) (hc : (u.tree.parts m).head? = some c) : Way u e k followed c
  | branch {k : Nat} {followed : List (Nat × Nat × String)} {m c : NodeId} (way : Way u e k followed m)
      (hm : u.tree.isConditional m = true)
      (hc : u.tree.field? m "consequence" = some c ∨ u.tree.field? m "alternative" = some c) :
      Way u e (k + 1) followed c
  | initializer {k : Nat} {followed : List (Nat × Nat × String)} {m c : NodeId} {s : Symbol}
      (way : Way u e k followed m) (hs : RefersTo u m s c) (hnew : u.tree.key s.declaration ∉ followed) :
      Way u e (k + 1) (u.tree.key s.declaration :: followed) c

theorem Way.unwrap (h : Way u e k followed n) (hn : u.tree.unwrap n = some m) : Way u e k followed m := by
  fun_induction SyntaxTree.unwrap u.tree n with
  | case1 => cases hn
  | case2 n hparen c hc ih => exact ih (h.paren (isParen_iff.2 hparen) hc) hn
  | case3 n => exact Option.some.inj hn ▸ h

/-- What the search finds lies on a way that it had levels for. -/
theorem way_of_unsafeQueryWithin (hway : Way u e k followed n) (hseen : followed ⊆ seen)
    (h : (unsafeQueryWithin u depth seen n).1 = true) :
    ∃ k' followed' b, k' < k + depth ∧ Way u e k' followed' b ∧ LooksUnsafe u b := by
  induction depth generalizing k followed seen n with
  | zero => cases h
  | succ depth ih =>
    -- one level is taken for a branch, and the list that a branch is searched with may have grown
    have hbranch : ∀ {m seen role}, Way u e k followed m → u.tree.isConditional m = true →
        (role = "consequence" ∨ role = "alternative") → followed ⊆ seen →
        (withinBranch u depth seen (u.tree.field? m role)).1 = true →
          ∃ k' followed' b, k' < k + (depth + 1) ∧ Way u e k' followed' b ∧ LooksUnsafe u b := by
      intro m seen role hway hm hrole hseen h
      cases hc : u.tree.field? m role with
      | none =>
        rw [hc] at h
        cases h
      | some c =>
        rw [hc] at h
        have hstep : Way u e (k + 1) followed c := by
          rcases hrole with rfl | rfl
          · exact hway.branch hm (.inl hc)
          · exact hway.branch hm (.inr hc)
        obtain ⟨k', followed', b, hlt, hfound⟩ := ih hstep hseen h
        exact ⟨k', followed', b, by omega, hfound⟩
    cases shape u.tree n with
    | empty hn =>
      rw [unsafeQueryWithin_of_empty hn] at h
      cases h
    | binary m hn hm =>
      rw [unsafeQueryWithin_of_binary hn hm] at h
      exact ⟨k, followed, m, by omega, hway.unwrap hn, hm, h⟩
    | conditional m hn hm =>
      rw [unsafeQueryWithin_of_conditional hn hm] at h
      split at h
      · exact hbranch (hway.unwrap hn) hm (.inl rfl) hseen h
      · have hgrown := subset_withinBranch (subset_unsafeQueryWithin u depth) seen
          (u.tree.field? m "consequence")
        exact hbranch (hway.unwrap hn) hm (.inr rfl) (List.Subset.trans hseen hgrown) h
    | reference m hn hm =>
      rcases followed_or_passed u m seen with ⟨s, c, hs, hnew⟩ | hpassed
      · rw [unsafeQueryWithin_of_refersTo hn hs hnew] at h
        have hstep := (hway.unwrap hn).initializer hs fun hmem => hnew (hseen hmem)
        obtain ⟨k', followed', b, hlt, hfound⟩ := ih hstep (List.cons_subset_cons _ hseen) h
        exact ⟨k', followed', b, by omega, hfound⟩
      · rw [unsafeQueryWithin_of_reference hn hm hpassed] at h
        cases h
    | other m hn hbinary hconditional hreference =>
      rw [unsafeQueryWithin_of_other hn hbinary hconditional hreference] at h
      cases h

/-- Every call that the search makes is on a way, and the levels of the way are those it has used up. -/
theorem exists_way_of_makes {last : Call}
    (h : Relation.ReflTransGen (Makes u) ⟨depth, [], e⟩ last) :
    ∃ k followed, Way u e k followed last.expr ∧ followed ⊆ last.seen ∧ k + last.depth = depth := by
  induction h with
  | refl => exact ⟨0, [], .start, List.Subset.refl _, Nat.zero_add depth⟩
  | tail _ hmakes ih =>
    obtain ⟨k, followed, hway, hseen, hdepth⟩ := ih
    have hlevel := (weight_lt_of_makes hmakes).1
    cases hmakes with
    | consequence hn hm hc =>
      exact ⟨k + 1, followed, (hway.unwrap hn).branch hm (.inl hc), hseen, by omega⟩
    | alternative hn hm hfirst hc =>
      refine ⟨k + 1, followed, (hway.unwrap hn).branch hm (.inr hc), List.Subset.trans hseen ?_, by omega⟩
      exact subset_withinBranch (subset_unsafeQueryWithin u _) _ _
    | initializer hn hs hnew =>
      exact ⟨k + 1, _, (hway.unwrap hn).initializer hs fun hmem => hnew (hseen hmem),
        List.cons_subset_cons _ hseen, by omega⟩

/-- A search is not cut off if it has more levels than any way. -/
theorem not_isCutOff_of_ways (h : ∀ k followed m, Way u e k followed m → k < depth) :
    ¬ IsCutOff u ⟨depth, [], e⟩ := by
  rintro ⟨last, hcalls, hzero, -⟩
  obtain ⟨k, followed, hway, -, hdepth⟩ := exists_way_of_makes hcalls
  have hlt := h k followed last.expr hway
  omega

/-! ## Reports at the call and at the concatenation -/

section Call

variable {call list : Nat} (hcall : u.tree.type call = "method_invocation")
  (hsink : u.isSink sinks call = true) (hlist : u.tree.field? call "arguments" = some list)
  (he : (u.tree.parts list).head? = some e)

include hcall hsink hlist he

/-- A call of a sink is reported exactly if its query is found unsafe. -/
theorem fires_call_eq : fires u call = isUnsafeQuery u e := by
  rw [fires_of_type_eq_method_invocation hcall, isUnsafeCall, arguments, hlist]
  dsimp only
  rw [he]
  dsimp only
  rw [hsink, Bool.true_and]

/-- A concatenation that may be the query is not reported by itself. -/
theorem fires_eq_false_of_mayYield (hkeys : u.tree.DistinctKeys)
    (hlisttype : u.tree.type list = "argument_list") {b : Nat} (hyield : MayYield u.tree e b)
    (hplus : u.tree.isPlus b = true) : fires u b = false := by
  have hquery : IsQueryOf u call b :=
    ⟨hcall, hsink, list, mem_children_of_parent? (parent?_of_field? hlist), hlisttype, e, he, hyield⟩
  rw [fires_of_isPlus hplus, isUnsafeConcatenation, isQueryArgument_of_isQueryOf hkeys hquery]
  exact Bool.and_false _

/-- A call with an unsafe query is reported only if the search has levels enough for some way to an unsafe
concatenation, and it is reported if the search has levels enough for all its ways. Whatever the depth, a
concatenation that may be the query is not reported by itself. The rule answers so wherever it does not run out
of room. -/
theorem query_reported_unless_too_deep (hkeys : u.tree.DistinctKeys)
    (hlisttype : u.tree.type list = "argument_list") :
    (fires u call = true →
      ∃ k followed b, k < classifierDepth ∧ Way u e k followed b ∧ LooksUnsafe u b) ∧
    ((∀ k followed m, Way u e k followed m → k < classifierDepth) →
      (∃ b, Reaches u e b ∧ LooksUnsafe u b) → fires u call = true) ∧
    (∀ b, MayYield u.tree e b → u.tree.isPlus b = true → fires u b = false) ∧
    sqlInjection.Answers u (fires u) := by
  refine ⟨fun hfires => ?_, fun hways hreached => ?_, fun b hyield hplus => ?_, answers_of_means (means u)⟩
  · rw [fires_call_eq hcall hsink hlist he] at hfires
    obtain ⟨k, followed, b, hlt, hway, hb⟩ :=
      way_of_unsafeQueryWithin .start (List.Subset.refl _) hfires
    exact ⟨k, followed, b, by omega, hway, hb⟩
  · obtain ⟨b, hreach, hb⟩ := hreached
    rw [fires_call_eq hcall hsink hlist he]
    by_contra hnot
    obtain ⟨hexhausted, hexplored⟩ := exhausted_of_unsafeQueryWithin hkeys (not_isCutOff_of_ways hways)
      (Bool.eq_false_iff.2 hnot)
    exact not_looksUnsafe_of_reaches hexplored hexhausted hreach hb
  · exact fires_eq_false_of_mayYield hcall hsink hlist he hkeys hlisttype hyield hplus

end Call

/-! ## Up to the last level and beyond -/

/-- The ways from the query lead to the conditionals, to their first branches and to the concatenation, and
none has more levels than there are conditionals. -/
theorem way_deepQuery {k levels : Nat} {followed : List (Nat × Nat × String)} {m : Nat}
    (h : Way (deepQuery k) 34 levels followed m) :
    levels ≤ k ∧ (m = 34 + 5 * levels ∨ ∃ i < k, levels = i + 1 ∧ m = 34 + 5 * i + 3) := by
  -- a way goes on only from a conditional, since nothing else on it is in parentheses or a reference
  have htypes : ∀ {levels m}, levels ≤ k →
      (m = 34 + 5 * levels ∨ ∃ i < k, levels = i + 1 ∧ m = 34 + 5 * i + 3) →
      levels < k ∧ m = 34 + 5 * levels ∧ (deepQuery k).tree.type m = "ternary_expression" ∨
        (deepQuery k).tree.type m ∈ ["binary_expression", "null_literal"] := by
    rintro levels m hle (rfl | ⟨i, hi, rfl, rfl⟩)
    · by_cases hlt : levels < k
      · exact .inl ⟨hlt, rfl, type_level hlt⟩
      · obtain rfl : levels = k := by omega
        rw [type_concatenation]
        exact .inr (by decide)
    · rw [type_conditional hi (by decide)]
      exact .inr (by decide)
  induction h with
  | start => exact ⟨Nat.zero_le k, .inl rfl⟩
  | paren _ hm _ ih =>
    have hparen := isParen_iff.1 hm
    rcases htypes ih.1 ih.2 with ⟨-, -, htype⟩ | htype
    · exact absurd (hparen.symm.trans htype) (by decide)
    · rw [hparen] at htype
      exact absurd htype (by decide)
  | branch _ hm hc ih =>
    rcases htypes ih.1 ih.2 with ⟨hlt, rfl, -⟩ | htype
    · rw [consequence_level hlt, alternative_level hlt] at hc
      refine ⟨hlt, ?_⟩
      rcases hc with hc | hc
      · exact .inr ⟨_, hlt, rfl, (Option.some.inj hc).symm⟩
      · exact .inl (Option.some.inj hc).symm
    · rw [beq_iff_eq.1 hm] at htype
      exact absurd htype (by decide)
  | initializer _ hs _ ih =>
    have hreference := hs.isReference
    rcases htypes ih.1 ih.2 with ⟨-, -, htype⟩ | htype
    · exact absurd htype (type_ne_of_isReference hreference).2
    · simp only [List.mem_cons, List.not_mem_nil, or_false] at htype
      rcases htype with htype | htype
      · exact absurd htype (type_ne_of_isReference hreference).1
      · rw [isA, htype] at hreference
        exact absurd hreference (by decide)

theorem reaches_of_mayYield (h : MayYield u.tree e n) : Reaches u e n := by
  induction h with
  | refl => exact .refl
  | paren he hc _ ih => exact .head (.paren he hc) ih
  | branch he hc _ ih => exact .head (.branch he hc) ih

/-- The concatenation is reached from the first argument of the call. -/
theorem reaches_concatenation (k : Nat) : Reaches (deepQuery k) 34 (34 + 5 * k) :=
  reaches_of_mayYield (mayYield_level (Nat.zero_le k))

theorem type_call (k : Nat) :
    (deepQuery k).tree.type 28 = "method_invocation" ∧ (deepQuery k).tree.type 32 = "argument_list" :=
  ⟨type_front k (by decide), type_front k (by decide)⟩

/-- The call is reported exactly if there are levels enough for the conditionals and for the
concatenation. -/
theorem fires_deepQuery (k : Nat) :
    fires (deepQuery k) 28 = decide (k < classifierDepth) ∧ fires (deepQuery k) (34 + 5 * k) = false := by
  obtain ⟨hcall, hlisttype⟩ := type_call k
  obtain ⟨hlist, he⟩ := arguments_call k
  constructor
  · rw [fires_call_eq hcall (isSink_call k) hlist he, isUnsafeQuery,
      unsafeQueryWithin_level (i := 0) (Nat.zero_le k) (concatenates_concatenation k), Nat.sub_zero]
  · exact fires_eq_false_of_mayYield hcall (isSink_call k) hlist he (distinctKeys_deepQuery k) hlisttype
      (mayYield_level (Nat.zero_le k)) (isPlus_concatenation k)

/-- With one conditional less than there are levels the call is reported. -/
theorem reported_behind_200_conditionals :
    let u := deepQuery 200
    u.tree.DistinctKeys ∧ u.tree.type 28 = "method_invocation" ∧ u.isSink sinks 28 = true ∧
      u.tree.field? 28 "arguments" = some 32 ∧ u.tree.type 32 = "argument_list" ∧
      (u.tree.parts 32).head? = some 34 ∧
      (∀ levels followed m, Way u 34 levels followed m → levels < classifierDepth) ∧
      (∃ b, Reaches u 34 b ∧ LooksUnsafe u b) ∧ fires u 28 = true := by
  -- the number is put in at the end, so that nothing is computed with it
  have hall : ∀ k, k < classifierDepth → (deepQuery k).tree.DistinctKeys ∧
      (deepQuery k).tree.type 28 = "method_invocation" ∧ (deepQuery k).isSink sinks 28 = true ∧
      (deepQuery k).tree.field? 28 "arguments" = some 32 ∧ (deepQuery k).tree.type 32 = "argument_list" ∧
      ((deepQuery k).tree.parts 32).head? = some 34 ∧
      (∀ levels followed m, Way (deepQuery k) 34 levels followed m → levels < classifierDepth) ∧
      (∃ b, Reaches (deepQuery k) 34 b ∧ LooksUnsafe (deepQuery k) b) ∧ fires (deepQuery k) 28 = true := by
    intro k hk
    obtain ⟨hcall, hlisttype⟩ := type_call k
    obtain ⟨hlist, he⟩ := arguments_call k
    have hways : ∀ levels followed m, Way (deepQuery k) 34 levels followed m → levels < classifierDepth :=
      fun levels followed m hway => Nat.lt_of_le_of_lt (way_deepQuery hway).1 hk
    have hreached : ∃ b, Reaches (deepQuery k) 34 b ∧ LooksUnsafe (deepQuery k) b :=
      ⟨_, reaches_concatenation k, looksUnsafe_concatenation k⟩
    obtain ⟨-, hreported, -⟩ := query_reported_unless_too_deep hcall (isSink_call k) hlist he
      (distinctKeys_deepQuery k) hlisttype
    exact ⟨distinctKeys_deepQuery k, hcall, isSink_call k, hlist, hlisttype, he, hways, hreached,
      hreported hways hreached⟩
  exact hall 200 (by decide)

/-- With one conditional more, an unsafe concatenation still reaches the call, but neither the call nor the
concatenation is reported. -/
theorem unreported_behind_201_conditionals :
    let u := deepQuery 201
    u.tree.DistinctKeys ∧ u.tree.type 28 = "method_invocation" ∧ u.isSink sinks 28 = true ∧
      u.tree.field? 28 "arguments" = some 32 ∧ (u.tree.parts 32).head? = some 34 ∧
      Reaches u 34 (34 + 5 * 201) ∧ LooksUnsafe u (34 + 5 * 201) ∧ fires u 28 = false ∧
      fires u (34 + 5 * 201) = false := by
  obtain ⟨hcall, hconcatenation⟩ := fires_deepQuery 201
  exact ⟨distinctKeys_deepQuery 201, (type_call 201).1, isSink_call 201, (arguments_call 201).1,
    (arguments_call 201).2, reaches_concatenation 201, looksUnsafe_concatenation 201,
    hcall.trans (by decide), hconcatenation⟩

end Rule.SqlInjection

end JavaAudit
