import JavaAudit.Proofs.SufficientRoom

/-!
# Every unsafe query is reported once

A concatenation that mentions SQL is reported at the outermost `+` of its chain, or at the call that it
is handed to, and never at both. Two walks decide this. The one at the `+` climbs from the
concatenation to the argument list of a call (`valueHolder`). The one at the call descends from the
query argument through parentheses and branches (`unsafeQueryWithin`). Both are compared with one
relation, `MayYield`, which says that the value of an expression may be that of another: climbing finds
the call exactly when the concatenation may be the value of its first argument
(`isQueryArgument_iff`), and descending then finds the concatenation
(`unsafeQueryWithin_of_mayYield`).
-/

namespace JavaAudit.Rule.SqlInjection

open SyntaxTree

variable {u : CompilationUnit} {n : Nat}

/-- A call hands the value of an expression, as its query, to a sink. -/
def IsQueryOf (u : CompilationUnit) (call n : NodeId) : Prop :=
  u.tree.type call = "method_invocation" ∧ u.isSink sinks call = true ∧
    ∃ list ∈ u.tree.children call, u.tree.type list = "argument_list" ∧
      ∃ query, (u.tree.parts list).head? = some query ∧ MayYield u.tree query n

/-! ## Climbing to the call -/

/-- One step up from a value: through parentheses and branches of conditionals, but not from a condition. -/
theorem valueHolder_of_parent? {p : Nat} (h : u.tree.parent? n = some p) :
    valueHolder u n =
      if u.tree.isParen p = true then valueHolder u p
      else if u.tree.isConditional p = true then
        if (u.tree.field? p "condition").any fun c => u.tree.key c == u.tree.key n then none
        else valueHolder u p
      else some (n, p) := by
  rw [valueHolder]
  split
  · next hnone => rw [h] at hnone; cases hnone
  · next q hq =>
    rw [h] at hq
    cases hq
    simp only [isParen_iff, isConditional, beq_iff_eq]

/-- Climbing passes out of a branch of a conditional, and only the condition holds it up. -/
theorem valueHolder_of_branch (ht : u.tree.DistinctKeys) {e c : Nat}
    (he : u.tree.isConditional e = true)
    (hc : u.tree.field? e "consequence" = some c ∨ u.tree.field? e "alternative" = some c) :
    valueHolder u c = valueHolder u e := by
  have hparen : ¬ u.tree.isParen e = true := by
    rw [isParen, beq_iff_eq.1 he]
    decide
  obtain ⟨role, hrole, hc⟩ : ∃ role ≠ "condition", u.tree.field? e role = some c := by
    rcases hc with hc | hc
    · exact ⟨_, by decide, hc⟩
    · exact ⟨_, by decide, hc⟩
  -- with the key of the condition the branch would be the condition, in two roles at once
  rw [valueHolder_of_parent? (parent?_of_field? hc), if_neg hparen, if_pos he, if_neg]
  rw [Option.any_eq_true]
  rintro ⟨d, hd, hkey⟩
  obtain rfl := ht d (lt_of_field? hd).2 c (lt_of_field? hc).2 (beq_iff_eq.1 hkey)
  have hd' := List.find?_some hd
  have hc' := List.find?_some hc
  rw [beq_iff_eq] at hd' hc'
  rw [hd'] at hc'
  exact hrole (Option.some.inj hc').symm

/-- Climbing passes from a value to what may yield it. -/
theorem valueHolder_of_mayYield (ht : u.tree.DistinctKeys) {e : Nat} (h : MayYield u.tree e n) :
    valueHolder u n = valueHolder u e := by
  induction h with
  | refl => rfl
  | paren he hc _ ih =>
    rw [ih, valueHolder_of_parent? (parent?_of_mem_parts (List.mem_of_mem_head? hc)), if_pos he]
  | branch he hc _ ih => rw [ih, valueHolder_of_branch ht he hc]

/-- What climbing ends at may yield the value that it started from. -/
theorem mayYield_of_valueHolder (ht : u.tree.RegularExpressions)
    (hn : u.tree.isParen n = true ∨ u.tree.isConditional n = true ∨ u.tree.isPlus n = true)
    {top list : Nat} (h : valueHolder u n = some (top, list)) :
    MayYield u.tree top n ∧ u.tree.parent? top = some list := by
  induction n using climb_induction (t := u.tree) with
  | root n hroot =>
    rw [valueHolder] at h
    split at h
    · cases h
    · next p hp => rw [hroot] at hp; cases hp
  | step n p hp ih =>
    have hpsize : p < u.tree.size := Nat.lt_trans (lt_of_parent? hp) (lt_size_of_parent? hp)
    have hpart : n ∈ u.tree.parts p := ht.mem_parts hp hn
    rw [valueHolder_of_parent? hp] at h
    split at h
    · next hparen =>
      obtain ⟨hyield, hparent⟩ := ih (.inl hparen) h
      exact ⟨hyield.trans (.paren hparen (ht.head?_parts hpsize hparen hpart) (.refl n)), hparent⟩
    · split at h
      · next hconditional =>
        split at h
        · cases h
        · next hcondition =>
          obtain ⟨hyield, hparent⟩ := ih (.inr (.inl hconditional)) h
          refine ⟨hyield.trans ?_, hparent⟩
          -- climbing does not pass out of a condition, so the node is one of the branches
          rcases ht.conditional_parts p hpsize hconditional n hpart with hc | hc | hc
          · rw [hc] at hcondition
            exact absurd (beq_self_eq_true _) hcondition
          · exact .branch hconditional (.inl hc) (.refl n)
          · exact .branch hconditional (.inr hc) (.refl n)
      · cases h
        exact ⟨.refl _, hp⟩

/-- Where climbing from a query argument ends. -/
theorem valueHolder_of_isQueryOf (ht : u.tree.DistinctKeys) {call : Nat} (h : IsQueryOf u call n) :
    ∃ query list, valueHolder u n = some (query, list) ∧ u.tree.parent? list = some call ∧
      u.tree.type list = "argument_list" ∧ (u.tree.parts list).head? = some query := by
  obtain ⟨-, -, list, hlist, htype, query, hquery, hyield⟩ := h
  refine ⟨query, list, ?_, parent?_of_mem_children hlist, htype, hquery⟩
  rw [valueHolder_of_mayYield ht hyield,
    valueHolder_of_parent? (parent?_of_mem_parts (List.mem_of_mem_head? hquery)), isParen,
    isConditional, htype]
  rfl

/-- An expression is the query of one call. -/
theorem isQueryOf_unique (ht : u.tree.DistinctKeys) {call other : Nat} (h : IsQueryOf u call n)
    (hother : IsQueryOf u other n) : other = call := by
  obtain ⟨query, list, hholder, hparent, -, -⟩ := valueHolder_of_isQueryOf ht h
  obtain ⟨query', list', hholder', hparent', -, -⟩ := valueHolder_of_isQueryOf ht hother
  rw [hholder] at hholder'
  cases hholder'
  rw [hparent] at hparent'
  exact (Option.some.inj hparent').symm

/-- The query of a call is recognised from below. -/
theorem isQueryArgument_of_isQueryOf (ht : u.tree.DistinctKeys) {call : Nat} (h : IsQueryOf u call n) :
    isQueryArgument u n = true := by
  obtain ⟨query, list, hholder, hparent, hlist, hquery⟩ := valueHolder_of_isQueryOf ht h
  unfold isQueryArgument
  rw [hholder]
  simp only [hparent, hlist, h.1, h.2.1, hquery, Option.any_some, beq_self_eq_true, decide_true,
    Bool.and_self]

/-- The climb from an expression tells exactly whether a call hands its value to a sink. -/
theorem isQueryArgument_iff (ht : u.tree.RegularExpressions)
    (hn : u.tree.isParen n = true ∨ u.tree.isConditional n = true ∨ u.tree.isPlus n = true) :
    isQueryArgument u n = true ↔ ∃ call, IsQueryOf u call n := by
  constructor
  · intro h
    unfold isQueryArgument at h
    split at h
    · cases h
    · next top list hholder =>
      split at h
      · cases h
      · next call hcall =>
        simp only [Bool.and_eq_true, beq_iff_eq, Option.any_eq_true, decide_eq_true_eq] at h
        obtain ⟨⟨⟨hlist, htype⟩, query, hquery, hkey⟩, hsink⟩ := h
        obtain ⟨hyield, hparent⟩ := mayYield_of_valueHolder ht hn hholder
        -- the first argument is recognised by its key, which no other node has
        obtain rfl := ht.distinctKeys query (lt_of_head?_parts hquery).2 top
          (lt_size_of_parent? hparent) hkey
        exact ⟨call, htype, hsink, list, mem_children_of_parent? hcall, hlist, query, hquery,
          hyield⟩
  · rintro ⟨call, h⟩
    exact isQueryArgument_of_isQueryOf ht.distinctKeys h

/-! ## Descending from the call -/

/-- A conditional takes one level and parentheses none. -/
theorem conditionalDepth_of_parent? {t : SyntaxTree} {p : Nat} (h : t.parent? n = some p)
    (hp : t.isParen p = true ∨ t.isConditional p = true) :
    t.conditionalDepth n = t.conditionalDepth p + if t.isConditional p = true then 1 else 0 := by
  unfold conditionalDepth
  rw [climb_of_parent? h, if_pos (by rw [Bool.or_eq_true]; exact hp), List.countP_cons]

theorem conditionalDepth_of_branch {t : SyntaxTree} {e c : Nat} (he : t.isConditional e = true)
    (hc : t.field? e "consequence" = some c ∨ t.field? e "alternative" = some c) :
    t.conditionalDepth c = t.conditionalDepth e + 1 := by
  have hparent : t.parent? c = some e := hc.elim parent?_of_field? parent?_of_field?
  rw [conditionalDepth_of_parent? hparent (.inr he), if_pos he]

theorem unsafeQueryWithin_of_unwrap_eq {m : Nat} (h : u.tree.unwrap n = u.tree.unwrap m)
    (depth : Nat) (seen : List (Nat × Nat × String)) :
    unsafeQueryWithin u depth seen n = unsafeQueryWithin u depth seen m := by
  cases depth with
  | zero => rfl
  | succ depth =>
    unfold unsafeQueryWithin
    rw [h]

/-- A conditional is unsafe as soon as one of its branches is, whatever was seen before. -/
theorem unsafeQueryWithin_of_branch {e c depth : Nat} {seen : List (Nat × Nat × String)}
    (he : u.tree.isConditional e = true)
    (hc : u.tree.field? e "consequence" = some c ∨ u.tree.field? e "alternative" = some c)
    (h : ∀ seen, (unsafeQueryWithin u depth seen c).1 = true) :
    (unsafeQueryWithin u (depth + 1) seen e).1 = true := by
  have htype : u.tree.type e = "ternary_expression" := beq_iff_eq.1 he
  have hparen : u.tree.isParen e = false := by
    rw [isParen, htype]
    rfl
  rw [unsafeQueryWithin, unwrap_of_not_isParen hparen]
  simp only [htype, String.reduceEq, if_false, if_true]
  rcases hc with hc | hc
  · rw [hc]
    simp only [h, if_true]
  · rw [hc]
    cases u.tree.field? e "consequence" with
    | none => exact h seen
    | some branch =>
      dsimp only
      split
      · assumption
      · exact h _

/-- What an expression may yield is not nested less than the expression. -/
theorem conditionalDepth_le_of_mayYield {t : SyntaxTree} {e : Nat} (h : MayYield t e n) :
    t.conditionalDepth e ≤ t.conditionalDepth n := by
  induction h with
  | refl => exact Nat.le_refl _
  | paren he hc _ ih =>
    rw [conditionalDepth_of_parent? (parent?_of_mem_parts (List.mem_of_mem_head? hc)) (.inl he)] at ih
    omega
  | branch he hc _ ih =>
    rw [conditionalDepth_of_branch he hc] at ih
    omega

/-- Descending finds an unsafe concatenation that an expression may yield, if conditionals do not nest
too deep between them. -/
theorem unsafeQueryWithin_of_mayYield {e depth : Nat} (h : MayYield u.tree e n)
    (hplus : u.tree.isPlus n = true) (hc : u.concatenates keywords n = true)
    (hdepth : u.tree.conditionalDepth n < depth + u.tree.conditionalDepth e)
    (seen : List (Nat × Nat × String)) : (unsafeQueryWithin u depth seen e).1 = true := by
  induction h generalizing depth seen with
  | refl e =>
    obtain ⟨depth, rfl⟩ := Nat.exists_eq_add_one_of_ne_zero (n := depth) (by omega)
    rw [unsafeQueryWithin, unwrap_of_not_isParen (not_isParen_of_isPlus hplus)]
    simp only [type_of_isPlus hplus, if_true]
    exact hc
  | paren he hpart rest ih =>
    have hparent := parent?_of_mem_parts (List.mem_of_mem_head? hpart)
    have hunwrap := unwrap_of_isParen he
    rw [hpart] at hunwrap
    rw [unsafeQueryWithin_of_unwrap_eq hunwrap]
    refine ih hplus hc ?_ seen
    rw [conditionalDepth_of_parent? hparent (.inl he)]
    omega
  | branch he hbranch rest ih =>
    -- a conditional takes one level, and the rest of the way down needs no more than are left
    have hle := conditionalDepth_le_of_mayYield rest
    rw [conditionalDepth_of_branch he hbranch] at hle ih
    obtain ⟨depth, rfl⟩ := Nat.exists_eq_add_one_of_ne_zero (n := depth) (by omega)
    exact unsafeQueryWithin_of_branch he hbranch fun seen => ih hplus hc (by omega) seen

/-! ## Where the rule fires -/

/-- At a `+` the rule looks for a concatenation that is not a query. -/
theorem fires_of_isPlus (h : u.tree.isPlus n = true) : fires u n = isUnsafeConcatenation u n := by
  unfold fires kind?
  rw [type_of_isPlus h]
  rfl

theorem fires_of_type_eq_method_invocation (h : u.tree.type n = "method_invocation") :
    fires u n = isUnsafeCall u n := by
  unfold fires kind?
  rw [h]
  rfl

/-- A `+` counts as an operand exactly when climbing from it reaches another `+`. -/
theorem isInnerConcatenation_iff :
    isInnerConcatenation u n = true ↔ ∃ a ∈ u.tree.plusClimb n, u.tree.isPlus a = true := by
  induction n using climb_induction (t := u.tree) with
  | root n hroot =>
    rw [isInnerConcatenation, ancestors_of_parent?_eq_none hroot, plusClimb,
      climb_of_parent?_eq_none hroot]
    simp
  | step n p hp ih =>
    rw [isInnerConcatenation, ancestors_of_parent? hp, plusClimb, climb_of_parent? hp]
    -- both ways up pass through parentheses, and the first other node decides
    cases hparen : u.tree.isParen p with
    | true =>
      have hplus : u.tree.isPlus p = false := by
        rw [isPlus, isParen_iff.1 hparen]
        rfl
      rw [List.find?_cons_of_neg (by simpa using isParen_iff.1 hparen), Bool.true_or, if_pos rfl]
      rw [isInnerConcatenation, plusClimb] at ih
      simpa [hplus] using ih
    | false =>
      have hne : u.tree.type p ≠ "parenthesized_expression" := fun heq => by
        rw [isParen_iff.2 heq] at hparen
        cases hparen
      rw [List.find?_cons_of_pos (by simpa using hne), Option.any_some,
        isConcatenation_of_not_isParen hparen, Bool.false_or]
      cases hplus : u.tree.isPlus p <;> simp [hplus]

/-- No `+` from which climbing reaches another one is reported. -/
theorem fires_eq_false_of_mem_plusClimb {top : Nat} (h : u.tree.isPlus n = true)
    (hplus : u.tree.isPlus top = true) (htop : top ∈ u.tree.plusClimb n) : fires u n = false := by
  have hinner : isInnerConcatenation u n = true := isInnerConcatenation_iff.2 ⟨top, htop, hplus⟩
  rw [fires_of_isPlus h, isUnsafeConcatenation, hinner]
  simp

/-- The outermost `+` of an unsafe chain is reported unless it is the query of a call. -/
theorem fires_outermostPlus (h : u.tree.isPlus n = true)
    (hc : u.concatenates keywords (u.tree.outermostPlus n) = true) :
    fires u (u.tree.outermostPlus n) = !isQueryArgument u (u.tree.outermostPlus n) := by
  have hplus := isPlus_outermostPlus h
  have houter : isInnerConcatenation u (u.tree.outermostPlus n) = false := by
    refine Bool.eq_false_iff.2 fun hinner => ?_
    obtain ⟨a, ha, haplus⟩ := isInnerConcatenation_iff.1 hinner
    rw [not_isPlus_of_mem_plusClimb_outermostPlus ha] at haplus
    cases haplus
  rw [fires_of_isPlus hplus, isUnsafeConcatenation, isConcatenation_of_isPlus hplus, houter, hc]
  rfl

/-- A call that hands an unsafe concatenation to a sink is reported. -/
theorem fires_of_isQueryOf (ht : u.tree.RegularExpressions) {call : Nat}
    (hplus : u.tree.isPlus n = true) (hc : u.concatenates keywords n = true)
    (h : IsQueryOf u call n) : fires u call = true := by
  obtain ⟨htype, hsink, list, hlist, hlisttype, query, hquery, hyield⟩ := h
  have hcall : call < u.tree.size := Nat.lt_trans (lt_of_mem_children hlist).1
    (lt_of_mem_children hlist).2
  have harguments : u.tree.arguments call = u.tree.parts list := by
    rw [arguments, ht.arguments_field call hcall htype list hlist hlisttype]
  have hdepth : u.tree.conditionalDepth n < classifierDepth + u.tree.conditionalDepth query := by
    have := ht.conditionalDepth_le n (lt_size_of_isPlus hplus)
    unfold classifierDepth
    omega
  rw [fires_of_type_eq_method_invocation htype, isUnsafeCall, harguments, hquery]
  simp only [hsink, Bool.true_and]
  exact unsafeQueryWithin_of_mayYield hyield hplus hc hdepth []

/-! ## Reported once -/

/-- No keyword has a sigma, so that its lower case does not depend on what is around it. -/
theorem sigmaFree_lower_of_mem_keywords :
    ∀ k ∈ keywords, Text.SigmaFree (Text.lower k).toList := by
  unfold Text.SigmaFree
  decide

/-- Every unsafe concatenation is reported once. At the outermost `+` of its chain it is still
unsafe, no other `+` of the chain is reported, and either the outermost `+` is, or the one call that it
is the query of. The rule answers so wherever it does not run out of room. -/
theorem unsafe_concatenation_reported_once (ht : u.tree.RegularExpressions)
    (hplus : u.tree.isPlus n = true) (hc : u.concatenates keywords n = true) :
    u.concatenates keywords (u.tree.outermostPlus n) = true ∧
      (∀ m, u.tree.isPlus m = true → u.tree.outermostPlus n ∈ u.tree.plusClimb m →
        fires u m = false) ∧
      (fires u (u.tree.outermostPlus n) = true ∧ (¬ ∃ call, IsQueryOf u call (u.tree.outermostPlus n)) ∨
        fires u (u.tree.outermostPlus n) = false ∧
          ∃ call, IsQueryOf u call (u.tree.outermostPlus n) ∧ fires u call = true ∧
            ∀ other, IsQueryOf u other (u.tree.outermostPlus n) → other = call) ∧
      sqlInjection.Answers u (fires u) := by
  have htop : u.concatenates keywords (u.tree.outermostPlus n) = true := by
    rcases u.tree.outermostPlus_mem n with heq | ⟨hmem, -⟩
    · rw [heq]
      exact hc
    · exact CompilationUnit.concatenates_of_mem_plusClimb ht sigmaFree_lower_of_mem_keywords
        (.inr hplus) hc hmem
  have htopplus := isPlus_outermostPlus hplus
  refine ⟨htop, fun m hm hmem => fires_eq_false_of_mem_plusClimb hm htopplus hmem, ?_,
    answers_of_means (means u)⟩
  rw [fires_outermostPlus hplus htop]
  -- what the rule takes for an argument of a query call is one, and a node is the query of one call at most
  have hiff := isQueryArgument_iff ht (.inr (.inr htopplus))
  cases hquery : isQueryArgument u (u.tree.outermostPlus n) with
  | false =>
    refine .inl ⟨rfl, fun hcall => ?_⟩
    rw [hiff.2 hcall] at hquery
    cases hquery
  | true =>
    obtain ⟨call, hcall⟩ := hiff.1 hquery
    exact .inr ⟨rfl, call, hcall, fires_of_isQueryOf ht htopplus htop hcall,
      fun other hother => isQueryOf_unique ht.distinctKeys hcall hother⟩

/-! ### A chain in a branch of a query

The query of the call is a conditional, and the concatenation stands in parentheses in its second
branch. The inner `+` is the one that mentions SQL. -/

def branchedQuery : SyntaxTree :=
  .ofNodes "import static java.sql.Statement.execute;execute(b?x:(\"select \"+y+z));" #[
    ⟨none, "program", true, false, 0, 70, none⟩,
    ⟨some 0, "import_declaration", true, false, 0, 41, none⟩,
    ⟨some 1, "import", false, false, 0, 6, none⟩,
    ⟨some 1, "static", false, false, 7, 13, none⟩,
    ⟨some 1, "scoped_identifier", true, false, 14, 40, none⟩,
    ⟨some 4, "scoped_identifier", true, false, 14, 32, some "scope"⟩,
    ⟨some 5, "scoped_identifier", true, false, 14, 22, some "scope"⟩,
    ⟨some 6, "identifier", true, false, 14, 18, some "scope"⟩,
    ⟨some 6, ".", false, false, 18, 19, none⟩,
    ⟨some 6, "identifier", true, false, 19, 22, some "name"⟩,
    ⟨some 5, ".", false, false, 22, 23, none⟩,
    ⟨some 5, "identifier", true, false, 23, 32, some "name"⟩,
    ⟨some 4, ".", false, false, 32, 33, none⟩,
    ⟨some 4, "identifier", true, false, 33, 40, some "name"⟩,
    ⟨some 1, ";", false, false, 40, 41, none⟩,
    ⟨some 0, "expression_statement", true, false, 41, 70, none⟩,
    ⟨some 15, "method_invocation", true, false, 41, 69, none⟩,
    ⟨some 16, "identifier", true, false, 41, 48, some "name"⟩,
    ⟨some 16, "argument_list", true, false, 48, 69, some "arguments"⟩,
    ⟨some 18, "(", false, false, 48, 49, none⟩,
    ⟨some 18, "ternary_expression", true, false, 49, 68, none⟩,
    ⟨some 20, "identifier", true, false, 49, 50, some "condition"⟩,
    ⟨some 20, "?", false, false, 50, 51, none⟩,
    ⟨some 20, "identifier", true, false, 51, 52, some "consequence"⟩,
    ⟨some 20, ":", false, false, 52, 53, none⟩,
    ⟨some 20, "parenthesized_expression", true, false, 53, 68, some "alternative"⟩,
    ⟨some 25, "(", false, false, 53, 54, none⟩,
    ⟨some 25, "binary_expression", true, false, 54, 67, none⟩,
    ⟨some 27, "binary_expression", true, false, 54, 65, some "left"⟩,
    ⟨some 28, "string_literal", true, false, 54, 63, some "left"⟩,
    ⟨some 29, "\"", false, false, 54, 55, none⟩,
    ⟨some 29, "string_fragment", true, false, 55, 62, none⟩,
    ⟨some 29, "\"", false, false, 62, 63, none⟩,
    ⟨some 28, "+", false, false, 63, 64, some "operator"⟩,
    ⟨some 28, "identifier", true, false, 64, 65, some "right"⟩,
    ⟨some 27, "+", false, false, 65, 66, some "operator"⟩,
    ⟨some 27, "identifier", true, false, 66, 67, some "right"⟩,
    ⟨some 25, ")", false, false, 67, 68, none⟩,
    ⟨some 18, ")", false, false, 68, 69, none⟩,
    ⟨some 15, ";", false, false, 69, 70, none⟩]

theorem branchedQuery_wellNested : branchedQuery.WellNested where
  start_isValid := by decide
  stop_isValid := by decide
  start_le n p h := by
    have hall : ∀ n < branchedQuery.size, ∀ p ∈ branchedQuery.parent? n,
        branchedQuery.start p ≤ branchedQuery.start n := by decide
    exact hall n (lt_size_of_parent? h) p h
  stop_le n p h := by
    have hall : ∀ n < branchedQuery.size, ∀ p ∈ branchedQuery.parent? n,
        branchedQuery.stop n ≤ branchedQuery.stop p := by decide
    exact hall n (lt_size_of_parent? h) p h

theorem branchedQuery_regularExpressions : branchedQuery.RegularExpressions := by
  let t := branchedQuery
  obtain ⟨hnamed, hparen, hconditional⟩ :
      (∀ n < t.size, t.isParen n = true ∨ t.isConditional n = true ∨ t.isPlus n = true →
        t.isNamed n = true) ∧
      (∀ n < t.size, t.isParen n = true → (t.parts n).length = 1) ∧
      ∀ n < t.size, t.isConditional n = true → ∀ c ∈ t.parts n, t.field? n "condition" = some c ∨
        t.field? n "consequence" = some c ∨ t.field? n "alternative" = some c := by
    decide +kernel
  obtain ⟨hplus, harguments, hdepth⟩ :
      (∀ n < t.size, t.isPlus n = true → ∀ c ∈ t.parts n,
        t.field? n "left" = some c ∨ t.field? n "right" = some c) ∧
      (∀ call < t.size, t.type call = "method_invocation" → ∀ list ∈ t.children call,
        t.type list = "argument_list" → t.field? call "arguments" = some list) ∧
      ∀ n < t.size, t.conditionalDepth n ≤ 200 := by
    decide +kernel
  exact ⟨branchedQuery_wellNested, .of_nodup (by decide), hnamed, hparen, hconditional, hplus, harguments, hdepth⟩

/-- The inner `+` is not reported. The outer one is reported itself or at the one call that it is the query of.
-/
theorem branchedQuery_reported_once :
    let u := CompilationUnit.ofTree "Query.java" branchedQuery
    u.tree.RegularExpressions ∧ u.tree.isPlus 28 = true ∧ u.concatenates keywords 28 = true ∧
      u.concatenates keywords 27 = true ∧ fires u 28 = false ∧
      (fires u 27 = true ∧ (¬ ∃ call, IsQueryOf u call 27) ∨
        fires u 27 = false ∧ ∃ call, IsQueryOf u call 27 ∧ fires u call = true ∧
          ∀ other, IsQueryOf u other 27 → other = call) := by
  intro u
  obtain ⟨hplus, hc, htop, hinner⟩ : u.tree.isPlus 28 = true ∧ u.concatenates keywords 28 = true ∧
      u.tree.outermostPlus 28 = 27 ∧ 27 ∈ u.tree.plusClimb 28 := by
    decide +kernel
  have h := unsafe_concatenation_reported_once branchedQuery_regularExpressions hplus hc
  rw [htop] at h
  exact ⟨branchedQuery_regularExpressions, hplus, hc, h.1, h.2.1 28 hplus hinner, h.2.2.1⟩

end JavaAudit.Rule.SqlInjection
