import JavaAudit.Proofs.Initializers
import JavaAudit.Proofs.PlusChain
import JavaAudit.Rule.SqlInjection

/-!
# The search for an unsafe query is reachability

From the query argument of a call the search goes through parentheses, into the branches of conditionals
and on to the initialisers of what is referred to, until it comes to an unsafe concatenation. It keeps one
list of the declarations that it has followed, for all branches together, and follows none of them twice.

1. Initialisers may refer to each other in a circle, and the search still ends: it never goes deeper than
   the number of initialised declarations times the number of conditionals allows (`weight_lt_of_makes`).
2. What the search finds can be reached (`reaches_of_unsafeQueryWithin`).
3. What can be reached is found, unless the search is cut off because it went too deep. A search that fails
   leaves behind a list of declarations that is closed: whatever their initialisers refer to is in the list
   too, and none of them is unsafe (`exhausted_of_unsafeQueryWithin`). So it does not matter that a
   declaration was passed over because it was in the list: it was, or will be, dealt with elsewhere.
-/

namespace JavaAudit

namespace SyntaxTree

variable {t : SyntaxTree} {n : Nat}

/-- How many declarations have an initialiser and are not in the list. -/
def unfollowed (t : SyntaxTree) (seen : List (Nat × Nat × String)) : Nat :=
  (List.range t.size).countP fun d => (t.field? d "value").isSome && !seen.contains (t.key d)

/-- How many conditionals there are from a node on. -/
def conditionalsFrom (t : SyntaxTree) (n : NodeId) : Nat :=
  (List.range t.size).countP fun m => decide (n ≤ m) && t.isConditional m

theorem countP_lt_countP {α : Type} {p q : α → Bool} {l : List α} (h : ∀ x ∈ l, p x = true → q x = true)
    {x : α} (hx : x ∈ l) (hp : p x = false) (hq : q x = true) : l.countP p < l.countP q := by
  obtain ⟨before, after, rfl⟩ := List.append_of_mem hx
  have hbefore : before.countP p ≤ before.countP q :=
    List.countP_mono_left fun y hy => h y (List.mem_append_left _ hy)
  have hafter : after.countP p ≤ after.countP q :=
    List.countP_mono_left fun y hy => h y (List.mem_append_right _ (List.mem_cons_of_mem x hy))
  simp only [List.countP_append, List.countP_cons, hp, hq, if_true, Bool.false_eq_true, if_false]
  omega

theorem unfollowed_mono {seen seen' : List (Nat × Nat × String)} (h : seen ⊆ seen') :
    t.unfollowed seen' ≤ t.unfollowed seen := by
  refine List.countP_mono_left fun d _ hd => ?_
  simp only [Bool.and_eq_true, Bool.not_eq_true', List.contains_eq_mem, decide_eq_false_iff_not] at hd ⊢
  exact ⟨hd.1, fun hmem => hd.2 (h hmem)⟩

/-- Following a declaration leaves one less to follow. -/
theorem unfollowed_cons_lt {seen : List (Nat × Nat × String)} {d c : Nat}
    (hc : t.field? d "value" = some c) (hnew : t.key d ∉ seen) :
    t.unfollowed (t.key d :: seen) < t.unfollowed seen := by
  have hd : d < t.size := Nat.lt_trans (lt_of_field? hc).1 (lt_of_field? hc).2
  refine countP_lt_countP (fun e _ he => ?_) (List.mem_range.2 hd) ?_ ?_
  · simp only [Bool.and_eq_true, Bool.not_eq_true', List.contains_eq_mem, decide_eq_false_iff_not,
      List.mem_cons, not_or] at he ⊢
    exact ⟨he.1, he.2.2⟩
  · simp
  · simp [hc, hnew]

theorem conditionalsFrom_mono {m : Nat} (h : n ≤ m) : t.conditionalsFrom m ≤ t.conditionalsFrom n := by
  refine List.countP_mono_left fun k _ hk => ?_
  simp only [Bool.and_eq_true, decide_eq_true_eq] at hk ⊢
  exact ⟨Nat.le_trans h hk.1, hk.2⟩

/-- Behind a conditional there is one less to pass. -/
theorem conditionalsFrom_lt {e c : Nat} (he : t.isConditional e = true) (hne : n ≤ e) (hec : e < c) :
    t.conditionalsFrom c < t.conditionalsFrom n := by
  have hsize : e < t.size := by
    refine lt_size_of_type_ne ?_
    rw [beq_iff_eq.1 he]
    decide
  refine countP_lt_countP (fun k _ hk => ?_) (List.mem_range.2 hsize) ?_ ?_
  · simp only [Bool.and_eq_true, decide_eq_true_eq] at hk ⊢
    exact ⟨Nat.le_trans hne (Nat.le_trans (Nat.le_of_lt hec) hk.1), hk.2⟩
  · simp [hec]
  · simp [hne, he]

end SyntaxTree

namespace Rule.SqlInjection

open SyntaxTree

variable {u : CompilationUnit} {n e c : Nat} {depth : Nat} {seen seen' : List (Nat × Nat × String)}
  {s : Symbol}

/-! ## Reaching an expression from another -/

/-- The value of the first expression may be that of the second: it is the same expression but for
parentheses, or a branch of a conditional. -/
inductive MayYield (t : SyntaxTree) : NodeId → NodeId → Prop where
  | refl (e : NodeId) : MayYield t e e
  | paren {e c n : NodeId} (he : t.isParen e = true) (hc : (t.parts e).head? = some c)
      (rest : MayYield t c n) : MayYield t e n
  | branch {e c n : NodeId} (he : t.isConditional e = true)
      (hc : t.field? e "consequence" = some c ∨ t.field? e "alternative" = some c)
      (rest : MayYield t c n) : MayYield t e n

theorem MayYield.trans {t : SyntaxTree} {a b c : Nat} (hab : MayYield t a b) (hbc : MayYield t b c) :
    MayYield t a c := by
  induction hab with
  | refl => exact hbc
  | paren he hc _ ih => exact .paren he hc (ih hbc)
  | branch he hc _ ih => exact .branch he hc (ih hbc)

/-- The expression refers to something with this initialiser. -/
structure RefersTo (u : CompilationUnit) (e : NodeId) (s : Symbol) (c : NodeId) : Prop where
  isReference : u.tree.isA e referenceTypes = true
  reference? : u.reference? e = some s
  initializer : s.initializer = some c

/-- One step from an expression to another that its value may come from: into parentheses, into a branch
of a conditional, or to the initialiser of what the expression refers to. -/
inductive Leads (u : CompilationUnit) : NodeId → NodeId → Prop where
  | paren {e c : NodeId} (he : u.tree.isParen e = true) (hc : (u.tree.parts e).head? = some c) :
      Leads u e c
  | branch {e c : NodeId} (he : u.tree.isConditional e = true)
      (hc : u.tree.field? e "consequence" = some c ∨ u.tree.field? e "alternative" = some c) : Leads u e c
  | initializer {e c : NodeId} {s : Symbol} (h : RefersTo u e s c) : Leads u e c

/-- The second expression can be reached from the first. -/
def Reaches (u : CompilationUnit) : NodeId → NodeId → Prop := Relation.ReflTransGen (Leads u)

/-- The expression is a concatenation that mentions SQL and has an operand that is not constant. -/
def LooksUnsafe (u : CompilationUnit) (b : NodeId) : Prop :=
  u.tree.type b = "binary_expression" ∧ u.concatenates keywords b = true

theorem reaches_of_unwrap (h : u.tree.unwrap n = some e) : Reaches u n e := by
  fun_induction SyntaxTree.unwrap u.tree n with
  | case1 => cases h
  | case2 n hn c hc ih => exact .head (.paren (isParen_iff.2 hn) hc) (ih h)
  | case3 n => exact Option.some.inj h ▸ .refl

/-! ## One call of the search -/

/-- The search in a branch, which may be missing. -/
def withinBranch (u : CompilationUnit) (depth : Nat) (seen : List (Nat × Nat × String))
    (branch : Option NodeId) : Bool × List (Nat × Nat × String) :=
  match branch with
  | some c => unsafeQueryWithin u depth seen c
  | none => (false, seen)

/-- What a call of the search may meet inside the parentheses. -/
inductive Shape (t : SyntaxTree) (n : NodeId) : Prop where
  | empty (hn : t.unwrap n = none)
  | binary (e : NodeId) (hn : t.unwrap n = some e) (he : t.type e = "binary_expression")
  | conditional (e : NodeId) (hn : t.unwrap n = some e) (he : t.isConditional e = true)
  | reference (e : NodeId) (hn : t.unwrap n = some e) (he : t.isA e referenceTypes = true)
  | other (e : NodeId) (hn : t.unwrap n = some e) (hbinary : t.type e ≠ "binary_expression")
      (hconditional : t.isConditional e = false) (hreference : t.isA e referenceTypes = false)

/-- A call of the search meets one of five things. -/
theorem shape (t : SyntaxTree) (n : NodeId) : Shape t n := by
  cases hn : t.unwrap n with
  | none => exact .empty hn
  | some e =>
    by_cases hbinary : t.type e = "binary_expression"
    · exact .binary e hn hbinary
    cases hconditional : t.isConditional e with
    | true => exact .conditional e hn hconditional
    | false =>
      cases hreference : t.isA e referenceTypes with
      | true => exact .reference e hn hreference
      | false => exact .other e hn hbinary hconditional hreference

theorem type_ne_of_isReference {t : SyntaxTree} (he : t.isA e referenceTypes = true) :
    t.type e ≠ "binary_expression" ∧ t.type e ≠ "ternary_expression" := by
  have hmem : t.type e ∈ referenceTypes := List.contains_iff_mem.1 he
  simp only [referenceTypes, List.mem_cons, List.not_mem_nil, or_false] at hmem
  rcases hmem with h | h <;> rw [h] <;> decide

theorem unsafeQueryWithin_of_empty (hn : u.tree.unwrap n = none) :
    unsafeQueryWithin u depth seen n = (false, seen) := by
  cases depth with
  | zero => rfl
  | succ depth => rw [unsafeQueryWithin, hn]

/-- A binary expression is judged on the spot, and nothing is followed. -/
theorem unsafeQueryWithin_of_binary (hn : u.tree.unwrap n = some e)
    (he : u.tree.type e = "binary_expression") :
    unsafeQueryWithin u (depth + 1) seen n = (u.concatenates keywords e, seen) := by
  rw [unsafeQueryWithin, hn]
  dsimp only
  rw [if_pos he]

/-- The alternative is searched with what was followed in the consequence, and only if that is safe. -/
theorem unsafeQueryWithin_of_conditional (hn : u.tree.unwrap n = some e)
    (he : u.tree.isConditional e = true) :
    let first := withinBranch u depth seen (u.tree.field? e "consequence")
    unsafeQueryWithin u (depth + 1) seen n =
      if first.1 = true then first
      else withinBranch u depth first.2 (u.tree.field? e "alternative") := by
  have htype : u.tree.type e = "ternary_expression" := beq_iff_eq.1 he
  rw [unsafeQueryWithin, hn]
  dsimp only
  rw [if_neg (by rw [htype]; decide), if_pos htype]
  rfl

/-- A reference is followed to the initialiser if it has not been followed before. -/
theorem unsafeQueryWithin_of_refersTo (hn : u.tree.unwrap n = some e) (h : RefersTo u e s c)
    (hnew : u.tree.key s.declaration ∉ seen) :
    unsafeQueryWithin u (depth + 1) seen n =
      unsafeQueryWithin u depth (u.tree.key s.declaration :: seen) c := by
  obtain ⟨hbinary, hconditional⟩ := type_ne_of_isReference h.isReference
  rw [unsafeQueryWithin, hn]
  dsimp only
  rw [if_neg hbinary, if_neg hconditional, if_pos h.isReference, h.reference?]
  dsimp only
  rw [h.initializer]
  dsimp only
  rw [if_neg (by simpa using hnew)]

/-- A reference is not followed if nothing is known of it or if it was followed before. -/
theorem unsafeQueryWithin_of_reference (hn : u.tree.unwrap n = some e)
    (he : u.tree.isA e referenceTypes = true)
    (h : ∀ s c, RefersTo u e s c → u.tree.key s.declaration ∈ seen) :
    unsafeQueryWithin u (depth + 1) seen n = (false, seen) := by
  obtain ⟨hbinary, hconditional⟩ := type_ne_of_isReference he
  rw [unsafeQueryWithin, hn]
  dsimp only
  rw [if_neg hbinary, if_neg hconditional, if_pos he]
  cases hs : u.reference? e with
  | none => rfl
  | some s =>
    dsimp only
    cases hc : s.initializer with
    | none => rfl
    | some c =>
      dsimp only
      rw [if_pos (by simpa using h s c ⟨he, hs, hc⟩)]

theorem unsafeQueryWithin_of_other (hn : u.tree.unwrap n = some e)
    (hbinary : u.tree.type e ≠ "binary_expression") (hconditional : u.tree.isConditional e = false)
    (hreference : u.tree.isA e referenceTypes = false) :
    unsafeQueryWithin u (depth + 1) seen n = (false, seen) := by
  rw [unsafeQueryWithin, hn]
  dsimp only
  rw [if_neg hbinary, if_neg (beq_eq_false_iff_ne.1 hconditional), hreference]
  rfl

/-- A reference is followed to an initialiser that was not followed before, or it is passed over. -/
theorem followed_or_passed (u : CompilationUnit) (e : NodeId) (seen : List (Nat × Nat × String)) :
    (∃ s c, RefersTo u e s c ∧ u.tree.key s.declaration ∉ seen) ∨
      ∀ s c, RefersTo u e s c → u.tree.key s.declaration ∈ seen := by
  by_cases h : ∃ s c, RefersTo u e s c ∧ u.tree.key s.declaration ∉ seen
  · exact .inl h
  · refine .inr fun s c hs => ?_
    by_contra hnew
    exact h ⟨s, c, hs, hnew⟩

/-! ## What is found can be reached -/

/-- A search that finds something has reached an expression that looks unsafe. -/
theorem reaches_of_unsafeQueryWithin (h : (unsafeQueryWithin u depth seen n).1 = true) :
    ∃ b, Reaches u n b ∧ LooksUnsafe u b := by
  induction depth generalizing seen n with
  | zero => cases h
  | succ depth ih =>
    -- a branch that has a result is there, and what it reaches is reached through it
    have hbranch : ∀ {seen e role}, u.tree.isConditional e = true →
        (role = "consequence" ∨ role = "alternative") →
        (withinBranch u depth seen (u.tree.field? e role)).1 = true →
          ∃ b, Reaches u e b ∧ LooksUnsafe u b := by
      intro seen e role he hrole h
      cases hc : u.tree.field? e role with
      | none =>
        rw [hc] at h
        cases h
      | some c =>
        rw [hc] at h
        obtain ⟨b, hreach, hb⟩ := ih h
        have hstep : Leads u e c := by
          rcases hrole with rfl | rfl
          · exact .branch he (.inl hc)
          · exact .branch he (.inr hc)
        exact ⟨b, .head hstep hreach, hb⟩
    cases shape u.tree n with
    | empty hn =>
      rw [unsafeQueryWithin_of_empty hn] at h
      cases h
    | binary e hn he =>
      rw [unsafeQueryWithin_of_binary hn he] at h
      exact ⟨e, reaches_of_unwrap hn, he, h⟩
    | conditional e hn he =>
      rw [unsafeQueryWithin_of_conditional hn he] at h
      have hfound : ∃ b, Reaches u e b ∧ LooksUnsafe u b := by
        split at h
        · exact hbranch he (.inl rfl) h
        · exact hbranch he (.inr rfl) h
      obtain ⟨b, hreach, hb⟩ := hfound
      exact ⟨b, (reaches_of_unwrap hn).trans hreach, hb⟩
    | reference e hn he =>
      rcases followed_or_passed u e seen with ⟨s, c, hs, hnew⟩ | hpassed
      · rw [unsafeQueryWithin_of_refersTo hn hs hnew] at h
        obtain ⟨b, hreach, hb⟩ := ih h
        exact ⟨b, (reaches_of_unwrap hn).trans (.head (.initializer hs) hreach), hb⟩
      · rw [unsafeQueryWithin_of_reference hn he hpassed] at h
        cases h
    | other e hn hbinary hconditional hreference =>
      rw [unsafeQueryWithin_of_other hn hbinary hconditional hreference] at h
      cases h

/-! ## The calls of a search -/

theorem subset_withinBranch (h : ∀ seen n, seen ⊆ (unsafeQueryWithin u depth seen n).2)
    (seen : List (Nat × Nat × String)) (branch : Option NodeId) :
    seen ⊆ (withinBranch u depth seen branch).2 := by
  cases branch with
  | none => exact List.Subset.refl seen
  | some c => exact h seen c

/-- Nothing is taken off the list. -/
theorem subset_unsafeQueryWithin (u : CompilationUnit) (depth : Nat) (seen : List (Nat × Nat × String))
    (n : NodeId) : seen ⊆ (unsafeQueryWithin u depth seen n).2 := by
  induction depth generalizing seen n with
  | zero => exact List.Subset.refl seen
  | succ depth ih =>
    have hbranch := subset_withinBranch ih
    cases shape u.tree n with
    | empty hn =>
      rw [unsafeQueryWithin_of_empty hn]
      exact List.Subset.refl seen
    | binary e hn he =>
      rw [unsafeQueryWithin_of_binary hn he]
      exact List.Subset.refl seen
    | conditional e hn he =>
      rw [unsafeQueryWithin_of_conditional hn he]
      split
      · exact hbranch _ _
      · exact List.Subset.trans (hbranch _ _) (hbranch _ _)
    | reference e hn he =>
      rcases followed_or_passed u e seen with ⟨s, c, hs, hnew⟩ | hpassed
      · rw [unsafeQueryWithin_of_refersTo hn hs hnew]
        exact List.Subset.trans (List.subset_cons_self _ _) (ih _ c)
      · rw [unsafeQueryWithin_of_reference hn he hpassed]
        exact List.Subset.refl seen
    | other e hn hbinary hconditional hreference =>
      rw [unsafeQueryWithin_of_other hn hbinary hconditional hreference]
      exact List.Subset.refl seen

/-- A call of the search: how many levels are left, which declarations were followed, and where it is. -/
structure Call where
  depth : Nat
  seen : List (Nat × Nat × String)
  expr : NodeId

/-- A call makes another one. The alternative of a conditional is searched only if nothing was found in the
consequence, and with what was followed there. -/
inductive Makes (u : CompilationUnit) : Call → Call → Prop where
  | consequence {depth : Nat} {seen : List (Nat × Nat × String)} {n e c : NodeId}
      (hn : u.tree.unwrap n = some e) (he : u.tree.isConditional e = true)
      (hc : u.tree.field? e "consequence" = some c) : Makes u ⟨depth + 1, seen, n⟩ ⟨depth, seen, c⟩
  | alternative {depth : Nat} {seen : List (Nat × Nat × String)} {n e c : NodeId}
      (hn : u.tree.unwrap n = some e) (he : u.tree.isConditional e = true)
      (hfirst : (withinBranch u depth seen (u.tree.field? e "consequence")).1 = false)
      (hc : u.tree.field? e "alternative" = some c) :
      Makes u ⟨depth + 1, seen, n⟩
        ⟨depth, (withinBranch u depth seen (u.tree.field? e "consequence")).2, c⟩
  | initializer {depth : Nat} {seen : List (Nat × Nat × String)} {n e c : NodeId} {s : Symbol}
      (hn : u.tree.unwrap n = some e) (hs : RefersTo u e s c)
      (hnew : u.tree.key s.declaration ∉ seen) :
      Makes u ⟨depth + 1, seen, n⟩ ⟨depth, u.tree.key s.declaration :: seen, c⟩

/-- A search that starts with this call comes to an expression with no levels left. -/
def IsCutOff (u : CompilationUnit) (start : Call) : Prop :=
  ∃ last, Relation.ReflTransGen (Makes u) start last ∧ last.depth = 0 ∧
    (u.tree.unwrap last.expr).isSome = true

theorem not_isCutOff_of_makes {a b : Call} (h : ¬ IsCutOff u a) (hab : Makes u a b) : ¬ IsCutOff u b := by
  rintro ⟨last, hcalls, hlast⟩
  exact h ⟨last, .head hab hcalls, hlast⟩

/-- Without levels left, only empty parentheses leave a search complete. -/
theorem unwrap_of_not_isCutOff (h : ¬ IsCutOff u ⟨0, seen, n⟩) : u.tree.unwrap n = none := by
  cases hn : u.tree.unwrap n with
  | none => rfl
  | some e => exact absurd ⟨_, .refl, rfl, by rw [hn]; rfl⟩ h

/-! ### The search ends by itself -/

/-- How many calls deep a search can still go: every declaration is followed at most once, and between two
of them the conditionals are passed from the outside in. -/
def weight (t : SyntaxTree) (call : Call) : Nat :=
  t.unfollowed call.seen * (t.conditionalsFrom 0 + 1) + t.conditionalsFrom call.expr

/-- A branch has less left to search than its conditional. -/
theorem weight_lt_of_branch (h : seen ⊆ seen') (hn : u.tree.unwrap n = some e)
    (he : u.tree.isConditional e = true) {role : String} (hc : u.tree.field? e role = some c)
    (deep deep' : Nat) : weight u.tree ⟨deep', seen', c⟩ < weight u.tree ⟨deep, seen, n⟩ := by
  have hseen := Nat.mul_le_mul_right (u.tree.conditionalsFrom 0 + 1) (unfollowed_mono (t := u.tree) h)
  have hexpr := conditionalsFrom_lt he (le_of_unwrap hn) (lt_of_field? hc).1
  exact Nat.add_lt_add_of_le_of_lt hseen hexpr

theorem weight_lt_of_refersTo (hs : RefersTo u e s c) (hnew : u.tree.key s.declaration ∉ seen)
    (deep deep' : Nat) :
    weight u.tree ⟨deep', u.tree.key s.declaration :: seen, c⟩ < weight u.tree ⟨deep, seen, n⟩ := by
  have hvalue := CompilationUnit.initializer_of_reference? hs.reference? hs.initializer
  have hfewer := unfollowed_cons_lt hvalue hnew
  have hexpr : u.tree.conditionalsFrom c ≤ u.tree.conditionalsFrom 0 := conditionalsFrom_mono (Nat.zero_le c)
  have hseen := Nat.mul_le_mul_right (u.tree.conditionalsFrom 0 + 1) (Nat.succ_le_of_lt hfewer)
  rw [Nat.succ_mul] at hseen
  unfold weight
  dsimp only
  omega

/-- Every call takes one level and leaves less to be searched. -/
theorem weight_lt_of_makes {a b : Call} (h : Makes u a b) :
    a.depth = b.depth + 1 ∧ weight u.tree b < weight u.tree a := by
  cases h with
  | consequence hn he hc => exact ⟨rfl, weight_lt_of_branch (List.Subset.refl _) hn he hc _ _⟩
  | alternative hn he _ hc =>
    exact ⟨rfl, weight_lt_of_branch (subset_withinBranch (subset_unsafeQueryWithin u _) _ _) hn he hc _ _⟩
  | initializer hn hs hnew => exact ⟨rfl, weight_lt_of_refersTo hs hnew _ _⟩

/-- A search with more levels than it can use is not cut off. -/
theorem not_isCutOff_of_weight_lt {start : Call} (h : weight u.tree start < start.depth) :
    ¬ IsCutOff u start := by
  have hcalls : ∀ last, Relation.ReflTransGen (Makes u) start last →
      weight u.tree last < last.depth := by
    intro last hlast
    induction hlast with
    | refl => exact h
    | tail _ hmakes ih =>
      obtain ⟨hdepth, hweight⟩ := weight_lt_of_makes hmakes
      omega
  rintro ⟨last, hlast, hzero, -⟩
  have hleft := hcalls last hlast
  omega

/-- More levels change nothing about a search that is not cut off. -/
theorem unsafeQueryWithin_of_le {deep : Nat} (h : ¬ IsCutOff u ⟨depth, seen, n⟩) (hle : depth ≤ deep) :
    unsafeQueryWithin u deep seen n = unsafeQueryWithin u depth seen n := by
  induction depth generalizing deep seen n with
  | zero =>
    -- a search with no levels left is cut off unless there is nothing to look at
    have hn := unwrap_of_not_isCutOff h
    rw [unsafeQueryWithin_of_empty hn, unsafeQueryWithin_of_empty hn]
  | succ depth ih =>
    obtain ⟨deep, rfl⟩ : ∃ k, deep = k + 1 := ⟨deep - 1, by omega⟩
    have hle : depth ≤ deep := Nat.le_of_succ_le_succ hle
    cases shape u.tree n with
    | empty hn => rw [unsafeQueryWithin_of_empty hn, unsafeQueryWithin_of_empty hn]
    | binary e hn he => rw [unsafeQueryWithin_of_binary hn he, unsafeQueryWithin_of_binary hn he]
    | conditional e hn he =>
      have hfirst : withinBranch u deep seen (u.tree.field? e "consequence") =
          withinBranch u depth seen (u.tree.field? e "consequence") := by
        cases hc : u.tree.field? e "consequence" with
        | none => rfl
        | some c => exact ih (not_isCutOff_of_makes h (.consequence hn he hc)) hle
      rw [unsafeQueryWithin_of_conditional hn he, unsafeQueryWithin_of_conditional hn he, hfirst]
      split
      · rfl
      · next hnot =>
        cases hc : u.tree.field? e "alternative" with
        | none => rfl
        | some c =>
          exact ih (not_isCutOff_of_makes h (.alternative hn he (Bool.eq_false_iff.2 hnot) hc)) hle
    | reference e hn he =>
      rcases followed_or_passed u e seen with ⟨s, c, hs, hnew⟩ | hpassed
      · rw [unsafeQueryWithin_of_refersTo hn hs hnew, unsafeQueryWithin_of_refersTo hn hs hnew]
        exact ih (not_isCutOff_of_makes h (.initializer hn hs hnew)) hle
      · rw [unsafeQueryWithin_of_reference hn he hpassed, unsafeQueryWithin_of_reference hn he hpassed]
    | other e hn hbinary hconditional hreference =>
      rw [unsafeQueryWithin_of_other hn hbinary hconditional hreference,
        unsafeQueryWithin_of_other hn hbinary hconditional hreference]

/-! ## What a failed search leaves behind -/

/-- Nothing that the value of the expression may be is unsafe, and everything that it refers to is in the
list. -/
def Exhausted (u : CompilationUnit) (seen : List (Nat × Nat × String)) (n : NodeId) : Prop :=
  ∀ m, MayYield u.tree n m →
    ¬ LooksUnsafe u m ∧ ∀ s c, RefersTo u m s c → u.tree.key s.declaration ∈ seen

/-- The initialisers of all declarations in the second list are exhausted, up to those of the first. -/
def Explored (u : CompilationUnit) (seen seen' : List (Nat × Nat × String)) : Prop :=
  ∀ d c, u.tree.key d ∈ seen' → u.tree.field? d "value" = some c →
    u.tree.key d ∈ seen ∨ Exhausted u seen' c

theorem Exhausted.mono (h : Exhausted u seen n) (hseen : seen ⊆ seen') : Exhausted u seen' n := by
  intro m hm
  exact ⟨(h m hm).1, fun s c hs => hseen ((h m hm).2 s c hs)⟩

theorem Explored.refl (u : CompilationUnit) (seen : List (Nat × Nat × String)) : Explored u seen seen :=
  fun _ _ hd _ => .inl hd

/-- Two searches, one after the other, explore what the second leaves behind. -/
theorem Explored.trans {seen'' : List (Nat × Nat × String)} (h : Explored u seen seen')
    (h' : Explored u seen' seen'') (hseen : seen' ⊆ seen'') : Explored u seen seen'' := by
  intro d c hd hc
  rcases h' d c hd hc with hold | hexhausted
  · exact (h d c hold hc).imp_right fun hexhausted => hexhausted.mono hseen
  · exact .inr hexhausted

/-- Parentheses are passed, so only what stands inside them matters. -/
theorem isParen_or_of_mayYield {t : SyntaxTree} {m : Nat} (h : MayYield t n m) :
    t.isParen m = true ∨ ∃ e, t.unwrap n = some e ∧ MayYield t e m := by
  induction h with
  | refl n =>
    cases hn : t.isParen n with
    | true => exact .inl rfl
    | false => exact .inr ⟨n, unwrap_of_not_isParen hn, .refl n⟩
  | paren he hc _ ih =>
    rw [unwrap_of_isParen he, hc]
    exact ih
  | @branch e _ _ he hc rest _ =>
    have hparen : t.isParen e = false := by
      rw [isParen, beq_iff_eq.1 he]
      decide
    exact .inr ⟨e, unwrap_of_not_isParen hparen, .branch he hc rest⟩

theorem exhausted_of_unwrap (h : ∀ e, u.tree.unwrap n = some e → Exhausted u seen e) :
    Exhausted u seen n := by
  intro m hm
  rcases isParen_or_of_mayYield hm with hparen | ⟨e, hn, hyield⟩
  · have htype := isParen_iff.1 hparen
    constructor
    · rintro ⟨hbinary, -⟩
      rw [htype] at hbinary
      exact absurd hbinary (by decide)
    · intro s c hs
      have href := hs.isReference
      rw [isA, htype] at href
      exact absurd href (by decide)
  · exact h e hn m hyield

theorem exhausted_of_conditional (he : u.tree.isConditional e = true)
    (h : ∀ c, u.tree.field? e "consequence" = some c ∨ u.tree.field? e "alternative" = some c →
      Exhausted u seen c) : Exhausted u seen e := by
  have htype : u.tree.type e = "ternary_expression" := beq_iff_eq.1 he
  intro m hm
  cases hm with
  | refl =>
    constructor
    · rintro ⟨hbinary, -⟩
      rw [htype] at hbinary
      exact absurd hbinary (by decide)
    · intro s c hs
      exact absurd htype (type_ne_of_isReference hs.isReference).2
  | paren hparen =>
    rw [isParen_iff.1 hparen] at htype
    exact absurd htype (by decide)
  | branch _ hc rest => exact h _ hc m rest

/-- An expression that is neither in parentheses nor a conditional is exhausted if it looks safe and what it
refers to has been followed. -/
theorem exhausted_of_leaf (hparen : u.tree.isParen e = false)
    (hconditional : u.tree.isConditional e = false) (hsafe : ¬ LooksUnsafe u e)
    (hrefs : ∀ s c, RefersTo u e s c → u.tree.key s.declaration ∈ seen) : Exhausted u seen e := by
  intro m hm
  cases hm with
  | refl => exact ⟨hsafe, hrefs⟩
  | paren h =>
    rw [hparen] at h
    cases h
  | branch h =>
    rw [hconditional] at h
    cases h

/-- A declaration whose initialiser is exhausted can be added to the list. -/
theorem Explored.cons (hkeys : u.tree.DistinctKeys) (hs : RefersTo u e s c)
    (h : Explored u (u.tree.key s.declaration :: seen) seen') (hc : Exhausted u seen' c) :
    Explored u seen seen' := by
  have hvalue := CompilationUnit.initializer_of_reference? hs.reference? hs.initializer
  intro d c' hd hc'
  rcases h d c' hd hc' with hold | hexhausted
  · rcases List.mem_cons.1 hold with hkey | hold
    · -- no other declaration has the key, so the initialiser is the one that was searched
      have hlt := lt_of_field? hc'
      have hlt' := lt_of_field? hvalue
      obtain rfl := hkeys d (Nat.lt_trans hlt.1 hlt.2) _ (Nat.lt_trans hlt'.1 hlt'.2) hkey
      rw [hvalue] at hc'
      exact .inr (Option.some.inj hc' ▸ hc)
    · exact .inl hold
  · exact .inr hexhausted

/-- A search that fails without being cut off leaves a closed list of declarations behind. -/
theorem exhausted_of_unsafeQueryWithin (hkeys : u.tree.DistinctKeys)
    (hcut : ¬ IsCutOff u ⟨depth, seen, n⟩) (h : (unsafeQueryWithin u depth seen n).1 = false) :
    Exhausted u (unsafeQueryWithin u depth seen n).2 n ∧
      Explored u seen (unsafeQueryWithin u depth seen n).2 := by
  induction depth generalizing seen n with
  | zero =>
    have hn := unwrap_of_not_isCutOff hcut
    refine ⟨exhausted_of_unwrap fun e he => ?_, Explored.refl u seen⟩
    rw [hn] at he
    cases he
  | succ depth ih =>
    -- it is enough to look at the expression inside the parentheses
    have hinside : ∀ {e seen'}, u.tree.unwrap n = some e → Exhausted u seen' e → Exhausted u seen' n := by
      intro e seen' hn he
      refine exhausted_of_unwrap fun e' he' => ?_
      rw [hn] at he'
      exact Option.some.inj he' ▸ he
    have hbranch : ∀ {seen branch}, (∀ c, branch = some c → ¬ IsCutOff u ⟨depth, seen, c⟩) →
        (withinBranch u depth seen branch).1 = false →
          (∀ c, branch = some c → Exhausted u (withinBranch u depth seen branch).2 c) ∧
            Explored u seen (withinBranch u depth seen branch).2 := by
      intro seen branch hcut h
      cases branch with
      | none => exact ⟨fun c hc => (nomatch hc), Explored.refl u seen⟩
      | some c =>
        obtain ⟨hexhausted, hexplored⟩ := ih (hcut c rfl) h
        exact ⟨fun c' hc' => Option.some.inj hc' ▸ hexhausted, hexplored⟩
    cases shape u.tree n with
    | empty hn =>
      rw [unsafeQueryWithin_of_empty hn]
      refine ⟨exhausted_of_unwrap fun e he => ?_, Explored.refl u seen⟩
      rw [hn] at he
      cases he
    | binary e hn he =>
      rw [unsafeQueryWithin_of_binary hn he] at h ⊢
      refine ⟨hinside hn (exhausted_of_leaf (not_isParen_of_unwrap hn) ?_ ?_ ?_), Explored.refl u seen⟩
      · rw [isConditional, he]
        decide
      · rintro ⟨-, hunsafe⟩
        exact Bool.false_ne_true (h.symm.trans hunsafe)
      · intro s c hs
        exact absurd he (type_ne_of_isReference hs.isReference).1
    | conditional e hn he =>
      rw [unsafeQueryWithin_of_conditional hn he] at h ⊢
      have hnot : (withinBranch u depth seen (u.tree.field? e "consequence")).1 = false := by
        split at h
        · assumption
        · next hnot => exact Bool.eq_false_iff.2 hnot
      rw [if_neg (Bool.eq_false_iff.1 hnot)] at h ⊢
      obtain ⟨hfirst, hexplored⟩ :=
        hbranch (fun c hc => not_isCutOff_of_makes hcut (.consequence hn he hc)) hnot
      obtain ⟨hsecond, hexplored'⟩ :=
        hbranch (fun c hc => not_isCutOff_of_makes hcut (.alternative hn he hnot hc)) h
      have hseen := subset_withinBranch (subset_unsafeQueryWithin u depth)
        (withinBranch u depth seen (u.tree.field? e "consequence")).2 (u.tree.field? e "alternative")
      refine ⟨hinside hn (exhausted_of_conditional he ?_), hexplored.trans hexplored' hseen⟩
      rintro c (hc | hc)
      · exact (hfirst c hc).mono hseen
      · exact hsecond c hc
    | reference e hn he =>
      have hconditional : u.tree.isConditional e = false :=
        beq_eq_false_iff_ne.2 (type_ne_of_isReference he).2
      have hsafe : ¬ LooksUnsafe u e := fun hunsafe => (type_ne_of_isReference he).1 hunsafe.1
      rcases followed_or_passed u e seen with ⟨s, c, hs, hnew⟩ | hpassed
      · rw [unsafeQueryWithin_of_refersTo hn hs hnew] at h ⊢
        obtain ⟨hexhausted, hexplored⟩ := ih (not_isCutOff_of_makes hcut (.initializer hn hs hnew)) h
        refine ⟨hinside hn (exhausted_of_leaf (not_isParen_of_unwrap hn) hconditional hsafe ?_),
          hexplored.cons hkeys hs hexhausted⟩
        intro s' c' hs'
        have heq : s' = s := Option.some.inj (hs'.reference?.symm.trans hs.reference?)
        rw [heq]
        exact subset_unsafeQueryWithin u depth _ c List.mem_cons_self
      · rw [unsafeQueryWithin_of_reference hn he hpassed]
        exact ⟨hinside hn (exhausted_of_leaf (not_isParen_of_unwrap hn) hconditional hsafe hpassed),
          Explored.refl u seen⟩
    | other e hn hbinary hconditional hreference =>
      rw [unsafeQueryWithin_of_other hn hbinary hconditional hreference]
      refine ⟨hinside hn (exhausted_of_leaf (not_isParen_of_unwrap hn) hconditional ?_ ?_),
        Explored.refl u seen⟩
      · exact fun hunsafe => hbinary hunsafe.1
      · intro s c hs
        rw [hs.isReference] at hreference
        cases hreference

/-- A closed list of declarations cannot be left, so nothing unsafe is reached. -/
theorem not_looksUnsafe_of_reaches {b : Nat} (hexplored : Explored u [] seen) (he : Exhausted u seen e)
    (hreach : Reaches u e b) : ¬ LooksUnsafe u b := by
  have hb : Exhausted u seen b := by
    induction hreach with
    | refl => exact he
    | tail _ hstep ih =>
      cases hstep with
      | paren hparen hc => exact fun m hm => ih m (.paren hparen hc hm)
      | branch hconditional hc => exact fun m hm => ih m (.branch hconditional hc hm)
      | initializer hs =>
        have hkey := (ih _ (.refl _)).2 _ _ hs
        have hvalue := CompilationUnit.initializer_of_reference? hs.reference? hs.initializer
        exact (hexplored _ _ hkey hvalue).resolve_left List.not_mem_nil
  exact (hb b (.refl b)).1

/-- The search for an unsafe query ends by itself, even if initialisers refer to each other in a circle: the
number of conditionals, once for each initialised declaration and once more, is as deep as it goes, and
levels beyond that do not change its answer. If it finds something, then an unsafe concatenation can be
reached through parentheses, branches and initialisers. If one can be reached, the search finds something
unless it is cut off, although the branches of a conditional share one list of the declarations that were
followed. -/
theorem unsafe_query_found_iff_reached (hkeys : u.tree.DistinctKeys) (e : NodeId) :
    let levels := (u.tree.unfollowed [] + 1) * (u.tree.conditionalsFrom 0 + 1)
    (∀ depth, levels ≤ depth → ¬ IsCutOff u ⟨depth, [], e⟩ ∧
        unsafeQueryWithin u depth [] e = unsafeQueryWithin u levels [] e) ∧
      (isUnsafeQuery u e = true → ∃ b, Reaches u e b ∧ LooksUnsafe u b) ∧
      (¬ IsCutOff u ⟨classifierDepth, [], e⟩ → (∃ b, Reaches u e b ∧ LooksUnsafe u b) →
        isUnsafeQuery u e = true) := by
  intro levels
  -- between two initialisers the search goes down the tree, and it follows each of them once
  have hends : ∀ depth, levels ≤ depth → ¬ IsCutOff u ⟨depth, [], e⟩ := by
    intro depth hdepth
    refine not_isCutOff_of_weight_lt (Nat.lt_of_lt_of_le ?_ hdepth)
    have hexpr : u.tree.conditionalsFrom e ≤ u.tree.conditionalsFrom 0 := conditionalsFrom_mono (Nat.zero_le e)
    have hlevels : levels = u.tree.unfollowed [] * (u.tree.conditionalsFrom 0 + 1) +
        (u.tree.conditionalsFrom 0 + 1) := Nat.succ_mul _ _
    rw [hlevels]
    exact Nat.add_lt_add_left (Nat.lt_succ_of_le hexpr) _
  refine ⟨fun depth hdepth => ⟨hends depth hdepth, ?_⟩, reaches_of_unsafeQueryWithin, ?_⟩
  · exact unsafeQueryWithin_of_le (hends levels (Nat.le_refl _)) hdepth
  · rintro hcut ⟨b, hreach, hb⟩
    by_contra hnot
    obtain ⟨hexhausted, hexplored⟩ :=
      exhausted_of_unsafeQueryWithin hkeys hcut (Bool.eq_false_iff.2 hnot)
    exact not_looksUnsafe_of_reaches hexplored hexhausted hreach hb

/-! ### Two variables that refer to each other -/

/-- A block with the declaration of two variables, each of which has the other in its initialiser, and a call
with one of them. -/
def circularQuery : CompilationUnit :=
  .ofTree "A.java" (.ofNodes "\x7bT a=b,b=c?a:\"from\"+x;f(a);\x7d" #[
    ⟨none, "program", true, false, 0, 28, none⟩,
    ⟨some 0, "block", true, false, 0, 28, none⟩,
    ⟨some 1, "\x7b", false, false, 0, 1, none⟩,
    ⟨some 1, "local_variable_declaration", true, false, 1, 22, none⟩,
    ⟨some 3, "type_identifier", true, false, 1, 2, some "type"⟩,
    ⟨some 3, "variable_declarator", true, false, 3, 6, some "declarator"⟩,
    ⟨some 5, "identifier", true, false, 3, 4, some "name"⟩,
    ⟨some 5, "=", false, false, 4, 5, none⟩,
    ⟨some 5, "identifier", true, false, 5, 6, some "value"⟩,
    ⟨some 3, ",", false, false, 6, 7, none⟩,
    ⟨some 3, "variable_declarator", true, false, 7, 21, some "declarator"⟩,
    ⟨some 10, "identifier", true, false, 7, 8, some "name"⟩,
    ⟨some 10, "=", false, false, 8, 9, none⟩,
    ⟨some 10, "ternary_expression", true, false, 9, 21, some "value"⟩,
    ⟨some 13, "identifier", true, false, 9, 10, some "condition"⟩,
    ⟨some 13, "?", false, false, 10, 11, none⟩,
    ⟨some 13, "identifier", true, false, 11, 12, some "consequence"⟩,
    ⟨some 13, ":", false, false, 12, 13, none⟩,
    ⟨some 13, "binary_expression", true, false, 13, 21, some "alternative"⟩,
    ⟨some 18, "string_literal", true, false, 13, 19, some "left"⟩,
    ⟨some 19, "\"", false, false, 13, 14, none⟩,
    ⟨some 19, "string_fragment", true, false, 14, 18, none⟩,
    ⟨some 19, "\"", false, false, 18, 19, none⟩,
    ⟨some 18, "+", false, false, 19, 20, some "operator"⟩,
    ⟨some 18, "identifier", true, false, 20, 21, some "right"⟩,
    ⟨some 3, ";", false, false, 21, 22, none⟩,
    ⟨some 1, "expression_statement", true, false, 22, 27, none⟩,
    ⟨some 26, "method_invocation", true, false, 22, 26, none⟩,
    ⟨some 27, "identifier", true, false, 22, 23, some "name"⟩,
    ⟨some 27, "argument_list", true, false, 23, 26, some "arguments"⟩,
    ⟨some 29, "(", false, false, 23, 24, none⟩,
    ⟨some 29, "identifier", true, false, 24, 25, none⟩,
    ⟨some 29, ")", false, false, 25, 26, none⟩,
    ⟨some 26, ";", false, false, 26, 27, none⟩,
    ⟨some 1, "\x7d", false, false, 27, 28, none⟩])

/-- One step of the search from a use of a variable to its initialiser. -/
theorem circularQuery_leads {n c d : Nat} (href : circularQuery.tree.isA n referenceTypes = true)
    (h : ((circularQuery.reference? n).map fun s => (s.declaration, s.initializer)) = some (d, some c)) :
    Leads circularQuery n c := by
  obtain ⟨s, hs, hpair⟩ := Option.map_eq_some_iff.1 h
  exact .initializer ⟨href, hs, (Prod.mk.inj hpair).2⟩

/-- The argument of the call leads into a circle and to an unsafe concatenation, which the search finds. -/
theorem circularQuery_found :
    let u := circularQuery
    u.tree.DistinctKeys ∧ ¬ IsCutOff u ⟨classifierDepth, [], 31⟩ ∧ Reaches u 31 8 ∧
      Relation.TransGen (Leads u) 8 8 ∧ (∃ b, Reaches u 8 b ∧ LooksUnsafe u b) ∧
      isUnsafeQuery u 31 = true := by
  intro u
  have hkeys : u.tree.DistinctKeys := .of_nodup (by decide)
  obtain ⟨hlevels, hrefs, hbranches, hunsafe⟩ :
      (u.tree.unfollowed [] + 1) * (u.tree.conditionalsFrom 0 + 1) ≤ classifierDepth ∧
      (∀ ref ∈ [(31, 5, 8), (8, 10, 13), (16, 5, 8)], u.tree.isA ref.1 referenceTypes = true ∧
        ((u.reference? ref.1).map fun s => (s.declaration, s.initializer)) = some (ref.2.1, some ref.2.2)) ∧
      (u.tree.isConditional 13 = true ∧ u.tree.field? 13 "consequence" = some 16 ∧
        u.tree.field? 13 "alternative" = some 18) ∧
      u.tree.type 18 = "binary_expression" ∧ u.concatenates keywords 18 = true := by
    decide +kernel
  have hcut := ((unsafe_query_found_iff_reached hkeys 31).1 classifierDepth hlevels).1
  have hleads : ∀ ref ∈ [(31, 5, 8), (8, 10, 13), (16, 5, 8)], Leads u ref.1 ref.2.2 := fun ref href =>
    circularQuery_leads (hrefs ref href).1 (hrefs ref href).2
  have hfirst : Leads u 31 8 := hleads (31, 5, 8) (by decide)
  have hsecond : Leads u 8 13 := hleads (8, 10, 13) (by decide)
  have hback : Leads u 16 8 := hleads (16, 5, 8) (by decide)
  have hconsequence : Leads u 13 16 := .branch hbranches.1 (.inl hbranches.2.1)
  have halternative : Leads u 13 18 := .branch hbranches.1 (.inr hbranches.2.2)
  have hreach : Reaches u 8 18 := .head hsecond (.single halternative)
  have hcircle : Relation.TransGen (Leads u) 8 8 := .head hsecond (.head hconsequence (.single hback))
  exact ⟨hkeys, hcut, .single hfirst, hcircle, ⟨18, hreach, hunsafe⟩,
    (unsafe_query_found_iff_reached hkeys 31).2.2 hcut ⟨18, .head hfirst hreach, hunsafe⟩⟩

end Rule.SqlInjection

end JavaAudit
