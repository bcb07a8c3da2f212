import JavaAudit.Audit.Walk
import JavaAudit.Proofs.Ancestry

/-!
# The nodes that a walk visits

A walk from a node visits the node, then what is below its first part, then what is below the second
one, and so on. It turns back at a node that the parser could not make sense of (`preorder`). It comes
to exactly the nodes that a chain of parts leads to without meeting such a node (`mem_preorder_iff`),
and to each of them once (`nodup_preorder`), since the subtrees of two parts share no node.
-/

namespace JavaAudit.SyntaxTree

variable {t : SyntaxTree} {n m : Nat}

/-- The nodes that a walk from a node visits, in the order of the visits. -/
def preorder (t : SyntaxTree) (n : NodeId) : List NodeId :=
  if t.isError n then [] else n :: (t.parts n).attach.flatMap fun ⟨c, _h⟩ => preorder t c
termination_by t.size - n
decreasing_by
  have := lt_of_mem_parts _h
  omega

/-- A node that the parser could not read is left out, with all that is below it. -/
theorem preorder_of_isError (h : t.isError n = true) : t.preorder n = [] := by
  rw [preorder, if_pos h]

theorem preorder_of_not_isError (h : t.isError n = false) :
    t.preorder n = n :: (t.parts n).flatMap t.preorder := by
  rw [preorder, h]
  simp only [Bool.false_eq_true, if_false, List.flatMap_subtype, List.unattach_attach]

/-- A chain of parts leads from the first node to the second one and meets no node that the parser
could not make sense of, the two ends included. -/
inductive Visits (t : SyntaxTree) (top : NodeId) : NodeId → Prop where
  | top (h : t.isError top = false) : Visits t top top
  | part {n c : NodeId} (h : Visits t top n) (hc : c ∈ t.parts n) (herr : t.isError c = false) :
      Visits t top c

theorem Visits.head {c : Nat} (hn : t.isError n = false) (hc : c ∈ t.parts n) (h : Visits t c m) :
    Visits t n m := by
  induction h with
  | top herr => exact .part (.top hn) hc herr
  | part _ hpart herr ih => exact .part ih hpart herr

/-! ## What is visited -/

theorem mem_preorder_self (h : t.isError n = false) : n ∈ t.preorder n := by
  rw [preorder_of_not_isError h]
  exact List.mem_cons_self

/-- A walk that visits a node goes on to its parts. -/
theorem mem_preorder_of_part {c : Nat} (h : m ∈ t.preorder n) (hc : c ∈ t.parts m)
    (herr : t.isError c = false) : c ∈ t.preorder n := by
  induction n using parts_induction (t := t) with
  | step n ih =>
    cases hn : t.isError n with
    | true =>
      rw [preorder_of_isError hn] at h
      cases h
    | false =>
      rw [preorder_of_not_isError hn] at h ⊢
      refine List.mem_cons_of_mem n (List.mem_flatMap.2 ?_)
      rcases List.mem_cons.1 h with rfl | h
      · exact ⟨c, hc, mem_preorder_self herr⟩
      · obtain ⟨d, hd, hm⟩ := List.mem_flatMap.1 h
        exact ⟨d, hd, ih d hd hm⟩

/-- The nodes in preorder are those that can be reached without passing an error. -/
theorem mem_preorder_iff : m ∈ t.preorder n ↔ Visits t n m := by
  constructor
  · intro h
    induction n using parts_induction (t := t) with
    | step n ih =>
      cases hn : t.isError n with
      | true =>
        rw [preorder_of_isError hn] at h
        cases h
      | false =>
        rw [preorder_of_not_isError hn] at h
        rcases List.mem_cons.1 h with rfl | h
        · exact .top hn
        · obtain ⟨c, hc, hm⟩ := List.mem_flatMap.1 h
          exact .head hn hc (ih c hc hm)
  · intro h
    induction h with
    | top herr => exact mem_preorder_self herr
    | part _ hc herr ih => exact mem_preorder_of_part ih hc herr

/-! ## Once each -/

/-- Only nodes below the first one are visited. -/
theorem mem_ancestors_of_visits (h : Visits t n m) : n ∈ m :: t.ancestors m := by
  induction h with
  | top => exact List.mem_cons_self
  | part _ hc _ ih =>
    refine List.mem_cons_of_mem _ ?_
    rw [ancestors_of_parent? (parent?_of_mem_parts hc)]
    exact ih

/-- What is above a visited node is visited before it. -/
theorem Visits.of_mem_ancestors {a : Nat} (h : t.Visits root n) (ha : a ∈ t.ancestors n) :
    t.Visits root a := by
  induction h with
  | top => exact absurd (lt_of_mem_ancestors ha) (Nat.not_lt_zero a)
  | part hp hc _ ih =>
    rw [ancestors_of_parent? (parent?_of_mem_parts hc)] at ha
    rcases List.mem_cons.1 ha with rfl | ha
    · exact hp
    · exact ih ha

/-- Walks from two parts of a node never meet. -/
theorem ne_of_visits {c d a b : Nat} (hc : c ∈ t.parts n) (hd : d ∈ t.parts n) (hcd : c < d)
    (ha : Visits t c a) (hb : Visits t d b) : a ≠ b := by
  rintro rfl
  have hcn := parent?_of_mem_parts hc
  have hdn := parent?_of_mem_parts hd
  rcases mem_ancestors_total (mem_ancestors_of_visits ha) (mem_ancestors_of_visits hb) with h | h | h
  · exact Nat.ne_of_lt hcd h
  · exact not_mem_ancestors_of_sibling hcn hdn h
  · exact not_mem_ancestors_of_sibling hdn hcn h

/-- No node is visited twice. -/
theorem nodup_preorder (t : SyntaxTree) (n : Nat) : (t.preorder n).Nodup := by
  induction n using parts_induction (t := t) with
  | step n ih =>
    cases hn : t.isError n with
    | true =>
      rw [preorder_of_isError hn]
      exact List.nodup_nil
    | false =>
      rw [preorder_of_not_isError hn]
      -- no node is below itself, and the walks from two parts stay apart
      refine List.nodup_cons.2 ⟨?_, List.pairwise_flatMap.2 ⟨ih, ?_⟩⟩
      · intro h
        obtain ⟨c, hc, hm⟩ := List.mem_flatMap.1 h
        have hlt := (lt_of_mem_parts hc).1
        rcases List.mem_cons.1 (mem_ancestors_of_visits (mem_preorder_iff.1 hm)) with heq | habove
        · exact Nat.ne_of_gt hlt heq
        · exact Nat.lt_asymm hlt (lt_of_mem_ancestors habove)
      · refine (t.pairwise_parts n).imp_of_mem fun hc hd hcd a ha b hb => ?_
        exact ne_of_visits hc hd hcd (mem_preorder_iff.1 ha) (mem_preorder_iff.1 hb)

end JavaAudit.SyntaxTree
