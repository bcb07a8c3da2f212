import Mathlib.Data.String.Basic
import JavaAudit.Proofs.Ancestry
import JavaAudit.Text.LetterCase
import JavaAudit.Text.Search

/-!
# A word in the text of a node is in the text of every node around it

Two facts meet here. The text of a node is a stretch of the text of its parent, provided that nodes
cover whole characters and lie inside their parents (`text_infix_of_parent?`). And lower case is taken
letter by letter, so that a stretch of a text keeps its lower-case form in the lower-case form of the
whole, with one exception: a capital sigma looks at its surroundings. A word without sigma does not
notice, which gives `contains_lower_of_infix`.
-/

namespace JavaAudit

namespace Text

/-- A text occurs in another one if it is a part of it. -/
theorem occursIn_iff {needle hay : List Char} : occursIn needle hay = true ↔ needle <:+: hay := by
  induction hay with
  | nil => simp [occursIn]
  | cons c cs ih => rw [occursIn, Bool.or_eq_true, ih, List.isPrefixOf_iff_prefix, List.infix_cons_iff]

/-! ## Lower case, the two small sigmas taken for one -/

/-- The final sigma taken for the other one. -/
def mergeSigma (c : Char) : Char := if c = 'ς' then 'σ' else c

/-- The lower-case form of a character wherever it stands, the two small sigmas taken for one. -/
def lowerAnywhere (c : Char) : List Char :=
  if c = 'Σ' then ['σ'] else (lowerChar c).map mergeSigma

/-- Once the sigmas are merged, the surroundings of a character do not matter. -/
theorem map_mergeSigma_lowerAfter (before cs : List Char) :
    (lowerAfter before cs).map mergeSigma = cs.flatMap lowerAnywhere := by
  induction cs generalizing before with
  | nil => rfl
  | cons c cs ih =>
    rw [lowerAfter, List.map_append, ih, List.flatMap_cons]
    congr 1
    unfold lowerAnywhere
    split
    · split <;> rfl
    · rfl

theorem mergeSigma_eq_self {c : Char} (h : mergeSigma c ≠ 'σ') : mergeSigma c = c := by
  unfold mergeSigma at h ⊢
  split
  · next hc =>
    rw [if_pos hc] at h
    exact absurd rfl h
  · rfl

/-- Neither form of the small sigma occurs. -/
def SigmaFree (cs : List Char) : Prop := 'σ' ∉ cs ∧ 'ς' ∉ cs

theorem map_mergeSigma_of_sigmaFree {cs : List Char} (h : SigmaFree cs) :
    cs.map mergeSigma = cs := by
  conv => rhs; rw [← List.map_id cs]
  refine List.map_congr_left fun c hc => ?_
  have hfinal : c ≠ 'ς' := fun heq => h.2 (heq ▸ hc)
  exact if_neg hfinal

/-- A word without sigma that stands in a text with merged sigmas stands in the text itself. -/
theorem infix_of_infix_map_mergeSigma {needle cs : List Char} (hn : SigmaFree needle)
    (h : needle <:+: cs.map mergeSigma) : needle <:+: cs := by
  obtain ⟨before, after, hsplit⟩ := h
  obtain ⟨front, back, rfl, hfront, -⟩ := List.map_eq_append_iff.1 hsplit.symm
  obtain ⟨first, middle, rfl, -, hmiddle⟩ := List.map_eq_append_iff.1 hfront
  have hsame : middle.map mergeSigma = middle.map id := by
    refine List.map_congr_left fun c hc => mergeSigma_eq_self fun hsigma => hn.1 ?_
    rw [← hmiddle, ← hsigma]
    exact List.mem_map_of_mem hc
  rw [List.map_id, hmiddle] at hsame
  rw [hsame]
  exact ⟨first, back, rfl⟩

/-- A word without sigma that stands in the lower-case form of a text stands in the lower-case form of
every text around it. -/
theorem contains_lower_of_infix {needle a b : String} (hn : SigmaFree needle.toList)
    (hab : a.toList <:+: b.toList) (h : contains (lower a) needle = true) :
    contains (lower b) needle = true := by
  simp only [contains, lower, occursIn_iff, String.toList_ofList] at h ⊢
  have hinner : needle.toList <:+: a.toList.flatMap lowerAnywhere := by
    rw [← map_mergeSigma_lowerAfter [], ← map_mergeSigma_of_sigmaFree hn]
    exact h.map mergeSigma
  have houter : needle.toList <:+: b.toList.flatMap lowerAnywhere := by
    obtain ⟨front, back, hb⟩ := hab
    rw [← hb, List.flatMap_append, List.flatMap_append]
    exact hinner.trans ⟨_, _, rfl⟩
  rw [← map_mergeSigma_lowerAfter []] at houter
  exact infix_of_infix_map_mergeSigma hn houter

end Text

/-! ## Ranges of nodes -/

namespace SyntaxTree

/-- Nodes cover whole characters, and children lie inside their parents. -/
structure WellNested (t : SyntaxTree) : Prop where
  start_isValid : ∀ n < t.size, String.Pos.Raw.IsValid t.source ⟨t.start n⟩
  stop_isValid : ∀ n < t.size, String.Pos.Raw.IsValid t.source ⟨t.stop n⟩
  start_le : ∀ n p, t.parent? n = some p → t.start p ≤ t.start n
  stop_le : ∀ n p, t.parent? n = some p → t.stop n ≤ t.stop p

/-- Of two initial stretches of a text, the one with fewer bytes is an initial stretch of the other. -/
theorem prefix_of_utf8Len_le {a b cs : List Char} (ha : a <+: cs) (hb : b <+: cs)
    (h : String.utf8Len a ≤ String.utf8Len b) : a <+: b := by
  rcases List.prefix_or_prefix_of_prefix ha hb with hab | ⟨rest, rfl⟩
  · exact hab
  · rw [String.utf8Len_append] at h
    have hrest : rest = [] := String.utf8Len_eq_zero.1 (by omega)
    exact ⟨[], by rw [hrest, List.append_nil, List.append_nil]⟩

/-- An offset on a character boundary cuts a text in two. -/
theorem exists_prefix_of_isValid {s : String} {offset : Nat}
    (h : String.Pos.Raw.IsValid s ⟨offset⟩) :
    ∃ before, before <+: s.toList ∧ String.utf8Len before = offset := by
  obtain ⟨i, hi⟩ := String.Pos.Raw.isValid_iff_exists_take_toList.1 h
  rw [String.utf8ByteSize_ofList] at hi
  exact ⟨s.toList.take i, List.take_prefix i s.toList, hi.symm⟩

/-- A stretch between character boundaries with the two initial stretches that it lies between. -/
theorem exists_extract_eq {s : String} {first last : Nat} (hle : first ≤ last)
    (hfirst : String.Pos.Raw.IsValid s ⟨first⟩) (hlast : String.Pos.Raw.IsValid s ⟨last⟩) :
    ∃ before middle, before ++ middle <+: s.toList ∧ String.utf8Len before = first ∧
      String.utf8Len (before ++ middle) = last ∧
      (String.Pos.Raw.extract s ⟨first⟩ ⟨last⟩).toList = middle := by
  obtain ⟨before, hbefore, hfirst⟩ := exists_prefix_of_isValid hfirst
  obtain ⟨upto, hupto, hlast⟩ := exists_prefix_of_isValid hlast
  obtain ⟨middle, rfl⟩ := prefix_of_utf8Len_le hbefore hupto (by omega)
  obtain ⟨after, hs⟩ := hupto
  refine ⟨before, middle, ⟨after, hs⟩, hfirst, hlast, ?_⟩
  have hs' : s = String.ofList (before ++ middle ++ after) := by rw [hs, String.ofList_toList]
  rw [hs', ← hlast, ← hfirst, String.utf8Len_append, String.extract_of_valid, String.toList_ofList]

variable {t : SyntaxTree} {n p : Nat}

theorem text_eq_empty (h : t.stop n ≤ t.start n) : t.text n = "" := by
  unfold text String.Pos.Raw.extract
  exact if_pos h

/-- In a well nested tree the text of a node is part of its parent's. -/
theorem text_infix_of_parent? (ht : t.WellNested) (h : t.parent? n = some p) :
    (t.text n).toList <:+: (t.text p).toList := by
  have hn := lt_size_of_parent? h
  have hp : p < t.size := Nat.lt_trans (lt_of_parent? h) hn
  have hstart := ht.start_le n p h
  have hstop := ht.stop_le n p h
  rcases Nat.lt_or_ge (t.start n) (t.stop n) with hlt | hempty
  · obtain ⟨bn, mn, hprefixn, hbn, hmn, htextn⟩ := exists_extract_eq (Nat.le_of_lt hlt)
      (ht.start_isValid n hn) (ht.stop_isValid n hn)
    obtain ⟨bp, mp, hprefixp, hbp, hmp, htextp⟩ := exists_extract_eq (s := t.source)
      (by omega) (ht.start_isValid p hp) (ht.stop_isValid p hp)
    unfold text
    rw [htextn, htextp]
    -- the parent starts earlier and stops later, so its stretch splits around the child's
    obtain ⟨gap, rfl⟩ := prefix_of_utf8Len_le (a := bp) (b := bn)
      ((List.prefix_append bp mp).trans hprefixp) ((List.prefix_append bn mn).trans hprefixn)
      (by omega)
    have hinside := prefix_of_utf8Len_le hprefixn hprefixp (by omega)
    rw [List.append_assoc, List.prefix_append_right_inj] at hinside
    exact (List.suffix_append gap mn).isInfix.trans hinside.isInfix
  · rw [text_eq_empty hempty]
    exact List.nil_infix

end SyntaxTree

end JavaAudit
