import JavaAudit.TypeName.Erasure
import Mathlib.Data.List.TakeWhile
import Mathlib.Logic.Function.Iterate

/-!
# Passes over angle brackets

Type arguments are dropped in passes, each of which drops the pairs of angle brackets that have no bracket
inside.

1. Where the brackets of a text are nested (`Nested`), a pass keeps them nested and keeps what stands
   outside, and makes the text shorter as long as a pair is left (`Nested.dropInnermost`). So the passes
   end with what stands outside (`dropTypeArguments_of_nested`).
2. Over any text the passes end (`dropTypeArguments_eq_iterate`), and in what they leave no bracket closes
   behind one that opens (`not_mem_of_dropInnermost`).
-/

namespace JavaAudit.TypeName

/-! ## Nested brackets -/

/-- The angle brackets of the text are nested, and these characters stand outside of all of them. -/
inductive Nested : (text outside : List Char) → Prop where
  | nil : Nested [] []
  | char {c : Char} {text outside : List Char} (hc : isAngle c = false) (h : Nested text outside) :
      Nested (c :: text) (c :: outside)
  | group {inner hidden text outside : List Char} (hinner : Nested inner hidden)
      (h : Nested text outside) : Nested ('<' :: (inner ++ '>' :: text)) outside

theorem Nested.append_left {front text outside : List Char} (hfront : ∀ c ∈ front, isAngle c = false)
    (h : Nested text outside) : Nested (front ++ text) (front ++ outside) := by
  induction front with
  | nil => exact h
  | cons c front ih =>
    exact .char (hfront c List.mem_cons_self) (ih fun d hd => hfront d (List.mem_cons_of_mem c hd))

/-- No bracket is outside of all brackets. -/
theorem Nested.outside_plain {text outside : List Char} (h : Nested text outside) :
    ∀ c ∈ outside, isAngle c = false := by
  induction h with
  | nil => exact fun c hc => (nomatch hc)
  | char hc _ ih =>
    intro d hd
    rcases List.mem_cons.1 hd with rfl | hd
    · exact hc
    · exact ih d hd
  | group _ _ _ ih => exact ih

/-- The first bracket of a nested text opens. -/
theorem Nested.dropWhile {text outside : List Char} (h : Nested text outside) :
    text.dropWhile (fun c => !isAngle c) = [] ∨ ∃ rest, text.dropWhile (fun c => !isAngle c) = '<' :: rest := by
  induction h with
  | nil => exact .inl rfl
  | char hc _ ih => rwa [List.dropWhile_cons_of_pos (by simp [hc])]
  | group => exact .inr ⟨_, rfl⟩

/-! ## One pass over the brackets -/

theorem dropInnermost_cons {c : Char} (h : c ≠ '<') (cs : List Char) :
    dropInnermost (c :: cs) = c :: dropInnermost cs := by
  rw [dropInnermost]
  exact h

/-- A pair with no bracket inside goes. -/
theorem dropInnermost_pair {cs rest : List Char}
    (h : cs.dropWhile (fun c => !isAngle c) = '>' :: rest) :
    dropInnermost ('<' :: cs) = dropInnermost rest := by
  rw [dropInnermost]
  split
  · next rest' h' =>
    rw [h] at h'
    cases h'
    rfl
  · next hno => exact absurd h (hno rest)

/-- A bracket that is followed by another one that opens, or by none, stays. -/
theorem dropInnermost_open {cs : List Char}
    (h : ∀ rest, cs.dropWhile (fun c => !isAngle c) ≠ '>' :: rest) :
    dropInnermost ('<' :: cs) = '<' :: dropInnermost cs := by
  rw [dropInnermost]
  split
  · next rest' h' => exact absurd h' (h rest')
  · rfl

/-- A pass drops characters and moves none. -/
theorem dropInnermost_sublist (cs : List Char) : (dropInnermost cs).Sublist cs := by
  fun_induction dropInnermost cs with
  | case1 => exact .slnil
  | case2 cs rest hscan ih =>
    have hrest : rest.Sublist cs :=
      (List.sublist_cons_self '>' rest).trans (hscan ▸ List.dropWhile_sublist _)
    exact (ih.trans hrest).cons _
  | case3 cs _ ih => exact ih.cons_cons '<'
  | case4 c cs _ ih => exact ih.cons_cons c

/-! ## Passes over nested brackets -/

/-- A pair without a pair in it goes in one pass. -/
theorem dropInnermost_group_plain {inner : List Char} (h : ∀ c ∈ inner, isAngle c = false)
    (rest : List Char) : dropInnermost ('<' :: (inner ++ '>' :: rest)) = dropInnermost rest := by
  refine dropInnermost_pair ?_
  rw [List.dropWhile_append_of_pos fun c hc => by simp [h c hc]]
  rfl

/-- A pair with a pair in it is left for the next pass. -/
theorem dropInnermost_group_nested {inner hidden : List Char} (hinner : Nested inner hidden)
    (h : ¬ ∀ c ∈ inner, isAngle c = false) (rest : List Char) :
    dropInnermost ('<' :: (inner ++ '>' :: rest)) = '<' :: dropInnermost (inner ++ '>' :: rest) := by
  refine dropInnermost_open fun rest' => ?_
  rw [List.dropWhile_append]
  rcases hinner.dropWhile with hnil | ⟨back, hopen⟩
  · exact absurd (fun c hc => by simpa using List.dropWhile_eq_nil_iff.1 hnil c hc) h
  · rw [hopen]
    simp

/-- A pass over a nested text and what follows works on both apart. -/
theorem dropInnermost_append {text outside : List Char} (h : Nested text outside) (rest : List Char) :
    dropInnermost (text ++ rest) = dropInnermost text ++ dropInnermost rest := by
  induction h generalizing rest with
  | nil => rw [dropInnermost, List.nil_append, List.nil_append]
  | @char c text _ hc _ ih =>
    have hne : c ≠ '<' := by
      rintro rfl
      cases hc
    rw [List.cons_append, dropInnermost_cons hne, dropInnermost_cons hne, ih, List.cons_append]
  | @group inner _ text _ hinner _ ihinner ih =>
    -- an innermost group goes as a whole; of another one the groups inside it go
    have hassoc : '<' :: (inner ++ '>' :: text) ++ rest = '<' :: (inner ++ '>' :: (text ++ rest)) := by simp
    rw [hassoc]
    by_cases hplain : ∀ c ∈ inner, isAngle c = false
    · rw [dropInnermost_group_plain hplain, dropInnermost_group_plain hplain, ih]
    · have hclose : '>' ≠ '<' := by decide
      rw [dropInnermost_group_nested hinner hplain, dropInnermost_group_nested hinner hplain, ihinner,
        ihinner, dropInnermost_cons hclose, dropInnermost_cons hclose, ih]
      simp

/-- A pass keeps a text nested and keeps what stands outside, and drops something as long as there are
brackets. -/
theorem Nested.dropInnermost {text outside : List Char} (h : Nested text outside) :
    Nested (dropInnermost text) outside ∧
      (text = outside ∨ (TypeName.dropInnermost text).length < text.length) := by
  induction h with
  | nil => exact ⟨by rw [TypeName.dropInnermost]; exact .nil, .inl rfl⟩
  | @char c text outside hc _ ih =>
    have hne : c ≠ '<' := by
      rintro rfl
      cases hc
    rw [dropInnermost_cons hne]
    refine ⟨.char hc ih.1, ih.2.imp (congrArg (c :: ·)) fun hlt => ?_⟩
    simpa using hlt
  | @group inner hidden text _ hinner _ ihinner ih =>
    have hle := (dropInnermost_sublist text).length_le
    by_cases hplain : ∀ c ∈ inner, isAngle c = false
    · rw [dropInnermost_group_plain hplain]
      refine ⟨ih.1, .inr ?_⟩
      simp only [List.length_cons, List.length_append]
      omega
    · -- there is a bracket inside, so the pass drops something there
      have hshorter : (TypeName.dropInnermost inner).length < inner.length :=
        ihinner.2.resolve_left fun heq => hplain (heq ▸ hinner.outside_plain)
      rw [dropInnermost_group_nested hinner hplain, dropInnermost_append hinner,
        dropInnermost_cons (by decide)]
      refine ⟨.group ihinner.1 ih.1, .inr ?_⟩
      simp only [List.length_cons, List.length_append]
      omega

/-- Of a nested text exactly what stands outside of the brackets is left. -/
theorem dropTypeArguments_of_nested {text outside : List Char} (h : Nested text outside) :
    dropTypeArguments text = outside := by
  fun_induction dropTypeArguments text with
  | case1 text _ ih => exact ih h.dropInnermost.1
  | case2 text hend => exact h.dropInnermost.2.resolve_right hend

/-! ## The passes end -/

/-- Where a bracket closes, and the first one does not, an opening one comes before it. -/
theorem exists_open_of_mem {cs : List Char} (hmem : '>' ∈ cs)
    (h : ∀ rest, cs.dropWhile (fun c => !isAngle c) ≠ '>' :: rest) :
    ∃ front back, cs = front ++ '<' :: back ∧ '>' ∈ back := by
  induction cs with
  | nil => cases hmem
  | cons c cs ih =>
    cases hc : isAngle c with
    | false =>
      rw [List.dropWhile_cons_of_pos (by simp [hc])] at h
      have hmem' : '>' ∈ cs := (List.mem_cons.1 hmem).resolve_left (by rintro rfl; cases hc)
      obtain ⟨front, back, rfl, hback⟩ := ih hmem' h
      exact ⟨c :: front, back, rfl, hback⟩
    | true =>
      rw [List.dropWhile_cons_of_neg (by simp [hc])] at h
      have hne : c ≠ '>' := fun heq => h cs (heq ▸ rfl)
      have hopen : c = '<' := by simpa [isAngle, hne] using hc
      exact ⟨[], cs, by rw [hopen]; rfl, (List.mem_cons.1 hmem).resolve_left hne.symm⟩

/-- A pass that drops nothing finds no bracket that closes behind one that opens. -/
theorem not_mem_of_dropInnermost {cs front back : List Char} (h : dropInnermost cs = cs)
    (hsplit : cs = front ++ '<' :: back) : '>' ∉ back := by
  induction cs generalizing front back with
  | nil => exact absurd hsplit (by simp)
  | cons c cs ih =>
    by_cases hc : c = '<'
    · subst hc
      by_cases hpair : ∃ rest, cs.dropWhile (fun c => !isAngle c) = '>' :: rest
      · -- a pair would have been dropped
        obtain ⟨rest, hrest⟩ := hpair
        have hlength := congrArg List.length (dropInnermost_pair hrest ▸ h)
        have hle := (dropInnermost_sublist rest).length_le
        have hle' := (List.dropWhile_sublist (l := cs) fun c => !isAngle c).length_le
        rw [hrest] at hle'
        simp only [List.length_cons] at hlength hle'
        omega
      · have hfirst := fun rest heq => hpair ⟨rest, heq⟩
        rw [dropInnermost_open hfirst] at h
        have hcs := (List.cons.inj h).2
        cases front with
        | nil =>
          obtain rfl := (List.cons.inj hsplit).2
          intro hmem
          obtain ⟨front, back, rfl, hback⟩ := exists_open_of_mem hmem hfirst
          exact ih hcs rfl hback
        | cons d front => exact ih hcs (List.cons.inj hsplit).2
    · rw [dropInnermost_cons hc] at h
      cases front with
      | nil => exact absurd (List.cons.inj hsplit).1 hc
      | cons d front => exact ih (List.cons.inj h).2 (List.cons.inj hsplit).2

theorem dropTypeArguments_sublist (cs : List Char) : (dropTypeArguments cs).Sublist cs := by
  fun_induction dropTypeArguments cs with
  | case1 cs _ ih => exact ih.trans (dropInnermost_sublist cs)
  | case2 cs => exact List.Sublist.refl cs

/-- The passes end, after no more of them than there are characters, with the first text that a pass
leaves as it is. -/
theorem dropTypeArguments_eq_iterate (cs : List Char) :
    ∃ passes ≤ cs.length, dropTypeArguments cs = dropInnermost^[passes] cs ∧
      (∀ k < passes, dropInnermost^[k + 1] cs ≠ dropInnermost^[k] cs) ∧
      dropInnermost (dropTypeArguments cs) = dropTypeArguments cs := by
  fun_induction dropTypeArguments cs with
  | case1 cs hshorter ih =>
    obtain ⟨passes, hle, hresult, hbefore, hend⟩ := ih
    refine ⟨passes + 1, by omega, hresult, fun k hk => ?_, hend⟩
    cases k with
    | zero => exact fun heq => Nat.ne_of_lt hshorter (congrArg List.length heq)
    | succ k => exact hbefore k (Nat.lt_of_succ_lt_succ hk)
  | case2 cs hend =>
    refine ⟨0, Nat.zero_le _, rfl, fun k hk => absurd hk (Nat.not_lt_zero k), ?_⟩
    exact (dropInnermost_sublist cs).eq_of_length_le (Nat.le_of_not_lt hend)

end JavaAudit.TypeName
