import JavaAudit.Proofs.Reliability

/-!
# Messages in returned values

The rule on leaked exception messages looks from two sides: from a call up to the `return` statement
around it, and from a `return` statement down to the calls inside it. From below a method, a constructor
or a class body ends the way up. From above nothing ends the way down.

So the two sides agree on a `return` statement only up to such boundaries (`leaks_agree_up_to_boundaries`).
A call that fires inside the statement makes the statement fire, and every call that fires has a firing
statement around it. But a statement that fires has a firing call inside only if the message of one of its
calls gets out, and the method of an anonymous class keeps it in: there the statement fires although it
returns no message (`return_fires_without_call`).
-/

namespace JavaAudit

/-! ## Kinds of calls and statements -/

namespace SyntaxTree

variable {t : SyntaxTree} {n : Nat}

theorem kind?_of_type_eq_call (h : t.type n = "method_invocation") : t.kind? n = some .call := by
  unfold kind?
  rw [h]
  rfl

theorem kind?_of_type_eq_return (h : t.type n = "return_statement") : t.kind? n = some .returning := by
  unfold kind?
  rw [h]
  rfl

end SyntaxTree

namespace Rule.InformationLeak

open SyntaxTree

variable {u : CompilationUnit} {r c : Nat}

/-- A call somewhere inside a statement. -/
structure CallInside (t : SyntaxTree) (r c : NodeId) : Prop where
  named : t.isNamed c = true
  type : t.type c = "method_invocation"
  inside : r ∈ t.ancestors c

/-- On the way from a call up to a statement, a boundary comes before any `return` statement. -/
def CutOff (t : SyntaxTree) (r c : NodeId) : Prop :=
  ∃ b ∈ t.ancestors c, r ∈ t.ancestors b ∧ t.isA b returnBoundaries = true ∧
    ∀ a ∈ t.ancestors c, b ∈ t.ancestors a → t.type a ≠ "return_statement"

/-! ## From below -/

theorem not_isA_returnBoundaries {a : Nat} (h : u.tree.type a = "return_statement") :
    u.tree.isA a returnBoundaries = false := by
  rw [isA, h]
  decide

/-- A node is returned exactly if a `return` statement is the first such statement or boundary on the
way up. -/
theorem isReturned_iff :
    isReturned u c = true ↔ ∃ inner a outer, u.tree.ancestors c = inner ++ a :: outer ∧
      u.tree.type a = "return_statement" ∧
      ∀ b ∈ inner, u.tree.type b ≠ "return_statement" ∧ u.tree.isA b returnBoundaries = false := by
  unfold isReturned
  rw [Option.any_eq_true]
  constructor
  · rintro ⟨a, ha, htype⟩
    obtain ⟨-, inner, outer, hsplit, hinner⟩ := List.find?_eq_some_iff_append.1 ha
    refine ⟨inner, a, outer, hsplit, of_decide_eq_true htype, fun b hb => ?_⟩
    have hb' := hinner b hb
    simpa only [Bool.not_eq_true', Bool.or_eq_false_iff, decide_eq_false_iff_not] using hb'
  · rintro ⟨inner, a, outer, hsplit, htype, hinner⟩
    refine ⟨a, List.find?_eq_some_iff_append.2 ⟨by simp [htype], inner, outer, hsplit, fun b hb => ?_⟩,
      decide_eq_true htype⟩
    simpa using hinner b hb

/-- Inside a `return` statement, a node is returned unless a boundary cuts it off. -/
theorem isReturned_iff_not_cutOff (hr : u.tree.type r = "return_statement")
    (hc : r ∈ u.tree.ancestors c) : isReturned u c = true ↔ ¬ CutOff u.tree r c := by
  rw [isReturned_iff]
  constructor
  · rintro ⟨inner, a, outer, hsplit, htype, hinner⟩ ⟨b, hb, -, hbound, hfree⟩
    -- the boundary is not before the `return` statement, so the statement is between it and the call
    rw [hsplit, List.mem_append, List.mem_cons] at hb
    rcases hb with hb | rfl | hb
    · rw [(hinner b hb).2] at hbound
      cases hbound
    · rw [not_isA_returnBoundaries htype] at hbound
      cases hbound
    · rw [← ancestors_of_append hsplit] at hb
      have ha : a ∈ u.tree.ancestors c := by
        rw [hsplit]
        exact List.mem_append_right inner List.mem_cons_self
      exact hfree a ha hb htype
  · intro hcut
    -- the first stop on the way up exists, since the statement itself is one
    have hstop : ((u.tree.ancestors c).find? fun a =>
        u.tree.type a = "return_statement" || u.tree.isA a returnBoundaries).isSome = true :=
      List.find?_isSome.2 ⟨r, hc, by simp [hr]⟩
    obtain ⟨a, ha⟩ := Option.isSome_iff_exists.1 hstop
    obtain ⟨hstops, inner, outer, hsplit, hinner⟩ := List.find?_eq_some_iff_append.1 ha
    have hinner' : ∀ b ∈ inner,
        u.tree.type b ≠ "return_statement" ∧ u.tree.isA b returnBoundaries = false := by
      intro b hb
      simpa only [Bool.not_eq_true', Bool.or_eq_false_iff, decide_eq_false_iff_not] using hinner b hb
    refine ⟨inner, a, outer, hsplit, ?_, hinner'⟩
    by_contra hne
    apply hcut
    have hbound : u.tree.isA a returnBoundaries = true := by simpa [hne] using hstops
    have ha' : a ∈ u.tree.ancestors c := by
      rw [hsplit]
      exact List.mem_append_right inner List.mem_cons_self
    refine ⟨a, ha', ?_, hbound, fun b hb hab htype => ?_⟩
    · -- the statement is a stop too, and not the first one
      rw [hsplit, List.mem_append, List.mem_cons] at hc
      rcases hc with hc | rfl | hc
      · exact absurd hr (hinner' r hc).1
      · exact absurd hr hne
      · rwa [ancestors_of_append hsplit]
    · rw [hsplit, List.mem_append, List.mem_cons] at hb
      rcases hb with hb | rfl | hb
      · exact (hinner' b hb).1 htype
      · exact hne htype
      · rw [← ancestors_of_append hsplit] at hb
        exact Nat.lt_asymm (lt_of_mem_ancestors hab) (lt_of_mem_ancestors hb)

theorem fires_call (h : u.tree.type c = "method_invocation") :
    fires u c = (isExceptionMessage u c && isReturned u c) := by
  unfold fires
  rw [kind?_of_type_eq_call h]

/-- A call inside a `return` statement fires exactly if it reads the message of an exception and is not
cut off from the statement. -/
theorem fires_call_iff (hr : u.tree.type r = "return_statement") (hc : CallInside u.tree r c) :
    fires u c = true ↔ isExceptionMessage u c = true ∧ ¬ CutOff u.tree r c := by
  rw [fires_call hc.type, Bool.and_eq_true, isReturned_iff_not_cutOff hr hc.inside]

/-! ## From above -/

/-- A `return` statement fires exactly if a call inside it reads the message of an exception. -/
theorem fires_return_iff (ht : u.tree.NamedAbove) (hr : u.tree.type r = "return_statement") :
    fires u r = true ↔ ∃ c, CallInside u.tree r c ∧ isExceptionMessage u c = true := by
  unfold fires
  rw [kind?_of_type_eq_return hr]
  show (leakedCall u r).isSome = true ↔ _
  unfold leakedCall
  rw [List.find?_isSome]
  constructor
  · rintro ⟨c, hc, hmessage⟩
    obtain ⟨hdesc, htype⟩ := List.mem_filter.1 hc
    obtain ⟨hnamed, hinside⟩ := (mem_descendants_iff ht).1 hdesc
    have htype' : u.tree.type c = "method_invocation" := by simpa [isA] using htype
    exact ⟨c, ⟨hnamed, htype', hinside⟩, hmessage⟩
  · rintro ⟨c, hc, hmessage⟩
    have hdesc := (mem_descendants_iff ht).2 ⟨hc.named, hc.inside⟩
    exact ⟨c, List.mem_filter.2 ⟨hdesc, by simp [isA, hc.type]⟩, hmessage⟩

/-! ## Both sides -/

/-- A call that fires has a `return` statement around it, which fires. -/
theorem exists_fires_return (ht : u.tree.NamedAbove) (hnamed : u.tree.isNamed c = true)
    (htype : u.tree.type c = "method_invocation") (h : fires u c = true) :
    ∃ r ∈ u.tree.ancestors c, u.tree.type r = "return_statement" ∧ fires u r = true := by
  rw [fires_call htype, Bool.and_eq_true] at h
  obtain ⟨hmessage, hreturned⟩ := h
  obtain ⟨inner, r, outer, hsplit, hr, -⟩ := isReturned_iff.1 hreturned
  have hinside : r ∈ u.tree.ancestors c := by
    rw [hsplit]
    exact List.mem_append_right inner List.mem_cons_self
  exact ⟨r, hinside, hr, (fires_return_iff ht hr).2 ⟨c, ⟨hnamed, htype, hinside⟩, hmessage⟩⟩

/-- Where an audit has a finding at a call, it has one at a `return` statement around it, unless there is no
room to look for it from there. -/
theorem exists_hit_at_return (ht : u.tree.NamedAbove) {reg : Registry}
    (htype : u.tree.type c = "method_invocation") (h : (c, informationLeak) ∈ reg.hits u) :
    ∃ s ∈ u.tree.ancestors c, u.tree.type s = "return_statement" ∧
      ((s, informationLeak) ∈ reg.hits u ∨ (s, informationLeak) ∈ reg.misses u ∧ ¬ u.Fits) := by
  obtain ⟨hvisit, hfires⟩ := List.mem_filter.1 h
  obtain ⟨hvisits, hrule, -⟩ := Registry.mem_visits_iff.1 hvisit
  have hmeant : fires u c = true := by
    have hanswer := Rule.firesAt_eq_true_iff.1 hfires
    rcases (means u c).fires_eq with hok | ⟨herror, -⟩
    · exact Except.ok.inj (hok.symm.trans hanswer)
    · cases herror.symm.trans hanswer
  have hnamed : u.tree.isNamed c = true := by
    cases hvisits with
    | top =>
      -- nothing is above the root, so it is in no statement
      rw [fires_call htype, Bool.and_eq_true] at hmeant
      obtain ⟨inner, s, outer, hsplit, -⟩ := isReturned_iff.1 hmeant.2
      have hs : s ∈ u.tree.ancestors SyntaxTree.root := by
        rw [hsplit]
        exact List.mem_append_right inner List.mem_cons_self
      exact absurd (lt_of_mem_ancestors hs) (Nat.not_lt_zero s)
    | part _ hc _ => exact (List.mem_filter.1 (List.mem_filter.1 hc).1).2
  obtain ⟨s, hs, hstype, hsfires⟩ := exists_fires_return ht hnamed htype hmeant
  have hsvisit : (s, informationLeak) ∈ reg.visits u := by
    refine Registry.mem_visits_iff.2 ⟨hvisits.of_mem_ancestors hs, hrule, ?_⟩
    rw [kind?_of_type_eq_return hstype]
    rfl
  refine ⟨s, hs, hstype, ?_⟩
  rcases (means u s).fires_eq with hok | ⟨herror, hfits⟩
  · rw [hsfires] at hok
    exact .inl (List.mem_filter.2 ⟨hsvisit, Rule.firesAt_eq_true_iff.2 hok⟩)
  · refine .inr ⟨List.mem_filter.2 ⟨hsvisit, ?_⟩, hfits⟩
    show informationLeak.lacksRoomAt u s = true
    rw [Rule.lacksRoomAt, herror]

/-- The rule on leaked messages from both sides of a `return` statement. A call inside it fires exactly
if it reads the message of an exception and no boundary cuts it off; the statement fires exactly if some
call inside it reads the message of an exception, cut off or not. So a call that fires inside makes the
statement fire, and the two sides agree exactly if, of the messages that are read inside, one is not cut
off, or none is read at all. This is what the rule answers unless it runs out of room, so that a finding at a
call comes with one at a statement around it, or with a warning that there was no room to look there. -/
theorem leaks_agree_up_to_boundaries (ht : u.tree.NamedAbove)
    (hr : u.tree.type r = "return_statement") :
    (∀ c, CallInside u.tree r c →
        (fires u c = true ↔ isExceptionMessage u c = true ∧ ¬ CutOff u.tree r c)) ∧
      (fires u r = true ↔ ∃ c, CallInside u.tree r c ∧ isExceptionMessage u c = true) ∧
      ((∃ c, CallInside u.tree r c ∧ fires u c = true) → fires u r = true) ∧
      ((fires u r = true ↔ ∃ c, CallInside u.tree r c ∧ fires u c = true) ↔
        ((∃ c, CallInside u.tree r c ∧ isExceptionMessage u c = true) →
          ∃ c, CallInside u.tree r c ∧ isExceptionMessage u c = true ∧ ¬ CutOff u.tree r c)) ∧
      informationLeak.Answers u (fires u) ∧
      ∀ (reg : Registry) (c : NodeId), u.tree.type c = "method_invocation" →
        (c, informationLeak) ∈ reg.hits u →
          ∃ s ∈ u.tree.ancestors c, u.tree.type s = "return_statement" ∧
            ((s, informationLeak) ∈ reg.hits u ∨
              (s, informationLeak) ∈ reg.misses u ∧ ¬ u.Fits) := by
  have hcall : ∀ c, CallInside u.tree r c →
      (fires u c = true ↔ isExceptionMessage u c = true ∧ ¬ CutOff u.tree r c) :=
    fun c hc => fires_call_iff hr hc
  have hstatement := fires_return_iff ht hr
  have hup : (∃ c, CallInside u.tree r c ∧ fires u c = true) → fires u r = true := by
    rintro ⟨c, hc, hfires⟩
    exact hstatement.2 ⟨c, hc, ((hcall c hc).1 hfires).1⟩
  refine ⟨hcall, hstatement, hup, ⟨fun hagree hread => ?_, fun hout => ⟨fun hfires => ?_, hup⟩⟩,
    answers_of_means (means u), fun reg c => exists_hit_at_return ht⟩
  · obtain ⟨c, hc, hfires⟩ := hagree.1 (hstatement.2 hread)
    exact ⟨c, hc, (hcall c hc).1 hfires⟩
  · obtain ⟨c, hc, hmessage, hfree⟩ := hout (hstatement.1 hfires)
    exact ⟨c, hc, (hcall c hc).2 ⟨hmessage, hfree⟩⟩

/-! ### A message that gets out, and one that does not -/

/-- A method that returns the message of an exception. -/
def directReturn : CompilationUnit :=
  .ofTree "A.java" (.ofNodes "class A\x7bObject f(Exception e)\x7breturn e.getMessage();\x7d\x7d" #[
    ⟨none, "program", true, false, 0, 54, none⟩,
    ⟨some 0, "class_declaration", true, false, 0, 54, none⟩,
    ⟨some 1, "class", false, false, 0, 5, none⟩,
    ⟨some 1, "identifier", true, false, 6, 7, some "name"⟩,
    ⟨some 1, "class_body", true, false, 7, 54, some "body"⟩,
    ⟨some 4, "\x7b", false, false, 7, 8, none⟩,
    ⟨some 4, "method_declaration", true, false, 8, 53, none⟩,
    ⟨some 6, "type_identifier", true, false, 8, 14, some "type"⟩,
    ⟨some 6, "identifier", true, false, 15, 16, some "name"⟩,
    ⟨some 6, "formal_parameters", true, false, 16, 29, some "parameters"⟩,
    ⟨some 9, "(", false, false, 16, 17, none⟩,
    ⟨some 9, "formal_parameter", true, false, 17, 28, none⟩,
    ⟨some 11, "type_identifier", true, false, 17, 26, some "type"⟩,
    ⟨some 11, "identifier", true, false, 27, 28, some "name"⟩,
    ⟨some 9, ")", false, false, 28, 29, none⟩,
    ⟨some 6, "block", true, false, 29, 53, some "body"⟩,
    ⟨some 15, "\x7b", false, false, 29, 30, none⟩,
    ⟨some 15, "return_statement", true, false, 30, 52, none⟩,
    ⟨some 17, "return", false, false, 30, 36, none⟩,
    ⟨some 17, "method_invocation", true, false, 37, 51, none⟩,
    ⟨some 19, "identifier", true, false, 37, 38, some "object"⟩,
    ⟨some 19, ".", false, false, 38, 39, none⟩,
    ⟨some 19, "identifier", true, false, 39, 49, some "name"⟩,
    ⟨some 19, "argument_list", true, false, 49, 51, some "arguments"⟩,
    ⟨some 23, "(", false, false, 49, 50, none⟩,
    ⟨some 23, ")", false, false, 50, 51, none⟩,
    ⟨some 17, ";", false, false, 51, 52, none⟩,
    ⟨some 15, "\x7d", false, false, 52, 53, none⟩,
    ⟨some 4, "\x7d", false, false, 53, 54, none⟩])

/-- The call and the `return` around it are both reported. -/
theorem leaks_agree_at_directReturn :
    directReturn.tree.NamedAbove ∧ directReturn.tree.type 17 = "return_statement" ∧
      CallInside directReturn.tree 17 19 ∧ fires directReturn 19 = true ∧
      fires directReturn 17 = true ∧ ¬ CutOff directReturn.tree 17 19 := by
  obtain ⟨hnamed, hr, ⟨hname, htype, hinside⟩, hfires⟩ : directReturn.tree.NamedAbove ∧
      directReturn.tree.type 17 = "return_statement" ∧
      (directReturn.tree.isNamed 19 = true ∧ directReturn.tree.type 19 = "method_invocation" ∧
        17 ∈ directReturn.tree.ancestors 19) ∧
      fires directReturn 19 = true := by
    unfold NamedAbove
    decide +kernel
  have hcall : CallInside directReturn.tree 17 19 := ⟨hname, htype, hinside⟩
  have h := leaks_agree_up_to_boundaries hnamed hr
  exact ⟨hnamed, hr, hcall, hfires, h.2.2.1 ⟨19, hcall, hfires⟩, ((h.1 19 hcall).1 hfires).2⟩

/-- A method that returns an object of an anonymous class, whose method reads the message of an exception
and drops it. -/
def anonymousReturn : CompilationUnit :=
  .ofTree "A.java" (.ofNodes "class A \x7b Object f(Exception e) \x7b return new Object() \x7b void g() \x7b e.getMessage(); \x7d \x7d; \x7d \x7d" #[
    ⟨none, "program", true, false, 0, 91, none⟩,
    ⟨some 0, "class_declaration", true, false, 0, 91, none⟩,
    ⟨some 1, "class", false, false, 0, 5, none⟩,
    ⟨some 1, "identifier", true, false, 6, 7, some "name"⟩,
    ⟨some 1, "class_body", true, false, 8, 91, some "body"⟩,
    ⟨some 4, "\x7b", false, false, 8, 9, none⟩,
    ⟨some 4, "method_declaration", true, false, 10, 89, none⟩,
    ⟨some 6, "type_identifier", true, false, 10, 16, some "type"⟩,
    ⟨some 6, "identifier", true, false, 17, 18, some "name"⟩,
    ⟨some 6, "formal_parameters", true, false, 18, 31, some "parameters"⟩,
    ⟨some 9, "(", false, false, 18, 19, none⟩,
    ⟨some 9, "formal_parameter", true, false, 19, 30, none⟩,
    ⟨some 11, "type_identifier", true, false, 19, 28, some "type"⟩,
    ⟨some 11, "identifier", true, false, 29, 30, some "name"⟩,
    ⟨some 9, ")", false, false, 30, 31, none⟩,
    ⟨some 6, "block", true, false, 32, 89, some "body"⟩,
    ⟨some 15, "\x7b", false, false, 32, 33, none⟩,
    ⟨some 15, "return_statement", true, false, 34, 87, none⟩,
    ⟨some 17, "return", false, false, 34, 40, none⟩,
    ⟨some 17, "object_creation_expression", true, false, 41, 86, none⟩,
    ⟨some 19, "new", false, false, 41, 44, none⟩,
    ⟨some 19, "type_identifier", true, false, 45, 51, some "type"⟩,
    ⟨some 19, "argument_list", true, false, 51, 53, some "arguments"⟩,
    ⟨some 22, "(", false, false, 51, 52, none⟩,
    ⟨some 22, ")", false, false, 52, 53, none⟩,
    ⟨some 19, "class_body", true, false, 54, 86, none⟩,
    ⟨some 25, "\x7b", false, false, 54, 55, none⟩,
    ⟨some 25, "method_declaration", true, false, 56, 84, none⟩,
    ⟨some 27, "void_type", true, false, 56, 60, some "type"⟩,
    ⟨some 27, "identifier", true, false, 61, 62, some "name"⟩,
    ⟨some 27, "formal_parameters", true, false, 62, 64, some "parameters"⟩,
    ⟨some 30, "(", false, false, 62, 63, none⟩,
    ⟨some 30, ")", false, false, 63, 64, none⟩,
    ⟨some 27, "block", true, false, 65, 84, some "body"⟩,
    ⟨some 33, "\x7b", false, false, 65, 66, none⟩,
    ⟨some 33, "expression_statement", true, false, 67, 82, none⟩,
    ⟨some 35, "method_invocation", true, false, 67, 81, none⟩,
    ⟨some 36, "identifier", true, false, 67, 68, some "object"⟩,
    ⟨some 36, ".", false, false, 68, 69, none⟩,
    ⟨some 36, "identifier", true, false, 69, 79, some "name"⟩,
    ⟨some 36, "argument_list", true, false, 79, 81, some "arguments"⟩,
    ⟨some 40, "(", false, false, 79, 80, none⟩,
    ⟨some 40, ")", false, false, 80, 81, none⟩,
    ⟨some 35, ";", false, false, 81, 82, none⟩,
    ⟨some 33, "\x7d", false, false, 83, 84, none⟩,
    ⟨some 25, "\x7d", false, false, 85, 86, none⟩,
    ⟨some 17, ";", false, false, 86, 87, none⟩,
    ⟨some 15, "\x7d", false, false, 88, 89, none⟩,
    ⟨some 4, "\x7d", false, false, 90, 91, none⟩])

/-- A `return` statement fires without a call inside that does. -/
theorem return_fires_without_call :
    anonymousReturn.tree.NamedAbove ∧ anonymousReturn.tree.type 17 = "return_statement" ∧
      fires anonymousReturn 17 = true ∧ informationLeak.fires anonymousReturn 17 = .ok true ∧
      ¬ ∃ c, CallInside anonymousReturn.tree 17 c ∧ fires anonymousReturn c = true := by
  obtain ⟨hnamed, htype, hreturn, hkept⟩ : anonymousReturn.tree.NamedAbove ∧
      anonymousReturn.tree.type 17 = "return_statement" ∧ fires anonymousReturn 17 = true ∧
      ∀ c < anonymousReturn.tree.size, anonymousReturn.tree.isNamed c = true →
        anonymousReturn.tree.type c = "method_invocation" → isReturned anonymousReturn c = false := by
    unfold NamedAbove
    decide +kernel
  have hfits : anonymousReturn.Fits := CompilationUnit.fits_of_size (by decide +kernel)
  refine ⟨hnamed, htype, hreturn, ?_, ?_⟩
  · rw [(means anonymousReturn 17).fires_of_fits hfits, hreturn]
  · rintro ⟨c, hc, hfires⟩
    have hlt := lt_size_of_mem_ancestors hc.inside
    rw [fires_call hc.type, hkept c hlt hc.named hc.type, Bool.and_false] at hfires
    cases hfires

end Rule.InformationLeak

end JavaAudit
