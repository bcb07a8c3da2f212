import JavaAudit.Proofs.NestedBrackets

/-!
# Erasure of types as they are written

A type is written as a sequence of names with dots between them. A name may have type arguments, in angle
brackets that nest to any depth; marks of arrays and of variable arguments may follow; annotations may
stand before names and marks and anywhere among the arguments, and blanks almost everywhere.
`IsTypeText` is this syntax, with the names that a text has. Erasure gives back these names with dots
between them and nothing else (`erase_gives_names`).

1. After the annotations are dropped, the angle brackets of the text are nested, and what stands outside
   of them are the names, the dots, the marks and blanks (`IsTypeText.nested`). The passes over the
   brackets leave exactly that.
2. Of that the marks and the blanks are removed, and no two dots come together in between (`tidy`).

The first step needs care with an annotation without arguments. Dots belong to the names of annotations,
so three dots right behind one are dropped with it, and so is an argument list right behind the dots
(`ReadsOn`). A type in which that happens may lose a name (`annotation_takes_name`).
-/

namespace JavaAudit

/-! ## Blanks, names and marks -/

namespace Text

theorem exists_mem_of_inRanges {ranges : List (Nat × Nat)} {n : Nat} (h : inRanges ranges n = true) :
    ∃ r ∈ ranges, r.1 ≤ n ∧ n ≤ r.2 := by
  induction ranges with
  | nil => cases h
  | cons range rest ih =>
    obtain ⟨lo, hi⟩ := range
    unfold inRanges at h
    split at h
    · cases h
    · next hlo =>
      rcases Bool.or_eq_true _ _ ▸ h with hhi | hrest
      · exact ⟨(lo, hi), List.mem_cons_self, Nat.le_of_not_lt hlo, of_decide_eq_true hhi⟩
      · obtain ⟨r, hr, hbounds⟩ := ih hrest
        exact ⟨r, List.mem_cons_of_mem _ hr, hbounds⟩

end Text

namespace TypeName

open Text

/-- Characters that have a meaning of their own in the syntax of types. -/
def marks : List Char := ['<', '>', '@', '.', '[', ']', '(', ')']

theorem not_mark_of_isBlank {c : Char} (h : isBlank c = true) : c ∉ marks ∧ isNameChar c = false := by
  have hchecked : ∀ r ∈ blankRanges, ∀ n ∈ List.range' r.1 (r.2 + 1 - r.1),
      n ∉ marks.map Char.toNat ∧ n ≠ '_'.toNat ∧ inRanges alphanumericRanges n = false := by
    decide +kernel
  obtain ⟨r, hr, hlo, hhi⟩ := exists_mem_of_inRanges h
  obtain ⟨hmarks, hunderscore, hword⟩ :=
    hchecked r hr c.toNat (List.mem_range'_1.2 ⟨hlo, by omega⟩)
  have hnot : c ∉ marks := fun hc => hmarks (List.mem_map_of_mem hc)
  have hdot : c ≠ '.' := fun hc => hnot (by rw [hc]; decide)
  have hne : c ≠ '_' := fun hc => hunderscore (by rw [hc])
  exact ⟨hnot, by simp [isNameChar, isWordChar, hword, hne, hdot]⟩

/-- Of the marks only the dot can belong to the name of an annotation. -/
theorem isNameChar_of_mem_marks {c : Char} (hc : c ∈ marks) : isNameChar c = (c == '.') := by
  have hchecked : marks.all (fun c => isNameChar c == (c == '.')) = true := by decide
  exact beq_iff_eq.1 (List.all_eq_true.1 hchecked c hc)

theorem dropWhile_mark {c : Char} (hc : c ∈ marks) (hdot : c ≠ '.') (cs : List Char) :
    (c :: cs).dropWhile isNameChar = c :: cs :=
  List.dropWhile_cons_of_neg (by simp [isNameChar_of_mem_marks hc, hdot])

/-- A text of blanks. -/
def AllBlank (cs : List Char) : Prop := ∀ c ∈ cs, isBlank c = true

theorem allBlank_nil : AllBlank [] := fun _ hc => nomatch hc

/-- The name of a type or a package: no blank and none of the marks. -/
structure IsIdentifier (name : List Char) : Prop where
  ne_nil : name ≠ []
  plain : ∀ c ∈ name, isBlank c = false ∧ c ∉ marks

instance (name : List Char) : Decidable (IsIdentifier name) :=
  have : Decidable (∀ c ∈ name, isBlank c = false ∧ c ∉ marks) := List.decidableBAll _ name
  decidable_of_iff (name ≠ [] ∧ ∀ c ∈ name, isBlank c = false ∧ c ∉ marks)
    ⟨fun h => ⟨h.1, h.2⟩, fun h => ⟨h.ne_nil, h.plain⟩⟩

/-! ## The syntax of types -/

/-- The name of an annotation. -/
structure IsAnnotationName (name : List Char) : Prop where
  ne_nil : name ≠ []
  nameChars : ∀ c ∈ name, isNameChar c = true

/-- A text without parentheses. -/
def HasNoParens (cs : List Char) : Prop := ∀ c ∈ cs, c ≠ '(' ∧ c ≠ ')'

instance (cs : List Char) : Decidable (HasNoParens cs) := List.decidableBAll _ cs

/-- The text starts with what may stand right behind an annotation without arguments: a blank, or the mark
of an array or of variable arguments. -/
def StartsApart (cs : List Char) : Prop :=
  (∃ c ∈ cs.head?, isBlank c = true) ∨ ['[', ']'] <+: cs ∨ ['.', '.', '.'] <+: cs

/-- An annotation that stands in front of the text reads on into it: more characters of a name follow, and
then an argument list. -/
def ReadsOn (cs : List Char) : Prop :=
  ∃ more args rest, (∀ c ∈ more, isNameChar c = true) ∧ HasNoParens args ∧
    cs = more ++ '(' :: (args ++ ')' :: rest)

section Syntax

-- what may stand right behind an annotation without arguments
variable (mayFollow : List Char → Prop)

/-- The text starts with an annotation, and this is the rest. -/
inductive IsAnnotation : (text rest : List Char) → Prop where
  | bare {name rest : List Char} (hname : IsAnnotationName name) (hrest : mayFollow rest) :
      IsAnnotation ('@' :: (name ++ rest)) rest
  | applied {name args rest : List Char} (hname : IsAnnotationName name) (hargs : HasNoParens args) :
      IsAnnotation ('@' :: (name ++ '(' :: (args ++ ')' :: rest))) rest

/-- The text starts with type arguments, without the brackets around them, and this is the rest: nested
brackets, annotations, and any other characters. -/
inductive IsArguments : (text rest : List Char) → Prop where
  | nil (rest : List Char) : IsArguments rest rest
  | char {c : Char} {text rest : List Char} (hat : c ≠ '@') (hangle : isAngle c = false)
      (h : IsArguments text rest) : IsArguments (c :: text) rest
  | group {text middle rest : List Char} (hinner : IsArguments text ('>' :: middle))
      (h : IsArguments middle rest) : IsArguments ('<' :: text) rest
  | annotated {text middle rest : List Char} (ha : IsAnnotation mayFollow text middle)
      (h : IsArguments middle rest) : IsArguments text rest

/-- The text starts with blanks and annotations, and this is the rest. -/
inductive IsGap : (text rest : List Char) → Prop where
  | nil (rest : List Char) : IsGap rest rest
  | blank {c : Char} {text rest : List Char} (hc : isBlank c = true) (h : IsGap text rest) :
      IsGap (c :: text) rest
  | annotated {text middle rest : List Char} (ha : IsAnnotation mayFollow text middle)
      (h : IsGap middle rest) : IsGap text rest

/-- The text consists of marks of arrays, perhaps with the mark of variable arguments at the end. -/
inductive IsSuffix : (text : List Char) → Prop where
  | none {text : List Char} (h : AllBlank text) : IsSuffix text
  | array {text rest : List Char} (hgap : IsGap mayFollow text ('[' :: ']' :: rest))
      (h : IsSuffix rest) : IsSuffix text
  | variableArguments {text rest : List Char} (hgap : IsGap mayFollow text ('.' :: '.' :: '.' :: rest))
      (h : AllBlank rest) : IsSuffix text

/-- The text starts with type arguments in brackets, or there are none, and this is the rest. -/
inductive IsGenericPart : (text rest : List Char) → Prop where
  | none (rest : List Char) : IsGenericPart rest rest
  | arguments {blanks text rest : List Char} (hblanks : AllBlank blanks)
      (h : IsArguments mayFollow text ('>' :: rest)) : IsGenericPart (blanks ++ '<' :: text) rest

/-- The text is a type with these names. -/
inductive IsTypeText : (names : List (List Char)) → (text : List Char) → Prop where
  | last {name text generic suffix : List Char} (hgap : IsGap mayFollow text (name ++ generic))
      (hname : IsIdentifier name) (hgeneric : IsGenericPart mayFollow generic suffix)
      (hsuffix : IsSuffix mayFollow suffix) : IsTypeText [name] text
  | dot {name text generic blanks rest : List Char} {names : List (List Char)}
      (hgap : IsGap mayFollow text (name ++ generic)) (hname : IsIdentifier name)
      (hgeneric : IsGenericPart mayFollow generic (blanks ++ '.' :: rest)) (hblanks : AllBlank blanks)
      (h : IsTypeText names rest) : IsTypeText (name :: names) text

end Syntax

/-! ## Dropping annotations -/

theorem dropAnnotations_cons {c : Char} (h : c ≠ '@') (cs : List Char) :
    dropAnnotations (c :: cs) = c :: dropAnnotations cs := by
  rw [dropAnnotations, if_neg (by simp [h])]

theorem dropAnnotations_append {front : List Char} (h : ∀ c ∈ front, c ≠ '@') (cs : List Char) :
    dropAnnotations (front ++ cs) = front ++ dropAnnotations cs := by
  induction front with
  | nil => rfl
  | cons c front ih =>
    rw [List.cons_append, dropAnnotations_cons (h c List.mem_cons_self),
      ih fun d hd => h d (List.mem_cons_of_mem c hd), List.cons_append]

/-- Of an annotation everything is dropped that reads like its name, and then its arguments. -/
theorem dropAnnotations_at {name : List Char} (hname : IsAnnotationName name) (cs : List Char) :
    dropAnnotations ('@' :: (name ++ cs)) =
      dropAnnotations (dropArguments (cs.dropWhile isNameChar)) := by
  obtain ⟨c, name', rfl⟩ := List.exists_cons_of_ne_nil hname.ne_nil
  have hfirst := hname.nameChars c List.mem_cons_self
  rw [dropAnnotations, if_pos (by simp [hfirst]), List.dropWhile_append_of_pos hname.nameChars]

/-- The arguments of an annotation go up to the first closing parenthesis. -/
theorem dropArguments_parens {args : List Char} (hargs : HasNoParens args) (rest : List Char) :
    dropArguments ('(' :: (args ++ ')' :: rest)) = rest := by
  have hscan : (args ++ ')' :: rest).dropWhile (fun c => c ≠ '(' && c ≠ ')') = ')' :: rest := by
    rw [List.dropWhile_append_of_pos fun c hc => by simpa using hargs c hc]
    rfl
  simp only [dropArguments, hscan]

/-- Arguments are dropped only from a text that starts with them. -/
theorem dropArguments_eq_self {cs : List Char}
    (h : ∀ args rest, HasNoParens args → cs ≠ '(' :: (args ++ ')' :: rest)) : dropArguments cs = cs := by
  unfold dropArguments
  split
  · next cs =>
    split
    · next rest hscan =>
      have hargs : HasNoParens (cs.takeWhile fun c => c ≠ '(' && c ≠ ')') := fun c hc => by
        simpa using List.mem_takeWhile_imp hc
      have hsplit := List.takeWhile_append_dropWhile (p := fun c => c ≠ '(' && c ≠ ')') (l := cs)
      rw [hscan] at hsplit
      exact absurd (congrArg ('(' :: ·) hsplit.symm) (h _ rest hargs)
    · rfl
  · rfl

/-- Of an annotation without arguments, only what reads like its name is dropped. -/
theorem dropAnnotations_bare {name cs : List Char} (hname : IsAnnotationName name)
    (hcs : ¬ ReadsOn cs) :
    dropAnnotations ('@' :: (name ++ cs)) = dropAnnotations (cs.dropWhile isNameChar) := by
  rw [dropAnnotations_at hname, dropArguments_eq_self]
  intro args rest hargs hparens
  refine hcs ⟨cs.takeWhile isNameChar, args, rest, fun c hc => List.mem_takeWhile_imp hc, hargs, ?_⟩
  rw [← hparens, List.takeWhile_append_dropWhile]

/-- An annotation goes with its arguments. -/
theorem dropAnnotations_applied {name args : List Char} (hname : IsAnnotationName name)
    (hargs : HasNoParens args) (cs : List Char) :
    dropAnnotations ('@' :: (name ++ '(' :: (args ++ ')' :: cs))) = dropAnnotations cs := by
  rw [dropAnnotations_at hname, dropWhile_mark (by decide) (by decide), dropArguments_parens hargs]

/-! ## What is left without annotations -/

/-- What stands behind an annotation without arguments is apart from it, and the annotation does not read
on into it. -/
def EndsAnnotation (cs : List Char) : Prop := StartsApart cs ∧ ¬ ReadsOn cs

theorem IsAnnotation.dropWhile {mayFollow : List Char → Prop} {text rest : List Char}
    (h : IsAnnotation mayFollow text rest) : text.dropWhile isNameChar = text := by
  cases h with
  | bare => exact dropWhile_mark (by decide) (by decide) _
  | applied => exact dropWhile_mark (by decide) (by decide) _

/-- An annotation goes; of what follows it takes at most what could belong to its name. -/
theorem IsAnnotation.dropAnnotations {text rest : List Char} (h : IsAnnotation EndsAnnotation text rest) :
    dropAnnotations text = dropAnnotations rest ∨
      StartsApart rest ∧ dropAnnotations text = dropAnnotations (rest.dropWhile isNameChar) := by
  cases h with
  | bare hname hrest => exact .inr ⟨hrest.1, dropAnnotations_bare hname hrest.2⟩
  | applied hname hargs => exact .inl (dropAnnotations_applied hname hargs _)

/-- Type arguments are nested when their annotations are gone. Since the annotation in front of them may
have taken what could belong to its name, this is stated for both beginnings. -/
theorem IsArguments.dropAnnotations {text rest cs : List Char} (h : IsArguments EndsAnnotation text rest)
    (hrest : rest.dropWhile isNameChar = rest) (hcs : cs = text ∨ cs = text.dropWhile isNameChar) :
    ∃ inner hidden, Nested inner hidden ∧ dropAnnotations cs = inner ++ dropAnnotations rest := by
  induction h generalizing cs with
  | nil =>
    rw [hrest, or_self] at hcs
    exact ⟨[], [], .nil, by rw [hcs, List.nil_append]⟩
  | @char c text rest hat hangle _ ih =>
    have hkept : ∃ inner hidden, Nested inner hidden ∧
        TypeName.dropAnnotations (c :: text) = inner ++ TypeName.dropAnnotations rest := by
      obtain ⟨inner, hidden, hnested, heq⟩ := ih hrest (.inl rfl)
      exact ⟨c :: inner, c :: hidden, .char hangle hnested, by
        rw [dropAnnotations_cons hat, heq, List.cons_append]⟩
    rcases hcs with rfl | rfl
    · exact hkept
    · -- an annotation in front takes the characters that could go on its name
      cases hc : isNameChar c with
      | true =>
        rw [List.dropWhile_cons_of_pos hc]
        exact ih hrest (.inr rfl)
      | false =>
        rw [List.dropWhile_cons_of_neg (by simp [hc])]
        exact hkept
  | @group text middle rest _ _ ihinner ih =>
    -- no name goes on with an angle bracket, so both beginnings are the same
    have hopen : ('<' :: text).dropWhile isNameChar = '<' :: text :=
      dropWhile_mark (by decide) (by decide) text
    have hclose : ('>' :: middle).dropWhile isNameChar = '>' :: middle :=
      dropWhile_mark (by decide) (by decide) middle
    rw [hopen, or_self] at hcs
    obtain ⟨inner, hidden, hnested, heq⟩ := ihinner hclose (.inl rfl)
    obtain ⟨inner', hidden', hnested', heq'⟩ := ih hrest (.inl rfl)
    refine ⟨'<' :: (inner ++ '>' :: inner'), hidden', .group hnested hnested', ?_⟩
    rw [hcs, dropAnnotations_cons (by decide), heq, dropAnnotations_cons (by decide), heq']
    simp
  | annotated ha _ ih =>
    rw [ha.dropWhile, or_self] at hcs
    rw [hcs]
    rcases ha.dropAnnotations with heq | ⟨-, heq⟩ <;> rw [heq]
    · exact ih hrest (.inl rfl)
    · exact ih hrest (.inr rfl)

/-- A gap is empty or does not begin as a name would. -/
theorem IsGap.dropWhile {mayFollow : List Char → Prop} {text rest : List Char}
    (h : IsGap mayFollow text rest) : text = rest ∨ text.dropWhile isNameChar = text := by
  cases h with
  | nil => exact .inl rfl
  | blank hc =>
    exact .inr (List.dropWhile_cons_of_neg (by simp [(not_mark_of_isBlank hc).2]))
  | annotated ha => exact .inr ha.dropWhile

/-- Of a gap only blanks are left. The last annotation may have taken the beginning of what follows. -/
theorem IsGap.dropAnnotations {text rest : List Char} (h : IsGap EndsAnnotation text rest) :
    ∃ blanks, AllBlank blanks ∧
      (dropAnnotations text = blanks ++ dropAnnotations rest ∨
        StartsApart rest ∧ dropAnnotations text = blanks ++ dropAnnotations (rest.dropWhile isNameChar)) := by
  induction h with
  | nil => exact ⟨[], allBlank_nil, .inl rfl⟩
  | @blank c text rest hc _ ih =>
    obtain ⟨blanks, hblanks, heq⟩ := ih
    have hat : c ≠ '@' := by
      rintro rfl
      exact (not_mark_of_isBlank hc).1 (by decide)
    refine ⟨c :: blanks, List.forall_mem_cons.2 ⟨hc, hblanks⟩, ?_⟩
    rw [dropAnnotations_cons hat]
    exact heq.imp (congrArg (c :: ·)) fun ⟨hapart, heq⟩ => ⟨hapart, congrArg (c :: ·) heq⟩
  | annotated ha hgap ih =>
    rcases ha.dropAnnotations with heq | ⟨hapart, heq⟩
    · rw [heq]
      exact ih
    · -- behind the annotation is the end of the gap, or something that is no part of a name
      rcases hgap.dropWhile with rfl | hsame
      · exact ⟨[], allBlank_nil, .inr ⟨hapart, heq⟩⟩
      · rw [heq, hsame]
        exact ih

/-! ## What is left without marks and blanks -/

/-- A text without the marks of arrays and of variable arguments and without blanks. -/
def tidy (cs : List Char) : List Char :=
  squeeze (removeAll ['[', ']'] (removeAll ['.', '.', '.'] cs))

theorem removeAll_cons {first c : Char} (h : c ≠ first) (pattern cs : List Char) :
    removeAll (first :: pattern) (c :: cs) = c :: removeAll (first :: pattern) cs := by
  rw [removeAll, if_neg (by simp [Ne.symm h])]

theorem removeAll_self (pattern cs : List Char) (h : pattern ≠ []) :
    removeAll pattern (pattern ++ cs) = removeAll pattern cs := by
  obtain ⟨first, pattern, rfl⟩ := List.exists_cons_of_ne_nil h
  rw [List.cons_append, removeAll, if_pos (by simp)]
  simp

theorem tidy_blank {c : Char} (h : isBlank c = true) (cs : List Char) : tidy (c :: cs) = tidy cs := by
  have hmarks := (not_mark_of_isBlank h).1
  have hdot : c ≠ '.' := fun heq => hmarks (by rw [heq]; decide)
  have hbracket : c ≠ '[' := fun heq => hmarks (by rw [heq]; decide)
  simp [tidy, removeAll_cons hdot, removeAll_cons hbracket, squeeze, h]

theorem tidy_blanks {blanks : List Char} (h : AllBlank blanks) (cs : List Char) :
    tidy (blanks ++ cs) = tidy cs := by
  induction blanks with
  | nil => rfl
  | cons c blanks ih =>
    obtain ⟨hc, hblanks⟩ := List.forall_mem_cons.1 h
    rw [List.cons_append, tidy_blank hc, ih hblanks]

theorem tidy_plain {name : List Char} (h : ∀ c ∈ name, isBlank c = false ∧ c ∉ marks) (cs : List Char) :
    tidy (name ++ cs) = name ++ tidy cs := by
  induction name with
  | nil => rfl
  | cons c name ih =>
    obtain ⟨⟨hblank, hmarks⟩, hname⟩ := List.forall_mem_cons.1 h
    have hdot : c ≠ '.' := fun heq => hmarks (by rw [heq]; decide)
    have hbracket : c ≠ '[' := fun heq => hmarks (by rw [heq]; decide)
    rw [List.cons_append, List.cons_append, ← ih hname]
    simp [tidy, removeAll_cons hdot, removeAll_cons hbracket, squeeze, hblank]

/-- A single dot stays. -/
theorem tidy_dot {cs : List Char} (h : cs.head? ≠ some '.') : tidy ('.' :: cs) = '.' :: tidy cs := by
  have hkept : removeAll ['.', '.', '.'] ('.' :: cs) = '.' :: removeAll ['.', '.', '.'] cs := by
    rw [removeAll, if_neg]
    intro hdots
    obtain ⟨rest, hrest⟩ := (List.cons_prefix_cons.1 (List.isPrefixOf_iff_prefix.1 hdots)).2
    exact h (by rw [← hrest]; rfl)
  have hblank : isBlank '.' = false :=
    Bool.eq_false_iff.2 fun hblank => (not_mark_of_isBlank hblank).1 (by decide)
  have hbracket : '.' ≠ '[' := by decide
  simp [tidy, hkept, removeAll_cons hbracket, squeeze, hblank]

theorem tidy_array (cs : List Char) : tidy ('[' :: ']' :: cs) = tidy cs := by
  have hopen : '[' ≠ '.' := by decide
  have hclose : ']' ≠ '.' := by decide
  rw [tidy, removeAll_cons hopen, removeAll_cons hclose]
  exact congrArg squeeze (removeAll_self ['[', ']'] _ (by simp))

theorem tidy_dots (cs : List Char) : tidy ('.' :: '.' :: '.' :: cs) = tidy cs :=
  congrArg (fun cs => squeeze (removeAll ['[', ']'] cs)) (removeAll_self ['.', '.', '.'] cs (by simp))

theorem tidy_of_allBlank {cs : List Char} (h : AllBlank cs) : tidy cs = [] := by
  rw [← List.append_nil cs, tidy_blanks h]
  simp [tidy, removeAll, squeeze]

/-! ## Erasure gives the names -/

theorem isAngle_of_not_mem_marks {c : Char} (h : c ∉ marks) : isAngle c = false := by
  simp only [marks, List.mem_cons, not_or] at h
  simp [isAngle, h]

theorem AllBlank.plain {cs : List Char} (h : AllBlank cs) :
    ∀ c ∈ cs, c ≠ '@' ∧ isAngle c = false := by
  intro c hc
  have hmarks := (not_mark_of_isBlank (h c hc)).1
  exact ⟨fun heq => hmarks (by rw [heq]; decide), isAngle_of_not_mem_marks hmarks⟩

/-- No identifier begins as what may stand right behind an annotation. -/
theorem IsIdentifier.not_startsApart {name : List Char} (h : IsIdentifier name) (cs : List Char) :
    ¬ StartsApart (name ++ cs) := by
  obtain ⟨c, name, rfl⟩ := List.exists_cons_of_ne_nil h.ne_nil
  obtain ⟨hblank, hmarks⟩ := h.plain c List.mem_cons_self
  rintro (⟨d, hd, hd'⟩ | harray | hdots)
  · cases hd
    rw [hblank] at hd'
    cases hd'
  · obtain rfl := (List.cons_prefix_cons.1 harray).1
    exact hmarks (by decide)
  · obtain rfl := (List.cons_prefix_cons.1 hdots).1
    exact hmarks (by decide)

/-- Before a name only blanks are left of a gap. -/
theorem IsGap.nested {name text rest outside : List Char} (h : IsGap EndsAnnotation text (name ++ rest))
    (hname : IsIdentifier name) (hrest : Nested (TypeName.dropAnnotations rest) outside) :
    ∃ blanks, AllBlank blanks ∧ Nested (TypeName.dropAnnotations text) (blanks ++ (name ++ outside)) := by
  obtain ⟨blanks, hblanks, heq⟩ := h.dropAnnotations
  replace heq := heq.resolve_right fun hapart => hname.not_startsApart rest hapart.1
  have hat : ∀ c ∈ name, c ≠ '@' := fun c hc hc' => (hname.plain c hc).2 (by rw [hc']; decide)
  rw [dropAnnotations_append hat] at heq
  refine ⟨blanks, hblanks, heq ▸ .append_left (fun c hc => (hblanks.plain c hc).2) ?_⟩
  exact .append_left (fun c hc => isAngle_of_not_mem_marks (hname.plain c hc).2) hrest

/-- Without its annotations a list of type arguments is nested, and leaves at most blanks outside. -/
theorem IsGenericPart.nested {text rest outside : List Char} (h : IsGenericPart EndsAnnotation text rest)
    (hrest : Nested (dropAnnotations rest) outside) :
    ∃ blanks, AllBlank blanks ∧ Nested (dropAnnotations text) (blanks ++ outside) := by
  cases h with
  | none => exact ⟨[], allBlank_nil, hrest⟩
  | @arguments blanks text _ hblanks harguments =>
    have hclose : ('>' :: rest).dropWhile isNameChar = '>' :: rest :=
      dropWhile_mark (by decide) (by decide) rest
    obtain ⟨inner, hidden, hnested, heq⟩ := harguments.dropAnnotations hclose (.inl rfl)
    refine ⟨blanks, hblanks, ?_⟩
    rw [dropAnnotations_append fun c hc => (hblanks.plain c hc).1, dropAnnotations_cons (by decide), heq,
      dropAnnotations_cons (by decide)]
    exact .append_left (fun c hc => (hblanks.plain c hc).2) (.group hnested hrest)

theorem nested_of_allBlank {cs : List Char} (h : AllBlank cs) : Nested (dropAnnotations cs) cs := by
  have heq := dropAnnotations_append (fun c hc => (h.plain c hc).1) []
  have hnil : dropAnnotations [] = [] := by rw [dropAnnotations]
  rw [hnil, List.append_nil] at heq
  rw [heq]
  simpa using Nested.append_left (fun c hc => (h.plain c hc).2) .nil

/-- Of the marks behind the names nothing is left. -/
theorem IsSuffix.nested {text : List Char} (h : IsSuffix EndsAnnotation text) :
    ∃ outside, Nested (dropAnnotations text) outside ∧ tidy outside = [] := by
  induction h with
  | @none text h => exact ⟨text, nested_of_allBlank h, tidy_of_allBlank h⟩
  | @array text rest hgap _ ih =>
    obtain ⟨outside, hnested, htidy⟩ := ih
    obtain ⟨blanks, hblanks, heq⟩ := hgap.dropAnnotations
    have hopen : ('[' :: ']' :: rest).dropWhile isNameChar = '[' :: ']' :: rest :=
      dropWhile_mark (by decide) (by decide) (']' :: rest)
    replace heq := heq.elim id fun hapart => hopen ▸ hapart.2
    rw [dropAnnotations_cons (by decide), dropAnnotations_cons (by decide)] at heq
    refine ⟨blanks ++ '[' :: ']' :: outside, heq ▸ .append_left (fun c hc => (hblanks.plain c hc).2) ?_, ?_⟩
    · exact .char (by decide) (.char (by decide) hnested)
    · rw [tidy_blanks hblanks, tidy_array, htidy]
  | @variableArguments text rest hgap h =>
    have hnested := nested_of_allBlank h
    obtain ⟨blanks, hblanks, heq | ⟨-, heq⟩⟩ := hgap.dropAnnotations
    · rw [dropAnnotations_cons (by decide), dropAnnotations_cons (by decide),
        dropAnnotations_cons (by decide)] at heq
      refine ⟨blanks ++ '.' :: '.' :: '.' :: rest,
        heq ▸ .append_left (fun c hc => (hblanks.plain c hc).2) ?_, ?_⟩
      · exact .char (by decide) (.char (by decide) (.char (by decide) hnested))
      · rw [tidy_blanks hblanks, tidy_dots, tidy_of_allBlank h]
    · -- the annotation right before the three dots has taken them
      have hdots : ('.' :: '.' :: '.' :: rest).dropWhile isNameChar = rest := by
        have hdot : isNameChar '.' = true := isNameChar_of_mem_marks (by decide)
        rw [List.dropWhile_cons_of_pos hdot, List.dropWhile_cons_of_pos hdot,
          List.dropWhile_cons_of_pos hdot]
        cases rest with
        | nil => rfl
        | cons c rest =>
          exact List.dropWhile_cons_of_neg (by simp [(not_mark_of_isBlank (h c List.mem_cons_self)).2])
      rw [hdots] at heq
      refine ⟨blanks ++ rest, heq ▸ .append_left (fun c hc => (hblanks.plain c hc).2) hnested, ?_⟩
      rw [tidy_blanks hblanks, tidy_of_allBlank h]

theorem IsTypeText.ne_nil {mayFollow : List Char → Prop} {names : List (List Char)} {text : List Char}
    (h : IsTypeText mayFollow names text) : names ≠ [] := by
  cases h <;> exact List.cons_ne_nil _ _

theorem head?_blanks_append {blanks name : List Char} (hblanks : AllBlank blanks)
    (hname : IsIdentifier name) (cs : List Char) : (blanks ++ (name ++ cs)).head? ≠ some '.' := by
  intro hdot
  cases blanks with
  | nil =>
    obtain ⟨c, name, rfl⟩ := List.exists_cons_of_ne_nil hname.ne_nil
    obtain rfl := Option.some.inj hdot
    exact (hname.plain _ List.mem_cons_self).2 (by decide)
  | cons c blanks =>
    obtain rfl := Option.some.inj hdot
    exact (not_mark_of_isBlank (hblanks _ List.mem_cons_self)).1 (by decide)

/-- Of a type the names are left, with dots between them. -/
theorem IsTypeText.nested {names : List (List Char)} {text : List Char}
    (h : IsTypeText EndsAnnotation names text) :
    ∃ outside, Nested (dropAnnotations text) outside ∧ tidy outside = ['.'].intercalate names ∧
      outside.head? ≠ some '.' := by
  induction h with
  | @last name _ _ _ hgap hname hgeneric hsuffix =>
    -- from the end to the front, each part in front of what is left of the parts behind it
    obtain ⟨marks, hmarks, htidy⟩ := hsuffix.nested
    obtain ⟨blanks', hblanks', hgeneric'⟩ := hgeneric.nested hmarks
    obtain ⟨blanks, hblanks, hnested⟩ := hgap.nested hname hgeneric'
    refine ⟨_, hnested, ?_, head?_blanks_append hblanks hname _⟩
    rw [tidy_blanks hblanks, tidy_plain hname.plain, tidy_blanks hblanks', htidy,
      List.intercalate_singleton, List.append_nil]
  | @dot name _ _ blanks₂ rest names hgap hname hgeneric hblanks₂ hnames ih =>
    obtain ⟨outside, hrest, htidy, hhead⟩ := ih
    have hdotted : Nested (dropAnnotations (blanks₂ ++ '.' :: rest)) (blanks₂ ++ '.' :: outside) := by
      rw [dropAnnotations_append fun c hc => (hblanks₂.plain c hc).1, dropAnnotations_cons (by decide)]
      exact .append_left (fun c hc => (hblanks₂.plain c hc).2) (.char (by decide) hrest)
    obtain ⟨blanks', hblanks', hgeneric'⟩ := hgeneric.nested hdotted
    obtain ⟨blanks, hblanks, hnested⟩ := hgap.nested hname hgeneric'
    refine ⟨_, hnested, ?_, head?_blanks_append hblanks hname _⟩
    rw [tidy_blanks hblanks, tidy_plain hname.plain, tidy_blanks hblanks', tidy_blanks hblanks₂,
      tidy_dot hhead, htidy, List.intercalate_cons_of_ne_nil hnames.ne_nil]
    simp

/-- Erasure leaves the names of a type with dots between. -/
theorem erase_of_isTypeText {names : List String} {text : String}
    (h : IsTypeText EndsAnnotation (names.map String.toList) text.toList) :
    erase text = ".".intercalate names := by
  obtain ⟨outside, hnested, htidy, -⟩ := h.nested
  have hnames : (".".intercalate names).toList = ['.'].intercalate (names.map String.toList) :=
    String.toList_intercalate
  calc erase text
      = String.ofList (tidy (dropTypeArguments (dropAnnotations text.toList))) := rfl
    _ = String.ofList (".".intercalate names).toList := by
        rw [dropTypeArguments_of_nested hnested, htidy, hnames]
    _ = ".".intercalate names := String.ofList_toList

/-- Nothing is left of blanks. -/
theorem erase_of_allBlank {text : String} (h : AllBlank text.toList) : erase text = "" := by
  calc erase text
      = String.ofList (tidy (dropTypeArguments (dropAnnotations text.toList))) := rfl
    _ = String.ofList (tidy text.toList) := by rw [dropTypeArguments_of_nested (nested_of_allBlank h)]
    _ = "" := by rw [tidy_of_allBlank h, String.ofList_nil]

/-- Names with dots between are a type with these names. -/
theorem isTypeText_intercalate {names : List (List Char)} (hne : names ≠ [])
    (h : ∀ name ∈ names, IsIdentifier name) : IsTypeText EndsAnnotation names (['.'].intercalate names) := by
  induction names with
  | nil => exact absurd rfl hne
  | cons name names ih =>
    have hname := h name List.mem_cons_self
    cases names with
    | nil =>
      have hgap : IsGap EndsAnnotation name (name ++ []) := by
        rw [List.append_nil]
        exact .nil _
      rw [List.intercalate_singleton]
      exact .last hgap hname (.none []) (.none allBlank_nil)
    | cons next names =>
      have hrest := ih (List.cons_ne_nil next names) fun m hm => h m (List.mem_cons_of_mem name hm)
      rw [List.intercalate_cons_cons, List.append_assoc, List.singleton_append]
      exact .dot (.nil _) hname (.none _) allBlank_nil hrest

/-- Nothing is taken off names with dots between. -/
theorem erase_intercalate {names : List String} (hne : names ≠ [])
    (h : ∀ name ∈ names, IsIdentifier name.toList) : erase (".".intercalate names) = ".".intercalate names := by
  refine erase_of_isTypeText ?_
  rw [String.toList_intercalate]
  refine isTypeText_intercalate (by simpa using hne) fun name hname => ?_
  obtain ⟨written, hwritten, rfl⟩ := List.mem_map.1 hname
  exact h written hwritten

/-- Nothing is taken off a single name. -/
theorem erase_of_isIdentifier {name : String} (h : IsIdentifier name.toList) : erase name = name := by
  have hsingle := erase_intercalate (List.cons_ne_nil name []) (List.forall_mem_singleton.2 h)
  rwa [String.intercalate_singleton] at hsingle

/-- Erasure gives the names of a type with dots between them, and nothing is left of type arguments,
annotations, marks and blanks. This is for texts in which no annotation without arguments reads on into
what stands behind it. For every text whatever, the passes that drop the innermost pairs of angle brackets
end, after no more of them than the text has characters, with the first text that a pass leaves as it
is. That text is what is left of the given one after some characters are taken out, and in it no bracket
closes behind one that opens. -/
theorem erase_gives_names :
    (∀ (names : List String) (text : String),
      IsTypeText EndsAnnotation (names.map String.toList) text.toList →
        erase text = ".".intercalate names) ∧
    ∀ cs : List Char,
      (∃ passes ≤ cs.length, dropTypeArguments cs = dropInnermost^[passes] cs ∧
        (∀ k < passes, dropInnermost^[k + 1] cs ≠ dropInnermost^[k] cs) ∧
        dropInnermost (dropTypeArguments cs) = dropTypeArguments cs) ∧
      (dropTypeArguments cs).Sublist cs ∧
      ∀ front back, dropTypeArguments cs = front ++ '<' :: back → '>' ∉ back := by
  refine ⟨fun names text h => erase_of_isTypeText h, fun cs => ?_⟩
  obtain ⟨passes, hle, hresult, hbefore, hend⟩ := dropTypeArguments_eq_iterate cs
  exact ⟨⟨passes, hle, hresult, hbefore, hend⟩, dropTypeArguments_sublist cs,
    fun front back => not_mem_of_dropInnermost hend⟩

/-! ### A type with everything, and an annotation that reads on -/

/-- Without a closing parenthesis nothing can be read on. -/
theorem not_readsOn_of_not_mem {cs : List Char} (h : ')' ∉ cs) : ¬ ReadsOn cs := by
  rintro ⟨more, args, rest, -, -, rfl⟩
  exact h (by simp)

theorem isAnnotationName_singleton {c : Char} (h : isNameChar c = true) : IsAnnotationName [c] :=
  ⟨List.cons_ne_nil c [], fun _ hd => List.mem_singleton.1 hd ▸ h⟩

theorem IsArguments.chars {mayFollow : List Char → Prop} {text rest : List Char} (front : List Char)
    (hfront : front.all (fun c => c != '@' && !isAngle c) = true) (h : IsArguments mayFollow text rest) :
    IsArguments mayFollow (front ++ text) rest := by
  induction front with
  | nil => exact h
  | cons c front ih =>
    rw [List.all_cons, Bool.and_eq_true, Bool.and_eq_true, bne_iff_ne, Bool.not_eq_true'] at hfront
    obtain ⟨⟨hat, hangle⟩, hfront⟩ := hfront
    exact .char hat hangle (ih hfront)

/-- A type with annotations, nested type arguments, an array and a variable number of arguments is erased to its
two names. -/
theorem erase_richType :
    IsTypeText EndsAnnotation (["a", "Map"].map String.toList) "a.@N(<)Map<K,List<@M V>> @P[]...".toList ∧
      erase "a.@N(<)Map<K,List<@M V>> @P[]..." = "a.Map" := by
  have hname : ∀ c ∈ ['M', 'N', 'P'], IsAnnotationName [c] := fun c hc =>
    isAnnotationName_singleton (List.all_eq_true.1 (by decide) c hc)
  obtain ⟨hpackage, hmap⟩ : IsIdentifier "a".toList ∧ IsIdentifier "Map".toList := by decide
  -- the text is built from its end to its front
  have hsuffix : IsSuffix EndsAnnotation " @P[]...".toList := by
    have hbare : IsAnnotation EndsAnnotation "@P[]...".toList "[]...".toList :=
      .bare (hname 'P' (by decide)) ⟨.inr (.inl ⟨_, rfl⟩), not_readsOn_of_not_mem (by decide)⟩
    exact .array (.blank (by decide) (.annotated hbare (.nil _)))
      (.variableArguments (.nil _) allBlank_nil)
  have hvalue : IsArguments EndsAnnotation "@M V>> @P[]...".toList ">> @P[]...".toList := by
    have hbare : IsAnnotation EndsAnnotation "@M V>> @P[]...".toList " V>> @P[]...".toList :=
      .bare (hname 'M' (by decide))
        ⟨.inl ⟨' ', rfl, by decide⟩, not_readsOn_of_not_mem (by decide)⟩
    exact .annotated hbare (.chars " V".toList (by decide) (.nil _))
  have harguments : IsArguments EndsAnnotation "K,List<@M V>> @P[]...".toList "> @P[]...".toList :=
    .chars "K,List".toList (by decide) (.group hvalue (.nil _))
  have hargs : HasNoParens ['<'] := by decide
  have happlied : IsAnnotation EndsAnnotation "@N(<)Map<K,List<@M V>> @P[]...".toList
      "Map<K,List<@M V>> @P[]...".toList :=
    .applied (hname 'N' (by decide)) hargs
  have hgeneric : IsGenericPart EndsAnnotation ([] ++ '<' :: "K,List<@M V>> @P[]...".toList)
      " @P[]...".toList := .arguments allBlank_nil harguments
  have hlast : IsTypeText EndsAnnotation ["Map".toList] "@N(<)Map<K,List<@M V>> @P[]...".toList :=
    .last (.annotated happlied (.nil _)) hmap hgeneric hsuffix
  have htype : IsTypeText EndsAnnotation (["a", "Map"].map String.toList)
      "a.@N(<)Map<K,List<@M V>> @P[]...".toList :=
    .dot (.nil _) hpackage (.none _) allBlank_nil hlast
  exact ⟨htype, erase_gives_names.1 ["a", "Map"] _ htype⟩

/-- The text is a type with two names if the annotation is taken to end before the three dots. But the
annotation reads on, through the dots and from one parenthesis to the other, and takes the second name
with it. -/
theorem annotation_takes_name :
    IsTypeText StartsApart (["List", "B"].map String.toList) "List<@A...(>.B<)>".toList ∧
      erase "List<@A...(>.B<)>" = "List" ∧ ".".intercalate ["List", "B"] = "List.B" := by
  obtain ⟨hfirst, hsecond⟩ : IsIdentifier "List".toList ∧ IsIdentifier "B".toList := by decide
  have hname : IsAnnotationName ['A'] := isAnnotationName_singleton (by decide)
  have hbare : IsAnnotation StartsApart "@A...(>.B<)>".toList "...(>.B<)>".toList :=
    .bare hname (.inr (.inr ⟨_, rfl⟩))
  have harguments : IsArguments StartsApart "@A...(>.B<)>".toList ">.B<)>".toList :=
    .annotated hbare (.chars "...(".toList (by decide) (.nil _))
  have hgeneric : IsGenericPart StartsApart ([] ++ '<' :: "@A...(>.B<)>".toList)
      ([] ++ '.' :: "B<)>".toList) := .arguments allBlank_nil harguments
  have hgeneric' : IsGenericPart StartsApart ([] ++ '<' :: ")>".toList) [] :=
    .arguments allBlank_nil (.chars ")".toList (by decide) (.nil _))
  have hlast : IsTypeText StartsApart ["B".toList] "B<)>".toList :=
    .last (.nil _) hsecond hgeneric' (.none allBlank_nil)
  exact ⟨.dot (.nil _) hfirst hgeneric allBlank_nil hlast, by decide +kernel, by decide +kernel⟩

end TypeName

end JavaAudit
