import JavaAudit.Finding.Suppression
import JavaAudit.Proofs.TextContainment
import JavaAudit.Proofs.TypeErasure

/-!
# Which lines a keyword silences

A line is silenced by a comment that begins with the keyword. `Carries` says where the keyword stands: the
line is cut into what comes before, the opener of the comment, blanks, the keyword and the rest. The search
goes through the line from left to right and through the blanks behind an opener; each of its levels is
equated with such a cut (`startsWithKeyword_iff`, `keywordFollows_iff`, `hasKeyword_iff`).

The keyword also has to end at the edge of a word, that is between a character that belongs to a word and
one that does not. For a keyword that ends in a word this asks that the word does not go on. For one that
ends otherwise it asks that a word follows at once, so that such a keyword does not silence a line on which
it stands alone (`lone_keyword_without_effect`).
-/

namespace JavaAudit.Suppression

open Text

section Search

variable {keyword cs line : List Char} {before : Char}

/-- There is the edge of a word between two texts. -/
def Edge (before after : List Char) : Prop :=
  before.getLast?.any isWordChar ≠ after.head?.any isWordChar

/-- A keyword is found where it stands and ends at the edge of a word. -/
theorem startsWithKeyword_iff (hne : keyword ≠ []) :
    startsWithKeyword keyword before cs = true ↔ ∃ rest, cs = keyword ++ rest ∧ Edge keyword rest := by
  have hlast : isWordChar (keyword.getLastD before) = keyword.getLast?.any isWordChar := by
    rw [List.getLastD_eq_getLast?, List.getLast?_eq_some_getLast hne]
    rfl
  have hedge : ∀ rest, isWordEdge (keyword.getLastD before) rest = true ↔ Edge keyword rest := by
    intro rest
    unfold isWordEdge Edge
    rw [hlast, bne_iff_ne]
  unfold startsWithKeyword
  rw [Bool.and_eq_true, List.isPrefixOf_iff_prefix, hedge]
  constructor
  · rintro ⟨⟨rest, rfl⟩, h⟩
    rw [List.drop_left] at h
    exact ⟨rest, rfl, h⟩
  · rintro ⟨rest, rfl, h⟩
    rw [List.drop_left]
    exact ⟨List.prefix_append keyword rest, h⟩

/-- Behind an opener the keyword may come after any number of blanks. -/
theorem keywordFollows_iff (hne : keyword ≠ []) :
    keywordFollows keyword before cs = true ↔
      ∃ blanks rest, cs = blanks ++ keyword ++ rest ∧ (∀ c ∈ blanks, isBlank c = true) ∧
        Edge keyword rest := by
  induction cs generalizing before with
  | nil =>
    rw [keywordFollows, startsWithKeyword_iff hne]
    constructor
    · rintro ⟨rest, hsplit, hedge⟩
      exact ⟨[], rest, hsplit, by simp, hedge⟩
    · rintro ⟨blanks, rest, hsplit, -, -⟩
      simp [hne] at hsplit
  | cons c cs ih =>
    rw [keywordFollows, Bool.or_eq_true, Bool.and_eq_true, startsWithKeyword_iff hne, ih]
    constructor
    · rintro (⟨rest, hsplit, hedge⟩ | ⟨hblank, blanks, rest, rfl, hblanks, hedge⟩)
      · exact ⟨[], rest, hsplit, by simp, hedge⟩
      · exact ⟨c :: blanks, rest, rfl, List.forall_mem_cons.2 ⟨hblank, hblanks⟩, hedge⟩
    · rintro ⟨blanks, rest, hsplit, hblanks, hedge⟩
      -- with blanks in front the first of them is the character at hand
      cases blanks with
      | nil => exact .inl ⟨rest, hsplit, hedge⟩
      | cons first blanks =>
        obtain ⟨rfl, rfl⟩ := List.cons.inj hsplit
        obtain ⟨hblank, hblanks⟩ := List.forall_mem_cons.1 hblanks
        exact .inr ⟨hblank, blanks, rest, rfl, hblanks, hedge⟩

/-- A comment begins here or farther on. -/
theorem hasKeyword_cons_iff {c : Char} :
    hasKeyword keyword (c :: cs) = true ↔
      (∃ d rest, c = '/' ∧ (d = '/' ∨ d = '*') ∧ cs = d :: rest ∧ keywordFollows keyword d rest = true) ∨
        hasKeyword keyword cs = true := by
  rw [hasKeyword.eq_def]
  split
  · next rest heq =>
    obtain ⟨rfl, rfl⟩ := List.cons.inj heq
    simp
  · next rest heq =>
    obtain ⟨rfl, rfl⟩ := List.cons.inj heq
    simp
  · next head rest hslash hstar heq =>
    obtain ⟨rfl, rfl⟩ := List.cons.inj heq
    refine ⟨.inr, fun h => h.resolve_left ?_⟩
    rintro ⟨d, rest, rfl, rfl | rfl, rfl, -⟩
    · exact hslash rest rfl rfl
    · exact hstar rest rfl rfl
  · next heq => cases heq

/-- A line has the keyword if it stands behind the opening of a comment, with nothing but blanks between. -/
theorem hasKeyword_iff (hne : keyword ≠ []) :
    hasKeyword keyword line = true ↔
      ∃ front opener blanks rest, line = front ++ opener ++ blanks ++ keyword ++ rest ∧
        (opener = ['/', '/'] ∨ opener = ['/', '*']) ∧ (∀ c ∈ blanks, isBlank c = true) ∧
        Edge keyword rest := by
  induction line with
  | nil => simp [hasKeyword, hne]
  | cons c cs ih =>
    rw [hasKeyword_cons_iff, ih]
    constructor
    · rintro (⟨d, rest, rfl, hd, rfl, hfollows⟩ | ⟨front, opener, blanks, rest, rfl, hrest⟩)
      · obtain ⟨blanks, rest, rfl, hblanks, hedge⟩ := (keywordFollows_iff hne).1 hfollows
        refine ⟨[], ['/', d], blanks, rest, by simp, ?_, hblanks, hedge⟩
        rcases hd with rfl | rfl
        · exact .inl rfl
        · exact .inr rfl
      · exact ⟨c :: front, opener, blanks, rest, rfl, hrest⟩
    · rintro ⟨front, opener, blanks, rest, hsplit, hopener, hblanks, hedge⟩
      cases front with
      | nil =>
        -- the comment begins here, and its opener has two characters
        have hfollows : ∀ d, keywordFollows keyword d (blanks ++ keyword ++ rest) = true := fun d =>
          (keywordFollows_iff hne).2 ⟨blanks, rest, rfl, hblanks, hedge⟩
        left
        rcases hopener with rfl | rfl
        · obtain ⟨rfl, rfl⟩ := List.cons.inj hsplit
          exact ⟨'/', _, rfl, .inl rfl, by simp, hfollows '/'⟩
        · obtain ⟨rfl, rfl⟩ := List.cons.inj hsplit
          exact ⟨'*', _, rfl, .inr rfl, by simp, hfollows '*'⟩
      | cons first front =>
        obtain ⟨rfl, rfl⟩ := List.cons.inj hsplit
        exact .inr ⟨front, opener, blanks, rest, rfl, hopener, hblanks, hedge⟩

end Search

/-! ## Lines -/

variable {keyword line rest : String}

/-- A comment on the line begins with the keyword, and the rest follows: the line is cut into something,
the opener of the comment, blanks, the keyword and the rest. -/
def Carries (keyword line rest : String) : Prop :=
  ∃ front opener blanks : String, line = front ++ opener ++ blanks ++ keyword ++ rest ∧
    (opener = "//" ∨ opener = "/*") ∧ ∀ c ∈ blanks.toList, isBlank c = true

/-- The last character belongs to a word. -/
def EndsInWord (text : String) : Prop := text.toList.getLast?.any isWordChar = true

/-- The first character belongs to a word. -/
def StartsInWord (text : String) : Prop := text.toList.head?.any isWordChar = true

/-- Nothing follows, or a blank does. -/
def IsApart (rest : String) : Prop := rest = "" ∨ rest.toList.head?.any isBlank = true

theorem IsApart.not_startsInWord (h : IsApart rest) : ¬ StartsInWord rest := by
  unfold StartsInWord
  rcases h with rfl | hblank
  · simp
  · intro hword
    obtain ⟨c, hc, hblank⟩ := (Option.any_eq_true _ _).1 hblank
    rw [hc] at hword
    have hname := (TypeName.not_mark_of_isBlank hblank).2
    rw [TypeName.isNameChar, Bool.or_eq_false_iff] at hname
    exact Bool.false_ne_true (hname.1.symm.trans hword)

theorem edge_iff : Edge keyword.toList rest.toList ↔ (EndsInWord keyword ↔ ¬ StartsInWord rest) := by
  unfold Edge EndsInWord StartsInWord
  cases keyword.toList.getLast?.any isWordChar <;> cases rest.toList.head?.any isWordChar <;> simp

theorem hasKeyword_toList_iff (hne : keyword ≠ "") :
    hasKeyword keyword.toList line.toList = true ↔
      ∃ rest, Carries keyword line rest ∧ (EndsInWord keyword ↔ ¬ StartsInWord rest) := by
  have hchars : keyword.toList ≠ [] := fun hnil => hne (String.toList_eq_nil_iff.1 hnil)
  rw [hasKeyword_iff hchars]
  constructor
  · rintro ⟨front, opener, blanks, rest, hsplit, hopener, hblanks, hedge⟩
    refine ⟨String.ofList rest, ⟨String.ofList front, String.ofList opener, String.ofList blanks, ?_, ?_, ?_⟩,
      edge_iff.1 (by rwa [String.toList_ofList])⟩
    · rw [← String.toList_inj, hsplit]
      simp
    · rcases hopener with rfl | rfl
      · exact .inl rfl
      · exact .inr rfl
    · rwa [String.toList_ofList]
  · rintro ⟨rest, ⟨front, opener, blanks, rfl, hopener, hblanks⟩, hedge⟩
    refine ⟨front.toList, opener.toList, blanks.toList, rest.toList, by simp, ?_, hblanks,
      edge_iff.2 hedge⟩
    rcases hopener with rfl | rfl
    · exact .inl (by simp)
    · exact .inr (by simp)

/-- A line is silenced by the marker anywhere, or by the keyword in a comment. -/
theorem isSuppressed_iff (hne : keyword ≠ "") :
    isSuppressed keyword line = true ↔ contains line marker = true ∨
      ∃ rest, Carries keyword line rest ∧ (EndsInWord keyword ↔ ¬ StartsInWord rest) := by
  unfold isSuppressed
  rw [Bool.or_eq_true, hasKeyword_toList_iff hne, or_comm]

/-- A keyword that ends in a word silences every line with a comment that begins with it, if the comment
then ends or goes on behind a blank. A line without the marker is silenced only by a comment that begins
with the keyword, where a word at its end does not go on; and if the keyword does not end in a word, only
where a word follows at once. -/
theorem keyword_silences_up_to_word_edge (hne : keyword ≠ "") :
    (EndsInWord keyword → ∀ line rest, Carries keyword line rest → IsApart rest →
      isSuppressed keyword line = true) ∧
    (∀ line, contains line marker = false →
      (isSuppressed keyword line = true ↔
        ∃ rest, Carries keyword line rest ∧ (EndsInWord keyword → ¬ StartsInWord rest) ∧
          (¬ EndsInWord keyword → StartsInWord rest))) := by
  refine ⟨fun hword line rest hcarries hapart => ?_, fun line hmarker => ?_⟩
  · refine (isSuppressed_iff hne).2 (.inr ⟨rest, hcarries, ?_⟩)
    exact ⟨fun _ => hapart.not_startsInWord, fun _ => hword⟩
  · rw [isSuppressed_iff hne, hmarker]
    constructor
    · rintro (hcontains | ⟨rest, hcarries, hedge⟩)
      · cases hcontains
      · exact ⟨rest, hcarries, hedge.1, fun hends => not_not.1 fun hstarts => hends (hedge.2 hstarts)⟩
    · rintro ⟨rest, hcarries, hword, hother⟩
      refine .inr ⟨rest, hcarries, hword, fun hstarts => ?_⟩
      exact not_not.1 fun hends => hstarts (hother hends)

/-- A keyword of two words in a comment that goes on. -/
theorem auditOk_silences_line :
    "audit-ok" ≠ "" ∧ EndsInWord "audit-ok" ∧ Carries "audit-ok" "x(); /*\taudit-ok */" " */" ∧
      IsApart " */" ∧ isSuppressed "audit-ok" "x(); /*\taudit-ok */" = true := by
  have hcarries : Carries "audit-ok" "x(); /*\taudit-ok */" " */" :=
    ⟨"x(); ", "/*", "\t", by decide, .inr rfl, List.all_eq_true.1 (by decide)⟩
  have hword : EndsInWord "audit-ok" := by
    unfold EndsInWord
    decide
  have hapart : IsApart " */" := .inr (by decide)
  exact ⟨by decide, hword, hcarries, hapart,
    (keyword_silences_up_to_word_edge (by decide)).1 hword _ _ hcarries hapart⟩

/-- A keyword that ends in an exclamation mark does not silence a line on which a comment consists of
it. -/
theorem lone_keyword_without_effect :
    "ok!" ≠ "" ∧ "ok!".toList.head?.any isBlank = false ∧ Carries "ok!" "x(); // ok!" "" ∧ IsApart "" ∧
      isSuppressed "ok!" "x(); // ok!" = false := by
  have hcarries : Carries "ok!" "x(); // ok!" "" :=
    ⟨"x(); ", "//", " ", by decide, .inl rfl, List.all_eq_true.1 (by decide)⟩
  exact ⟨by decide, by decide, hcarries, .inl rfl, by decide⟩

end JavaAudit.Suppression
