import Mathlib.Data.List.TakeWhile
import JavaAudit.Proofs.TextContainment
import JavaAudit.SyntaxTree.Position

/-!
# Lines and columns grow with offsets

An offset between two characters stands in a line: some whole lines are before it, then comes a stretch
without a line end, then the rest of the text (`StandsAfter`). From that split the line and the column of
a node can be read off (`line_eq`, `column_eq`): the line counts the line ends, the column counts the
characters of the stretch. The carriage return in front of a line feed is not part of its line, so a
node directly behind it has the column of the carriage return.

The split also shows that the row of a node is always one of the lines of the source, and that a node
that starts later is not on an earlier line nor, on the same line, in an earlier column
(`position_mono`).
-/

namespace JavaAudit

/-! ## Cutting a text -/

namespace Text

variable {sep : Char}

theorem length_splitOn (cs : List Char) : (cs.splitOn sep).length = cs.count sep + 1 := by
  induction cs with
  | nil => rfl
  | cons c cs ih =>
    rw [List.splitOn_cons_eq_if_modifyHead, List.count_cons]
    by_cases hc : (c == sep) = true
    · rw [if_pos hc, if_pos hc, List.length_cons, ih]
    · rw [if_neg hc, if_neg hc, List.length_modifyHead, ih]

/-- A piece stands at the number of separators before it. -/
theorem getElem?_splitOn {front piece back : List Char} (hfront : ∀ c ∈ front.getLast?, c = sep)
    (hpiece : sep ∉ piece) (hback : ∀ c ∈ back.head?, c = sep) :
    ((front ++ (piece ++ back)).splitOn sep)[front.count sep]? = some piece := by
  have hfirst : ((piece ++ back).splitOn sep)[0]? = some piece := by
    cases back with
    | nil =>
      rw [List.append_nil, List.splitOn_eq_singleton hpiece]
      rfl
    | cons c back =>
      rw [hback c rfl, List.splitOn_append_cons_self, List.splitOn_eq_singleton hpiece]
      rfl
  rcases List.eq_nil_or_concat' front with rfl | ⟨init, last, rfl⟩
  · exact hfirst
  · have hlast : last = sep := hfront last (by rw [List.getLast?_concat]; rfl)
    have hcount : (init ++ [last]).count sep = (init.splitOn sep).length := by
      rw [hlast, List.count_append, List.count_singleton_self, length_splitOn]
    rw [hcount, hlast, List.append_assoc, List.singleton_append, List.splitOn_append_cons_self,
      List.getElem?_append_right (Nat.le_refl _), Nat.sub_self, hfirst]

end Text

/-! ## Characters and bytes -/

theorem foldr_utf8Size (cs : List Char) : cs.foldr (fun c bytes => bytes + c.utf8Size) 0 = String.utf8Len cs := by
  induction cs with
  | nil => rfl
  | cons c cs ih => rw [List.foldr_cons, ih, String.utf8Len_cons]

/-- The bytes of an initial stretch hold its characters. -/
theorem charsWithin_append (a b : List Char) : charsWithin (a ++ b) (String.utf8Len a) = a.length := by
  induction a with
  | nil =>
    cases b with
    | nil => rfl
    | cons c b =>
      have hc := c.utf8Size_pos
      show (if c.utf8Size ≤ 0 then _ else 0) = 0
      rw [if_neg (by omega)]
  | cons c a ih =>
    rw [List.cons_append, charsWithin, String.utf8Len_cons, if_pos (by omega), Nat.add_sub_cancel, ih]
    rfl

/-- Bytes beyond a text hold no further characters. -/
theorem charsWithin_of_le {cs : List Char} {bytes : Nat} (h : String.utf8Len cs ≤ bytes) :
    charsWithin cs bytes = cs.length := by
  induction cs generalizing bytes with
  | nil => rfl
  | cons c cs ih =>
    have hlen := String.utf8Len_cons c cs
    rw [charsWithin, if_pos (by omega), ih (by omega)]
    rfl

/-! ## The line around an offset -/

/-- An offset into a text stands after some whole lines and then some characters of its own line. -/
structure StandsAfter (text : List Char) (offset : Nat) (whole current rest : List Char) : Prop where
  text_eq : text = whole ++ current ++ rest
  offset_eq : String.utf8Len (whole ++ current) = offset
  whole_ends : ∀ c ∈ whole.getLast?, c = '\n'
  same_line : '\n' ∉ current

/-- The offset is directly behind the carriage return that ends its line. -/
def BehindReturn (current rest : List Char) : Prop :=
  current.getLast? = some '\r' ∧ (rest.head? = none ∨ rest.head? = some '\n')

instance (current rest : List Char) : Decidable (BehindReturn current rest) :=
  inferInstanceAs (Decidable (_ ∧ (_ ∨ _)))

/-- Any initial stretch of a text ends in a line. -/
theorem exists_standsAfter (front rest : List Char) :
    ∃ whole current, StandsAfter (front ++ rest) (String.utf8Len front) whole current rest ∧
      whole ++ current = front := by
  let current := (front.reverse.takeWhile (· ≠ '\n')).reverse
  let whole := (front.reverse.dropWhile (· ≠ '\n')).reverse
  have hfront : whole ++ current = front := by
    show (front.reverse.dropWhile _).reverse ++ (front.reverse.takeWhile _).reverse = front
    rw [← List.reverse_append, List.takeWhile_append_dropWhile, List.reverse_reverse]
  refine ⟨whole, current, ⟨by rw [hfront], by rw [hfront], ?_, ?_⟩, hfront⟩
  · intro c hc
    rw [List.getLast?_reverse] at hc
    have hstop := List.head?_dropWhile_not (· ≠ '\n') front.reverse
    rw [hc] at hstop
    simpa using hstop
  · intro hmem
    have hkept := List.mem_takeWhile_imp (List.mem_reverse.1 hmem)
    simp at hkept

namespace SyntaxTree

variable {t : SyntaxTree} {n m : Nat} {whole current rest front : List Char}

/-- What is before a node is the stretch of the source with as many bytes. -/
theorem before_eq (htext : t.source.toList = front ++ rest) (hoffset : String.utf8Len front = t.start n) :
    t.before n = front := by
  have hsource : t.source = String.ofList ([] ++ front ++ rest) := by
    rw [List.nil_append, ← htext, String.ofList_toList]
  have hextract := String.extract_of_valid [] front rest
  rw [← hsource, String.utf8Len_nil, Nat.zero_add, hoffset] at hextract
  unfold before
  rw [hextract, String.toList_ofList]

theorem row_eq (h : StandsAfter t.source.toList (t.start n) whole current rest) :
    t.row n = whole.count '\n' := by
  unfold row
  rw [before_eq h.text_eq h.offset_eq, List.count_append, List.count_eq_zero.2 h.same_line,
    Nat.add_zero]

/-- The line of a node is one more than the line breaks before it. -/
theorem line_eq (h : StandsAfter t.source.toList (t.start n) whole current rest) :
    t.line n = 1 + (whole ++ current).count '\n' := by
  unfold line
  rw [row_eq h, List.count_append, List.count_eq_zero.2 h.same_line]
  omega

/-- The offset in the line is the number of bytes since the last line break. -/
theorem lineOffset_eq (h : StandsAfter t.source.toList (t.start n) whole current rest) :
    t.lineOffset n = String.utf8Len current := by
  have hkeep : ∀ c ∈ current.reverse, decide (c ≠ '\n') = true := by
    intro c hc
    refine decide_eq_true ?_
    rintro rfl
    exact h.same_line (List.mem_reverse.1 hc)
  have hstop : whole.reverse.takeWhile (· ≠ '\n') = [] := by
    have hhead := h.whole_ends
    rw [← List.head?_reverse] at hhead
    cases hrev : whole.reverse with
    | nil => rfl
    | cons c cs =>
      have hc : c = '\n' := hhead c (by rw [hrev]; rfl)
      rw [List.takeWhile_cons_of_neg (by simp [hc])]
  unfold lineOffset
  rw [before_eq h.text_eq h.offset_eq, List.reverse_append, List.takeWhile_append_of_pos hkeep, hstop,
    List.append_nil, foldr_utf8Size, String.utf8Len_reverse]

/-- The line that a node starts in, up to its line feed. -/
theorem getElem?_sourceLines (h : StandsAfter t.source.toList (t.start n) whole current rest) :
    (sourceLines t.source)[t.row n]? =
      some (let line := current ++ rest.takeWhile (· ≠ '\n')
        if line.getLast? = some '\r' then line.dropLast else line) := by
  have hpiece : '\n' ∉ current ++ rest.takeWhile (· ≠ '\n') := by
    rw [List.mem_append]
    rintro (hmem | hmem)
    · exact h.same_line hmem
    · simpa using List.mem_takeWhile_imp hmem
  have hback : ∀ c ∈ (rest.dropWhile (· ≠ '\n')).head?, c = '\n' := by
    intro c hc
    have hstop := List.head?_dropWhile_not (· ≠ '\n') rest
    rw [hc] at hstop
    simpa using hstop
  have hline := Text.getElem?_splitOn h.whole_ends hpiece hback
  rw [List.append_assoc, List.takeWhile_append_dropWhile, ← List.append_assoc, ← h.text_eq,
    ← row_eq h] at hline
  unfold sourceLines
  rw [List.getElem?_map, hline]
  rfl

/-- The line of a node is one of the lines of the source. -/
theorem row_lt (h : StandsAfter t.source.toList (t.start n) whole current rest) :
    t.row n < (sourceLines t.source).length := by
  have hsome := getElem?_sourceLines h
  exact (List.getElem?_eq_some_iff.1 hsome).1

/-- The column counts the characters before a node on its line, without the carriage return that ends
the line. -/
theorem column_eq (h : StandsAfter t.source.toList (t.start n) whole current rest) :
    t.column n = if BehindReturn current rest then current.length - 1 else current.length := by
  unfold column
  rw [getElem?_sourceLines h, lineOffset_eq h]
  show charsWithin _ (String.utf8Len current) = _
  cases htail : rest.takeWhile (· ≠ '\n') with
  | nil =>
    -- the node is at the end of its line
    have hrest : rest.head? = none ∨ rest.head? = some '\n' := by
      cases rest with
      | nil => exact .inl rfl
      | cons d rest =>
        by_cases hd : d = '\n'
        · exact .inr (congrArg some hd)
        · rw [List.takeWhile_cons_of_pos (by simp [hd])] at htail
          cases htail
    rw [List.append_nil]
    by_cases hreturn : current.getLast? = some '\r'
    · have hle : String.utf8Len current.dropLast ≤ String.utf8Len current := by
        obtain ⟨init, rfl⟩ := List.getLast?_eq_some_iff.1 hreturn
        rw [List.dropLast_concat, String.utf8Len_append]
        omega
      rw [if_pos hreturn, if_pos ⟨hreturn, hrest⟩, charsWithin_of_le hle, List.length_dropLast]
    · rw [if_neg hreturn, if_neg (fun hb => hreturn hb.1), charsWithin_of_le (Nat.le_refl _)]
  | cons c tail =>
    -- the line goes on, so that its last character is not before the node
    have hbehind : ¬ BehindReturn current rest := by
      rintro ⟨-, hhead⟩
      cases rest with
      | nil => cases htail
      | cons d rest =>
        have hd : d = '\n' := by
          rcases hhead with hnone | hsome
          · cases hnone
          · exact Option.some.inj hsome
        rw [List.takeWhile_cons_of_neg (by simp [hd])] at htail
        cases htail
    rw [if_neg hbehind]
    by_cases hreturn : (current ++ c :: tail).getLast? = some '\r'
    · rw [if_pos hreturn, List.dropLast_append_of_ne_nil (List.cons_ne_nil c tail), charsWithin_append]
    · rw [if_neg hreturn, charsWithin_append]

/-! ## Nodes in order -/

/-- Nodes cover whole characters, and children lie inside their parents, one after another. -/
structure WellOrdered (t : SyntaxTree) : Prop extends t.WellNested where
  start_le_stop : ∀ n < t.size, t.start n ≤ t.stop n
  siblings : ∀ c d p, t.parent? c = some p → t.parent? d = some p → c < d → t.stop c ≤ t.start d

/-- Every node of a well ordered tree stands after some lines and some characters of its own line. -/
theorem WellOrdered.exists_standsAfter (ht : t.WellOrdered) (hn : n < t.size) :
    ∃ whole current rest, StandsAfter t.source.toList (t.start n) whole current rest := by
  obtain ⟨front, ⟨rest, htext⟩, hoffset⟩ := exists_prefix_of_isValid (ht.start_isValid n hn)
  obtain ⟨whole, current, h, -⟩ := JavaAudit.exists_standsAfter front rest
  rw [htext, hoffset] at h
  exact ⟨whole, current, rest, h⟩

/-- A node that starts later has a later place, or the same one. -/
theorem position_mono (ht : t.WellOrdered) (hn : n < t.size) (hm : m < t.size)
    (hle : t.start n ≤ t.start m) :
    t.line n < t.line m ∨ t.line n = t.line m ∧ t.column n ≤ t.column m := by
  obtain ⟨whole, current, rest, h⟩ := ht.exists_standsAfter hn
  obtain ⟨front, ⟨rest', htext⟩, hoffset⟩ := exists_prefix_of_isValid (ht.start_isValid m hm)
  have hprefix : whole ++ current <+: front := by
    refine prefix_of_utf8Len_le ⟨rest, h.text_eq.symm⟩ ⟨rest', htext⟩ ?_
    rw [hoffset, h.offset_eq]
    exact hle
  obtain ⟨gap, rfl⟩ := hprefix
  by_cases hbreak : '\n' ∈ gap
  · -- a line ends between the two
    have hrow : t.row m = (whole ++ current ++ gap).count '\n' := by
      unfold row
      rw [before_eq htext.symm hoffset]
    have hgap : 0 < gap.count '\n' := List.count_pos_iff.2 hbreak
    have hline := line_eq h
    rw [List.count_append] at hrow
    left
    show t.line n < t.row m + 1
    omega
  · -- the later node stands on the same line, behind all that the earlier one stands behind
    have hsame : StandsAfter t.source.toList (t.start m) whole (current ++ gap) rest' := by
      refine ⟨by rw [← htext, ← List.append_assoc], by rw [← hoffset, List.append_assoc], h.whole_ends, ?_⟩
      rw [List.mem_append, not_or]
      exact ⟨h.same_line, hbreak⟩
    have hrest : rest = gap ++ rest' := by
      have heq := h.text_eq.symm.trans htext.symm
      rwa [List.append_assoc (whole ++ current), List.append_cancel_left_eq] at heq
    right
    constructor
    · show t.row n + 1 = t.row m + 1
      rw [row_eq h, row_eq hsame]
    · rw [column_eq h, column_eq hsame]
      cases gap with
      | nil =>
        rw [List.nil_append] at hrest
        rw [hrest, List.append_nil]
      | cons c gap =>
        rw [List.length_append, List.length_cons]
        split <;> split <;> omega

end SyntaxTree

end JavaAudit
