import JavaAudit.Proofs.DisabledRules
import JavaAudit.Proofs.SettingsFaults
import JavaAudit.Proofs.Tables

/-!
# What settings say

A mapping may hold anything: whatever the kinds of its values are, it either is refused or becomes settings.
`Faulty` lists the reasons to refuse it, one for each constructor, and there are no others as long as the
values in it can be written (`valid_iff_writable_and_not_faulty`). The settings that it becomes hold the texts and levels of the given values and
nothing else (`Describes`, `describes_of_read`): ids and patterns in the given order, for each rule the level
of the last entry whose key has the text of its id, and the defaults where a key is absent.

A list or mapping that is empty in any way is as good as absent, but an empty keyword or level is not: it
stands for its text.
-/

namespace JavaAudit

/-! ## Levels that values name -/

namespace Severity

/-- The text of a value is the name of this level, in any case and with blanks around it. -/
def IsNamedBy (level : Severity) (v : Value) : Prop := Text.upperAscii (Text.strip v.text) = level.name

/-- A level is read from a value exactly if the value names it. -/
theorem ofValue?_eq_some_iff {v : Value} {level : Severity} :
    ofValue? v = some level ↔ level.IsNamedBy v := by
  unfold ofValue? ofText? IsNamedBy
  constructor
  · intro h
    have hname := List.find?_some h
    exact (decide_eq_true_iff.1 hname).symm
  · intro h
    rw [h]
    cases level <;> rfl

theorem isSome_ofValue?_iff {v : Value} :
    (ofValue? v).isSome ↔ ∃ level : Severity, level.IsNamedBy v := by
  rw [Option.isSome_iff_exists]
  exact exists_congr fun level => ofValue?_eq_some_iff

end Severity

namespace Settings

variable {data v : Value} {key : String} {source : Option String} {s : Settings}

/-! ## Data that are refused -/

/-- A key has this value, and the value is not empty. -/
def Given (data : Value) (key : String) (v : Value) : Prop := data.get? key = some v ∧ v.isEmpty = false

theorem given?_eq_some_iff : given? data key = some v ↔ Given data key v := by
  unfold given? Given
  rw [Option.filter_eq_some_iff, Bool.not_eq_true']

/-- Why data are no settings. -/
inductive Faulty (data : Value) : Prop where
  | disabledKind {v : Value} (hgiven : Given data "disabled_rules" v) (hkind : ∀ items, v ≠ .list items)
  | disabledRule {items : List Value} {id : Value} (hgiven : Given data "disabled_rules" (.list items))
      (hid : id ∈ items) (hunknown : id.text ∉ Rule.builtinIds)
  | severitiesKind {v : Value} (hgiven : Given data "severity_overrides" v)
      (hkind : ∀ entries, v ≠ .map entries)
  | severitiesRule {entries : List (Value × Value)} {id level : Value}
      (hgiven : Given data "severity_overrides" (.map entries)) (hentry : (id, level) ∈ entries)
      (hunknown : id.text ∉ Rule.builtinIds)
  | severitiesLevel {entries : List (Value × Value)} {id level : Value}
      (hgiven : Given data "severity_overrides" (.map entries)) (hentry : (id, level) ∈ entries)
      (hunknown : ∀ severity : Severity, ¬ severity.IsNamedBy level)
  | exclusionsKind {v : Value} (hgiven : Given data "exclude_paths" v) (hkind : ∀ items, v ≠ .list items)
  | leastLevel {level : Value} (hpresent : data.get? "min_severity" = some level)
      (hunknown : ∀ severity : Severity, ¬ severity.IsNamedBy level)

/-- Every value whose text is needed can be written. -/
structure Writable (data : Value) : Prop where
  disabledRules : ∀ id ∈ itemsOf data "disabled_rules", id.obstacle? = none
  severities : ∀ entry ∈ entriesOf data "severity_overrides",
    entry.1.obstacle? = none ∧ entry.2.obstacle? = none
  exclusions : ∀ v ∈ itemsOf data "exclude_paths", v.obstacle? = none
  keyword : ∀ v, data.get? "suppression_keyword" = some v → v.obstacle? = none
  least : ∀ v, data.get? "min_severity" = some v → v.obstacle? = none

theorem mem_itemsOf_iff {id : Value} :
    id ∈ itemsOf data key ↔ ∃ items, Given data key (.list items) ∧ id ∈ items := by
  unfold itemsOf Given
  constructor
  · intro h
    split at h
    · next items hget => exact ⟨items, ⟨hget, List.isEmpty_eq_false_iff.2 (List.ne_nil_of_mem h)⟩, h⟩
    · cases h
  · rintro ⟨items, ⟨hget, -⟩, hid⟩
    rw [hget]
    exact hid

theorem mem_entriesOf_iff {entry : Value × Value} :
    entry ∈ entriesOf data key ↔ ∃ entries, Given data key (.map entries) ∧ entry ∈ entries := by
  unfold entriesOf Given
  constructor
  · intro h
    split at h
    · next entries hget => exact ⟨entries, ⟨hget, List.isEmpty_eq_false_iff.2 (List.ne_nil_of_mem h)⟩, h⟩
    · cases h
  · rintro ⟨entries, ⟨hget, -⟩, hentry⟩
    rw [hget]
    exact hentry

theorem Valid.writable (h : Valid data) : Writable data where
  disabledRules id hid := (h.disabledRules id hid).1
  severities entry hentry := ⟨(h.severitiesRules entry hentry).1, (h.severitiesLevels entry hentry).1⟩
  exclusions := h.exclusionsTexts
  keyword := h.keyword
  least v hv := (h.least v hv).1

theorem Valid.not_faulty (h : Valid data) : ¬ Faulty data := by
  intro hfaulty
  cases hfaulty with
  | disabledKind hgiven hkind =>
    obtain ⟨items, heq⟩ := h.disabledKind _ (given?_eq_some_iff.2 hgiven)
    exact hkind items heq
  | disabledRule hgiven hid hunknown =>
    exact hunknown (h.disabledRules _ (mem_itemsOf_iff.2 ⟨_, hgiven, hid⟩)).2
  | severitiesKind hgiven hkind =>
    obtain ⟨entries, heq⟩ := h.severitiesKind _ (given?_eq_some_iff.2 hgiven)
    exact hkind entries heq
  | severitiesRule hgiven hentry hunknown =>
    exact hunknown (h.severitiesRules _ (mem_entriesOf_iff.2 ⟨_, hgiven, hentry⟩)).2
  | severitiesLevel hgiven hentry hunknown =>
    have hknown := (h.severitiesLevels _ (mem_entriesOf_iff.2 ⟨_, hgiven, hentry⟩)).2
    obtain ⟨severity, hseverity⟩ := Severity.isSome_ofValue?_iff.1 hknown
    exact hunknown severity hseverity
  | exclusionsKind hgiven hkind =>
    obtain ⟨items, heq⟩ := h.exclusionsKind _ (given?_eq_some_iff.2 hgiven)
    exact hkind items heq
  | leastLevel hpresent hunknown =>
    obtain ⟨severity, hseverity⟩ := Severity.isSome_ofValue?_iff.1 (h.least _ hpresent).2
    exact hunknown severity hseverity

/-- Data that can be written and have nothing wrong are valid. -/
theorem Writable.valid (hwritable : Writable data) (h : ¬ Faulty data) : Valid data where
  disabledKind v hv := by
    by_contra hkind
    exact h (.disabledKind (given?_eq_some_iff.1 hv) fun items heq => hkind ⟨items, heq⟩)
  disabledRules id hid := by
    obtain ⟨items, hgiven, hmem⟩ := mem_itemsOf_iff.1 hid
    refine ⟨hwritable.disabledRules id hid, ?_⟩
    by_contra hunknown
    exact h (.disabledRule hgiven hmem hunknown)
  severitiesKind v hv := by
    by_contra hkind
    exact h (.severitiesKind (given?_eq_some_iff.1 hv) fun entries heq => hkind ⟨entries, heq⟩)
  severitiesRules entry hentry := by
    obtain ⟨entries, hgiven, hmem⟩ := mem_entriesOf_iff.1 hentry
    refine ⟨(hwritable.severities entry hentry).1, ?_⟩
    by_contra hunknown
    exact h (.severitiesRule hgiven hmem hunknown)
  severitiesLevels entry hentry := by
    obtain ⟨entries, hgiven, hmem⟩ := mem_entriesOf_iff.1 hentry
    refine ⟨(hwritable.severities entry hentry).2, Severity.isSome_ofValue?_iff.2 ?_⟩
    by_contra hunknown
    exact h (.severitiesLevel hgiven hmem fun severity hnamed => hunknown ⟨severity, hnamed⟩)
  exclusionsKind v hv := by
    by_contra hkind
    exact h (.exclusionsKind (given?_eq_some_iff.1 hv) fun items heq => hkind ⟨items, heq⟩)
  exclusionsTexts := hwritable.exclusions
  keyword := hwritable.keyword
  least v hv := by
    refine ⟨hwritable.least v hv, Severity.isSome_ofValue?_iff.2 ?_⟩
    by_contra hunknown
    exact h (.leastLevel hv fun severity hnamed => hunknown ⟨severity, hnamed⟩)

theorem valid_iff_writable_and_not_faulty : Valid data ↔ Writable data ∧ ¬ Faulty data :=
  ⟨fun h => ⟨h.writable, h.not_faulty⟩, fun h => h.1.valid h.2⟩

/-- The value whose text a look needs. -/
def Look.subject? : Look → Option Value
  | .atList _ => none
  | .atMapping _ => none
  | .atRule _ id => some id
  | .atLevel level => some level
  | .atText v => some v

/-- A fault of writing comes from the value that was looked at. -/
theorem exists_subject_of_fault? {look : Look} {fault : WriteFault}
    (h : look.fault? data = some (.unwritable fault)) :
    ∃ v, look.subject? = some v ∧ v.obstacle? = some fault := by
  cases look with
  | atList key =>
    rw [Look.fault?] at h
    split at h <;> cases h
  | atMapping key =>
    rw [Look.fault?] at h
    split at h <;> cases h
  | atRule key id =>
    rw [Look.fault?] at h
    cases hid : id.obstacle? with
    | none =>
      simp only [hid] at h
      split at h <;> cases h
    | some obstacle =>
      rw [hid] at h
      cases h
      exact ⟨id, rfl, hid⟩
  | atLevel level =>
    rw [Look.fault?] at h
    cases hlevel : level.obstacle? with
    | none =>
      simp only [hlevel] at h
      split at h <;> cases h
    | some obstacle =>
      rw [hlevel] at h
      -- a number that is too long is no level, and this is a problem rather than a fault
      cases obstacle with
      | tooManyDigits => cases h
      | tooDeep =>
        cases h
        exact ⟨level, rfl, hlevel⟩
  | atText v =>
    rw [Look.fault?] at h
    obtain ⟨obstacle, hv, heq⟩ := Option.map_eq_some_iff.1 h
    cases heq
    exact ⟨v, rfl, hv⟩

theorem Writable.obstacle?_eq_none (h : Writable data) :
    ∀ look ∈ looks data, ∀ v, look.subject? = some v → v.obstacle? = none := by
  refine (forall_looks_iff _).2 ⟨nofun, ?_, nofun, ?_, nofun, ?_, ?_, ?_⟩
  · rintro id hid _ ⟨⟩
    exact h.disabledRules id hid
  · intro entry hentry
    constructor
    · rintro _ ⟨⟩
      exact (h.severities entry hentry).1
    · rintro _ ⟨⟩
      exact (h.severities entry hentry).2
  · rintro v hv _ ⟨⟩
    exact h.exclusions v hv
  · rintro v hv _ ⟨⟩
    exact h.keyword v hv
  · rintro v hv _ ⟨⟩
    exact h.least v hv

/-- Data that can be written do not break the run off. -/
theorem Writable.not_breaksOff (h : Writable data) : ¬ BreaksOff data := by
  rintro ⟨fault, hfault⟩
  obtain ⟨look, hlook, hunwritable⟩ := List.exists_of_findSome?_eq_some hfault
  obtain ⟨v, hsubject, hobstacle⟩ := exists_subject_of_fault? hunwritable
  rw [h.obstacle?_eq_none look hlook v hsubject] at hobstacle
  cases hobstacle

/-- Where everything can be written, reading always ends with settings or a problem. -/
theorem Writable.read_ne_unwritable (h : Writable data) (fault : WriteFault) :
    read source data ≠ .error (.unwritable fault) :=
  fun hread => h.not_breaksOff ⟨fault, read_eq_error_iff.1 hread⟩

/-- Of the data that can be written, those with something wrong are refused, and no others. -/
theorem Writable.exists_problem_iff (h : Writable data) :
    (∃ problem, read source data = .error (.problem problem)) ↔ Faulty data := by
  rcases read_cases source data with
    ⟨hvalid, -, s, hs⟩ | ⟨hvalid, ⟨-, problem, hread⟩ | ⟨hbreaks, -⟩⟩
  · refine ⟨fun ⟨problem, hproblem⟩ => ?_, fun hfaulty => absurd hfaulty hvalid.not_faulty⟩
    rw [hs] at hproblem
    cases hproblem
  · refine ⟨fun _ => ?_, fun _ => ⟨problem, hread⟩⟩
    by_contra hfaulty
    exact hvalid (h.valid hfaulty)
  · exact absurd hbreaks h.not_breaksOff

/-! ## Data that are settings -/

/-- The last entry for a rule sets this level. -/
def Sets (entries : List (Value × Value)) (id : String) (severity : Severity) : Prop :=
  ∃ before rule level after, entries = before ++ (rule, level) :: after ∧ rule.text = id ∧
    severity.IsNamedBy level ∧ ∀ later ∈ after, later.1.text ≠ id

/-- The settings hold the texts and levels of the given values, and the defaults for absent ones. -/
structure Describes (source : Option String) (data : Value) (s : Settings) : Prop where
  disabledRules : s.disabledRules = (itemsOf data "disabled_rules").map Value.text
  severities : ∀ id severity, Table.get? id s.severities = some severity ↔
    Sets (entriesOf data "severity_overrides") id severity
  distinct : (Table.keys s.severities).Nodup
  exclusions : s.exclusions = (itemsOf data "exclude_paths").map Value.text
  keyword : ∀ v, data.get? "suppression_keyword" = some v → s.keyword = v.text
  defaultKeyword : data.get? "suppression_keyword" = none → s.keyword = "nosec"
  least : ∀ v, data.get? "min_severity" = some v → s.least.IsNamedBy v
  defaultLeast : data.get? "min_severity" = none → s.least = .info
  source : s.source = source

/-- What a function gives for every item, if it gives anything for all of them. -/
theorem eq_map_of_mapM_eq_ok {α β ε : Type} {f : α → Except ε β} {g : α → β} {l : List α} {bs : List β}
    (hf : ∀ a b, f a = .ok b → b = g a) (h : l.mapM f = .ok bs) : bs = l.map g := by
  induction l generalizing bs with
  | nil =>
    cases h
    rfl
  | cons a l ih =>
    rw [List.mapM_cons, bind_eq_ok_iff] at h
    obtain ⟨b, hb, h⟩ := h
    rw [bind_eq_ok_iff] at h
    obtain ⟨rest, hrest, h⟩ := h
    cases h
    rw [List.map_cons, ← hf a b hb, ← ih hrest]

theorem exists_of_mapM_eq_ok {α β ε : Type} {f : α → Except ε β} {l : List α} {bs : List β}
    (h : l.mapM f = .ok bs) : ∀ a ∈ l, ∃ b, f a = .ok b := by
  intro a ha
  have hnone := faultOf_eq_none_iff.2 ⟨bs, h⟩
  rw [faultOf_mapM, List.findSome?_eq_none_iff] at hnone
  exact faultOf_eq_none_iff.1 (hnone a ha)

theorem written_eq_ok_iff {text : String} : written v = .ok text ↔ text = v.text ∧ v.obstacle? = none := by
  unfold written
  cases v.obstacle? with
  | none => simp [eq_comm]
  | some fault => simp

theorem ruleId_eq_ok_iff {id : String} :
    ruleId key v = .ok id ↔ id = v.text ∧ v.obstacle? = none ∧ v.text ∈ Rule.builtinIds := by
  unfold ruleId
  simp only [bind_eq_ok_iff, written_eq_ok_iff]
  constructor
  · rintro ⟨_, ⟨rfl, hwritten⟩, hid⟩
    split at hid
    · next hknown =>
      cases hid
      exact ⟨rfl, hwritten, hknown⟩
    · cases hid
  · rintro ⟨rfl, hwritten, hknown⟩
    exact ⟨_, ⟨rfl, hwritten⟩, if_pos hknown⟩

/-- A level is read as the severity that it names. -/
theorem severity_eq_ok_iff {level : Severity} :
    severity v = .ok level ↔ v.obstacle? = none ∧ level.IsNamedBy v := by
  rw [← Severity.ofValue?_eq_some_iff, severity]
  cases v.obstacle? with
  | some fault => cases fault <;> simp
  | none => cases Severity.ofValue? v <;> simp

theorem isNamedBy_of_ruleSeverity {entry : Value × Value} {result : String × Severity}
    (h : ruleSeverity entry = .ok result) : result.1 = entry.1.text ∧ result.2.IsNamedBy entry.2 := by
  unfold ruleSeverity at h
  simp only [bind_eq_ok_iff, ruleId_eq_ok_iff, severity_eq_ok_iff] at h
  obtain ⟨id, ⟨rfl, -⟩, level, ⟨-, hlevel⟩, heq⟩ := h
  cases heq
  exact ⟨rfl, hlevel⟩

/-- The rule and the level of an entry that names a level. -/
def entryImage (entry : Value × Value) : String × Severity :=
  (entry.1.text, (Severity.ofValue? entry.2).getD .info)

theorem entryImage_of_isNamedBy {rule level : Value} {severity : Severity}
    (h : severity.IsNamedBy level) : entryImage (rule, level) = (rule.text, severity) := by
  have hvalue : Severity.ofValue? level = some severity := Severity.ofValue?_eq_some_iff.2 h
  simp [entryImage, hvalue]

/-- An entry is read as the text of its rule with the severity that its level names. -/
theorem eq_entryImage_of_ruleSeverity {entry : Value × Value} {result : String × Severity}
    (h : ruleSeverity entry = .ok result) : result = entryImage entry := by
  obtain ⟨rule, level⟩ := entry
  obtain ⟨id, severity⟩ := result
  obtain ⟨hid, hlevel⟩ := isNamedBy_of_ruleSeverity h
  have hrule : id = rule.text := hid
  rw [entryImage_of_isNamedBy hlevel, hrule]

/-- The levels of the entries, written one after another, are found again as the last entry sets them. -/
theorem get?_ofEntries_eq_some_iff_sets {entries : List (Value × Value)}
    {levels : List (String × Severity)} (h : entries.mapM ruleSeverity = .ok levels) (id : String)
    (severity : Severity) :
    Table.get? id (Table.ofEntries levels) = some severity ↔ Sets entries id severity := by
  have hlevels : levels = entries.map entryImage :=
    eq_map_of_mapM_eq_ok (fun _ _ => eq_entryImage_of_ruleSeverity) h
  rw [Table.get?_ofEntries_eq_some_iff_last, hlevels]
  constructor
  · rintro ⟨before, after, hsplit, hafter⟩
    obtain ⟨front, rest, rfl, -, hrest⟩ := List.map_eq_append_iff.1 hsplit
    obtain ⟨⟨rule, level⟩, back, rfl, hentry, rfl⟩ := List.map_eq_cons_iff.1 hrest
    -- the entry has been read, so its level is named
    obtain ⟨⟨id', severity'⟩, hread⟩ := exists_of_mapM_eq_ok h (rule, level) (by simp)
    obtain ⟨-, hnamed⟩ := isNamedBy_of_ruleSeverity hread
    rw [entryImage_of_isNamedBy hnamed] at hentry
    cases hentry
    exact ⟨front, rule, level, back, rfl, rfl, hnamed, fun later hlater =>
      hafter _ (List.mem_map_of_mem hlater)⟩
  · rintro ⟨before, rule, level, after, rfl, rfl, hnamed, hafter⟩
    refine ⟨before.map entryImage, after.map entryImage, ?_, ?_⟩
    · rw [List.map_append, List.map_cons, entryImage_of_isNamedBy hnamed]
    · intro entry hentry
      obtain ⟨later, hlater, rfl⟩ := List.mem_map.1 hentry
      exact hafter later hlater

/-- What is read says what was given. -/
theorem describes_of_read (h : read source data = .ok s) : Describes source data s := by
  unfold read at h
  simp only [bind_eq_ok_iff] at h
  obtain ⟨items, hitems, ids, hids, entries, hentries, levels, hlevels, patterns, hpatterns, exclusions,
    hexclusions, keyword, hkeyword, least, hleast, hs⟩ := h
  -- each step of the reading gives the texts or the level of what is in the data
  have hitems' : items = itemsOf data "disabled_rules" := eq_itemsOf_of_listUnder hitems
  have hentries' : entries = entriesOf data "severity_overrides" := eq_entriesOf_of_entriesUnder hentries
  have hpatterns' : patterns = itemsOf data "exclude_paths" := eq_itemsOf_of_listUnder hpatterns
  have hids' : ids = items.map Value.text :=
    eq_map_of_mapM_eq_ok (fun _ _ hid => (ruleId_eq_ok_iff.1 hid).1) hids
  have hexclusions' : exclusions = patterns.map Value.text :=
    eq_map_of_mapM_eq_ok (fun _ _ htext => (written_eq_ok_iff.1 htext).1) hexclusions
  have hkeyword' : keyword = ((data.get? "suppression_keyword").getD (.str "nosec")).text :=
    (written_eq_ok_iff.1 hkeyword).1
  have hleast' : least.IsNamedBy ((data.get? "min_severity").getD (.str Severity.info.name)) :=
    (severity_eq_ok_iff.1 hleast).2
  cases hs
  refine ⟨?_, ?_, Table.nodup_keys_ofEntries levels, ?_, ?_, ?_, ?_, ?_, rfl⟩
  · rw [← hitems']
    exact hids'
  · rw [← hentries']
    exact get?_ofEntries_eq_some_iff_sets hlevels
  · rw [← hpatterns']
    exact hexclusions'
  · intro v hv
    rw [hkeyword', hv]
    rfl
  · intro hnone
    rw [hkeyword', hnone]
    rfl
  · intro v hv
    rw [hv] at hleast'
    exact hleast'
  · intro hnone
    rw [hnone] at hleast'
    have hdefault : Severity.ofValue? (.str Severity.info.name) = some .info := by decide
    exact Option.some.inj ((Severity.ofValue?_eq_some_iff.2 hleast').symm.trans hdefault)

/-! ## Rules in settings are known -/

/-- Only known rules are switched off. -/
theorem Describes.disabled_known (h : Describes source data s) (hvalid : ¬ Faulty data) :
    ∀ id ∈ s.disabledRules, id ∈ Rule.builtinIds := by
  intro id hid
  rw [h.disabledRules, List.mem_map] at hid
  obtain ⟨item, hitem, rfl⟩ := hid
  obtain ⟨items, hgiven, hmem⟩ := mem_itemsOf_iff.1 hitem
  by_contra hunknown
  exact hvalid (.disabledRule hgiven hmem hunknown)

/-- Only known rules get another severity. -/
theorem Describes.severities_known (h : Describes source data s) (hvalid : ¬ Faulty data) :
    ∀ id ∈ Table.keys s.severities, id ∈ Rule.builtinIds := by
  intro id hid
  obtain ⟨severity, hget⟩ := Table.exists_get?_of_mem_keys hid
  obtain ⟨before, rule, level, after, hsplit, rfl, -, -⟩ := (h.severities id severity).1 hget
  have hentry : (rule, level) ∈ entriesOf data "severity_overrides" := by simp [hsplit]
  obtain ⟨entries, hgiven, hmem⟩ := mem_entriesOf_iff.1 hentry
  by_contra hunknown
  exact hvalid (.severitiesRule hgiven hmem hunknown)

/-- A mapping becomes settings exactly if it is not faulty and the values in it can be written. Where they can,
reading ends with settings or a problem, and there is a problem exactly if the mapping is faulty. The settings
say what was given; the rules in them are built-in ones, and the disabled ones are those that the registry
leaves out. -/
theorem read_accepts_exactly_valid_mappings (source : Option String) (entries : List (Value × Value)) :
    ((∃ s, read source (.map entries) = .ok s) ↔ Writable (.map entries) ∧ ¬ Faulty (.map entries)) ∧
    (Writable (.map entries) →
      ((∃ problem, read source (.map entries) = .error (.problem problem)) ↔ Faulty (.map entries)) ∧
      ∀ fault, read source (.map entries) ≠ .error (.unwritable fault)) ∧
    ∀ s, read source (.map entries) = .ok s →
      Describes source (.map entries) s ∧
      (∀ id ∈ s.disabledRules, id ∈ Rule.builtinIds) ∧
      (∀ id ∈ Table.keys s.severities, id ∈ Rule.builtinIds) ∧
      (Registry.builtin s.disabledRules).rules =
        Rule.builtin.filter fun r => r.id ∉ (itemsOf (.map entries) "disabled_rules").map Value.text := by
  refine ⟨exists_read_eq_ok_iff.trans valid_iff_writable_and_not_faulty,
    fun hwritable => ⟨hwritable.exists_problem_iff, hwritable.read_ne_unwritable⟩, fun s hs => ?_⟩
  have hdescribes := describes_of_read hs
  have hvalid : ¬ Faulty (.map entries) := (exists_read_eq_ok_iff.1 ⟨s, hs⟩).not_faulty
  refine ⟨hdescribes, hdescribes.disabled_known hvalid, hdescribes.severities_known hvalid, ?_⟩
  rw [Registry.rules_builtin, ← hdescribes.disabledRules]
  refine List.filter_congr fun r hr => ?_
  simp

/-- Data with keys and values of many kinds. -/
def mixedEntries : List (Value × Value) :=
  [(.int 1, .null),
   (.str "disabled_rules", .list [.str "SQL_INJECTION", .other "RESOURCE_LEAK" "RESOURCE_LEAK" false]),
   (.str "severity_overrides", .map [(.str "INSECURE_RANDOM", .str "info"),
     (.other "INSECURE_RANDOM" "INSECURE_RANDOM" false, .str " crıtical\n")]),
   (.str "exclude_paths", .bool false),
   (.str "suppression_keyword", .list [.null, .int 0])]

def mixedSettings : Settings where
  disabledRules := ["SQL_INJECTION", "RESOURCE_LEAK"]
  severities := [("INSECURE_RANDOM", .critical)]
  exclusions := []
  keyword := "[None, 0]"
  least := .info
  source := none

/-- Values of several kinds are read into one record of settings. -/
theorem read_mixedEntries : read none (.map mixedEntries) = .ok mixedSettings :=
  CommandLine.eq_ok_of_toOption (by decide +kernel)

/-- A level that is null is wrong, unlike a list or a mapping that is null. -/
theorem faulty_of_null_level : Faulty (.map [(.str "min_severity", .null)]) := by
  refine .leastLevel rfl fun severity hnamed => ?_
  have hnone : Severity.ofValue? .null = none := by decide
  rw [Severity.ofValue?_eq_some_iff.2 hnamed] at hnone
  cases hnone

theorem writable_of_null_level : Writable (.map [(.str "min_severity", .null)]) where
  disabledRules id hid := nomatch hid
  severities entry hentry := nomatch hentry
  exclusions v hv := nomatch hv
  keyword v hv := nomatch hv
  least v hv := by
    cases hv
    rfl

/-- Texts of any kind of value become settings, and a level without a value is refused. -/
theorem mixedEntries_described :
    (Writable (.map mixedEntries) ∧ ¬ Faulty (.map mixedEntries)) ∧
      read none (.map mixedEntries) = .ok mixedSettings ∧
      Describes none (.map mixedEntries) mixedSettings ∧
      ∃ problem, read none (.map [(.str "min_severity", .null)]) = .error (.problem problem) := by
  obtain ⟨haccepts, -, hdescribes⟩ := read_accepts_exactly_valid_mappings none mixedEntries
  obtain ⟨-, hrefuses, -⟩ := read_accepts_exactly_valid_mappings none [(.str "min_severity", .null)]
  exact ⟨haccepts.1 ⟨_, read_mixedEntries⟩, read_mixedEntries, (hdescribes _ read_mixedEntries).1,
    (hrefuses writable_of_null_level).1.2 faulty_of_null_level⟩

end Settings
end JavaAudit
