import JavaAudit.Proofs.Decoding
import JavaAudit.Proofs.Reporting

/-!
# How loading the settings can fail

The settings of a target come from the file that is named, or else from the nearest settings file
(`Chosen`). `Loads` lists how loading can end: there is no settings file, the named file is missing, the
file is no text, the text is no data, the data are no settings (`Acceptable`), reading the data breaks off, or
there are settings. Each file tree has exactly one of these endings (`load_eq_iff`).

Reading data takes a list of looks at them (`looks`) and stops at the first one that finds something wrong.

All failures but two are complaints that the run shows before it ends with 2. A file that is no UTF-8 text and
a value that cannot be written are the exceptions: they break the run off without an exit code.
-/

namespace JavaAudit

/-! ## Directories above a place -/

namespace Path.Absolute

/-- The second place is the first one or lies somewhere below it. -/
def Encloses (d p : Absolute) : Prop := d.doubled = p.doubled ∧ d.names <+: p.names

/-- The walk upwards comes to the directories that enclose the place, and to no others. -/
theorem mem_upward_iff {d p : Absolute} : d ∈ p.upward ↔ d.Encloses p := by
  unfold upward Encloses
  rw [List.mem_map]
  constructor
  · rintro ⟨n, -, rfl⟩
    exact ⟨rfl, List.take_prefix _ _⟩
  · rintro ⟨hdoubled, hnames⟩
    refine ⟨p.names.length - d.names.length, List.mem_range.2 (by omega), ?_⟩
    -- the directory with the first names of a place is met after as many steps as names are missing
    have hlength := hnames.length_le
    rw [Nat.sub_sub_self hlength, ← List.prefix_iff_eq_take.1 hnames, ← hdoubled]

end Path.Absolute

namespace Settings

variable {files : Files} {parse : DataParser} {target path : String} {named : Option String}

/-- No settings are discovered exactly if no directory around the target has a settings file. -/
theorem discover_eq_none_iff :
    discover files target = none ↔ ∀ directory : Path.Absolute,
      directory.Encloses (searchStart files target) →
        ∀ name ∈ fileNames, files.isFile (directory.child name).text = false := by
  unfold discover
  simp only [List.find?_eq_none, List.mem_flatMap, List.mem_map, Path.Absolute.mem_upward_iff,
    Bool.not_eq_true]
  constructor
  · intro h directory hdirectory name hname
    exact h _ ⟨directory, hdirectory, name, hname, rfl⟩
  · rintro h _ ⟨directory, hdirectory, name, hname, rfl⟩
    exact h directory hdirectory name hname

end Settings

/-- A number beyond the limit of digits cannot be written. -/
theorem Value.obstacle?_of_many_digits {n : Int} (h : Nat.pow 10 digitLimit ≤ n.natAbs) :
    (Value.int n).obstacle? = some .tooManyDigits := by
  rw [obstacle?, depthLimit, obstacleWithin, if_pos h]

namespace Settings

/-! ## What is looked at in data -/

variable {data v : Value} {key : String} {source : Option String}

/-- The items of the list under a key, if there is one. -/
def itemsOf (data : Value) (key : String) : List Value :=
  match data.get? key with
  | some (.list items) => items
  | _ => []

/-- The entries of the mapping under a key, if there is one. -/
def entriesOf (data : Value) (key : String) : List (Value × Value) :=
  match data.get? key with
  | some (.map entries) => entries
  | _ => []

theorem get?_of_given?_eq_none (h : given? data key = none) :
    data.get? key = none ∨ ∃ v, data.get? key = some v ∧ v.isEmpty = true := by
  cases hget : data.get? key with
  | none => exact .inl rfl
  | some v =>
    refine .inr ⟨v, rfl, ?_⟩
    unfold given? at h
    rw [hget] at h
    simpa using h

theorem get?_of_given?_eq_some (h : given? data key = some v) : data.get? key = some v :=
  (Option.filter_eq_some_iff.1 h).1

theorem eq_itemsOf_of_listUnder {items : List Value} (h : listUnder data key = .ok items) :
    items = itemsOf data key := by
  unfold listUnder at h
  unfold itemsOf
  split at h
  · next hgiven =>
    cases h
    -- an empty list counts as absent, and it has no items
    rcases get?_of_given?_eq_none hgiven with hget | ⟨v, hget, hempty⟩
    · rw [hget]
    · rw [hget]
      cases v with
      | list items => exact (List.isEmpty_iff.1 hempty).symm
      | _ => rfl
  · next hgiven =>
    cases h
    rw [get?_of_given?_eq_some hgiven]
  · cases h

theorem eq_entriesOf_of_entriesUnder {entries : List (Value × Value)}
    (h : entriesUnder data key = .ok entries) : entries = entriesOf data key := by
  unfold entriesUnder at h
  unfold entriesOf
  split at h
  · next hgiven =>
    cases h
    rcases get?_of_given?_eq_none hgiven with hget | ⟨v, hget, hempty⟩
    · rw [hget]
    · rw [hget]
      cases v with
      | map entries => exact (List.isEmpty_iff.1 hempty).symm
      | _ => rfl
  · next hgiven =>
    cases h
    rw [get?_of_given?_eq_some hgiven]
  · cases h

/-- A look at one thing in the data. -/
inductive Look where
  /-- The value under a key has to be a list. -/
  | atList (key : String)
  /-- The value under a key has to be a mapping. -/
  | atMapping (key : String)
  /-- The value has to be the id of a rule. -/
  | atRule (key : String) (id : Value)
  /-- The value has to name a severity. -/
  | atLevel (level : Value)
  /-- The value has to have a text. -/
  | atText (v : Value)

/-- What a look finds wrong. -/
def Look.fault? (data : Value) : Look → Option ReadFault
  | .atList key =>
    match given? data key with
    | none => none
    | some (.list _) => none
    | some _ => some (.problem (.listExpected key))
  | .atMapping key =>
    match given? data key with
    | none => none
    | some (.map _) => none
    | some _ => some (.problem (.mappingExpected key))
  | .atRule key id =>
    match id.obstacle? with
    | some fault => some (.unwritable fault)
    | none => if id.text ∈ Rule.builtinIds then none else some (.problem (.unknownRule key id))
  | .atLevel level =>
    match level.obstacle? with
    | some .tooDeep => some (.unwritable .tooDeep)
    | some .tooManyDigits => some (.problem .longSeverity)
    | none =>
      match Severity.ofValue? level with
      | some _ => none
      | none => some (.problem (.unknownSeverity level))
  | .atText v => v.obstacle?.map .unwritable

/-- All looks at data, in the order in which they are taken. -/
def looks (data : Value) : List Look :=
  List.flatten [
    [.atList disabledKey], (itemsOf data disabledKey).map (.atRule disabledKey),
    [.atMapping severitiesKey], (entriesOf data severitiesKey).flatMap fun entry =>
      [.atRule severitiesKey entry.1, .atLevel entry.2],
    [.atList exclusionsKey], (itemsOf data exclusionsKey).map .atText,
    (data.get? keywordKey).toList.map .atText, (data.get? leastKey).toList.map .atLevel]

/-- The first thing that is found wrong with data. -/
def firstFault? (data : Value) : Option ReadFault := (looks data).findSome? (Look.fault? data)

/-! ## Reading stops at the first fault -/

def faultOf {α ε : Type} : Except ε α → Option ε
  | .ok _ => none
  | .error fault => some fault

section Faults

variable {α β ε : Type}

theorem faultOf_eq_some_iff {x : Except ε α} {fault : ε} : faultOf x = some fault ↔ x = .error fault := by
  cases x <;> simp [faultOf]

theorem faultOf_eq_none_iff {x : Except ε α} : faultOf x = none ↔ ∃ a, x = .ok a := by
  cases x <;> simp [faultOf]

/-- Items are read in order, up to the first one with a fault. -/
theorem faultOf_mapM (f : α → Except ε β) (l : List α) :
    faultOf (l.mapM f) = l.findSome? fun a => faultOf (f a) := by
  induction l with
  | nil => rfl
  | cons a l ih =>
    rw [List.mapM_cons, List.findSome?_cons, ← ih]
    cases f a with
    | error fault => rfl
    | ok b =>
      cases l.mapM f <;> rfl

end Faults

theorem faultOf_listUnder : faultOf (listUnder data key) = Look.fault? data (.atList key) := by
  rw [listUnder, Look.fault?]
  cases given? data key with
  | none => rfl
  | some v => cases v <;> rfl

theorem faultOf_entriesUnder : faultOf (entriesUnder data key) = Look.fault? data (.atMapping key) := by
  rw [entriesUnder, Look.fault?]
  cases given? data key with
  | none => rfl
  | some v => cases v <;> rfl

theorem faultOf_written (data v : Value) : faultOf (written v) = Look.fault? data (.atText v) := by
  rw [written, Look.fault?]
  cases v.obstacle? <;> rfl

theorem faultOf_ruleId (data v : Value) : faultOf (ruleId key v) = Look.fault? data (.atRule key v) := by
  rw [ruleId, written, Look.fault?]
  cases v.obstacle? with
  | some fault => rfl
  | none =>
    show faultOf (if v.text ∈ Rule.builtinIds then _ else _) = _
    split <;> rfl

theorem faultOf_severity (data v : Value) : faultOf (severity v) = Look.fault? data (.atLevel v) := by
  rw [severity, Look.fault?]
  cases v.obstacle? with
  | some fault => cases fault <;> rfl
  | none => cases Severity.ofValue? v <;> rfl

/-- Of an entry, the rule is looked at before the level. -/
theorem faultOf_ruleSeverity (data : Value) (entry : Value × Value) :
    faultOf (ruleSeverity entry) =
      [Look.atRule severitiesKey entry.1, .atLevel entry.2].findSome? (Look.fault? data) := by
  rw [List.findSome?_cons, List.findSome?_cons, ← faultOf_ruleId data, ← faultOf_severity data, ruleSeverity]
  cases ruleId severitiesKey entry.1 <;> cases severity entry.2 <;> rfl

theorem findSome?_single {α β : Type} {f : α → Option β} (a : α) : [a].findSome? f = f a := by
  cases h : f a <;> simp [h]

/-- A part of reading takes some looks, and what follows takes the others. -/
theorem faultOf_bind {α β : Type} {x : Except ReadFault α} {f : α → Except ReadFault β} {here : List Look}
    {rest : List (List Look)} (hx : faultOf x = here.findSome? (Look.fault? data))
    (hf : ∀ a, x = .ok a → faultOf (f a) = rest.flatten.findSome? (Look.fault? data)) :
    faultOf (x >>= f) = (here :: rest).flatten.findSome? (Look.fault? data) := by
  rw [List.flatten_cons, List.findSome?_append, ← hx]
  cases x with
  | error fault => rfl
  | ok a => exact hf a rfl

/-- If one item is read by some looks, several are read by those of each. -/
theorem faultOf_mapM_looks {α β : Type} {f : α → Except ReadFault β} {look : α → List Look}
    (h : ∀ a, faultOf (f a) = (look a).findSome? (Look.fault? data)) (l : List α) :
    faultOf (l.mapM f) = (l.flatMap look).findSome? (Look.fault? data) := by
  rw [faultOf_mapM]
  induction l with
  | nil => rfl
  | cons a l ih =>
    rw [List.flatMap_cons, List.findSome?_append, List.findSome?_cons, ih, h a]
    cases (look a).findSome? (Look.fault? data) <;> rfl

/-- Data that can be read have no fault, and reading others stops at their first fault. -/
theorem faultOf_read : faultOf (read source data) = firstFault? data := by
  unfold read firstFault? looks
  -- the looks are listed in the order of the steps, and a later look may use what an earlier step gave
  refine faultOf_bind ?_ fun items hitems => faultOf_bind ?_ fun ids _ => faultOf_bind ?_ fun entries hentries =>
    faultOf_bind ?_ fun levels _ => faultOf_bind ?_ fun patterns hpatterns => faultOf_bind ?_ fun exclusions _ =>
      faultOf_bind ?_ fun keyword _ => faultOf_bind ?_ fun least _ => rfl
  · rw [faultOf_listUnder, findSome?_single]
  · rw [eq_itemsOf_of_listUnder hitems, faultOf_mapM_looks fun id => (faultOf_ruleId data id).trans
      (findSome?_single _).symm, List.map_eq_flatMap]
  · rw [faultOf_entriesUnder, findSome?_single]
  · rw [eq_entriesOf_of_entriesUnder hentries, faultOf_mapM_looks (faultOf_ruleSeverity data)]
  · rw [faultOf_listUnder, findSome?_single]
  · rw [eq_itemsOf_of_listUnder hpatterns, faultOf_mapM_looks fun v => (faultOf_written data v).trans
      (findSome?_single _).symm, List.map_eq_flatMap]
  · cases data.get? keywordKey with
    | none => rfl
    | some v => exact (faultOf_written data v).trans (findSome?_single _).symm
  · cases data.get? leastKey with
    | none =>
      have hdefault : faultOf (severity (.str Severity.info.name)) = none := by decide
      exact hdefault
    | some v => exact (faultOf_severity data v).trans (findSome?_single _).symm

/-! ## Data that are settings -/

/-- Every key that is given has a value of its kind, rules and severities are known, and whatever needs a text has
one. -/
structure Valid (data : Value) : Prop where
  disabledKind : ∀ v, given? data disabledKey = some v → ∃ items, v = .list items
  disabledRules : ∀ id ∈ itemsOf data disabledKey, id.obstacle? = none ∧ id.text ∈ Rule.builtinIds
  severitiesKind : ∀ v, given? data severitiesKey = some v → ∃ entries, v = .map entries
  severitiesRules : ∀ entry ∈ entriesOf data severitiesKey,
    entry.1.obstacle? = none ∧ entry.1.text ∈ Rule.builtinIds
  severitiesLevels : ∀ entry ∈ entriesOf data severitiesKey,
    entry.2.obstacle? = none ∧ (Severity.ofValue? entry.2).isSome
  exclusionsKind : ∀ v, given? data exclusionsKey = some v → ∃ items, v = .list items
  exclusionsTexts : ∀ v ∈ itemsOf data exclusionsKey, v.obstacle? = none
  keyword : ∀ v, data.get? keywordKey = some v → v.obstacle? = none
  least : ∀ v, data.get? leastKey = some v → v.obstacle? = none ∧ (Severity.ofValue? v).isSome

/-- A file without data, or with a mapping in which everything is valid. -/
def Acceptable (data : Value) : Prop :=
  data.isEmpty = true ∨ (∃ entries, data = .map entries) ∧ Valid data

theorem fault?_atList_eq_none_iff :
    Look.fault? data (.atList key) = none ↔ ∀ v, given? data key = some v → ∃ items, v = .list items := by
  rw [Look.fault?]
  cases given? data key with
  | none => simp
  | some v => cases v <;> simp

theorem fault?_atMapping_eq_none_iff :
    Look.fault? data (.atMapping key) = none ↔
      ∀ v, given? data key = some v → ∃ entries, v = .map entries := by
  rw [Look.fault?]
  cases given? data key with
  | none => simp
  | some v => cases v <;> simp

/-- A rule must be writable and known. -/
theorem fault?_atRule_eq_none_iff :
    Look.fault? data (.atRule key v) = none ↔ v.obstacle? = none ∧ v.text ∈ Rule.builtinIds := by
  rw [Look.fault?]
  cases v.obstacle? <;> simp

/-- A level must be writable and name a severity. -/
theorem fault?_atLevel_eq_none_iff :
    Look.fault? data (.atLevel v) = none ↔ v.obstacle? = none ∧ (Severity.ofValue? v).isSome := by
  rw [Look.fault?]
  cases v.obstacle? with
  | none => cases Severity.ofValue? v <;> simp
  | some fault => cases fault <;> simp

theorem fault?_atText_eq_none_iff : Look.fault? data (.atText v) = none ↔ v.obstacle? = none := by
  rw [Look.fault?, Option.map_eq_none_iff]

/-- What holds of every look, part by part in the order of reading. -/
theorem forall_looks_iff (P : Look → Prop) :
    (∀ look ∈ looks data, P look) ↔
      P (.atList disabledKey) ∧ (∀ id ∈ itemsOf data disabledKey, P (.atRule disabledKey id)) ∧
      P (.atMapping severitiesKey) ∧
      (∀ entry ∈ entriesOf data severitiesKey, P (.atRule severitiesKey entry.1) ∧ P (.atLevel entry.2)) ∧
      P (.atList exclusionsKey) ∧ (∀ v ∈ itemsOf data exclusionsKey, P (.atText v)) ∧
      (∀ v, data.get? keywordKey = some v → P (.atText v)) ∧
      ∀ v, data.get? leastKey = some v → P (.atLevel v) := by
  simp only [looks, List.flatten_cons, List.flatten_nil, List.append_nil, List.forall_mem_append,
    List.forall_mem_singleton, List.forall_mem_map, List.forall_mem_flatMap, List.forall_mem_cons,
    Option.mem_toList]

/-- Nothing is at fault exactly if the data are valid. -/
theorem firstFault?_eq_none_iff : firstFault? data = none ↔ Valid data := by
  rw [firstFault?, List.findSome?_eq_none_iff, forall_looks_iff]
  simp only [fault?_atList_eq_none_iff, fault?_atMapping_eq_none_iff, fault?_atRule_eq_none_iff,
    fault?_atLevel_eq_none_iff, fault?_atText_eq_none_iff]
  constructor
  · rintro ⟨h₁, h₂, h₃, h₄, h₅, h₆, h₇, h₈⟩
    exact ⟨h₁, h₂, h₃, fun entry hentry => (h₄ entry hentry).1, fun entry hentry => (h₄ entry hentry).2, h₅, h₆,
      h₇, h₈⟩
  · rintro ⟨h₁, h₂, h₃, h₄, h₅, h₆, h₇, h₈, h₉⟩
    exact ⟨h₁, h₂, h₃, fun entry hentry => ⟨h₄ entry hentry, h₅ entry hentry⟩, h₆, h₇, h₈, h₉⟩

/-- Data can be read as settings exactly if they are valid. -/
theorem exists_read_eq_ok_iff : (∃ s, read source data = .ok s) ↔ Valid data := by
  rw [← faultOf_eq_none_iff, faultOf_read, firstFault?_eq_none_iff]

/-- Reading reports the first fault and no other. -/
theorem read_eq_error_iff {fault : ReadFault} :
    read source data = .error fault ↔ firstFault? data = some fault := by
  rw [← faultOf_eq_some_iff, faultOf_read]

/-- Reading breaks off, because the first thing that is wrong is a value without a text. -/
def BreaksOff (data : Value) : Prop := ∃ fault, firstFault? data = some (.unwritable fault)

/-- Valid data do not break the run off. -/
theorem Valid.not_breaksOff (h : Valid data) : ¬ BreaksOff data := by
  rintro ⟨fault, hfault⟩
  rw [firstFault?_eq_none_iff.2 h] at hfault
  cases hfault

/-! ## Data of a file -/

/-- Data without keys are settings in which nothing is set. -/
theorem valid_of_get?_eq_none (h : ∀ key, data.get? key = none) : Valid data := by
  refine firstFault?_eq_none_iff.1 (List.findSome?_eq_none_iff.2 ((forall_looks_iff _).2 ?_))
  simp [Look.fault?, given?, itemsOf, entriesOf, h]

/-- Data are settings, or there is a problem with them, or reading them breaks off. -/
theorem read_cases (source : Option String) (data : Value) :
    (Valid data ∧ ¬ BreaksOff data ∧ ∃ s, read source data = .ok s) ∨
      ¬ Valid data ∧
        ((¬ BreaksOff data ∧ ∃ problem, read source data = .error (.problem problem)) ∨
          BreaksOff data ∧ ∃ fault, read source data = .error (.unwritable fault)) := by
  cases hread : read source data with
  | ok s =>
    have hvalid := exists_read_eq_ok_iff.1 ⟨s, hread⟩
    exact .inl ⟨hvalid, hvalid.not_breaksOff, s, rfl⟩
  | error fault =>
    have hfirst := read_eq_error_iff.1 hread
    have hinvalid : ¬ Valid data := by
      intro hvalid
      rw [firstFault?_eq_none_iff.2 hvalid] at hfirst
      cases hfirst
    refine .inr ⟨hinvalid, ?_⟩
    cases fault with
    | problem problem =>
      have hproblem : ¬ BreaksOff data := by
        rintro ⟨fault, hfault⟩
        rw [hfirst] at hfault
        cases hfault
      exact .inl ⟨hproblem, problem, rfl⟩
    | unwritable fault => exact .inr ⟨⟨fault, hfirst⟩, fault, rfl⟩

/-- The data of a file are settings, or there is a problem with them, or reading them breaks off. -/
theorem ofData_cases (path : String) (data : Value) :
    (Acceptable data ∧ ¬ BreaksOff data ∧ ∃ s, ofData path data = .ok s) ∨
      ¬ Acceptable data ∧
        ((¬ BreaksOff data ∧ ∃ problem, ofData path data = .error (.invalid path problem)) ∨
          BreaksOff data ∧ ∃ fault, ofData path data = .error (.unwritable path fault)) := by
  unfold Acceptable ofData
  by_cases hempty : data.isEmpty = true
  · -- an empty file counts as one without settings
    have hbreaks : ¬ BreaksOff data := by
      refine (valid_of_get?_eq_none fun key => ?_).not_breaksOff
      cases data with
      | map entries =>
        obtain rfl : entries = [] := List.isEmpty_iff.1 hempty
        rfl
      | _ => rfl
    have hvalid : Valid (.map []) := valid_of_get?_eq_none fun key => rfl
    obtain ⟨s, hs⟩ := exists_read_eq_ok_iff.2 hvalid
    rw [if_pos hempty, hs]
    exact .inl ⟨.inl hempty, hbreaks, s, rfl⟩
  · rw [if_neg hempty]
    cases data with
    | map entries =>
      rcases read_cases (some path) (.map entries) with
        ⟨hvalid, hbreaks, s, hs⟩ | ⟨hvalid, ⟨hbreaks, problem, hread⟩ | ⟨hbreaks, fault, hread⟩⟩
      · exact .inl ⟨.inr ⟨⟨entries, rfl⟩, hvalid⟩, hbreaks, s, by rw [hs]; rfl⟩
      · exact .inr ⟨fun h => h.elim hempty fun h => hvalid h.2, .inl ⟨hbreaks, problem, by rw [hread]; rfl⟩⟩
      · exact .inr ⟨fun h => h.elim hempty fun h => hvalid h.2, .inr ⟨hbreaks, fault, by rw [hread]; rfl⟩⟩
    | _ =>
      refine .inr ⟨fun h => h.elim hempty fun h => (nomatch h.1), .inl ⟨?_, .notMapping, rfl⟩⟩
      exact (valid_of_get?_eq_none fun key => rfl).not_breaksOff

/-- Data that break the run off are an error that names the file. -/
theorem exists_ofData_eq_error_of_breaksOff (path : String) (h : BreaksOff data) :
    ∃ fault, ofData path data = .error (.unwritable path fault) := by
  rcases ofData_cases path data with ⟨-, hbreaks, -⟩ | ⟨-, ⟨hbreaks, -⟩ | ⟨-, hfault⟩⟩
  · exact absurd h hbreaks
  · exact absurd h hbreaks
  · exact hfault

/-- A value without a text is no rule to disable. -/
theorem ofData_of_unwritable_disabled (path : String) {fault : WriteFault} (h : v.obstacle? = some fault) :
    ofData path (.map [(.str disabledKey, .list [v])]) = .error (.unwritable path fault) := by
  have hfirst : firstFault? (.map [(.str disabledKey, .list [v])]) = some (.unwritable fault) := by
    have hlook : Look.fault? (.map [(.str disabledKey, .list [v])]) (.atRule disabledKey v) =
        some (.unwritable fault) := by
      rw [Look.fault?, h]
    show List.findSome? _ (Look.atList disabledKey :: Look.atRule disabledKey v :: _) = _
    rw [List.findSome?_cons_of_isNone rfl, List.findSome?_cons_of_isSome (by rw [hlook]; rfl), hlook]
  show (read (some path) _).mapError (SettingsFault.ofRead path) = _
  rw [read_eq_error_iff.2 hfirst]
  rfl

/-! ## The file that counts -/

/-- No settings file is named. -/
def Unnamed (named : Option String) : Prop := named = none ∨ named = some ""

/-- The settings come from this file: it is named, or else it is the nearest settings file. -/
structure Chosen (files : Files) (target : String) (named : Option String) (path : String) : Prop where
  isFile : files.isFile path = true
  reason : (named = some path ∧ path ≠ "") ∨ (Unnamed named ∧ discover files target = some path)

/-- The file holds this text: its bytes are the UTF-8 encoding of the text before line ends were
unified. -/
def HoldsText (files : Files) (path text : String) : Prop :=
  ∃ cs : List Char, files.read path = .ok (cs.flatMap String.utf8EncodeChar) ∧
    text = String.ofList (Text.Utf8.unifyNewlines cs)

/-- The file cannot be read as text: its bytes are not the UTF-8 encoding of anything. -/
def HoldsNoText (files : Files) (path : String) : Prop :=
  ∃ content, files.read path = .ok content ∧ ¬ Text.Utf8.IsUtf8 content

/-- How loading the settings for a target ends. -/
inductive Loads (files : Files) (parse : DataParser) (target : String) (named : Option String) :
    Except SettingsFault (Option Settings) → Prop where
  /-- No file is named, and neither the directory of the target nor one above it has a settings file. -/
  | nothing (hnamed : Unnamed named)
      (hnone : ∀ directory : Path.Absolute, directory.Encloses (searchStart files target) →
        ∀ name ∈ fileNames, files.isFile (directory.child name).text = false) :
      Loads files parse target named (.ok none)
  | notFound {path : String} (hnamed : named = some path) (hne : path ≠ "")
      (hmissing : files.isFile path = false) : Loads files parse target named (.error (.notFound path))
  | notUtf8 {path : String} (hchosen : Chosen files target named path) (hbytes : HoldsNoText files path) :
      Loads files parse target named (.error (.notUtf8 path))
  | malformed {path text : String} (hchosen : Chosen files target named path)
      (htext : HoldsText files path text) (hparse : parse text = none) :
      Loads files parse target named (.error (.malformed path))
  | invalid {path text : String} {data : Value} {problem : SettingsProblem}
      (hchosen : Chosen files target named path) (htext : HoldsText files path text)
      (hparse : parse text = some data) (hdata : ¬ Acceptable data ∧ ¬ BreaksOff data)
      (hproblem : ofData path data = .error (.invalid path problem)) :
      Loads files parse target named (.error (.invalid path problem))
  | unwritable {path text : String} {data : Value} {fault : WriteFault}
      (hchosen : Chosen files target named path) (htext : HoldsText files path text)
      (hparse : parse text = some data) (hdata : BreaksOff data)
      (hfault : ofData path data = .error (.unwritable path fault)) :
      Loads files parse target named (.error (.unwritable path fault))
  | settings {path text : String} {data : Value} {s : Settings}
      (hchosen : Chosen files target named path) (htext : HoldsText files path text)
      (hparse : parse text = some data) (hdata : Acceptable data) (hs : ofData path data = .ok s) :
      Loads files parse target named (.ok (some s))

/-- A file with a text is malformed if the text is not parsed, and is else read by its data. -/
theorem ofFile_of_holdsText {text : String} (h : HoldsText files path text) :
    (parse text = none → ofFile files parse path = .error (.malformed path)) ∧
      ∀ data, parse text = some data → ofFile files parse path = ofData path data := by
  obtain ⟨cs, hread, rfl⟩ := h
  have htext : Files.text? (cs.flatMap String.utf8EncodeChar) =
      some (String.ofList (Text.Utf8.unifyNewlines cs)) := by
    unfold Files.text?
    rw [Text.Utf8.strict?_eq_some_iff.2 rfl]
    rfl
  unfold ofFile ofContent
  rw [hread]
  dsimp only
  rw [htext]
  dsimp only
  constructor
  · intro hparse
    rw [hparse]
  · intro data hparse
    rw [hparse]

theorem ofFile_of_holdsNoText (h : HoldsNoText files path) :
    ofFile files parse path = .error (.notUtf8 path) := by
  obtain ⟨content, hread, hbytes⟩ := h
  have htext : Files.text? content = none := by
    unfold Files.text?
    rw [Text.Utf8.strict?_eq_none_iff.2 hbytes]
    rfl
  unfold ofFile ofContent
  rw [hread]
  dsimp only
  rw [htext]

theorem holdsText_or_holdsNoText (h : files.isFile path = true) :
    (∃ text, HoldsText files path text) ∨ HoldsNoText files path := by
  obtain ⟨content, hread⟩ := Files.exists_read_of_isFile h
  by_cases hutf8 : Text.Utf8.IsUtf8 content
  · obtain ⟨cs, rfl⟩ := hutf8
    exact .inl ⟨_, cs, hread, rfl⟩
  · exact .inr ⟨content, hread, hutf8⟩

theorem filter_of_unnamed (h : Unnamed named) : (named.filter fun path => !path.isEmpty) = none := by
  rcases h with rfl | rfl <;> rfl

theorem filter_of_ne (h : path ≠ "") : ((some path).filter fun path => !path.isEmpty) = some path := by
  simp [h]

/-- Settings are loaded from the file that is chosen. -/
theorem load_of_chosen (h : Chosen files target named path) :
    load files parse target named = (ofFile files parse path).map some := by
  unfold load
  rcases h.reason with ⟨rfl, hne⟩ | ⟨hnamed, hdiscover⟩
  · rw [filter_of_ne hne]
    exact if_pos h.isFile
  · rw [filter_of_unnamed hnamed, hdiscover]

/-- The load that the rules allow is the one that takes place. -/
theorem load_of_loads {result : Except SettingsFault (Option Settings)}
    (h : Loads files parse target named result) : load files parse target named = result := by
  cases h with
  | nothing hnamed hnone =>
    unfold load
    rw [filter_of_unnamed hnamed, discover_eq_none_iff.2 hnone]
  | notFound hnamed hne hmissing =>
    unfold load
    rw [hnamed, filter_of_ne hne]
    exact if_neg (Bool.eq_false_iff.1 hmissing)
  | notUtf8 hchosen hbytes =>
    rw [load_of_chosen hchosen, ofFile_of_holdsNoText hbytes]
    rfl
  | malformed hchosen htext hparse =>
    rw [load_of_chosen hchosen, (ofFile_of_holdsText htext).1 hparse]
    rfl
  | invalid hchosen htext hparse _ hproblem =>
    rw [load_of_chosen hchosen, (ofFile_of_holdsText htext).2 _ hparse, hproblem]
    rfl
  | unwritable hchosen htext hparse _ hfault =>
    rw [load_of_chosen hchosen, (ofFile_of_holdsText htext).2 _ hparse, hfault]
    rfl
  | settings hchosen htext hparse _ hs =>
    rw [load_of_chosen hchosen, (ofFile_of_holdsText htext).2 _ hparse, hs]
    rfl

theorem exists_loads_of_chosen (parse : DataParser) (h : Chosen files target named path) :
    ∃ result, Loads files parse target named result := by
  rcases holdsText_or_holdsNoText h.isFile with ⟨text, htext⟩ | hbytes
  · cases hparse : parse text with
    | none => exact ⟨_, .malformed h htext hparse⟩
    | some data =>
      rcases ofData_cases path data with
        ⟨hdata, -, s, hs⟩ | ⟨hdata, ⟨hbreaks, problem, hproblem⟩ | ⟨hbreaks, fault, hfault⟩⟩
      · exact ⟨_, .settings h htext hparse hdata hs⟩
      · exact ⟨_, .invalid h htext hparse ⟨hdata, hbreaks⟩ hproblem⟩
      · exact ⟨_, .unwritable h htext hparse hbreaks hfault⟩
  · exact ⟨_, .notUtf8 h hbytes⟩

/-- Every load ends in one of the ways that the rules allow. -/
theorem exists_loads (files : Files) (parse : DataParser) (target : String) (named : Option String) :
    ∃ result, Loads files parse target named result := by
  by_cases hnamed : Unnamed named
  · cases hdiscover : discover files target with
    | none => exact ⟨_, .nothing hnamed (discover_eq_none_iff.1 hdiscover)⟩
    | some path =>
      exact exists_loads_of_chosen parse ⟨List.find?_some hdiscover, .inr ⟨hnamed, hdiscover⟩⟩
  · cases named with
    | none => exact absurd (.inl rfl) hnamed
    | some path =>
      have hne : path ≠ "" := fun hempty => hnamed (.inr (congrArg some hempty))
      cases hfile : files.isFile path with
      | false => exact ⟨_, .notFound rfl hne hfile⟩
      | true => exact exists_loads_of_chosen parse ⟨hfile, .inl ⟨rfl, hne⟩⟩

/-- Loading has exactly the endings that are listed, each under its own conditions. -/
theorem load_eq_iff {result : Except SettingsFault (Option Settings)} :
    load files parse target named = result ↔ Loads files parse target named result := by
  constructor
  · rintro rfl
    obtain ⟨result, h⟩ := exists_loads files parse target named
    rw [load_of_loads h]
    exact h
  · exact load_of_loads

end Settings

/-! ## How a run ends -/

namespace CommandLine

variable {world : Surroundings} {args : Arguments} {target : String} {settings : Option Settings}
  {findings : List Finding} {result : TargetAudit} {outcome : Outcome}

/-- A report never ends with the exit code of wrong settings. -/
theorem exitCodeFor_ne_two : exitCodeFor findings ≠ 2 := by
  unfold exitCodeFor
  split <;> decide

/-- Whatever the form and wherever the report goes, the findings alone decide the exit code. -/
theorem exitCode_of_reportJson (h : reportJson world args result findings = .ok outcome) :
    outcome.exitCode = exitCodeFor findings := by
  unfold reportJson at h
  cases hfile : reportFile? args with
  | none =>
    rw [hfile] at h
    cases h
    rfl
  | some path =>
    rw [hfile] at h
    obtain ⟨files, -, h⟩ := bind_eq_ok_iff.1 h
    cases h
    rfl

theorem exitCode_of_reportText {least : Severity}
    (h : reportText world args target least result findings = .ok outcome) :
    outcome.exitCode = exitCodeFor findings := by
  unfold reportText at h
  cases hfile : reportFile? args with
  | none =>
    rw [hfile] at h
    cases h
    rfl
  | some path =>
    rw [hfile] at h
    obtain ⟨files, -, h⟩ := bind_eq_ok_iff.1 h
    cases h
    rfl

/-- An audit that is carried out does not end with 2. -/
theorem exitCode_of_auditAndReport (h : auditAndReport world args target settings = .ok outcome) :
    outcome.exitCode ≠ 2 := by
  unfold auditAndReport at h
  obtain ⟨result, -, h⟩ := bind_eq_ok_iff.1 h
  cases hformat : args.format with
  | json =>
    rw [hformat] at h
    rw [exitCode_of_reportJson h]
    exact exitCodeFor_ne_two
  | text =>
    rw [hformat] at h
    rw [exitCode_of_reportText h]
    exact exitCodeFor_ne_two

/-- A complaint prints one line, which holds its message, and ends with two. -/
theorem misconfigured_of_complaint {fault : SettingsFault} (h : fault.isComplaint = true) :
    misconfigured world fault =
      .ok { quiet world 2 with
        printed := [.markup ("[bold red]Config error:[/bold red] " ++ fault.message)] } := by
  cases fault with
  | notUtf8 path => cases h
  | unwritable path fault => cases h
  | _ => rfl

theorem run_of_load_error {argv : List String} {fault : SettingsFault}
    (hread : Arguments.read argv = .ok args) (hasks : Asks args target)
    (h : Settings.load world.files world.parseData target args.settingsFile = .error fault) :
    run world argv = misconfigured world fault := by
  rw [run_of_read hread, perform_of_asks hasks, h]

theorem run_of_load_ok {argv : List String}
    (hread : Arguments.read argv = .ok args) (hasks : Asks args target)
    (h : Settings.load world.files world.parseData target args.settingsFile = .ok settings) :
    run world argv = auditAndReport world args target settings := by
  rw [run_of_read hread, perform_of_asks hasks, h]

/-- A directory with a settings file of this content, where one text stands for the data. -/
def settingsWorld (content : List UInt8) (text : List Char) (data : Value) : Surroundings :=
  { emptyWorld with
    files := ⟨["work"], [(["work", ".sinkscan.yml"], .file content)]⟩
    parseData := fun given => if given = String.ofList text then some data else emptyWorld.parseData given }

theorem chosen_settingsWorld {content : List UInt8} {text : List Char} {data : Value}
    (h : Settings.discover (settingsWorld content text data).files "." = some "/work/.sinkscan.yml") :
    Settings.Chosen (settingsWorld content text data).files "." none "/work/.sinkscan.yml" :=
  ⟨List.find?_some h, .inr ⟨.inl rfl, h⟩⟩

/-- Text without carriage returns is read as it stands. -/
theorem holdsText_settingsWorld {text : List Char} (h : '\r' ∉ text) (data : Value) :
    Settings.HoldsText (settingsWorld (text.flatMap String.utf8EncodeChar) text data).files
      "/work/.sinkscan.yml" (String.ofList text) := by
  refine ⟨text, rfl, ?_⟩
  rw [Text.Utf8.unifyNewlines_eq_self h]

theorem parseData_settingsWorld (content : List UInt8) (text : List Char) (data : Value) :
    (settingsWorld content text data).parseData (String.ofList text) = some data := if_pos rfl

/-- A setting that disables the rule whose id is a number, written with so many hexadecimal digits `f`. -/
def longNumberText (digits : Nat) : List Char :=
  "disabled_rules: [0x".toList ++ List.replicate digits 'f' ++ [']']

def longNumberData (digits : Nat) : Value :=
  .map [(.str Settings.disabledKey, .list [.int (Int.pow 16 digits - 1)])]

end CommandLine

end JavaAudit
