import JavaAudit.Proofs.Positions
import JavaAudit.Settings.Discovery

/-!
# Paths and the names in them

A path can be cut into its names again, as long as no name holds a slash (`List.splitOn_intercalate`), so that
two ways from a directory are never written alike (`extend_injective`). What a path leads to has the last
name of the path (`getLast?_of_locate`); so settings are discovered only where a file has their name
(`discover_eq_none`). A name that is too long leads nowhere (`find_of_long_name`).
-/

namespace JavaAudit

/-! ## Cutting and joining -/

namespace Text

variable {sep : Char}

theorem not_mem_of_mem_splitOn {cs piece : List Char} (h : piece ∈ cs.splitOn sep) : sep ∉ piece := by
  induction cs generalizing piece with
  | nil =>
    rw [List.mem_singleton.1 h]
    exact List.not_mem_nil
  | cons c cs ih =>
    rw [List.splitOn_cons_eq_if_modifyHead] at h
    by_cases hc : (c == sep) = true
    · rw [if_pos hc] at h
      rcases List.mem_cons.1 h with rfl | h
      · exact List.not_mem_nil
      · exact ih h
    · rw [if_neg hc] at h
      cases hpieces : cs.splitOn sep with
      | nil => exact absurd hpieces (List.splitOn_ne_nil sep cs)
      | cons first rest =>
        rw [hpieces] at h ih
        rcases List.mem_cons.1 h with rfl | h
        · rw [List.mem_cons, not_or]
          exact ⟨fun heq => hc (beq_iff_eq.2 heq.symm), ih List.mem_cons_self⟩
        · exact ih (List.mem_cons_of_mem first h)

theorem intercalate_concat {pieces : List (List Char)} {last : List Char}
    (h : pieces ≠ []) :
    [sep].intercalate (pieces ++ [last]) = [sep].intercalate pieces ++ sep :: last := by
  induction pieces with
  | nil => exact absurd rfl h
  | cons first rest ih =>
    cases rest with
    | nil => simp [List.intercalate]
    | cons second rest =>
      have hrest := ih (List.cons_ne_nil second rest)
      simp only [List.cons_append] at hrest ⊢
      rw [List.intercalate_cons_cons, List.intercalate_cons_cons, hrest]
      simp only [List.append_assoc]

end Text

/-! ## Names -/

namespace Path

/-- A name that a path can be cut into again. -/
def IsName (name : String) : Prop := '/' ∉ name.toList

theorem isName_of_mem_steps {path name : String} (h : name ∈ steps path) : IsName name := by
  obtain ⟨piece, hpiece, rfl⟩ := List.mem_map.1 (List.mem_filter.1 h).1
  unfold IsName
  rw [String.toList_ofList]
  exact Text.not_mem_of_mem_splitOn hpiece

/-- Names with slashes between can be told apart again. -/
theorem intercalate_injective {a b : List String} (ha : a ≠ []) (hb : b ≠ [])
    (hna : ∀ name ∈ a, IsName name) (hnb : ∀ name ∈ b, IsName name)
    (h : "/".intercalate a = "/".intercalate b) : a = b := by
  have hsplit : ∀ l : List String, l ≠ [] → (∀ name ∈ l, IsName name) →
      ("/".intercalate l).toList.splitOn '/' = l.map String.toList := by
    intro l hl hnames
    have hslash : "/".toList = ['/'] := by simp
    rw [String.toList_intercalate, hslash]
    refine List.splitOn_intercalate '/' (fun piece hpiece => ?_) (by simpa using hl)
    obtain ⟨name, hname, rfl⟩ := List.mem_map.1 hpiece
    exact hnames name hname
  have hchars : a.map String.toList = b.map String.toList := by
    rw [← hsplit a ha hna, ← hsplit b hb hnb, h]
  exact List.map_injective_iff.2 (fun _ _ => String.toList_inj.1) hchars

/-- Different ways from a directory lead to different paths. -/
theorem extend_injective {path : String} {a b : List String} (ha : a ≠ []) (hb : b ≠ [])
    (hna : ∀ name ∈ a, IsName name) (hnb : ∀ name ∈ b, IsName name)
    (h : extend path a = extend path b) : a = b := by
  have hsteps : ∀ l : List String, l ≠ [] →
      extend path l = root path ++ "/".intercalate (steps path ++ l) := by
    intro l hl
    unfold extend ofSteps
    rw [if_neg]
    simp [hl]
  have hnames : ∀ l : List String, (∀ name ∈ l, IsName name) →
      ∀ name ∈ steps path ++ l, IsName name := by
    intro l hl name hname
    rcases List.mem_append.1 hname with hname | hname
    · exact isName_of_mem_steps hname
    · exact hl name hname
  -- both start with the names of the path, and joined names can be cut apart again
  rw [hsteps a ha, hsteps b hb, String.append_right_inj] at h
  have hjoined := intercalate_injective (by simp [ha]) (by simp [hb]) (hnames a hna) (hnames b hnb) h
  exact List.append_cancel_left hjoined

theorem names_of_isName {name : String} (h : IsName name) : names name = [name] := by
  unfold names Text.split
  rw [List.splitOn_eq_singleton h, List.map_singleton, String.ofList_toList]

/-- The last name of a path is what stands behind its last slash. -/
theorem names_of_append {path name : String} {front : List Char} (h : IsName name)
    (hpath : path.toList = front ++ '/' :: name.toList) :
    names path = (front.splitOn '/').map String.ofList ++ [name] := by
  unfold names Text.split
  rw [hpath, List.splitOn_append_cons_self, List.splitOn_eq_singleton h, List.map_append, List.map_singleton,
    String.ofList_toList]

theorem not_slash_of_isName {name : String} (h : IsName name) : name.toList.head? ≠ some '/' :=
  fun hhead => h (List.mem_of_mem_head? hhead)

/-- A single name is its own normal form. -/
theorem normal_of_isName {name : String} (h : IsName name) (hne : name ≠ "") (hhere : name ≠ here) :
    normal name = name := by
  have hroot : root name = "" := by
    have hhead := not_slash_of_isName h
    unfold root
    split <;> simp_all
  have hsteps : steps name = [name] := by
    unfold steps
    rw [names_of_isName h]
    simp [hne, hhere]
  unfold normal ofSteps
  rw [hroot, hsteps, if_neg (by simp)]
  simp

end Path

/-! ## Where a path leads -/

/-- Two computations in a row succeed exactly if the first one does, and the second one with what it gives. -/
theorem bind_eq_ok_iff {α β ε : Type} {x : Except ε α} {f : α → Except ε β} {b : β} :
    x >>= f = .ok b ↔ ∃ a, x = .ok a ∧ f a = .ok b := by
  cases x with
  | error e => simp [bind, Except.bind]
  | ok a => simp [bind, Except.bind]

namespace Files

variable {files : Files}

/-- A step that succeeds stays, or follows the name. -/
theorem step_eq_ok {location location' : List String} {name : String}
    (h : files.step location name = .ok location') :
    location' = if name = "" ∨ name = Path.here then location else Path.follow location name := by
  unfold step at h
  obtain ⟨_, -, h⟩ := bind_eq_ok_iff.1 h
  obtain ⟨_, -, h⟩ := bind_eq_ok_iff.1 h
  exact (Except.ok.inj h).symm

/-- A path leads to something that has the last name of the path. -/
theorem getLast?_of_locate {path name : String} {front : List Char} {location : List String}
    (hname : Path.IsName name) (hplain : name ∉ ["", Path.here, Path.up])
    (hpath : path.toList = front ++ '/' :: name.toList) (h : files.locate path = .ok location) :
    location.getLast? = some name := by
  simp only [List.mem_cons, List.not_mem_nil, or_false, not_or] at hplain
  unfold locate at h
  obtain ⟨_, -, h⟩ := bind_eq_ok_iff.1 h
  -- the names in front lead somewhere, and the last step goes on from there
  rw [Path.names_of_append hname hpath, List.foldlM_append] at h
  obtain ⟨reached, -, h⟩ := bind_eq_ok_iff.1 h
  rw [List.foldlM_cons] at h
  obtain ⟨last, hstep, h⟩ := bind_eq_ok_iff.1 h
  have hlast := step_eq_ok hstep
  rw [if_neg (by simp [hplain.1, hplain.2.1]), Path.follow, if_neg hplain.2.2] at hlast
  rw [← Except.ok.inj h, hlast, List.getLast?_concat]

/-- A name that is too long is not looked up. -/
theorem find_of_long_name {name : String} (hname : Path.IsName name) (hnul : Path.hasNul name = false)
    (hlong : Path.nameByteLimit < name.utf8ByteSize)
    (hhere : files.entry? files.workingDirectory = some .directory) :
    files.find name = .error .nameTooLong := by
  have hlocate : files.locate name = .error .nameTooLong := by
    have hempty : name.isEmpty = false := by
      refine Bool.eq_false_iff.2 fun hempty => ?_
      rw [String.isEmpty_iff.1 hempty] at hlong
      exact Nat.not_lt_zero _ hlong
    have hstart : files.startOf name = files.workingDirectory := by
      unfold startOf Path.isAbsolute
      rw [if_neg]
      simpa using Path.not_slash_of_isName hname
    have hstep : files.step files.workingDirectory name = .error .nameTooLong := by
      unfold step requireDirectory requireName
      rw [hhere, if_pos hlong]
      rfl
    -- the path itself may be too long already, and then no step is taken
    unfold locate requirePath
    rw [hnul, hempty, Path.names_of_isName hname, hstart]
    by_cases htoo : Path.isTooLong name = true
    · rw [if_neg (by simp), if_neg (by simp), if_pos htoo]
      rfl
    · rw [if_neg (by simp), if_neg (by simp), if_neg htoo]
      change files.step files.workingDirectory name >>= _ = _
      rw [hstep]
      rfl
  unfold find
  rw [hlocate]
  rfl

theorem exists_locate_of_find {path : String} {entry : FileEntry} (h : files.find path = .ok entry) :
    ∃ location, files.locate path = .ok location := by
  unfold find at h
  obtain ⟨location, hlocate, -⟩ := bind_eq_ok_iff.1 h
  exact ⟨location, hlocate⟩

/-- A path to a file leads to a location with a content. -/
theorem exists_file_of_isFile {path : String} (h : files.isFile path = true) :
    ∃ location content, files.locate path = .ok location ∧
      Table.get? location files.entries = some (.file content) := by
  unfold isFile find at h
  cases hlocate : files.locate path with
  | error fault =>
    rw [hlocate] at h
    cases h
  | ok location =>
    rw [hlocate] at h
    simp only [bind, Except.bind, entry?] at h
    refine ⟨location, ?_⟩
    cases hentry : Table.get? location files.entries with
    | none =>
      -- what is not in the table is a directory at best
      rw [hentry] at h
      by_cases hknown : files.locations.any location.isPrefixOf = true
      · simp [hknown, pure, Except.pure] at h
      · simp [hknown, throw, throwThe, MonadExceptOf.throw] at h
    | some entry =>
      rw [hentry] at h
      cases entry with
      | directory => cases h
      | file content => exact ⟨content, rfl, rfl⟩

/-- A file can be read. -/
theorem exists_read_of_isFile {path : String} (h : files.isFile path = true) :
    ∃ content, files.read path = .ok content := by
  unfold isFile at h
  unfold read
  cases hfind : files.find path with
  | error fault =>
    rw [hfind] at h
    cases h
  | ok entry =>
    rw [hfind] at h
    cases entry with
    | directory => cases h
    | file content => exact ⟨content, rfl⟩

end Files

/-! ## Settings that are nowhere -/

namespace Path.Absolute

/-- The text of a path ends with a slash and the last name. -/
theorem text_child (p : Absolute) (name : String) :
    ∃ front, (p.child name).text.toList = front ++ '/' :: name.toList := by
  have hslash : "/".toList = ['/'] := by simp
  have hroot : ∃ before, (if p.doubled then "//" else "/" : String).toList = before ++ ['/'] := by
    cases p.doubled with
    | true => exact ⟨['/'], by simp⟩
    | false => exact ⟨[], by simp⟩
  obtain ⟨before, hbefore⟩ := hroot
  have htext : (p.child name).text.toList =
      before ++ '/' :: ['/'].intercalate (p.names.map String.toList ++ [name.toList]) := by
    unfold text child ofSteps
    rw [if_neg (by cases p.doubled <;> simp), String.toList_append, hbefore, String.toList_intercalate,
      hslash]
    simp
  by_cases hnames : p.names = []
  · refine ⟨before, ?_⟩
    rw [htext, hnames]
    simp [List.intercalate]
  · refine ⟨before ++ '/' :: ['/'].intercalate (p.names.map String.toList), ?_⟩
    rw [htext, Text.intercalate_concat (by simpa using hnames), List.append_assoc, List.cons_append]

end Path.Absolute

namespace Settings

/-- Without a file that bears the name of a settings file there is nothing to discover. -/
theorem discover_eq_none {files : Files} (target : String)
    (h : ∀ location content, Table.get? location files.entries = some (.file content) →
      ∀ name ∈ fileNames, location.getLast? ≠ some name) : discover files target = none := by
  have hnames : ∀ name ∈ fileNames, name ∉ ["", Path.here, Path.up] ∧ '/' ∉ name.toList := by
    decide
  refine List.find?_eq_none.2 fun path hpath hfile => ?_
  obtain ⟨directory, -, hpath⟩ := List.mem_flatMap.1 hpath
  obtain ⟨name, hname, rfl⟩ := List.mem_map.1 hpath
  obtain ⟨location, content, hlocate, hentry⟩ := Files.exists_file_of_isFile hfile
  obtain ⟨front, hfront⟩ := directory.text_child name
  obtain ⟨hplain, hslash⟩ := hnames name hname
  exact h location content hentry name hname (Files.getLast?_of_locate hslash hplain hfront hlocate)

end Settings

end JavaAudit
