import JavaAudit.Proofs.SettingsFaults

/-!
# The nearest settings file

The search for settings goes up from the directory of the target, from a path to its directory part, until
that changes nothing. On texts the directory part is what stands before the last slash
(`Path.directoryPart`); on absolute paths in normal form that is one name less (`directoryPart_text`). So
the walk ends at the top, at one slash or at two, and comes to every directory that encloses the start, the
inner ones first (`climb_upward`, `pairwise_upward`).

What the search finds is the settings file of the innermost of these directories that has one, under its
preferred name (`Nearest`, `exists_nearest_of_discover`, `discover_of_nearest`). Everything farther up, and
the whole search if a file is named, has no influence (`load_eq_of_agreesUpTo`, `load_eq_of_find_eq`).
-/

namespace JavaAudit

namespace Path

/-- What stands before the last slash of a path, without further slashes at its end; where there are only
slashes they stay. -/
def directoryPart (path : String) : String :=
  let head := path.toList.reverse.dropWhile (· != '/')
  String.ofList (if head.all (· == '/') then head else head.dropWhile (· == '/')).reverse

/-- Names as a path in normal form has them. -/
def AreProper (names : List String) : Prop := ∀ name ∈ names, name ≠ "" ∧ IsName name

/-- The paths that a walk comes to that goes from a path to its directory part, and so on until that changes
nothing. -/
inductive Climb : String → List String → Prop where
  | top {path : String} (h : directoryPart path = path) : Climb path [path]
  | step {path : String} {rest : List String} (h : directoryPart path ≠ path)
      (hrest : Climb (directoryPart path) rest) : Climb path (path :: rest)

namespace Absolute

variable {p d : Absolute} {names : List String}

/-! ## Directory parts -/

/-- The slashes that a path starts with. -/
def slashes (p : Absolute) : List Char := if p.doubled then ['/', '/'] else ['/']

theorem toList_text (p : Absolute) :
    p.text.toList = p.slashes ++ ['/'].intercalate (p.names.map String.toList) := by
  have hslash : "/".toList = ['/'] := by simp
  unfold text ofSteps slashes
  rw [if_neg (by cases p.doubled <;> simp), String.toList_append, String.toList_intercalate, hslash]
  cases p.doubled <;> simp

theorem mem_slashes {c : Char} (h : c ∈ p.slashes) : c = '/' := by
  unfold slashes at h
  split at h <;> simpa using h

/-- Behind the last slash there is only the last name. -/
theorem dropWhile_reverse_append {front name : List Char} (hname : '/' ∉ name) :
    (front ++ name).reverse.dropWhile (· != '/') = front.reverse.dropWhile (· != '/') := by
  rw [List.reverse_append, List.dropWhile_append_of_pos]
  intro c hc
  rw [bne_iff_ne]
  rintro rfl
  exact hname (List.mem_reverse.1 hc)

/-- Where only slashes come before the last name, they are the directory part. -/
theorem directoryPart_of_slashes {path : String} {slashes name : List Char} (hname : '/' ∉ name)
    (hslashes : ∀ c ∈ slashes, c = '/') (hpath : path.toList = slashes ++ name) :
    directoryPart path = String.ofList slashes := by
  have hhead : path.toList.reverse.dropWhile (· != '/') = slashes.reverse := by
    rw [hpath, dropWhile_reverse_append hname]
    refine List.dropWhile_eq_self_iff.2 fun hpos => ?_
    simp [hslashes _ (List.mem_reverse.1 (List.getElem_mem hpos))]
  have hall : slashes.reverse.all (· == '/') = true := by
    rw [List.all_reverse, List.all_eq_true]
    exact fun c hc => beq_iff_eq.2 (hslashes c hc)
  unfold directoryPart
  dsimp only
  rw [hhead, if_pos hall, List.reverse_reverse]

/-- Otherwise the directory part ends before the last slash. -/
theorem directoryPart_of_slash {path : String} {front name : List Char} {c : Char} (hname : '/' ∉ name)
    (hc : c ≠ '/') (hpath : path.toList = front ++ [c] ++ '/' :: name) :
    directoryPart path = String.ofList (front ++ [c]) := by
  have hhead : path.toList.reverse.dropWhile (· != '/') = '/' :: c :: front.reverse := by
    have hsplit : front ++ [c] ++ '/' :: name = front ++ [c, '/'] ++ name := by simp
    rw [hpath, hsplit, dropWhile_reverse_append hname]
    simp
  unfold directoryPart
  dsimp only
  rw [hhead, if_neg (by simp [hc])]
  simp [hc]

theorem toList_text_of_top (h : p.names = []) : p.text.toList = p.slashes := by
  rw [toList_text, h]
  simp [List.intercalate]

theorem toList_text_child (p : Absolute) (name : String) :
    (p.child name).text.toList = p.text.toList ++ (if p.names = [] then [] else ['/']) ++ name.toList := by
  have hchild : (p.child name).text.toList =
      p.slashes ++ ['/'].intercalate (p.names.map String.toList ++ [name.toList]) := by
    rw [toList_text, child, List.map_append, List.map_singleton]
    rfl
  rw [hchild, toList_text]
  by_cases htop : p.names = []
  · simp [htop, List.intercalate]
  · rw [if_neg htop, Text.intercalate_concat (by simpa using htop)]
    simp

/-- A path below the top has a last name in its parent. -/
theorem exists_eq_child (h : p.names ≠ []) : ∃ name ∈ p.names, p = p.parent.child name := by
  refine ⟨p.names.getLast h, List.getLast_mem h, ?_⟩
  unfold parent child
  rw [List.dropLast_concat_getLast]

theorem areProper_parent (hp : AreProper p.names) : AreProper p.parent.names :=
  fun name hname => hp name (List.dropLast_subset _ hname)

/-- Below the top no path ends with a slash. -/
theorem exists_toList_text_eq (hp : AreProper p.names) (hne : p.names ≠ []) :
    ∃ front c, p.text.toList = front ++ [c] ∧ c ≠ '/' := by
  obtain ⟨name, hmem, hchild⟩ := exists_eq_child hne
  obtain ⟨hempty, hname⟩ := hp name hmem
  have hchars : name.toList ≠ [] := fun h => hempty (String.toList_eq_nil_iff.1 h)
  rw [hchild, toList_text_child, ← List.dropLast_concat_getLast hchars, ← List.append_assoc]
  refine ⟨_, _, rfl, fun hslash => hname ?_⟩
  rw [← hslash]
  exact List.getLast_mem hchars

/-- The directory part of a path is the path without its last name. -/
theorem directoryPart_text (hp : AreProper p.names) : directoryPart p.text = p.parent.text := by
  rw [← String.toList_inj]
  by_cases htop : p.names = []
  · have hparent : p.parent.names = [] := by simp [parent, htop]
    have htext : p.text.toList = p.slashes ++ [] := by rw [toList_text_of_top htop, List.append_nil]
    rw [directoryPart_of_slashes List.not_mem_nil (fun c => mem_slashes) htext, String.toList_ofList,
      toList_text_of_top hparent]
    rfl
  · obtain ⟨name, hmem, hchild⟩ := exists_eq_child htop
    have hname : '/' ∉ name.toList := (hp name hmem).2
    have htext := toList_text_child p.parent name
    rw [← hchild] at htext
    -- the name comes behind the slashes at the top, or behind a slash of its own
    by_cases hparent : p.parent.names = []
    · rw [if_pos hparent, List.append_nil, toList_text_of_top hparent] at htext
      rw [directoryPart_of_slashes hname (fun c => mem_slashes) htext, String.toList_ofList,
        toList_text_of_top hparent]
    · obtain ⟨front, c, hfront, hc⟩ := exists_toList_text_eq (areProper_parent hp) hparent
      rw [if_neg hparent, hfront, List.append_assoc _ ['/'], List.singleton_append] at htext
      rw [directoryPart_of_slash hname hc htext, String.toList_ofList, hfront]

/-- Below the top a path is longer than its directory part. -/
theorem text_parent_ne (hp : AreProper p.names) (hne : p.names ≠ []) : p.parent.text ≠ p.text := by
  obtain ⟨name, hmem, hchild⟩ := exists_eq_child hne
  intro heq
  have htext := toList_text_child p.parent name
  rw [← hchild, ← heq, List.append_assoc, List.self_eq_append_right, List.append_eq_nil_iff] at htext
  exact (hp name hmem).1 (String.toList_eq_nil_iff.1 htext.2)

/-! ## The walk upwards -/

theorem upward_of_top (h : p.names = []) : p.upward = [p] := by
  obtain ⟨doubled, names⟩ := p
  cases h
  rfl

theorem upward_eq_cons (h : p.names ≠ []) : p.upward = p :: p.parent.upward := by
  obtain ⟨doubled, names⟩ := p
  rcases List.eq_nil_or_concat names with hnil | ⟨init, last, rfl⟩
  · exact absurd hnil h
  · rw [List.concat_eq_append]
    unfold parent upward
    dsimp only
    rw [List.dropLast_concat, List.length_append, List.length_singleton, List.range_succ_eq_map,
      List.map_cons, List.map_map]
    congr 1
    · rw [Nat.sub_zero, List.take_of_length_le (by simp)]
    · refine List.map_congr_left fun k hk => ?_
      have hle : init.length + 1 - (k + 1) ≤ init.length := by omega
      rw [Function.comp_apply, Nat.succ_eq_add_one, List.take_append_of_le_length hle, Nat.add_sub_add_right]

/-- The walk from a path in normal form comes to an end, at one slash or at two, and has then been to
everything that the path lies in. -/
theorem climb_upward (hp : AreProper p.names) : Climb p.text (p.upward.map text) := by
  induction hlength : p.names.length generalizing p with
  | zero =>
    have hnil := List.length_eq_zero_iff.1 hlength
    have htop : p.parent = p := by
      obtain ⟨doubled, names⟩ := p
      cases hnil
      rfl
    rw [upward_of_top hnil]
    exact .top (by rw [directoryPart_text hp, htop])
  | succ n ih =>
    have hne : p.names ≠ [] := List.ne_nil_of_length_eq_add_one hlength
    have hparent : p.parent.names.length = n := by
      change p.names.dropLast.length = n
      rw [List.length_dropLast, hlength, Nat.add_sub_cancel]
    have hpart := directoryPart_text hp
    rw [upward_eq_cons hne, List.map_cons]
    refine .step (hpart ▸ text_parent_ne hp hne) ?_
    rw [hpart]
    exact ih (areProper_parent hp) hparent

/-- The directories on the way up: each encloses all that come before it. -/
theorem pairwise_upward (p : Absolute) : p.upward.Pairwise fun inner outer => outer.Encloses inner := by
  unfold upward
  rw [List.pairwise_map]
  refine List.pairwise_lt_range.imp fun {a b} hlt => ⟨rfl, ?_⟩
  exact List.take_prefix_take_left (by omega)

/-- Two directories that enclose each other are the same. -/
theorem Encloses.antisymm (hdp : d.Encloses p) (hpd : p.Encloses d) : d = p := by
  obtain ⟨doubled, names⟩ := d
  obtain ⟨hdoubled, hnames⟩ := hdp
  have hnames' := hnames.eq_of_length_le hpd.2.length_le
  cases hdoubled
  cases hnames'
  rfl

/-- Of two directories that enclose a place one encloses the other. -/
theorem Encloses.total {e : Absolute} (hd : d.Encloses p) (he : e.Encloses p) :
    d.Encloses e ∨ e.Encloses d := by
  have hdoubled : d.doubled = e.doubled := hd.1.trans he.1.symm
  exact (List.prefix_or_prefix_of_prefix hd.2 he.2).imp (⟨hdoubled, ·⟩) (⟨hdoubled.symm, ·⟩)

end Absolute

/-! ## Absolute forms are in normal form -/

variable {names steps : List String}

theorem areProper_follow {step : String} (hnames : AreProper names) (hne : step ≠ "")
    (hstep : IsName step) : AreProper (follow names step) := by
  unfold follow
  split
  · exact fun name hname => hnames name (List.dropLast_subset _ hname)
  · intro name hname
    rcases List.mem_append.1 hname with hname | hname
    · exact hnames name hname
    · rw [List.mem_singleton.1 hname]
      exact ⟨hne, hstep⟩

theorem areProper_foldl_follow (hsteps : AreProper steps) (hnames : AreProper names) :
    AreProper (steps.foldl follow names) := by
  induction steps generalizing names with
  | nil => exact hnames
  | cons step steps ih =>
    obtain ⟨hne, hstep⟩ := hsteps step List.mem_cons_self
    exact ih (fun name hname => hsteps name (List.mem_cons_of_mem _ hname))
      (areProper_follow hnames hne hstep)

theorem areProper_beforeNul (hnames : AreProper names) : AreProper (beforeNul names) := by
  induction names with
  | nil => exact hnames
  | cons name rest ih =>
    unfold beforeNul
    split
    · intro part hpart
      obtain ⟨hpart, hne⟩ := List.mem_filter.1 hpart
      refine ⟨by simpa using hne, fun hslash => ?_⟩
      rw [List.mem_singleton.1 hpart, String.toList_ofList] at hslash
      exact (hnames name List.mem_cons_self).2 (List.takeWhile_subset _ hslash)
    · intro other hother
      rcases List.mem_cons.1 hother with rfl | hother
      · exact hnames other List.mem_cons_self
      · exact ih (fun name hname => hnames name (List.mem_cons_of_mem _ hname)) other hother

theorem areProper_steps (path : String) : AreProper (Path.steps path) := by
  intro name hname
  refine ⟨?_, isName_of_mem_steps hname⟩
  have hkept := (List.mem_filter.1 hname).2
  rw [Bool.and_eq_true, bne_iff_ne] at hkept
  exact hkept.1

/-- An absolute form has proper names if the working directory has. -/
theorem areProper_absolute {workingDirectory : List String} (h : AreProper workingDirectory)
    (path : String) : AreProper (absolute workingDirectory path).names := by
  refine areProper_beforeNul (areProper_foldl_follow (areProper_steps path) ?_)
  split
  · exact fun _ hname => (nomatch hname)
  · exact h

end Path

namespace Settings

variable {files other : Files} {parse : DataParser} {target name : String} {named : Option String}
  {directory : Path.Absolute}

/-- The text of the directory where the search starts: the directory part of a target that is a file, and
any other target itself. -/
theorem text_searchStart (h : Path.AreProper files.workingDirectory) (target : String) :
    (searchStart files target).text =
      if files.isFile (Path.absolute files.workingDirectory target).text
      then Path.directoryPart (Path.absolute files.workingDirectory target).text
      else (Path.absolute files.workingDirectory target).text := by
  unfold searchStart
  dsimp only
  split
  · exact (Path.Absolute.directoryPart_text (Path.areProper_absolute h target)).symm
  · rfl

theorem areProper_searchStart (h : Path.AreProper files.workingDirectory) (target : String) :
    Path.AreProper (searchStart files target).names := by
  have hplace := Path.areProper_absolute h target
  unfold searchStart
  dsimp only
  split
  · exact Path.Absolute.areProper_parent hplace
  · exact hplace

/-! ## The nearest settings file -/

/-- A settings file of this name stands in this directory. -/
def IsSettingsFile (files : Files) (directory : Path.Absolute) (name : String) : Prop :=
  name ∈ fileNames ∧ files.isFile (directory.child name).text = true

/-- The settings file nearest to a target: its directory encloses the place where the search starts and is
enclosed by every other such directory with a settings file. -/
structure Nearest (files : Files) (target : String) (directory : Path.Absolute) (name : String) : Prop where
  encloses : directory.Encloses (searchStart files target)
  isFile : files.isFile (directory.child name).text = true
  preferred : name = ".sinkscan.yml" ∨
    name = ".sinkscan.yaml" ∧ files.isFile (directory.child ".sinkscan.yml").text = false
  innermost : ∀ d : Path.Absolute, d.Encloses (searchStart files target) →
    ∀ n, IsSettingsFile files d n → d.Encloses directory

theorem Nearest.isSettingsFile (h : Nearest files target directory name) :
    IsSettingsFile files directory name := by
  refine ⟨?_, h.isFile⟩
  rcases h.preferred with rfl | ⟨rfl, -⟩
  · exact List.mem_cons_self
  · exact List.mem_cons_of_mem _ List.mem_cons_self

/-- There is at most one nearest settings file. -/
theorem Nearest.unique {d : Path.Absolute} {n : String} (h : Nearest files target directory name)
    (h' : Nearest files target d n) : d = directory ∧ n = name := by
  obtain rfl : d = directory := (h.innermost d h'.encloses n h'.isSettingsFile).antisymm
    (h'.innermost directory h.encloses name h.isSettingsFile)
  refine ⟨rfl, ?_⟩
  rcases h.preferred with rfl | ⟨rfl, hmissing⟩ <;> rcases h'.preferred with rfl | ⟨rfl, hmissing'⟩
  · rfl
  · exact absurd h.isFile (Bool.eq_false_iff.1 hmissing')
  · exact absurd h'.isFile (Bool.eq_false_iff.1 hmissing)
  · rfl

/-- The settings file of one directory, under its preferred name. -/
theorem exists_preferred_of_find? {path : String}
    (h : (fileNames.map fun name => (directory.child name).text).find? files.isFile = some path) :
    ∃ name, path = (directory.child name).text ∧ files.isFile path = true ∧ (name = ".sinkscan.yml" ∨
      name = ".sinkscan.yaml" ∧ files.isFile (directory.child ".sinkscan.yml").text = false) := by
  have hfile := List.find?_some h
  unfold fileNames at h
  rw [List.map_cons, List.find?_cons] at h
  split at h
  · cases h
    exact ⟨_, rfl, hfile, .inl rfl⟩
  · next hmissing =>
    obtain rfl : path = (directory.child ".sinkscan.yaml").text := by
      simpa using List.mem_of_find?_eq_some h
    exact ⟨_, rfl, hfile, .inr ⟨rfl, hmissing⟩⟩

/-- What is discovered is the nearest settings file. -/
theorem exists_nearest_of_discover {path : String} (h : discover files target = some path) :
    ∃ directory name, Nearest files target directory name ∧ path = (directory.child name).text := by
  unfold discover at h
  dsimp only at h
  rw [List.find?_flatMap, List.findSome?_eq_some_iff] at h
  obtain ⟨inner, directory, outer, hupward, hfind, hinner⟩ := h
  obtain ⟨name, rfl, hfile, hpreferred⟩ := exists_preferred_of_find? hfind
  have hpairwise := Path.Absolute.pairwise_upward (searchStart files target)
  rw [hupward, List.pairwise_append, List.pairwise_cons] at hpairwise
  obtain ⟨-, ⟨houter, -⟩, -⟩ := hpairwise
  have hmem : directory ∈ (searchStart files target).upward := by simp [hupward]
  refine ⟨directory, name, ⟨Path.Absolute.mem_upward_iff.1 hmem, hfile, hpreferred, ?_⟩, rfl⟩
  intro d hd n hn
  rw [← Path.Absolute.mem_upward_iff, hupward, List.mem_append, List.mem_cons] at hd
  rcases hd with hd | rfl | hd
  · -- the directories before this one have no settings file
    have hnone := List.find?_eq_none.1 (hinner d hd) _ (List.mem_map_of_mem hn.1)
    exact absurd hn.2 hnone
  · exact ⟨rfl, List.prefix_rfl⟩
  · exact houter d hd

/-- The nearest settings file is discovered. -/
theorem discover_of_nearest (h : Nearest files target directory name) :
    discover files target = some (directory.child name).text := by
  cases hdiscover : discover files target with
  | none =>
    have hmissing := discover_eq_none_iff.1 hdiscover directory h.encloses name h.isSettingsFile.1
    exact absurd h.isFile (Bool.eq_false_iff.1 hmissing)
  | some path =>
    obtain ⟨d, n, hnearest, rfl⟩ := exists_nearest_of_discover hdiscover
    obtain ⟨rfl, rfl⟩ := h.unique hnearest
    rfl

/-- The nearest file is loaded. -/
theorem load_of_nearest (hnamed : Unnamed named) (h : Nearest files target directory name) :
    load files parse target named = (ofFile files parse (directory.child name).text).map some :=
  load_of_chosen ⟨h.isFile, .inr ⟨hnamed, discover_of_nearest h⟩⟩

/-- Where there is no nearest file there is none at all. -/
theorem discover_of_forall_not_nearest (h : ∀ directory name, ¬ Nearest files target directory name) :
    discover files target = none := by
  cases hdiscover : discover files target with
  | none => rfl
  | some path =>
    obtain ⟨directory, name, hnearest, -⟩ := exists_nearest_of_discover hdiscover
    exact absurd hnearest (h directory name)

/-! ## What has no influence -/

/-- Another file tree gives the same answers about a target and about the settings files from there up to a
directory; farther up it may be different. -/
structure AgreesUpTo (files other : Files) (target : String) (directory : Path.Absolute) : Prop where
  start : searchStart other target = searchStart files target
  isFile : ∀ d : Path.Absolute, directory.Encloses d → d.Encloses (searchStart files target) →
    ∀ name ∈ fileNames, other.isFile (d.child name).text = files.isFile (d.child name).text
  content : ∀ name, IsSettingsFile files directory name →
    other.read (directory.child name).text = files.read (directory.child name).text

/-- What is farther up does not change which file is the nearest. -/
theorem Nearest.of_agreesUpTo (h : Nearest files target directory name)
    (hagrees : AgreesUpTo files other target directory) : Nearest other target directory name := by
  have hself : directory.Encloses directory := ⟨rfl, List.prefix_rfl⟩
  have hsame := hagrees.isFile directory hself h.encloses
  refine ⟨?_, ?_, ?_, ?_⟩
  · rw [hagrees.start]
    exact h.encloses
  · rw [hsame name h.isSettingsFile.1]
    exact h.isFile
  · rw [hsame _ List.mem_cons_self]
    exact h.preferred
  · rw [hagrees.start]
    rintro d hd n ⟨hn, hfile⟩
    rcases h.encloses.total hd with hinner | houter
    · rw [hagrees.isFile d hinner hd n hn] at hfile
      exact h.innermost d hd n ⟨hn, hfile⟩
    · exact houter

/-- Settings depend on the content of their file only. -/
theorem ofFile_congr {path : String} (h : other.read path = files.read path) :
    ofFile other parse path = ofFile files parse path := by
  unfold ofFile
  rw [h]

/-- What is farther up does not change the settings that are loaded. -/
theorem load_eq_of_agreesUpTo (hnamed : Unnamed named) (h : Nearest files target directory name)
    (hagrees : AgreesUpTo files other target directory) :
    load other parse target named = load files parse target named := by
  rw [load_of_nearest hnamed h, load_of_nearest hnamed (h.of_agreesUpTo hagrees),
    ofFile_congr (hagrees.content name h.isSettingsFile)]

/-- If a file is named, the target and all other files have no influence. -/
theorem load_eq_of_find_eq {path : String} (hne : path ≠ "") (hfind : other.find path = files.find path)
    (target target' : String) :
    load other parse target' (some path) = load files parse target (some path) := by
  have hfile : other.isFile path = files.isFile path := by
    unfold Files.isFile
    rw [hfind]
  have hread : other.read path = files.read path := by
    unfold Files.read
    rw [hfind]
  unfold load
  rw [filter_of_ne hne]
  dsimp only
  rw [hfile, ofFile_congr hread]

/-- The search for settings comes to an end and takes the nearest file. From every absolute path in normal
form the walk to the top ends. It starts at the target, or at the directory part of a target that is a file.
The settings are those of the innermost directory on the way that has a settings file, under the preferred
name, whatever stands farther up; without one there are no settings. If a file is named, only that one
counts. -/
theorem load_takes_nearest_settings (files : Files) (parse : DataParser) (target : String) :
    (∀ p : Path.Absolute, Path.AreProper p.names → Path.Climb p.text (p.upward.map Path.Absolute.text)) ∧
    (Path.AreProper files.workingDirectory →
      Path.AreProper (searchStart files target).names ∧
      (searchStart files target).text =
        if files.isFile (Path.absolute files.workingDirectory target).text
        then Path.directoryPart (Path.absolute files.workingDirectory target).text
        else (Path.absolute files.workingDirectory target).text) ∧
    (∀ named, Unnamed named →
      (∀ directory name, Nearest files target directory name →
        load files parse target named = (ofFile files parse (directory.child name).text).map some ∧
        ∀ other, AgreesUpTo files other target directory →
          load other parse target named = load files parse target named) ∧
      ((∀ directory name, ¬ Nearest files target directory name) →
        (∀ directory : Path.Absolute, directory.Encloses (searchStart files target) →
          ∀ name, ¬ IsSettingsFile files directory name) ∧
        load files parse target named = .ok none)) ∧
    ∀ path, path ≠ "" →
      (files.isFile path = true →
        load files parse target (some path) = (ofFile files parse path).map some) ∧
      ∀ other target', other.find path = files.find path →
        load other parse target' (some path) = load files parse target (some path) := by
  refine ⟨fun p hp => Path.Absolute.climb_upward hp,
    fun hplace => ⟨areProper_searchStart hplace target, text_searchStart hplace target⟩, ?_, ?_⟩
  · intro named hnamed
    refine ⟨fun directory name hnearest => ⟨load_of_nearest hnamed hnearest, fun other hagrees => ?_⟩, ?_⟩
    · exact load_eq_of_agreesUpTo hnamed hnearest hagrees
    · intro hnone
      have hmissing := discover_eq_none_iff.1 (discover_of_forall_not_nearest hnone)
      refine ⟨fun directory hdirectory name hfile => ?_, load_of_loads (.nothing hnamed hmissing)⟩
      exact Bool.eq_false_iff.1 (hmissing directory hdirectory name hfile.1) hfile.2
  · intro path hne
    refine ⟨fun hfile => load_of_chosen ⟨hfile, .inl ⟨rfl, hne⟩⟩, fun other target' hfind => ?_⟩
    exact load_eq_of_find_eq hne hfind target target'

/-- The inner one of two settings files. -/
def innerText : List Char := "min_severity: ERROR".toList

/-- Settings files at two levels above a directory without one; the content of the outer one may vary. -/
def twoLevels (outer : List UInt8) : Files where
  workingDirectory := ["w"]
  entries := [(["w", ".sinkscan.yml"], .file outer),
    (["w", "s", ".sinkscan.yaml"], .file (innerText.flatMap String.utf8EncodeChar)),
    (["w", "s", "t", "A.java"], .file [])]

/-- The inner text is a mapping, an empty text is no data, and other texts are not well formed. -/
def parseInner : DataParser := fun text =>
  if text = String.ofList innerText then some (.map [(.str leastKey, .str "ERROR")])
  else if text = "" then some .null
  else none

def innerSettings : Settings where
  disabledRules := []
  severities := []
  exclusions := []
  keyword := "nosec"
  least := .error
  source := some "/w/s/.sinkscan.yaml"

/-- The inner one of the two files is the nearest. -/
theorem nearest_twoLevels :
    Nearest (twoLevels [1]) "s/t/A.java" ⟨false, ["w", "s"]⟩ ".sinkscan.yaml" := by
  obtain ⟨hstart, hfile, hmissing, hinner⟩ :
      searchStart (twoLevels [1]) "s/t/A.java" = ⟨false, ["w", "s", "t"]⟩ ∧
      (twoLevels [1]).isFile (Path.Absolute.child ⟨false, ["w", "s"]⟩ ".sinkscan.yaml").text = true ∧
      (twoLevels [1]).isFile (Path.Absolute.child ⟨false, ["w", "s"]⟩ ".sinkscan.yml").text = false ∧
      ∀ name ∈ fileNames,
        (twoLevels [1]).isFile (Path.Absolute.child ⟨false, ["w", "s", "t"]⟩ name).text = false := by
    decide
  refine ⟨?_, hfile, .inr ⟨rfl, hmissing⟩, ?_⟩
  · rw [hstart]
    exact ⟨rfl, ["t"], rfl⟩
  · rw [hstart]
    rintro ⟨doubled, names⟩ ⟨rfl, hnames : names <+: ["w", "s"] ++ ["t"]⟩ name hname
    rcases List.prefix_concat_iff.1 hnames with rfl | houter
    · exact absurd hname.2 (Bool.eq_false_iff.1 (hinner name hname.1))
    · exact ⟨rfl, houter⟩

/-- The two file trees differ in the outer file only. -/
theorem agreesUpTo_twoLevels :
    AgreesUpTo (twoLevels [1]) (twoLevels [2]) "s/t/A.java" ⟨false, ["w", "s"]⟩ := by
  obtain ⟨hstart, hstart', hfiles, hcontent⟩ :
      searchStart (twoLevels [1]) "s/t/A.java" = ⟨false, ["w", "s", "t"]⟩ ∧
      searchStart (twoLevels [2]) "s/t/A.java" = ⟨false, ["w", "s", "t"]⟩ ∧
      (∀ names ∈ [["w", "s"], ["w", "s", "t"]], ∀ name ∈ fileNames,
        (twoLevels [2]).isFile (Path.Absolute.child ⟨false, names⟩ name).text =
          (twoLevels [1]).isFile (Path.Absolute.child ⟨false, names⟩ name).text) ∧
      ∀ name ∈ fileNames,
        ((twoLevels [2]).read (Path.Absolute.child ⟨false, ["w", "s"]⟩ name).text) =
          ((twoLevels [1]).read (Path.Absolute.child ⟨false, ["w", "s"]⟩ name).text) := by
    decide
  refine ⟨hstart'.trans hstart.symm, ?_, fun name hname => hcontent name hname.1⟩
  rw [hstart]
  rintro ⟨doubled, names⟩ ⟨-, hinner⟩ ⟨rfl, hnames : names <+: ["w", "s"] ++ ["t"]⟩ name hname
  -- only two directories lie between the settings file and the target
  rcases List.prefix_concat_iff.1 hnames with rfl | houter
  · exact hfiles _ (by simp) name hname
  · cases houter.eq_of_length_le hinner.length_le
    exact hfiles _ (by simp) name hname

/-- The inner file raises the least severity that is reported. -/
theorem ofFile_twoLevels :
    ofFile (twoLevels [1]) parseInner "/w/s/.sinkscan.yaml" = .ok innerSettings := by
  obtain ⟨hread, hplain⟩ :
      (twoLevels [1]).read "/w/s/.sinkscan.yaml" = .ok (innerText.flatMap String.utf8EncodeChar) ∧
        '\r' ∉ innerText := by
    decide
  have htext : HoldsText (twoLevels [1]) "/w/s/.sinkscan.yaml" (String.ofList innerText) :=
    ⟨innerText, hread, by rw [Text.Utf8.unifyNewlines_eq_self hplain]⟩
  rw [(ofFile_of_holdsText htext).2 _ (if_pos rfl)]
  exact CommandLine.eq_ok_of_toOption (by decide)

/-- The inner one of two settings files counts, and the outer one may change. -/
theorem inner_settings_of_twoLevels :
    load (twoLevels [1]) parseInner "s/t/A.java" none = .ok (some innerSettings) ∧
      load (twoLevels [2]) parseInner "s/t/A.java" none =
        load (twoLevels [1]) parseInner "s/t/A.java" none := by
  obtain ⟨hload, hother⟩ := ((load_takes_nearest_settings (twoLevels [1]) parseInner
    "s/t/A.java").2.2.1 none (.inl rfl)).1 _ _ nearest_twoLevels
  refine ⟨hload.trans ?_, hother _ agreesUpTo_twoLevels⟩
  have hpath : (Path.Absolute.child ⟨false, ["w", "s"]⟩ ".sinkscan.yaml").text = "/w/s/.sinkscan.yaml" := by
    decide
  rw [hpath, ofFile_twoLevels]
  rfl

end Settings
end JavaAudit
