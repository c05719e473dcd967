import Mathlib.Data.List.Infix
import TypingPolicy.Proofs.Candidates

/-!
# The nearest project file decides alone

The search for the project file goes up from a directory, and stops at the first project file that it
meets.  Directories are told here by the names that lead to them, so that those above a directory are
the beginnings of its names (`Path.mem_withAncestors`) and the nearer of two is the longer one
(`Path.Nearer`).

* `FileTree.Nearest` says which project file is the nearest, without a search.
* `lookupProject_of_nearest` says that the search comes down to its bytes, unless the system refuses
  a nearer place.
* `FileTree.Resembles.visible_find` says how little of a file tree a search can see: which of the
  directories on the way are there, and the project files from the nearest one inwards.

The main statement is `lookupProject_nearest_decides`.  What does not hold is that a nearest file which
cannot be read comes to no configuration: see `lookupProject_fails_at_nearest`.

The cases of the main statement are all there are in trees as `FileTree` has them, without links and
permissions, and with a working directory that is there.  In a file system a search may also end at a
link that leads in a circle, or at a directory that may not be looked into.
-/

namespace TypingPolicy

/-! ## 1. Directories on the way up -/

namespace Path

theorem beginnings_eq_inits (names : List String) : beginnings names = names.inits := by
  induction names with
  | nil => rfl
  | cons name rest ih => rw [beginnings, ih, List.inits_cons]

theorem mem_withAncestors {front names : List String} :
    front ∈ withAncestors names ↔ front <+: names := by
  rw [withAncestors, List.mem_reverse, beginnings_eq_inits, List.mem_inits]

theorem withAncestors_concat (names : List String) (name : String) :
    withAncestors (names ++ [name]) = (names ++ [name]) :: withAncestors names := by
  simp [withAncestors, beginnings_eq_inits, List.inits_append]

/-- On the way up from `names` to `dir`, and not there yet. -/
structure Nearer (dir names front : List String) : Prop where
  below : dir <+: front
  above : front <+: names
  ne : front ≠ dir

theorem not_nearer_self {dir front : List String} : ¬ Nearer dir dir front :=
  fun h => h.ne (h.above.eq_of_length_le h.below.length_le)

/-- From a directory into one in it there is one step. -/
theorem Nearer.eq_concat {dir front : List String} {name : String}
    (h : Nearer dir (dir ++ [name]) front) : front = dir ++ [name] := by
  rcases List.prefix_concat_iff.mp h.above with heq | hdir
  · exact heq
  · exact absurd (hdir.eq_of_length_le h.below.length_le) h.ne

/-- **The way up**: nearer directories come first. -/
theorem exists_withAncestors {dir names : List String} (h : dir <+: names) :
    ∃ front back, withAncestors names = front ++ dir :: back ∧ ∀ f ∈ front, Nearer dir names f := by
  obtain ⟨more, rfl⟩ := h
  induction more using List.reverseRecOn with
  | nil =>
    rw [List.append_nil]
    rcases dir.eq_nil_or_concat' with rfl | ⟨init, last, rfl⟩
    · exact ⟨[], [], rfl, fun f hf => absurd hf List.not_mem_nil⟩
    · exact ⟨[], withAncestors init, withAncestors_concat init last,
        fun f hf => absurd hf List.not_mem_nil⟩
  | append_singleton more name ih =>
    obtain ⟨front, back, hway, hfront⟩ := ih
    rw [← List.append_assoc]
    refine ⟨(dir ++ more ++ [name]) :: front, back, ?_, fun f hf => ?_⟩
    · rw [withAncestors_concat, hway, List.cons_append]
    · rcases List.mem_cons.mp hf with rfl | hf
      · exact ⟨⟨more ++ [name], (List.append_assoc ..).symm⟩, List.prefix_rfl, by simp⟩
      · obtain ⟨hbelow, habove, hne⟩ := hfront f hf
        exact ⟨hbelow, habove.trans (List.prefix_append ..), hne⟩

/-- A collapsed list of names leads nowhere up again. -/
theorem not_mem_collapse (names : List String) : ".." ∉ collapse names := by
  rw [collapse, List.mem_reverse]
  suffices h : ∀ back : List String, ".." ∉ back →
      ".." ∉ names.foldl (fun back name => if name = ".." then back.drop 1 else name :: back) back from
    h [] List.not_mem_nil
  induction names with
  | nil => exact fun back hback => hback
  | cons name rest ih =>
    intro back hback
    rw [List.foldl_cons]
    apply ih
    split
    · exact fun hup => hback (List.mem_of_mem_drop hup)
    · rename_i hname
      rw [List.mem_cons, not_or]
      exact ⟨fun hup => hname hup.symm, hback⟩

end Path

/-! ## 2. What a search can see -/

/-- The project file of a directory. -/
def projectIn (dir : List String) : Path := ⟨.slash, dir ++ [projectFile]⟩

namespace FileTree

variable {files files' : FileTree} {place names dir front rest : List String} {name : String}
  {bytes : List UInt8}

/-- The bytes of the regular file at a place. -/
def fileAt (files : FileTree) (place : List String) : Option (List UInt8) :=
  match files.node? place with
  | some (.file bytes) => some bytes
  | _ => none

/-- What a search can see of what a path leads to: a regular file, something else, or a refusal. -/
def visible : Except PathFault FileNode → Except PathFault (Option (List UInt8))
  | .ok (.file bytes) => .ok (some bytes)
  | .error .tooLong => .error .tooLong
  | _ => .ok none

theorem visible_eq_some_iff {found : Except PathFault FileNode} :
    visible found = .ok (some bytes) ↔ found = .ok (.file bytes) := by
  unfold visible
  split <;> simp_all

theorem settles_eq_false_iff_visible {p : Path} :
    files.settles p = false ↔ visible (files.find p) = .ok none := by
  unfold settles visible
  split <;> simp_all

theorem visible_follow_nil (files : FileTree) (place : List String) :
    visible (files.follow place []) = .ok (files.fileAt place.reverse) := by
  unfold follow fileAt
  rcases files.node? place.reverse with _ | _ | bytes <;> rfl

theorem follow_of_directory (h : files.node? place.reverse = some .directory) (hname : name ≠ "..") :
    files.follow place (name :: rest)
      = if nameLimit < name.utf8ByteSize then .error .tooLong else files.follow (name :: place) rest := by
  simp only [follow, h, if_neg hname]

theorem follow_of_not_directory (h : files.node? place.reverse ≠ some .directory) :
    files.follow place (name :: rest) = .error .missing := by
  rw [follow]
  split
  · contradiction
  · rfl

/-- **A path shows the directories that it leads through and the file at its end**, and nothing else
of a file tree. -/
theorem visible_follow (hup : ".." ∉ names)
    (hdirectories : ∀ front, front <+: names → front ≠ names →
      (files'.node? (place.reverse ++ front) = some .directory ↔
        files.node? (place.reverse ++ front) = some .directory))
    (hfile : files'.fileAt (place.reverse ++ names) = files.fileAt (place.reverse ++ names)) :
    visible (files'.follow place names) = visible (files.follow place names) := by
  induction names generalizing place with
  | nil =>
    rw [List.append_nil] at hfile
    rw [visible_follow_nil, visible_follow_nil, hfile]
  | cons name rest ih =>
    rw [List.mem_cons, not_or] at hup
    have hhere := hdirectories [] List.nil_prefix (List.cons_ne_nil name rest).symm
    rw [List.append_nil] at hhere
    by_cases hdirectory : files.node? place.reverse = some .directory
    · have hname : name ≠ ".." := fun h => hup.1 h.symm
      have hplace (more : List String) :
          (name :: place).reverse ++ more = place.reverse ++ name :: more := by simp
      rw [follow_of_directory hdirectory hname, follow_of_directory (hhere.mpr hdirectory) hname]
      split
      · rfl
      · apply ih hup.2
        · intro front hfront hne
          rw [hplace]
          exact hdirectories (name :: front) ((List.prefix_cons_inj name).mpr hfront) (by simpa using hne)
        · rw [hplace]
          exact hfile
    · rw [follow_of_not_directory hdirectory, follow_of_not_directory fun h => hdirectory (hhere.mp h)]

/-- The file trees have the same directories on the way to `names`, and the same project files in
those from `dir` on. -/
structure Resembles (files' files : FileTree) (names dir : List String) : Prop where
  directories : ∀ front, front <+: names →
    (files'.node? front = some .directory ↔ files.node? front = some .directory)
  projects : ∀ front, dir <+: front → front <+: names →
    files'.fileAt (front ++ [projectFile]) = files.fileAt (front ++ [projectFile])

theorem Resembles.visible_find (h : files'.Resembles files names dir) (hup : ".." ∉ names)
    (hdir : dir <+: front) (hfront : front <+: names) :
    visible (files'.find (projectIn front)) = visible (files.find (projectIn front)) := by
  have hnames (files : FileTree) :
      files.absoluteNames (projectIn front) = front ++ [projectFile] := rfl
  unfold find
  rw [hnames, hnames]
  split
  · rfl
  · split
    · rfl
    · apply visible_follow
      · rw [List.mem_append, not_or]
        exact ⟨fun h => hup (hfront.subset h), by decide⟩
      · intro shorter hshorter hne
        rcases List.prefix_concat_iff.mp hshorter with heq | hshorter
        · exact absurd heq hne
        · exact h.directories shorter (hshorter.trans hfront)
      · exact h.projects front hdir hfront

/-! ## 3. The nearest project file -/

/-- The project file with those bytes, in the directory `dir` on the way to `names`, is the nearest
one: in no nearer directory is there a regular file of that name. -/
structure Nearest (files : FileTree) (names dir : List String) (bytes : List UInt8) : Prop where
  above : dir <+: names
  regular : files.find (projectIn dir) = .ok (.file bytes)
  alone : ∀ front, Path.Nearer dir names front → ¬ files.IsRegular (projectIn front)

/-- In the directories nearer than `dir` the system looks the project file up. -/
def Clear (files : FileTree) (names dir : List String) : Prop :=
  ∀ front, Path.Nearer dir names front → ¬ files.Refuses (projectIn front)

/-- A project file has the say if none that is nearer has. -/
theorem deciding_projectFiles (hdir : dir <+: names) (hsettles : files.settles (projectIn dir) = true)
    (hnearer : ∀ front, Path.Nearer dir names front → files.settles (projectIn front) = false) :
    files.deciding (projectFiles names) = some (projectIn dir) := by
  obtain ⟨front, back, hway, hfront⟩ := Path.exists_withAncestors hdir
  have hprojects : projectFiles names = front.map projectIn ++ projectIn dir :: back.map projectIn := by
    rw [← List.map_cons, ← List.map_append, ← hway]
    rfl
  rw [deciding, List.find?_eq_some_iff_append]
  refine ⟨hsettles, _, _, hprojects, fun p hp => ?_⟩
  obtain ⟨f, hf, rfl⟩ := List.mem_map.mp hp
  rw [hnearer f (hfront f hf)]
  rfl

/-- No project file has the say if there is none on the way up, and none is refused. -/
theorem deciding_projectFiles_eq_none (h : ∀ dir, dir <+: names →
    ¬ files.IsRegular (projectIn dir) ∧ ¬ files.Refuses (projectIn dir)) :
    files.deciding (projectFiles names) = none := by
  rw [deciding, List.find?_eq_none]
  intro p hp
  obtain ⟨dir, hdir, rfl⟩ := List.mem_map.mp hp
  rw [Bool.not_eq_true]
  exact settles_eq_false_iff.mpr (h dir (Path.mem_withAncestors.mp hdir))

theorem find_of_refuses {p : Path} (h : files.Refuses p) : files.find p = .error .tooLong := by
  obtain ⟨fault, hfault⟩ := h
  rcases files.isFile_cases p with ⟨bytes, -, hfile⟩ | ⟨hfind, -⟩ | ⟨-, hfile⟩
  · exact absurd (hfile.symm.trans hfault) (by simp)
  · exact hfind
  · exact absurd (hfile.symm.trans hfault) (by simp)

theorem settles_of_refuses {p : Path} (h : files.Refuses p) : files.settles p = true := by
  simp only [settles, find_of_refuses h]

theorem Nearest.settles_nearer (h : files.Nearest names dir bytes) (hclear : files.Clear names dir)
    (hnearer : Path.Nearer dir names front) : files.settles (projectIn front) = false :=
  settles_eq_false_iff.mpr ⟨h.alone front hnearer, hclear front hnearer⟩

/-- **A tree that resembles another one has the same nearest project file.** -/
theorem Nearest.resembles (h : files.Nearest names dir bytes) (hclear : files.Clear names dir)
    (hup : ".." ∉ names) (hresembles : files'.Resembles files names dir) :
    files'.Nearest names dir bytes ∧ files'.Clear names dir := by
  have hvisible {front : List String} (hdir : dir <+: front) (hfront : front <+: names) :=
    hresembles.visible_find hup hdir hfront
  have hnearer (front : List String) (hfront : Path.Nearer dir names front) :
      ¬ files'.IsRegular (projectIn front) ∧ ¬ files'.Refuses (projectIn front) := by
    have hsettles := h.settles_nearer hclear hfront
    rw [settles_eq_false_iff_visible, ← hvisible hfront.below hfront.above,
      ← settles_eq_false_iff_visible, settles_eq_false_iff] at hsettles
    exact hsettles
  have hregular : files'.find (projectIn dir) = .ok (.file bytes) := by
    rw [← visible_eq_some_iff, hvisible List.prefix_rfl h.above, visible_eq_some_iff]
    exact h.regular
  exact ⟨⟨h.above, hregular, fun front hfront => (hnearer front hfront).1⟩,
    fun front hfront => (hnearer front hfront).2⟩

end FileTree

/-! ## 4. The table in it -/

/-- The bytes spell a document in which `tool` is a table, and `enterprise_conventions` is that table
in it. -/
def Holds (bytes : List UInt8) (t : Table) : Prop :=
  ∃ document root tool, Utf8.decode? bytes = some document ∧ Toml.read document = .ok root ∧
    Table.get? root "tool" = some (.table tool) ∧
    Table.get? tool "enterprise_conventions" = some (.table t)

theorem descend_nil_iff {v : Value} {t : Table} : descend [] v = some (.table t) ↔ v = .table t := by
  cases v <;> simp [descend]

theorem descend_cons_iff {key : String} {keys : List String} {v found : Value} :
    descend (key :: keys) v = some found ↔
      ∃ t, v = .table t ∧ ∃ inner, Table.get? t key = some inner ∧ descend keys inner = some found := by
  cases v <;> simp [descend, Option.bind_eq_some_iff]

theorem spells_projectKeys {bytes : List UInt8} {t : Table} :
    Spells bytes projectKeys t ↔ Holds bytes t := by
  simp [Spells, Holds, projectKeys, descend_cons_iff, descend_nil_iff]

variable {bytes : List UInt8} {keys : List String}

theorem tableInBytes_eq_error_iff {fault : LookupFault} :
    (tableInBytes bytes keys).outcome = .error fault ↔ Illegible bytes fault := by
  refine ⟨fun houtcome => ?_, fun h => outcome_of_illegible h keys⟩
  rcases tableInBytes_cases bytes keys with ⟨fault', hillegible⟩ | ⟨found, hfound, -⟩
  · rw [outcome_of_illegible hillegible, Except.error.injEq] at houtcome
    exact houtcome ▸ hillegible
  · exact absurd (hfound.symm.trans houtcome) (by simp)

theorem tableInBytes_eq_table_iff {t : Table} :
    (tableInBytes bytes keys).outcome = .ok (some (.table t)) ↔ Spells bytes keys t := by
  constructor
  · intro houtcome
    rcases tableInBytes_cases bytes keys with ⟨fault, hillegible⟩ | ⟨found, hfound, hspells⟩
    · rw [outcome_of_illegible hillegible] at houtcome
      exact absurd houtcome (by simp)
    · rw [← hspells]
      simpa [hfound] using houtcome
  · rintro ⟨document, root, hdecode, hread, hdescend⟩
    simp only [tableInBytes, hdecode, hread, hdescend]

theorem tableInBytes_eq_none (hlegible : ∀ fault, ¬ Illegible bytes fault)
    (hspells : ∀ t, ¬ Spells bytes keys t) : (tableInBytes bytes keys).outcome = .ok none := by
  rcases tableInBytes_cases bytes keys with ⟨fault, hillegible⟩ | ⟨found, hfound, hiff⟩
  · exact absurd hillegible (hlegible fault)
  · cases found with
    | none => exact hfound
    | some t => exact absurd ((hiff t).mp rfl) (hspells t)

/-- The outcome of a lookup is what the bytes of a project file come to. -/
structure ReadsAs (bytes : List UInt8) (outcome : Except LookupFault (Option Value)) : Prop where
  fault : ∀ fault, outcome = .error fault ↔ Illegible bytes fault
  table : ∀ t, outcome = .ok (some (.table t)) ↔ Holds bytes t
  nothing : (∀ fault, ¬ Illegible bytes fault) → (∀ t, ¬ Holds bytes t) → outcome = .ok none

theorem readsAs_tableInBytes (bytes : List UInt8) :
    ReadsAs bytes (tableInBytes bytes projectKeys).outcome := by
  refine ⟨fun fault => tableInBytes_eq_error_iff, fun t => ?_, fun hlegible hholds => ?_⟩
  · rw [tableInBytes_eq_table_iff, spells_projectKeys]
  · exact tableInBytes_eq_none hlegible fun t => spells_projectKeys.not.mpr (hholds t)

/-! ## 5. The lookup -/

/-- The names of the directory in which the search starts. -/
def resolved (files : FileTree) (searchPath : Option String) : List String :=
  Path.collapse (files.absoluteNames (FileSource.start searchPath))

theorem lookupProject_eq {files : FileTree} {searchPath : Option String}
    (h : FileTree.hasNul (FileSource.start searchPath) = false) :
    lookupProject files searchPath = nearestTable files (projectFiles (resolved files searchPath)) := by
  have hlookup : lookupProject files searchPath
      = nearestTable files ((FileSource.pyproject searchPath).places files) :=
    FileSource.lookup_pyproject h
  rw [hlookup, FileSource.places, h, resolved]
  rfl

/-- **The search comes down to the bytes of the nearest project file.** -/
theorem lookupProject_of_nearest {files : FileTree} {searchPath : Option String} {dir : List String}
    (hnul : FileTree.hasNul (FileSource.start searchPath) = false)
    (h : files.Nearest (resolved files searchPath) dir bytes)
    (hclear : files.Clear (resolved files searchPath) dir) :
    lookupProject files searchPath = tableInBytes bytes projectKeys := by
  have hdeciding := FileTree.deciding_projectFiles h.above
    (FileTree.settles_of_regular ⟨bytes, h.regular⟩) fun front hfront => h.settles_nearer hclear hfront
  rw [lookupProject_eq hnul, nearestTable_eq, hdeciding]
  simp only [h.regular]

/-- The search ends where the system refuses a place. -/
theorem lookupProject_of_refuses {files : FileTree} {searchPath : Option String} {dir : List String}
    (hnul : FileTree.hasNul (FileSource.start searchPath) = false)
    (hdir : dir <+: resolved files searchPath) (hrefuses : files.Refuses (projectIn dir))
    (hnearer : ∀ front, Path.Nearer dir (resolved files searchPath) front →
      ¬ files.IsRegular (projectIn front) ∧ ¬ files.Refuses (projectIn front)) :
    (lookupProject files searchPath).outcome = .error .pathTooLong := by
  have hdeciding := FileTree.deciding_projectFiles hdir (FileTree.settles_of_refuses hrefuses)
    fun front hfront => FileTree.settles_eq_false_iff.mpr (hnearer front hfront)
  rw [lookupProject_eq hnul, nearestTable_eq, hdeciding]
  simp only [FileTree.find_of_refuses hrefuses]

/-- **The nearest project file decides alone.**  A search path with NUL in it is refused.  From any other
one the search goes up, and there are three cases.

* A project file is the nearest, and the system refuses none that is nearer.  Then the lookup comes to
  what the bytes of this file come to, and to the same in every tree and from every search path where
  the nearest project file has these bytes.  In a tree where the search path is resolved alike,
  through the same directories, and where no project file differs from the nearest one inwards, the
  lookup is the same, whatever else is in it.
* There is no project file, and the system refuses none: then there is no configuration.
* The system refuses a project file before any is met: then the lookup fails. -/
theorem lookupProject_nearest_decides (files : FileTree) (searchPath : Option String) :
    let names := resolved files searchPath
    (FileTree.hasNul (FileSource.start searchPath) = true →
      (lookupProject files searchPath).outcome = .error .nulInPath) ∧
    (FileTree.hasNul (FileSource.start searchPath) = false →
      (∀ dir bytes, files.Nearest names dir bytes → files.Clear names dir →
        ReadsAs bytes (lookupProject files searchPath).outcome ∧
        (∀ files' searchPath' dir', FileTree.hasNul (FileSource.start searchPath') = false →
          files'.Nearest (resolved files' searchPath') dir' bytes →
          files'.Clear (resolved files' searchPath') dir' →
          (lookupProject files' searchPath').outcome = (lookupProject files searchPath).outcome) ∧
        ∀ files', resolved files' searchPath = names → files'.Resembles files names dir →
          lookupProject files' searchPath = lookupProject files searchPath) ∧
      ((∀ dir, dir <+: names → ¬ files.IsRegular (projectIn dir) ∧ ¬ files.Refuses (projectIn dir)) →
        (lookupProject files searchPath).outcome = .ok none) ∧
      ∀ dir, dir <+: names → files.Refuses (projectIn dir) →
        (∀ front, Path.Nearer dir names front →
          ¬ files.IsRegular (projectIn front) ∧ ¬ files.Refuses (projectIn front)) →
        (lookupProject files searchPath).outcome = .error .pathTooLong) := by
  intro names
  refine ⟨fun hnul => ?_, fun hnul => ⟨fun dir bytes hnearest hclear => ?_, fun hnone => ?_,
    fun dir hdir hrefuses hnearer => ?_⟩⟩
  · exact FileSource.outcome_of_refused (.nul hnul)
  · have hbytes := lookupProject_of_nearest hnul hnearest hclear
    rw [hbytes]
    refine ⟨readsAs_tableInBytes bytes, fun files' searchPath' dir' hnul' hnearest' hclear' => ?_,
      fun files' hresolved hresembles => ?_⟩
    · rw [lookupProject_of_nearest hnul' hnearest' hclear']
    · obtain ⟨hnearest', hclear'⟩ :=
        hnearest.resembles hclear (Path.not_mem_collapse _) hresembles
      rw [← hresolved] at hnearest' hclear'
      exact lookupProject_of_nearest hnul hnearest' hclear'
  · rw [lookupProject_eq hnul, nearestTable_eq, FileTree.deciding_projectFiles_eq_none hnone]
  · exact lookupProject_of_refuses hnul hdir hrefuses hnearer

/-- The project file of `/w` has those bytes.  In `/w/b` there is a directory of its name, and more
nodes may be anywhere. -/
def shadowTree (bytes : List UInt8) (more : List (List String × FileNode)) : FileTree :=
  { nodes := [(["w"], .directory), (["w", projectFile], .file bytes), (["w", "b"], .directory),
      (["w", "b", projectFile], .directory)] ++ more
    working := ["w"]
    stands := by simp [Standing, Path.beginnings] }

def projectDocument : List Char := "[tool.enterprise_conventions.x]".toList

def projectBytes : List UInt8 := projectDocument.map fun c => c.toNat.toUInt8

theorem holds_projectBytes : Holds projectBytes [("x", .table [])] :=
  ⟨projectDocument, _, _, by decide +kernel, rfl, rfl, rfl⟩

/-- The search goes up from `/w/b` to the project file of `/w`, and does not see the file above it, which
cannot be read. -/
theorem lookupProject_nearest_decides_shadow :
    let files := shadowTree projectBytes []
    let files' := shadowTree projectBytes [([projectFile], .file [0xff])]
    files.Nearest ["w", "b"] ["w"] projectBytes ∧ files.Clear ["w", "b"] ["w"] ∧
      files'.Resembles files ["w", "b"] ["w"] ∧
      (lookupProject files (some "a/../b")).outcome = .ok (some (.table [("x", .table [])])) ∧
      lookupProject files' (some "a/../b") = lookupProject files (some "a/../b") := by
  intro files files'
  have hresolved : resolved files (some "a/../b") = ["w", "b"] := by decide +kernel
  have hnearer (front : List String) (h : Path.Nearer ["w"] ["w", "b"] front) : front = ["w", "b"] :=
    h.eq_concat
  have hdirectory : files.settles (projectIn ["w", "b"]) = false := by decide +kernel
  rw [FileTree.settles_eq_false_iff] at hdirectory
  have hnearest : files.Nearest ["w", "b"] ["w"] projectBytes :=
    ⟨⟨["b"], rfl⟩, rfl, fun front h => hnearer front h ▸ hdirectory.1⟩
  have hclear : files.Clear ["w", "b"] ["w"] := fun front h => hnearer front h ▸ hdirectory.2
  have hresembles : files'.Resembles files ["w", "b"] ["w"] := by
    constructor
    · intro front h
      rw [← List.mem_inits] at h
      revert front
      decide +kernel
    · intro front hdir h
      rw [← List.mem_inits] at h
      revert hdir
      revert front
      decide +kernel
  obtain ⟨hreads, -, hsame⟩ := ((lookupProject_nearest_decides files (some "a/../b")).2
    (by decide +kernel)).1 ["w"] projectBytes (hresolved ▸ hnearest) (hresolved ▸ hclear)
  exact ⟨hnearest, hclear, hresembles, (hreads.table _).mpr holds_projectBytes,
    hsame files' rfl (hresolved ▸ hresembles)⟩

/-- A name that is longer than the system takes. -/
def longName : String := String.ofList (List.replicate 256 'n')

theorem toList_longName : longName.toList = List.replicate 256 'n' := String.toList_ofList

theorem start_longName : FileSource.start (some longName) = ⟨.relative, [longName]⟩ := by
  have hslash : '/' ∉ longName.toList := by
    rw [toList_longName, List.mem_replicate]
    decide
  have hname : Path.isName longName.toList = true := by
    rw [toList_longName]
    decide +kernel
  exact (Path.ofString_of_slashless hslash).trans (by rw [hname]; rfl)

theorem resolved_longName (bytes : List UInt8) :
    resolved (shadowTree bytes []) (some longName) = ["w"] ++ [longName] := by
  rw [resolved, start_longName]
  change Path.collapse ["w", longName] = ["w", longName]
  decide +kernel

theorem find_longName (bytes : List UInt8) :
    (shadowTree bytes []).find (projectIn (["w"] ++ [longName])) = .error .tooLong := by
  have hnul : FileTree.hasNul (projectIn (["w"] ++ [longName])) = false := by
    simp only [FileTree.hasNul, projectIn, List.any_append, List.any_cons, List.any_nil, toList_longName]
    decide +kernel
  have hlong : FileTree.nameLimit < longName.utf8ByteSize := by decide +kernel
  have hup : longName ≠ ".." := by decide +kernel
  have hfollow : (shadowTree bytes []).follow [] ["w", longName, projectFile] = .error .tooLong := by
    rw [FileTree.follow_of_directory rfl (by decide), if_neg (by decide),
      FileTree.follow_of_directory rfl hup, if_pos hlong]
  unfold FileTree.find
  rw [hnul, if_neg Bool.false_ne_true]
  split
  · rfl
  · exact hfollow

/-- **Where the nearest project file does not decide.**  A nearest file with one byte that is no text makes
the lookup fail, and so does a search from below the nearest file, in a directory whose name is too
long, although the nearest file holds a table. -/
theorem lookupProject_fails_at_nearest :
    ((shadowTree [0xff] []).Nearest (resolved (shadowTree [0xff] []) none) ["w"] [0xff] ∧
      (lookupProject (shadowTree [0xff] []) none).outcome = .error .badEncoding) ∧
    ((shadowTree projectBytes []).Nearest
        (resolved (shadowTree projectBytes []) (some longName)) ["w"] projectBytes ∧
      Holds projectBytes [("x", .table [])] ∧
      (lookupProject (shadowTree projectBytes []) (some longName)).outcome = .error .pathTooLong) := by
  constructor
  · have hresolved : resolved (shadowTree [0xff] []) none = ["w"] := by decide +kernel
    rw [hresolved]
    exact ⟨⟨List.prefix_rfl, rfl, fun front h => absurd h Path.not_nearer_self⟩, rfl⟩
  · have hrefuses : (shadowTree projectBytes []).Refuses (projectIn (["w"] ++ [longName])) :=
      ⟨.tooLong, by rw [FileTree.isFile, find_longName]⟩
    have hnul : FileTree.hasNul (FileSource.start (some longName)) = false := by
      simp only [start_longName, FileTree.hasNul, List.any_cons, List.any_nil, toList_longName]
      decide +kernel
    refine ⟨?_, holds_projectBytes, lookupProject_of_refuses hnul ?_ hrefuses fun front h => ?_⟩
    · rw [resolved_longName]
      refine ⟨List.prefix_append .., rfl, fun front h => ?_⟩
      rintro ⟨bytes, hbytes⟩
      rw [h.eq_concat, find_longName] at hbytes
      exact absurd hbytes (by simp)
    · rw [resolved_longName]
    · rw [resolved_longName] at h
      exact absurd h Path.not_nearer_self

end TypingPolicy
