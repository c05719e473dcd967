import TypingPolicy.Proofs.Legibility
import TypingPolicy.Source

/-!
# What file sources absorb

A source that looks for a file is to answer with a table or with nothing, whatever the file tree holds.
It nearly does.  Of the paths that it may try, one decides (`FileTree.deciding`): the first where there
is a regular file, or where the path is too long to be looked up.  A missing file, a file without the
table and a malformed document all end in no configuration.  What comes through is

* bytes that are no text, and documents beyond the size that can be read (`Illegible`);
* for the project file, a search path that the system does not take (`FileSource.Refused`).

The main statement is `FileSource.lookup_error_iff_stumbles`: a source fails in these cases and with
these faults, answers in all others, and documents of moderate size are never illegible.
`FileSource.lookup_fails` has the smallest failures.

That there are no other failures is said of trees as `FileTree` has them.  A file system has more to
stumble over: links that lead in a circle, files that may not be read, and a working directory that is
gone.  And the size beyond which nesting cannot be read is the estimate of `Toml.valueRoom`.
-/

namespace TypingPolicy

/-! ## 1. The path that decides -/

namespace FileTree

variable {files : FileTree} {p : Path} {ps : List Path} {bytes : List UInt8}

/-- Is there a regular file, or a path that is too long to be looked up? -/
def settles (files : FileTree) (p : Path) : Bool :=
  match files.find p with
  | .ok (.file _) | .error .tooLong => true
  | _ => false

/-- The first of the paths that has a say. -/
def deciding (files : FileTree) (ps : List Path) : Option Path := ps.find? files.settles

/-- **A path is one of three.** -/
theorem isFile_cases (files : FileTree) (p : Path) :
    (∃ bytes, files.find p = .ok (.file bytes) ∧ files.isFile p = .ok true) ∨
      (files.find p = .error .tooLong ∧ files.isFile p = .error .tooLong) ∨
        (files.settles p = false ∧ files.isFile p = .ok false) := by
  unfold isFile settles
  cases files.find p with
  | ok node =>
    cases node with
    | directory => exact .inr (.inr ⟨rfl, rfl⟩)
    | file bytes => exact .inl ⟨bytes, rfl, rfl⟩
  | error fault =>
    cases fault with
    | tooLong => exact .inr (.inl ⟨rfl, rfl⟩)
    | missing | nul => exact .inr (.inr ⟨rfl, rfl⟩)

theorem find_of_deciding (h : files.deciding ps = some p) :
    (∃ bytes, files.find p = .ok (.file bytes)) ∨ files.find p = .error .tooLong := by
  have hsettles : files.settles p = true := List.find?_some h
  rcases files.isFile_cases p with ⟨bytes, hfind, -⟩ | ⟨hfind, -⟩ | ⟨hpass, -⟩
  · exact .inl ⟨bytes, hfind⟩
  · exact .inr hfind
  · rw [hpass] at hsettles
    exact absurd hsettles (by simp)

theorem readTable_of_find (h : files.find p = .ok (.file bytes)) (keys : List String) :
    readTable files p keys = tableInBytes bytes keys := by
  simp only [readTable, FileTree.bytes, h]

end FileTree

/-- The search for the project file, told by the path that decides. -/
theorem nearestTable_eq (files : FileTree) (ps : List Path) :
    nearestTable files ps = match files.deciding ps with
      | none => ⟨.ok none, []⟩
      | some p => match files.find p with
        | .ok (.file bytes) => tableInBytes bytes projectKeys
        | _ => ⟨.error .pathTooLong, []⟩ := by
  induction ps with
  | nil => rfl
  | cons p rest ih =>
    rcases files.isFile_cases p with ⟨bytes, hfind, hfile⟩ | ⟨hfind, hfile⟩ | ⟨hpass, hfile⟩
    · simp [nearestTable, FileTree.deciding, FileTree.settles, hfind, hfile,
        FileTree.readTable_of_find hfind]
    · simp [nearestTable, FileTree.deciding, FileTree.settles, hfind, hfile]
    · simpa [nearestTable, FileTree.deciding, hpass, hfile] using ih

/-- The search for the conventions file ends in silence where a path is too long. -/
theorem firstFile_eq (files : FileTree) (ps : List Path) :
    (firstFile files ps).outcome = match files.deciding ps with
      | none => .ok none
      | some p => match files.find p with
        | .ok _ => .ok (some p)
        | .error _ => .ok none := by
  induction ps with
  | nil => rfl
  | cons p rest ih =>
    rcases files.isFile_cases p with ⟨bytes, hfind, hfile⟩ | ⟨hfind, hfile⟩ | ⟨hpass, hfile⟩
    · simp [firstFile, FileTree.deciding, FileTree.settles, hfind, hfile]
    · simp [firstFile, FileTree.deciding, FileTree.settles, hfind, hfile]
    · simpa [firstFile, FileTree.deciding, hpass, hfile] using ih

/-! ## 2. Illegible files -/

/-- The bytes are no document that can be read, and the fault that this comes to. -/
inductive Illegible (bytes : List UInt8) : LookupFault → Prop
  | encoding (h : Utf8.decode? bytes = none) : Illegible bytes .badEncoding
  | integer {document : List Char} (h : Utf8.decode? bytes = some document)
      (hread : Toml.read document = .error .oversizedInteger) : Illegible bytes .oversizedInteger
  | nesting {document : List Char} (h : Utf8.decode? bytes = some document)
      (hread : Toml.read document = .error .tooDeep) : Illegible bytes .tooDeep

/-- The bytes spell a document with that table under the keys. -/
def Spells (bytes : List UInt8) (keys : List String) (t : Table) : Prop :=
  ∃ document root, Utf8.decode? bytes = some document ∧ Toml.read document = .ok root ∧
    descend keys (.table root) = some (.table t)

/-- A list of keys leads to tables only. -/
theorem exists_table_of_descend {keys : List String} {v found : Value}
    (h : descend keys v = some found) : ∃ t, found = .table t := by
  induction keys generalizing v with
  | nil =>
    cases v with
    | table t => exact ⟨t, (Option.some.inj h).symm⟩
    | _ => simp [descend] at h
  | cons k rest ih =>
    cases v with
    | table t =>
      obtain ⟨inner, -, hinner⟩ := Option.bind_eq_some_iff.mp h
      exact ih hinner
    | _ => simp [descend] at h

/-- Illegible bytes come to one fault. -/
theorem outcome_of_illegible {bytes : List UInt8} {fault : LookupFault} (h : Illegible bytes fault)
    (keys : List String) : (tableInBytes bytes keys).outcome = .error fault := by
  rcases h with hdecode | ⟨hdecode, hread⟩ | ⟨hdecode, hread⟩
  · simp only [tableInBytes, hdecode]
  · simp only [tableInBytes, hdecode, hread]
  · simp only [tableInBytes, hdecode, hread]

/-- **What legible bytes come to**: the table that they spell, or nothing. -/
theorem tableInBytes_cases (bytes : List UInt8) (keys : List String) :
    (∃ fault, Illegible bytes fault) ∨
      ∃ found : Option Table, (tableInBytes bytes keys).outcome = .ok (found.map .table) ∧
        ∀ t, found = some t ↔ Spells bytes keys t := by
  cases hdecode : Utf8.decode? bytes with
  | none => exact .inl ⟨_, .encoding hdecode⟩
  | some document =>
    cases hread : Toml.read document with
    | ok root =>
      have houtcome : (tableInBytes bytes keys).outcome = .ok (descend keys (.table root)) := by
        simp only [tableInBytes, hdecode, hread]
      have hspells (t : Table) : Spells bytes keys t ↔ descend keys (.table root) = some (.table t) := by
        constructor
        · rintro ⟨document', root', hdecode', hread', hdescend⟩
          obtain rfl := Option.some.inj (hdecode.symm.trans hdecode')
          obtain rfl := Except.ok.inj (hread.symm.trans hread')
          exact hdescend
        · intro hdescend
          exact ⟨document, root, hdecode, hread, hdescend⟩
      rw [houtcome]
      cases hdescend : descend keys (.table root) with
      | none => exact .inr ⟨none, rfl, fun t => by simp [hspells, hdescend]⟩
      | some v =>
        obtain ⟨t, rfl⟩ := exists_table_of_descend hdescend
        exact .inr ⟨some t, rfl, fun t' => by simp [hspells, hdescend]⟩
    | error fault =>
      cases fault with
      | malformed =>
        refine .inr ⟨none, by simp only [tableInBytes, hdecode, hread]; rfl, fun t => ?_⟩
        have hspells : ¬ Spells bytes keys t := by
          rintro ⟨document', root, hdecode', hread', -⟩
          obtain rfl := Option.some.inj (hdecode.symm.trans hdecode')
          simp [hread] at hread'
        simp [hspells]
      | oversizedInteger => exact .inl ⟨_, .integer hdecode hread⟩
      | tooDeep => exact .inl ⟨_, .nesting hdecode hread⟩

/-- **Moderate documents are legible.** -/
theorem not_illegible {bytes : List UInt8} {document : List Char}
    (h : Utf8.decode? bytes = some document) (hdigits : Toml.digits document ≤ Toml.integerLimit)
    (hdepth : Toml.tableRoom * Toml.brackets document ≤ Toml.valueRoom) (fault : LookupFault) :
    ¬ Illegible bytes fault := by
  rintro (hnone | ⟨hsome, hread⟩ | ⟨hsome, hread⟩)
  · simp [h] at hnone
  · obtain rfl := Option.some.inj (h.symm.trans hsome)
    exact absurd (Toml.caused_of_read hread) (Nat.not_lt.mpr hdigits)
  · obtain rfl := Option.some.inj (h.symm.trans hsome)
    exact absurd (Toml.caused_of_read hread) (Nat.not_lt.mpr hdepth)

/-! ## 3. File sources -/

/-- A source that looks for a file.  A target directory is a text or is left open. -/
inductive FileSource where
  | conventions (target : Option String) (fileName table : String)
  | pyproject (searchPath : Option String)

namespace FileSource

def source : FileSource → Source
  | conventions none fileName table => .conventions .unset fileName table
  | conventions (some target) fileName table => .conventions (.path target) fileName table
  | pyproject searchPath => .pyproject searchPath

/-- The keys of the table that is asked for. -/
def keys : FileSource → List String
  | conventions _ _ table => [table]
  | pyproject _ => projectKeys

/-- Where the search for the project file starts. -/
def start (searchPath : Option String) : Path := .ofString (searchPath.getD "")

/-- The paths that are tried, in order.  From a search path with NUL in it there is nowhere to go. -/
def places (files : FileTree) : FileSource → List Path
  | conventions none _ _ => []
  | conventions (some target) fileName _ => candidates files target fileName
  | pyproject searchPath =>
    if FileTree.hasNul (start searchPath) then []
    else projectFiles (Path.collapse (files.absoluteNames (start searchPath)))

/-- The source comes to a file with those bytes. -/
def Reads (files : FileTree) (s : FileSource) (bytes : List UInt8) : Prop :=
  ∃ p, files.deciding (s.places files) = some p ∧ files.find p = .ok (.file bytes)

/-- The table is in the file that the source comes to. -/
def Offers (files : FileTree) (s : FileSource) (t : Table) : Prop :=
  ∃ bytes, s.Reads files bytes ∧ Spells bytes s.keys t

/-- The system does not take the search path. -/
inductive Refused (files : FileTree) : FileSource → LookupFault → Prop
  | nul {searchPath : Option String} (h : FileTree.hasNul (start searchPath) = true) :
      Refused files (pyproject searchPath) .nulInPath
  | long {searchPath : Option String} {p : Path}
      (h : files.deciding ((pyproject searchPath).places files) = some p)
      (hfind : files.find p = .error .tooLong) : Refused files (pyproject searchPath) .pathTooLong

/-- The source fails with that fault. -/
def Stumbles (files : FileTree) (s : FileSource) (fault : LookupFault) : Prop :=
  s.Refused files fault ∨ ∃ bytes, s.Reads files bytes ∧ Illegible bytes fault

variable {files : FileTree} {s : FileSource} {bytes : List UInt8} {fault : LookupFault}

/-- The conventions source reads what its search has found. -/
theorem outcome_lookupConventions (files : FileTree) (target : Target) (fileName table : String) :
    (lookupConventions files target fileName table).outcome =
      (findFile files target fileName).outcome.bind fun
        | none => .ok none
        | some p => (readTable files p [table]).outcome := by
  unfold lookupConventions
  rcases findFile files target fileName with ⟨fault | _ | p, notes⟩ <;> rfl

/-- The project source tries its paths, unless there is NUL in the search path. -/
theorem lookup_pyproject {searchPath : Option String}
    (h : FileTree.hasNul (start searchPath) = false) :
    (pyproject searchPath).source.lookup files
      = nearestTable files ((pyproject searchPath).places files) := by
  unfold start at h
  simp [source, Source.lookup, lookupProject, places, start, h]

theorem hasNul_of_deciding {searchPath : Option String} {p : Path}
    (h : files.deciding ((pyproject searchPath).places files) = some p) :
    FileTree.hasNul (start searchPath) = false := by
  cases hnul : FileTree.hasNul (start searchPath) with
  | false => rfl
  | true => simp [places, hnul, FileTree.deciding] at h

/-- **A file that is reached is read.** -/
theorem outcome_of_reads (h : s.Reads files bytes) :
    (s.source.lookup files).outcome = (tableInBytes bytes s.keys).outcome := by
  obtain ⟨p, hp, hfind⟩ := h
  cases s with
  | conventions target fileName table =>
    cases target with
    | none => simp [places, FileTree.deciding] at hp
    | some target =>
      simp only [places] at hp
      simp only [source, Source.lookup, outcome_lookupConventions, findFile, firstFile_eq, hp, hfind,
        Except.bind, FileTree.readTable_of_find hfind, keys]
  | pyproject searchPath =>
    simp only [lookup_pyproject (hasNul_of_deciding hp), nearestTable_eq, hp, hfind, keys]

theorem outcome_of_refused (h : s.Refused files fault) :
    (s.source.lookup files).outcome = .error fault := by
  cases h with
  | nul hnul =>
    unfold start at hnul
    simp only [source, Source.lookup, lookupProject, hnul, if_true]
  | long hp hfind => simp only [lookup_pyproject (hasNul_of_deciding hp), nearestTable_eq, hp, hfind]

/-- Where no file is reached and nothing refused, there is nothing. -/
theorem outcome_of_neither (hreads : ∀ bytes, ¬ s.Reads files bytes)
    (hrefused : ∀ fault, ¬ s.Refused files fault) : (s.source.lookup files).outcome = .ok none := by
  cases s with
  | conventions target fileName table =>
    cases target with
    | none => rfl
    | some target =>
      simp only [source, Source.lookup, outcome_lookupConventions, findFile, firstFile_eq]
      cases hp : files.deciding (candidates files target fileName) with
      | none => rfl
      | some p =>
        rcases FileTree.find_of_deciding hp with ⟨bytes, hfind⟩ | hfind
        · exact absurd ⟨p, hp, hfind⟩ (hreads bytes)
        · simp only [hfind, Except.bind]
  | pyproject searchPath =>
    have hnul : FileTree.hasNul (start searchPath) = false := by
      rw [← Bool.not_eq_true]
      exact fun hnul => hrefused _ (.nul hnul)
    rw [lookup_pyproject hnul, nearestTable_eq]
    cases hp : files.deciding ((pyproject searchPath).places files) with
    | none => rfl
    | some p =>
      rcases FileTree.find_of_deciding hp with ⟨bytes, hfind⟩ | hfind
      · exact absurd ⟨p, hp, hfind⟩ (hreads bytes)
      · exact absurd (.long hp hfind) (hrefused _)

/-- A source that stumbles fails with the fault that it stumbles over. -/
theorem outcome_of_stumbles (h : s.Stumbles files fault) :
    (s.source.lookup files).outcome = .error fault := by
  rcases h with hrefused | ⟨bytes, hreads, hillegible⟩
  · exact outcome_of_refused hrefused
  · rw [outcome_of_reads hreads]
    exact outcome_of_illegible hillegible s.keys

/-- **A source that does not stumble answers**: with the table that its file offers, or with nothing. -/
theorem answer_of_not_stumbles (h : ∀ fault, ¬ s.Stumbles files fault) :
    ∃ found : Option Table, (s.source.lookup files).outcome = .ok (found.map .table) ∧
      ∀ t, found = some t ↔ s.Offers files t := by
  have hrefused (fault : LookupFault) : ¬ s.Refused files fault := fun hf => h fault (.inl hf)
  by_cases hreads : ∃ bytes, s.Reads files bytes
  · obtain ⟨bytes, hreads⟩ := hreads
    have honly {bytes' : List UInt8} (hreads' : s.Reads files bytes') : bytes' = bytes := by
      obtain ⟨p, hp, hfind⟩ := hreads
      obtain ⟨p', hp', hfind'⟩ := hreads'
      obtain rfl := Option.some.inj (hp.symm.trans hp')
      simpa using hfind'.symm.trans hfind
    rcases tableInBytes_cases bytes s.keys with ⟨fault, hillegible⟩ | ⟨found, houtcome, hspells⟩
    · exact absurd (.inr ⟨bytes, hreads, hillegible⟩) (h fault)
    · refine ⟨found, (outcome_of_reads hreads).trans houtcome, fun t => ?_⟩
      rw [hspells]
      constructor
      · intro ht
        exact ⟨bytes, hreads, ht⟩
      · rintro ⟨bytes', hreads', ht⟩
        exact honly hreads' ▸ ht
  · have hnone (bytes : List UInt8) : ¬ s.Reads files bytes := fun hr => hreads ⟨bytes, hr⟩
    refine ⟨none, outcome_of_neither hnone hrefused, fun t => ?_⟩
    constructor
    · intro ht
      exact absurd ht (by simp)
    · rintro ⟨bytes, hr, -⟩
      exact absurd hr (hnone bytes)

/-- **Failures are the stumbling blocks, and in such trees there are no others.**  In every file tree,
which is one without links and permissions, worked in a directory that is there, a file source fails
with a fault exactly if it stumbles over it.  If there is nothing to stumble over, it answers with the
table that its file offers, or with nothing if there is none.  And bytes that spell a document with no
more digits than one integer may have, and with brackets that the room for nesting suffices for, are
nothing to stumble over. -/
theorem lookup_error_iff_stumbles (files : FileTree) (s : FileSource) :
    (∀ fault, (s.source.lookup files).outcome = .error fault ↔ s.Stumbles files fault) ∧
      ((∀ fault, ¬ s.Stumbles files fault) →
        ∃ found : Option Table, (s.source.lookup files).outcome = .ok (found.map .table) ∧
          ∀ t, found = some t ↔ s.Offers files t) ∧
      ∀ bytes document, Utf8.decode? bytes = some document →
        Toml.digits document ≤ Toml.integerLimit →
        Toml.tableRoom * Toml.brackets document ≤ Toml.valueRoom → ∀ fault, ¬ Illegible bytes fault := by
  refine ⟨fun fault => ⟨fun houtcome => ?_, outcome_of_stumbles⟩, answer_of_not_stumbles,
    fun bytes document hdecode hdigits hdepth => not_illegible hdecode hdigits hdepth⟩
  by_cases hany : ∃ fault, s.Stumbles files fault
  · obtain ⟨found, hfound⟩ := hany
    obtain rfl : found = fault := by simpa using (outcome_of_stumbles hfound).symm.trans houtcome
    exact hfound
  · obtain ⟨found, hanswer, -⟩ := answer_of_not_stumbles fun fault hf => hany ⟨fault, hf⟩
    simp [hanswer] at houtcome

/-- A tree with a conventions file and a project file in the directory `/w`. -/
def workTree (bytes : List UInt8) : FileTree :=
  { nodes := [(["w"], .directory), (["w", conventionsFile], .file bytes),
      (["w", projectFile], .file bytes)] }

/-- The table of the conventions, with a table in it. -/
def smallDocument : List Char := "[conventions]\n[conventions.x]".toList

def smallBytes : List UInt8 := smallDocument.map fun c => c.toNat.toUInt8

/-- The conventions for the build directory of `/w`. -/
def buildSource : FileSource := conventions (some "/w/build") conventionsFile conventionsTable

/-- A small document in its place is answered with its table. -/
theorem lookup_error_iff_stumbles_small :
    (∀ fault, ¬ buildSource.Stumbles (workTree smallBytes) fault) ∧
      buildSource.Offers (workTree smallBytes) [("x", .table [])] ∧
      ∀ fault, ¬ Illegible smallBytes fault := by
  obtain ⟨hfails, hanswers, hlegible⟩ :=
    lookup_error_iff_stumbles (workTree smallBytes) buildSource
  have hdecode : Utf8.decode? smallBytes = some smallDocument := by decide +kernel
  have hread : Toml.read smallDocument = .ok [("conventions", .table [("x", .table [])])] := rfl
  have houtcome : (buildSource.source.lookup (workTree smallBytes)).outcome
      = .ok (some (.table [("x", .table [])])) := by
    have hreads : buildSource.Reads (workTree smallBytes) smallBytes :=
      ⟨⟨.slash, ["w", conventionsFile]⟩, rfl, rfl⟩
    rw [outcome_of_reads hreads]
    simp only [tableInBytes, hdecode, hread]
    rfl
  have hstumbles (fault : LookupFault) : ¬ buildSource.Stumbles (workTree smallBytes) fault := by
    rw [← hfails, houtcome]
    simp
  obtain ⟨found, hfound, hoffers⟩ := hanswers hstumbles
  refine ⟨hstumbles, (hoffers _).mp ?_, hlegible smallBytes smallDocument hdecode (by decide) (by decide)⟩
  simpa [houtcome, eq_comm] using hfound

/-- **The smallest failures.**  One byte that is no text, in the place of either file, and a search path
with NUL in it. -/
theorem lookup_fails :
    (buildSource.source.lookup (workTree [0xff])).outcome = .error .badEncoding ∧
      ((pyproject (some "/w")).source.lookup (workTree [0xff])).outcome = .error .badEncoding ∧
      ((pyproject (some "\x00")).source.lookup {}).outcome = .error .nulInPath :=
  ⟨rfl, rfl, rfl⟩

end FileSource

end TypingPolicy
