import TypingPolicy.Proofs.Absorption
import TypingPolicy.Proofs.ProjectRoot

/-!
# Finding the conventions file

The conventions file is looked for in three places, one for each name that build directories go by.
Two things are said here apart from each other, and put together in `findFile_first_regular`.

* Which places these are: `Path.Beside` describes the directory that a build directory stands in on
  the parts of a path, without a search, and `beside_cutBefore` says that cutting finds it.
* Which of them is taken: `FileTree.FirstRegular` describes the first regular file among any paths,
  where a path that cannot be looked up ends the search, and `exists_firstFile` says that the search
  comes to that file or, without a fault, to nothing.

The search sees a file tree only through the answers to its questions (`firstFile_congr`).
-/

namespace TypingPolicy

/-! ## 1. Beside a build directory -/

namespace Path

/-- The directory in which the last part of that name stands, on the way to a path; or the path
itself, if none of its parts has the name. -/
inductive Beside (name : String) (p : Path) : Path → Prop
  | cut {q : Path} {back : List String} (hroot : q.root = p.root)
      (hparts : p.parts = q.parts ++ name :: back) (hlast : name ∉ back) : Beside name p q
  | whole (h : name ∉ p.parts) : Beside name p p

/-- The root and the parts are all there is to a path. -/
theorem eq_of_root_parts {p q : Path} (hroot : p.root = q.root) (hparts : p.parts = q.parts) :
    p = q := by
  obtain ⟨root, names⟩ := p
  obtain ⟨root', names'⟩ := q
  obtain rfl : root = root' := hroot
  cases root with
  | relative => exact congrArg _ hparts
  | slash | doubleSlash => exact congrArg _ (List.cons.inj hparts).2

/-- What stands before the last `x`, and what stands after it. -/
theorem split_of_beforeLast? {x : String} {xs front : List String}
    (h : beforeLast? x xs = some front) : ∃ back, xs = front ++ x :: back ∧ x ∉ back := by
  induction xs generalizing front with
  | nil => exact absurd h (by simp [beforeLast?])
  | cons y rest ih =>
    rw [beforeLast?] at h
    cases hrest : beforeLast? x rest with
    | some rear =>
      obtain ⟨back, rfl, hback⟩ := ih hrest
      rw [hrest, Option.some.injEq] at h
      exact ⟨back, by rw [← h, List.cons_append], hback⟩
    | none =>
      simp only [hrest] at h
      split at h
      · rename_i hy
        obtain rfl := Option.some.inj h
        exact ⟨rest, by rw [hy, List.nil_append], beforeLast?_eq_none_iff.mp hrest⟩
      · exact absurd h (by simp)

/-- **Cutting finds the directory**, in a path whose first part is its root. -/
theorem beside_cutBefore {p : Path} {name : String} (hroot : p.root ≠ .relative)
    (hname : name ≠ p.root.text) : Beside name p (p.cutBefore name) := by
  obtain ⟨root, names⟩ := p
  have hparts (names : List String) : (Path.mk root names).parts = root.text :: names :=
    if_neg hroot
  have hrest (front : List String) : (Path.mk root names).withRest front = ⟨root, front⟩ := by
    cases root with
    | relative => exact absurd rfl hroot
    | slash => rfl
    | doubleSlash => rfl
  rw [cutBefore_eq, hparts, List.tail_cons]
  cases hfront : beforeLast? name names with
  | none =>
    apply Beside.whole
    rw [hparts, List.mem_cons, not_or]
    exact ⟨hname, beforeLast?_eq_none_iff.mp hfront⟩
  | some front =>
    obtain ⟨back, rfl, hback⟩ := split_of_beforeLast? hfront
    rw [Option.elim_some, hrest]
    exact .cut rfl (by rw [hparts, hparts, List.cons_append]) hback

/-- There is one such directory. -/
theorem Beside.unique {name : String} {p q q' : Path} (h : Beside name p q) (h' : Beside name p q') :
    q = q' := by
  cases h with
  | whole hnot =>
    cases h' with
    | whole => rfl
    | cut hroot' hparts' hlast' => exact absurd (by simp [hparts']) hnot
  | cut hroot hparts hlast =>
    cases h' with
    | whole hnot' => exact absurd (by simp [hparts]) hnot'
    | cut hroot' hparts' hlast' =>
      have hq : some q.parts = some q'.parts := by
        rw [← beforeLast?_append hlast, ← hparts, hparts', beforeLast?_append hlast']
      exact eq_of_root_parts (hroot.trans hroot'.symm) (Option.some.inj hq)

end Path

/-- A target is seen from the root. -/
theorem root_absolute (files : FileTree) (target : String) :
    (absolute files target).root ≠ .relative := by
  unfold absolute Path.join
  split
  · exact PathRoot.noConfusion
  · assumption

theorem beside_absolute (files : FileTree) (target : String) {name : String}
    (hname : name ∈ buildDirectories) :
    Path.Beside name (absolute files target) ((absolute files target).cutBefore name) := by
  apply Path.beside_cutBefore (root_absolute files target)
  have hroots : ∀ root : PathRoot, root.text ∉ buildDirectories := by
    intro root
    cases root <;> decide
  rintro rfl
  exact hroots _ hname

/-! ## 2. The first regular file -/

namespace FileTree

/-- There is a regular file at the path. -/
def IsRegular (files : FileTree) (p : Path) : Prop := ∃ bytes, files.find p = .ok (.file bytes)

/-- The system refuses to look the path up. -/
def Refuses (files : FileTree) (p : Path) : Prop := ∃ fault, files.isFile p = .error fault

/-- Of the paths, `p` is the first one with a regular file, and none before it is refused. -/
def FirstRegular (files : FileTree) (ps : List Path) (p : Path) : Prop :=
  ∃ front back, ps = front ++ p :: back ∧ files.IsRegular p ∧
    ∀ q ∈ front, ¬ files.IsRegular q ∧ ¬ files.Refuses q

variable {files : FileTree} {p : Path} {ps : List Path}

/-- A path has no say if there is no regular file and the system looks it up. -/
theorem settles_eq_false_iff : files.settles p = false ↔ ¬ files.IsRegular p ∧ ¬ files.Refuses p := by
  rcases files.isFile_cases p with ⟨bytes, hfind, hfile⟩ | ⟨hfind, hfile⟩ | ⟨hpass, hfile⟩
  · simp [settles, IsRegular, hfind]
  · simp [settles, Refuses, hfind, hfile]
  · have hregular : ¬ files.IsRegular p := by
      rintro ⟨bytes, hbytes⟩
      simp [settles, hbytes] at hpass
    simp [hpass, hregular, Refuses, hfile]

theorem settles_of_regular (h : files.IsRegular p) : files.settles p = true := by
  rw [← Bool.not_eq_false, settles_eq_false_iff]
  exact fun hneither => hneither.1 h

/-- The first regular file is the path that decides, unless a refused path does. -/
theorem firstRegular_iff : files.FirstRegular ps p ↔ files.deciding ps = some p ∧ files.IsRegular p := by
  unfold deciding
  rw [List.find?_eq_some_iff_append]
  simp only [Bool.not_eq_true', settles_eq_false_iff]
  constructor
  · rintro ⟨front, back, hps, hp, hfront⟩
    exact ⟨⟨settles_of_regular hp, front, back, hps, hfront⟩, hp⟩
  · rintro ⟨⟨-, front, back, hps, hfront⟩, hp⟩
    exact ⟨front, back, hps, hp, hfront⟩

end FileTree

/-- **The search never fails**, and comes to the first regular file if there is one. -/
theorem exists_firstFile (files : FileTree) (ps : List Path) :
    ∃ found, (firstFile files ps).outcome = .ok found ∧
      ∀ p, found = some p ↔ files.FirstRegular ps p := by
  simp only [FileTree.firstRegular_iff, firstFile_eq]
  cases hdeciding : files.deciding ps with
  | none => exact ⟨none, rfl, fun p => by simp⟩
  | some q =>
    rcases FileTree.find_of_deciding hdeciding with ⟨bytes, hfind⟩ | hfind
    · have hq : files.IsRegular q := ⟨bytes, hfind⟩
      refine ⟨some q, by simp only [hfind], fun p => ?_⟩
      constructor
      · intro h
        obtain rfl := Option.some.inj h
        exact ⟨rfl, hq⟩
      · exact And.left
    · refine ⟨none, by simp only [hfind], fun p => ?_⟩
      constructor
      · intro h
        exact absurd h (by simp)
      · rintro ⟨hp, bytes, hbytes⟩
        obtain rfl := Option.some.inj hp
        exact absurd (hfind.symm.trans hbytes) (by simp)

/-- The search depends on nothing but the answers for the paths themselves. -/
theorem firstFile_congr {files files' : FileTree} {ps : List Path}
    (h : ∀ p ∈ ps, files'.isFile p = files.isFile p) : firstFile files' ps = firstFile files ps := by
  induction ps with
  | nil => rfl
  | cons p rest ih =>
    rw [firstFile, firstFile, h p List.mem_cons_self, ih fun q hq => h q (List.mem_cons_of_mem p hq)]

/-! ## 3. The conventions file -/

/-- A lookup adds to the search what is in the file that was found. -/
theorem lookupConventions_congr {files files' : FileTree} {target : Target} {fileName table : String}
    (hfind : findFile files' target fileName = findFile files target fileName)
    (hbytes : ∀ p, (findFile files target fileName).outcome = .ok (some p) →
      files'.bytes p = files.bytes p) :
    lookupConventions files' target fileName table = lookupConventions files target fileName table := by
  unfold lookupConventions
  rw [hfind]
  cases hfound : findFile files target fileName with
  | mk outcome notes =>
    rw [hfound] at hbytes
    rcases outcome with fault | _ | p
    · rfl
    · rfl
    · simp only [readTable, hbytes p rfl]

/-- **The conventions file of a target.**  In every file tree and for every target and file name,
the search returns.  There are three places for the file: it may stand beside the last part of the
target named `build`, beside the last one named `target` and beside the last one named `output`,
or in the target itself if it has no such part.  What is found is the first regular file among
these places, provided that the system refuses none before it, and nothing otherwise.  A file tree
that gives the same answers for the three places leads to the same result, and to the same table if
the file that is found has the same bytes. -/
theorem findFile_first_regular (files : FileTree) (target fileName : String) :
    ∃ b t o : Path,
      (Path.Beside "build" (absolute files target) b ∧
        Path.Beside "target" (absolute files target) t ∧
        Path.Beside "output" (absolute files target) o) ∧
      let places := [b, t, o].map (·.join (.ofString fileName))
      ∃ found, (findFile files (.path target) fileName).outcome = .ok found ∧
        (∀ p, found = some p ↔ files.FirstRegular places p) ∧
        ∀ files' : FileTree, absolute files' target = absolute files target →
          (∀ p ∈ places, files'.isFile p = files.isFile p) →
          findFile files' (.path target) fileName = findFile files (.path target) fileName ∧
            ((∀ p, found = some p → files'.bytes p = files.bytes p) →
              ∀ table, lookupConventions files' (.path target) fileName table
                = lookupConventions files (.path target) fileName table) := by
  refine ⟨_, _, _, ⟨beside_absolute files target (by decide), beside_absolute files target (by decide),
    beside_absolute files target (by decide)⟩, ?_⟩
  intro places
  have hplaces : candidates files target fileName = places := rfl
  obtain ⟨found, hfound, hfirst⟩ := exists_firstFile files places
  refine ⟨found, hfound, hfirst, fun files' habsolute hanswers => ?_⟩
  have hplaces' : candidates files' target fileName = places := by
    rw [← hplaces, candidates, habsolute, candidates]
  have hfind : findFile files' (.path target) fileName = findFile files (.path target) fileName := by
    rw [findFile, findFile, hplaces', hplaces]
    exact firstFile_congr hanswers
  refine ⟨hfind, fun hbytes table => lookupConventions_congr hfind fun p hp => hbytes p ?_⟩
  exact Except.ok.inj (hfound.symm.trans hp)

/-- A tree with a conventions file in the directory `/w/build`, and more nodes.  It is worked in `/w`. -/
def nestedTree (more : List (List String × FileNode)) : FileTree :=
  { nodes := [(["w"], .directory), (["w", "build"], .directory),
      (["w", "build", conventionsFile], .file [])] ++ more
    working := ["w"]
    stands := by simp [Standing, Path.beginnings] }

/-- The target is two build directories at once.  The file is beside the inner one, and a directory of
its name, which is beside the outer one, may be there or not. -/
theorem findFile_first_regular_nested :
    let files := nestedTree [(["w", conventionsFile], .directory)]
    let target := "build/target"
    (findFile files (.path target) conventionsFile).outcome
        = .ok (some ⟨.slash, ["w", "build", conventionsFile]⟩) ∧
      findFile (nestedTree []) (.path target) conventionsFile
        = findFile files (.path target) conventionsFile ∧
      ∀ table, lookupConventions (nestedTree []) (.path target) conventionsFile table
        = lookupConventions files (.path target) conventionsFile table := by
  intro files target
  obtain ⟨b, t, o, ⟨hb, ht, ho⟩, found, hfound, hfirst, hsame⟩ :=
    findFile_first_regular files target conventionsFile
  have habsolute : absolute files target = ⟨.slash, ["w", "build", "target"]⟩ := by decide +kernel
  rw [habsolute] at hb ht ho
  obtain rfl : b = ⟨.slash, ["w"]⟩ := hb.unique (.cut rfl rfl (by decide))
  obtain rfl : t = ⟨.slash, ["w", "build"]⟩ := ht.unique (.cut rfl rfl (by decide))
  obtain rfl := ho.unique (.whole (by decide))
  have hname : Path.ofString conventionsFile = ⟨.relative, [conventionsFile]⟩ := by decide +kernel
  simp only [hname] at hfirst hsame
  have hinner : found = some ⟨.slash, ["w", "build", conventionsFile]⟩ := by
    rw [hfirst]
    refine ⟨[⟨.slash, ["w", conventionsFile]⟩], _, rfl, ⟨[], rfl⟩, fun q hq => ?_⟩
    obtain rfl := List.mem_singleton.mp hq
    exact FileTree.settles_eq_false_iff.mp (by decide +kernel)
  obtain ⟨hfind, hlookup⟩ := hsame (nestedTree []) rfl (by
    simp only [List.forall_mem_map, List.forall_mem_cons]
    exact ⟨rfl, rfl, rfl, fun p hp => absurd hp List.not_mem_nil⟩)
  refine ⟨hinner ▸ hfound, hfind, hlookup fun p hp => ?_⟩
  obtain rfl := Option.some.inj (hinner.symm.trans hp)
  rfl

end TypingPolicy
