import TypingPolicy.Files.Path

/-!
# Paths and their spellings

Reading a text as a path forgets how it was spelled.  What it keeps is said here part by part: the
root depends on the number of slashes at the start alone (`rootOf_eq`), and the names before and
after a slash do not depend on each other (`namesOf_append_slash`).

A path that was read from a text has only proper names (`proper_ofString`).  Such a path can be put
into words and taken apart without loss, in two ways:

* `ofString_text`: its text is read as the same path;
* `ofParts_parts`: joined in order, its parts make the same path.
-/

namespace TypingPolicy.Path

/-! ## 1. Roots -/

/-- The number of slashes at the start of a text. -/
def leadingSlashes (cs : List Char) : Nat := (cs.takeWhile (· = '/')).length

@[simp] theorem leadingSlashes_nil : leadingSlashes [] = 0 := rfl

@[simp] theorem leadingSlashes_slash (cs : List Char) :
    leadingSlashes ('/' :: cs) = leadingSlashes cs + 1 := by
  simp [leadingSlashes]

theorem leadingSlashes_of_ne {c : Char} (h : c ≠ '/') (cs : List Char) :
    leadingSlashes (c :: cs) = 0 := by
  simp [leadingSlashes, h]

/-- **The root of a text.**  Two slashes are a root of their own, any other number is one slash. -/
theorem rootOf_eq (cs : List Char) :
    rootOf cs = if leadingSlashes cs = 0 then .relative
      else if leadingSlashes cs = 2 then .doubleSlash else .slash := by
  rcases cs with _ | ⟨a, cs⟩
  · rfl
  by_cases ha : a = '/'
  case neg => simp [rootOf, ha, leadingSlashes_of_ne ha]
  subst ha
  rcases cs with _ | ⟨b, cs⟩
  · rfl
  by_cases hb : b = '/'
  case neg => simp [rootOf, hb, leadingSlashes_of_ne hb]
  subst hb
  rcases cs with _ | ⟨c, cs⟩
  · rfl
  by_cases hc : c = '/'
  case neg => simp [rootOf, hc, leadingSlashes_of_ne hc]
  subst hc
  simp [rootOf]

/-- What comes after another character is not at the start. -/
theorem leadingSlashes_append {cs : List Char} (h : ∃ c ∈ cs, c ≠ '/') (ds : List Char) :
    leadingSlashes (cs ++ ds) = leadingSlashes cs := by
  induction cs with
  | nil =>
    obtain ⟨c, hc, -⟩ := h
    exact absurd hc List.not_mem_nil
  | cons a cs ih =>
    by_cases ha : a = '/'
    · subst ha
      obtain ⟨c, hc, hne⟩ := h
      have hrest : ∃ c ∈ cs, c ≠ '/' := ⟨c, (List.mem_cons.mp hc).resolve_left hne, hne⟩
      rw [List.cons_append, leadingSlashes_slash, leadingSlashes_slash, ih hrest]
    · rw [List.cons_append, leadingSlashes_of_ne ha, leadingSlashes_of_ne ha]

theorem leadingSlashes_of_slashless {cs : List Char} (h : '/' ∉ cs) : leadingSlashes cs = 0 := by
  cases cs with
  | nil => rfl
  | cons a cs => exact leadingSlashes_of_ne (fun ha => h (ha ▸ List.mem_cons_self)) cs

theorem rootOf_append {cs : List Char} (h : ∃ c ∈ cs, c ≠ '/') (ds : List Char) :
    rootOf (cs ++ ds) = rootOf cs := by
  rw [rootOf_eq, rootOf_eq, leadingSlashes_append h]

theorem rootOf_of_slashless {cs : List Char} (h : '/' ∉ cs) : rootOf cs = .relative := by
  rw [rootOf_eq, leadingSlashes_of_slashless h, if_pos rfl]

theorem rootOf_text_append (root : PathRoot) {cs : List Char} (h : leadingSlashes cs = 0) :
    rootOf (root.text.toList ++ cs) = root := by
  rw [rootOf_eq]
  cases root with
  | relative => simp [PathRoot.text, h]
  | slash => simp [PathRoot.text, h]
  | doubleSlash => simp [PathRoot.text, h]

/-! ## 2. Names -/

theorem splitSlashes_ne_nil (cs : List Char) : splitSlashes cs ≠ [] := by
  cases cs with
  | nil => simp [splitSlashes]
  | cons c cs =>
    rw [splitSlashes]
    split
    · split <;> simp
    · simp

theorem splitSlashes_slash (cs : List Char) : splitSlashes ('/' :: cs) = [] :: splitSlashes cs := by
  rw [splitSlashes]
  cases h : splitSlashes cs with
  | nil => exact absurd h (splitSlashes_ne_nil cs)
  | cons piece more => simp

theorem splitSlashes_of_ne {c : Char} (hc : c ≠ '/') {cs piece : List Char}
    {more : List (List Char)} (h : splitSlashes cs = piece :: more) :
    splitSlashes (c :: cs) = (c :: piece) :: more := by
  rw [splitSlashes, h]
  simp [hc]

/-- A slash separates the pieces before it from the pieces after it. -/
theorem splitSlashes_append_slash (cs ds : List Char) :
    splitSlashes (cs ++ '/' :: ds) = splitSlashes cs ++ splitSlashes ds := by
  induction cs with
  | nil => exact splitSlashes_slash ds
  | cons c cs ih =>
    by_cases hc : c = '/'
    · subst hc
      rw [List.cons_append, splitSlashes_slash, splitSlashes_slash, ih, List.cons_append]
    · cases h : splitSlashes cs with
      | nil => exact absurd h (splitSlashes_ne_nil cs)
      | cons piece more =>
        rw [h, List.cons_append] at ih
        rw [List.cons_append, splitSlashes_of_ne hc ih, splitSlashes_of_ne hc h, List.cons_append]

theorem splitSlashes_of_slashless {cs : List Char} (h : '/' ∉ cs) : splitSlashes cs = [cs] := by
  induction cs with
  | nil => rfl
  | cons c cs ih =>
    have hc : c ≠ '/' := fun hc => h (hc ▸ List.mem_cons_self)
    exact splitSlashes_of_ne hc (ih (fun hin => h (List.mem_cons_of_mem c hin)))

theorem slashless_of_mem_splitSlashes {cs piece : List Char} (h : piece ∈ splitSlashes cs) :
    '/' ∉ piece := by
  induction cs generalizing piece with
  | nil =>
    rw [splitSlashes, List.mem_singleton] at h
    simp [h]
  | cons c cs ih =>
    by_cases hc : c = '/'
    · subst hc
      rw [splitSlashes_slash] at h
      rcases List.mem_cons.mp h with rfl | h
      · exact List.not_mem_nil
      · exact ih h
    · cases hcs : splitSlashes cs with
      | nil => exact absurd hcs (splitSlashes_ne_nil cs)
      | cons first more =>
        rw [splitSlashes_of_ne hc hcs] at h
        rcases List.mem_cons.mp h with rfl | h
        · have hfirst : '/' ∉ first := ih (hcs ▸ List.mem_cons_self)
          simp [Ne.symm hc, hfirst]
        · exact ih (hcs ▸ List.mem_cons_of_mem first h)

/-- **The names of a text** are read on each side of a slash for itself. -/
theorem namesOf_append_slash (cs ds : List Char) :
    namesOf (cs ++ '/' :: ds) = namesOf cs ++ namesOf ds := by
  simp only [namesOf, splitSlashes_append_slash, List.filter_append, List.map_append]

theorem namesOf_slash (cs : List Char) : namesOf ('/' :: cs) = namesOf cs :=
  namesOf_append_slash [] cs

theorem namesOf_of_slashless {cs : List Char} (h : '/' ∉ cs) :
    namesOf cs = if isName cs then [String.ofList cs] else [] := by
  rw [namesOf, splitSlashes_of_slashless h, List.filter_cons]
  split <;> rfl

theorem namesOf_text_append (root : PathRoot) (cs : List Char) :
    namesOf (root.text.toList ++ cs) = namesOf cs := by
  cases root with
  | relative => rfl
  | slash => exact namesOf_slash cs
  | doubleSlash => exact (namesOf_slash _).trans (namesOf_slash cs)

/-- A text with a name in it holds a character that is no slash. -/
theorem exists_ne_slash_of_namesOf {cs : List Char} (h : namesOf cs ≠ []) : ∃ c ∈ cs, c ≠ '/' := by
  induction cs with
  | nil => exact absurd rfl h
  | cons c cs ih =>
    by_cases hc : c = '/'
    · subst hc
      rw [namesOf_slash] at h
      obtain ⟨d, hd, hne⟩ := ih h
      exact ⟨d, List.mem_cons_of_mem _ hd, hne⟩
    · exact ⟨c, List.mem_cons_self, hc⟩

/-! ## 3. Proper paths -/

/-- A text that can stand as a name in a path: not empty, not `.`, and without a slash. -/
def ProperName (n : String) : Prop := '/' ∉ n.toList ∧ isName n.toList = true

/-- All names of the path are proper ones. -/
def Proper (p : Path) : Prop := ∀ n ∈ p.names, ProperName n

theorem proper_ofString (s : String) : (ofString s).Proper := by
  intro n hn
  obtain ⟨piece, hpiece, rfl⟩ := List.mem_map.mp hn
  obtain ⟨hin, hname⟩ := List.mem_filter.mp hpiece
  rw [ProperName, String.toList_ofList]
  exact ⟨slashless_of_mem_splitSlashes hin, hname⟩

/-- A text without a slash is one name, or nothing. -/
theorem ofString_of_slashless {s : String} (h : '/' ∉ s.toList) :
    ofString s = ⟨.relative, if isName s.toList then [s] else []⟩ := by
  rw [ofString, rootOf_of_slashless h, namesOf_of_slashless h, String.ofList_toList]

theorem toList_joinSlashes_cons (name next : String) (rest : List String) :
    (joinSlashes (name :: next :: rest)).toList
      = name.toList ++ '/' :: (joinSlashes (next :: rest)).toList := by
  simp [joinSlashes]

theorem namesOf_joinSlashes {names : List String} (h : ∀ n ∈ names, ProperName n) :
    namesOf (joinSlashes names).toList = names := by
  induction names with
  | nil => rfl
  | cons name rest ih =>
    obtain ⟨hslash, hname⟩ := h name List.mem_cons_self
    have hone : namesOf name.toList = [name] := by
      rw [namesOf_of_slashless hslash, if_pos hname, String.ofList_toList]
    cases rest with
    | nil => exact hone
    | cons next rest =>
      rw [toList_joinSlashes_cons, namesOf_append_slash, hone,
        ih (fun n hn => h n (List.mem_cons_of_mem name hn)), List.singleton_append]

/-- Names that are joined do not begin with a slash. -/
theorem leadingSlashes_joinSlashes {names : List String} (h : ∀ n ∈ names, ProperName n) :
    leadingSlashes (joinSlashes names).toList = 0 := by
  rcases names with _ | ⟨name, _ | ⟨next, rest⟩⟩
  · rfl
  · exact leadingSlashes_of_slashless (h name List.mem_cons_self).1
  · obtain ⟨hslash, hname⟩ := h name List.mem_cons_self
    have hchar : ∃ c ∈ name.toList, c ≠ '/' := by
      apply exists_ne_slash_of_namesOf
      simp [namesOf_of_slashless hslash, hname]
    rw [toList_joinSlashes_cons, leadingSlashes_append hchar, leadingSlashes_of_slashless hslash]

/-- **A path is read again from its text.** -/
theorem ofString_text {p : Path} (h : p.Proper) : ofString p.text = p := by
  obtain ⟨root, names⟩ := p
  unfold text
  split
  · rename_i hempty
    obtain ⟨rfl, rfl⟩ : root = .relative ∧ names = [] := hempty
    rfl
  · rw [ofString, String.toList_append, rootOf_text_append root (leadingSlashes_joinSlashes h),
      namesOf_text_append, namesOf_joinSlashes h]

/-! ## 4. Parts -/

/-- The path that parts make when they are joined in order. -/
def ofParts (parts : List String) : Path := parts.foldl (fun p part => p.join (ofString part)) {}

/-- Joining components one by one adds those that are names. -/
theorem foldl_join {cs : List String} (h : ∀ c ∈ cs, '/' ∉ c.toList) (p : Path) :
    cs.foldl (fun q c => q.join (ofString c)) p
      = { p with names := p.names ++ cs.filter (isName ·.toList) } := by
  induction cs generalizing p with
  | nil => simp
  | cons c cs ih =>
    have hc : p.join (ofString c) = { p with names := p.names ++ [c].filter (isName ·.toList) } := by
      rw [ofString_of_slashless (h c List.mem_cons_self), List.filter_cons, List.filter_nil]
      rfl
    rw [List.foldl_cons, ih (fun d hd => h d (List.mem_cons_of_mem c hd)), hc]
    simp only [List.append_assoc, ← List.filter_append, List.singleton_append]

theorem join_text (root : PathRoot) : ({} : Path).join (ofString root.text) = ⟨root, []⟩ := by
  cases root <;> rfl

/-- **A path is made again from its parts.** -/
theorem ofParts_parts {p : Path} (h : p.Proper) : ofParts p.parts = p := by
  have hjoin (root : PathRoot) :
      p.names.foldl (fun q c => q.join (ofString c)) (Path.mk root []) = ⟨root, p.names⟩ := by
    rw [foldl_join (fun n hn => (h n hn).1), List.filter_eq_self.mpr (fun n hn => (h n hn).2),
      List.nil_append]
  rw [ofParts, parts]
  split
  · rename_i hroot
    rw [hjoin .relative, ← hroot]
  · rw [List.foldl_cons, join_text, hjoin p.root]

/-- Proper paths with the same parts are the same. -/
theorem eq_of_parts_eq {p q : Path} (hp : p.Proper) (hq : q.Proper) (h : p.parts = q.parts) :
    p = q := by
  rw [← ofParts_parts hp, h, ofParts_parts hq]

/-- To write a component behind a text in which there is a name is to join it to the path. -/
theorem ofString_append_component {s c : String} (hs : (ofString s).names ≠ [])
    (hc : '/' ∉ c.toList) : ofString (s ++ "/" ++ c) = (ofString s).join (ofString c) := by
  have htext : (s ++ "/" ++ c).toList = s.toList ++ '/' :: c.toList := by simp
  have hroot : rootOf (s.toList ++ '/' :: c.toList) = rootOf s.toList :=
    rootOf_append (exists_ne_slash_of_namesOf hs) _
  rw [ofString_of_slashless hc, ofString, htext, hroot, namesOf_append_slash,
    namesOf_of_slashless hc, String.ofList_toList]
  rfl

end TypingPolicy.Path
