import TypingPolicy.Proofs.Spelling

/-!
# Cutting a path at a build directory

`Path.cutBefore` goes through the names of a path from the front.  What it comes to is said here on
the parts: the path is cut at the last part with the given name, where the first part does not count
(`LastAt`), and a path without such a part is left as it is.

* `parts_cutBefore_of_lastAt`, `cutBefore_of_forall_ne`: the two cases;
* `exists_lastAt`: there are no others;
* `cutBefore_append`: names other than the given one, added at the end, move no cut.

The main statement, `cutBefore_last_segment`, is about texts.  That nothing is lost when the result
is written down and read again is `ofString_text`.
-/

namespace TypingPolicy.Path

/-! ## 1. The last place of a name -/

/-- Place `i` is the last place where `x` stands, and it is not the first place of the list. -/
structure LastAt (x : String) (parts : List String) (i : Nat) : Prop where
  pos : 1 ≤ i
  here : parts[i]? = some x
  last : ∀ j, i < j → parts[j]? ≠ some x

theorem beforeLast?_eq_none_iff {x : String} {xs : List String} :
    beforeLast? x xs = none ↔ x ∉ xs := by
  induction xs with
  | nil => simp [beforeLast?]
  | cons y rest ih =>
    rw [beforeLast?]
    cases h : beforeLast? x rest with
    | some front =>
      have hin : x ∈ rest := Classical.not_not.mp (fun hn => by simp [ih.mpr hn] at h)
      simp [hin]
    | none =>
      have hout : x ∉ rest := ih.mp h
      by_cases hy : y = x
      · simp [hy]
      · simp [hy, Ne.symm hy, hout]

/-- What stands before the last `x` is what is left when this `x` and all after it are taken off. -/
theorem beforeLast?_append {x : String} {back : List String} (h : x ∉ back) (front : List String) :
    beforeLast? x (front ++ x :: back) = some front := by
  induction front with
  | nil => simp [beforeLast?, beforeLast?_eq_none_iff.mpr h]
  | cons y front ih => rw [List.cons_append, beforeLast?, ih]

theorem mem_of_beforeLast? {x y : String} {xs front : List String}
    (h : beforeLast? x xs = some front) (hy : y ∈ front) : y ∈ xs := by
  induction xs generalizing front with
  | nil => simp [beforeLast?] at h
  | cons z rest ih =>
    rw [beforeLast?] at h
    cases hrest : beforeLast? x rest with
    | some rear =>
      rw [hrest, Option.some.injEq] at h
      subst h
      rcases List.mem_cons.mp hy with rfl | hy
      · exact List.mem_cons_self
      · exact List.mem_cons_of_mem z (ih hrest hy)
    | none =>
      simp only [hrest] at h
      split at h
      · obtain rfl := Option.some.inj h
        exact absurd hy List.not_mem_nil
      · exact absurd h (by simp)

namespace LastAt

variable {x : String} {parts : List String} {i : Nat}

theorem lt_length (h : LastAt x parts i) : i < parts.length :=
  (List.getElem?_eq_some_iff.mp h.here).1

/-- The list falls into what is before the place, `x`, and what is after it. -/
theorem split (h : LastAt x parts i) :
    parts = parts.take i ++ x :: parts.drop (i + 1) ∧ x ∉ parts.drop (i + 1) := by
  constructor
  · obtain ⟨hlt, hx⟩ := List.getElem?_eq_some_iff.mp h.here
    calc
      parts = parts.take i ++ parts.drop i := (List.take_append_drop i parts).symm
      _ = parts.take i ++ x :: parts.drop (i + 1) := by rw [List.drop_eq_getElem_cons hlt, hx]
  · intro hin
    obtain ⟨j, hj⟩ := List.mem_iff_getElem?.mp hin
    rw [List.getElem?_drop] at hj
    exact h.last (i + 1 + j) (by omega) hj

theorem take_eq_cons (h : LastAt x parts i) :
    ∃ first front, parts.take i = first :: front := by
  cases htake : parts.take i with
  | nil =>
    have hlength : (parts.take i).length = 0 := by rw [htake, List.length_nil]
    rw [List.length_take] at hlength
    have hpos := h.pos
    have hlt := h.lt_length
    omega
  | cons first front => exact ⟨first, front, rfl⟩

/-- Parts with other names at the end leave the last place where it was. -/
theorem append (h : LastAt x parts i) {more : List String} (hmore : x ∉ more) :
    LastAt x (parts ++ more) i := by
  refine ⟨h.pos, ?_, ?_⟩
  · rw [List.getElem?_append_left h.lt_length, h.here]
  · intro j hj
    rcases Nat.lt_or_ge j parts.length with hlt | hge
    · rw [List.getElem?_append_left hlt]
      exact h.last j hj
    · rw [List.getElem?_append_right hge]
      exact fun hx => hmore (List.mem_of_getElem? hx)

end LastAt

/-- A name that stands somewhere behind the first place stands at a last place. -/
theorem exists_lastAt {x : String} {parts : List String} {i : Nat} (hi : 1 ≤ i)
    (hx : parts[i]? = some x) : ∃ j, LastAt x parts j := by
  -- The places are finitely many, so going on from `i` to a later place comes to an end.
  induction hn : parts.length - i using Nat.strongRecOn generalizing i with
  | ind n ih =>
    by_cases hlater : ∃ j, i < j ∧ parts[j]? = some x
    · obtain ⟨j, hij, hj⟩ := hlater
      have hlt : j < parts.length := (List.getElem?_eq_some_iff.mp hj).1
      exact ih (parts.length - j) (by omega) (by omega) hj rfl
    · exact ⟨i, hi, hx, fun j hij hj => hlater ⟨j, hij, hj⟩⟩

/-! ## 2. Cutting -/

variable {p : Path} {segment : String} {i : Nat}

/-- The path with the same first part, which is the first name of a relative path and the root of any
other, and with `rest` behind it. -/
def withRest (p : Path) (rest : List String) : Path :=
  match p.root, p.names with
  | .relative, [] => p
  | .relative, first :: _ => { p with names := first :: rest }
  | _, _ => { p with names := rest }

/-- Cutting looks at the parts behind the first one only. -/
theorem cutBefore_eq (p : Path) (segment : String) :
    p.cutBefore segment = (beforeLast? segment p.parts.tail).elim p p.withRest := by
  obtain ⟨root, names⟩ := p
  cases root with
  | relative =>
    cases names with
    | nil => rfl
    | cons first rest =>
      have htail : (Path.mk .relative (first :: rest)).parts.tail = rest := rfl
      rw [htail]
      cases h : beforeLast? segment rest <;> simp [cutBefore, h, withRest]
  | slash =>
    have htail : (Path.mk .slash names).parts.tail = names := rfl
    rw [htail]
    cases h : beforeLast? segment names <;> simp [cutBefore, h, withRest]
  | doubleSlash =>
    have htail : (Path.mk .doubleSlash names).parts.tail = names := rfl
    rw [htail]
    cases h : beforeLast? segment names <;> simp [cutBefore, h, withRest]

theorem parts_withRest {first : String} {old : List String} (h : p.parts = first :: old)
    (rest : List String) : (p.withRest rest).parts = first :: rest := by
  obtain ⟨root, names⟩ := p
  cases root with
  | relative =>
    obtain rfl : names = first :: old := h
    rfl
  | slash =>
    obtain ⟨rfl, -⟩ := List.cons.inj h
    rfl
  | doubleSlash =>
    obtain ⟨rfl, -⟩ := List.cons.inj h
    rfl

theorem proper_withRest (h : p.Proper) {rest : List String} (hrest : ∀ n ∈ rest, n ∈ p.parts.tail) :
    (p.withRest rest).Proper := by
  obtain ⟨root, names⟩ := p
  cases root with
  | relative =>
    cases names with
    | nil => exact h
    | cons first old =>
      intro n hn
      rcases List.mem_cons.mp hn with rfl | hn
      · exact h n List.mem_cons_self
      · exact h n (List.mem_cons_of_mem first (hrest n hn))
  | slash => exact fun n hn => h n (hrest n hn)
  | doubleSlash => exact fun n hn => h n (hrest n hn)

theorem proper_cutBefore (h : p.Proper) (segment : String) : (p.cutBefore segment).Proper := by
  rw [cutBefore_eq]
  cases hfront : beforeLast? segment p.parts.tail with
  | none => exact h
  | some front => exact proper_withRest h (fun n hn => mem_of_beforeLast? hfront hn)

/-- Where the name has a last place, the parts before it remain. -/
theorem parts_cutBefore_of_lastAt (h : LastAt segment p.parts i) :
    (p.cutBefore segment).parts = p.parts.take i := by
  obtain ⟨hsplit, hback⟩ := h.split
  obtain ⟨first, front, htake⟩ := h.take_eq_cons
  rw [htake, List.cons_append] at hsplit
  have htail : p.parts.tail = front ++ segment :: p.parts.drop (i + 1) := by
    conv => lhs; rw [hsplit]
    rfl
  rw [cutBefore_eq, htail, beforeLast?_append hback, Option.elim_some, parts_withRest hsplit, htake]

/-- Where no part but the first has the name, the path stays what it is. -/
theorem cutBefore_of_forall_ne (h : ∀ i, 1 ≤ i → p.parts[i]? ≠ some segment) :
    p.cutBefore segment = p := by
  have hnone : segment ∉ p.parts.tail := by
    intro hin
    obtain ⟨j, hj⟩ := List.mem_iff_getElem?.mp hin
    rw [List.getElem?_tail] at hj
    exact h (j + 1) (by omega) hj
  rw [cutBefore_eq, beforeLast?_eq_none_iff.mpr hnone, Option.elim_none]

/-! ## 3. Further components -/

/-- A text with components written behind it. -/
def extended (s : String) (more : List String) : String :=
  more.foldl (fun t c => t ++ "/" ++ c) s

theorem ofString_extended {more : List String} (hmore : ∀ c ∈ more, '/' ∉ c.toList) {s : String}
    (hs : (ofString s).names ≠ []) :
    ofString (extended s more) = more.foldl (fun q c => q.join (ofString c)) (ofString s) := by
  induction more generalizing s with
  | nil => rfl
  | cons c more ih =>
    have hc : '/' ∉ c.toList := hmore c List.mem_cons_self
    have hstep := ofString_append_component hs hc
    have hnames : (ofString (s ++ "/" ++ c)).names ≠ [] := by
      rw [hstep, ofString_of_slashless hc]
      exact List.append_ne_nil_of_left_ne_nil hs _
    rw [List.foldl_cons, ← hstep]
    exact ih (fun d hd => hmore d (List.mem_cons_of_mem c hd)) hnames

theorem parts_append (p : Path) (names : List String) :
    ({ p with names := p.names ++ names } : Path).parts = p.parts ++ names := by
  unfold parts
  split <;> simp

theorem names_ne_nil_of_lastAt (h : LastAt segment p.parts i) : p.names ≠ [] := by
  intro hnil
  have hlength : p.parts.length ≤ 1 := by
    unfold parts
    split <;> simp [hnil]
  have hpos := h.pos
  have hlt := h.lt_length
  omega

/-- Names other than the segment, behind the others, do not move the cut. -/
theorem cutBefore_append (hp : p.Proper) (h : LastAt segment p.parts i) {names : List String}
    (hproper : ∀ n ∈ names, ProperName n) (hother : segment ∉ names) :
    ({ p with names := p.names ++ names } : Path).cutBefore segment = p.cutBefore segment := by
  have hlonger : ({ p with names := p.names ++ names } : Path).Proper := by
    intro n hn
    rcases List.mem_append.mp hn with hn | hn
    · exact hp n hn
    · exact hproper n hn
  have hlast := h.append hother
  rw [← parts_append] at hlast
  apply eq_of_parts_eq (proper_cutBefore hlonger segment) (proper_cutBefore hp segment)
  rw [parts_cutBefore_of_lastAt hlast, parts_cutBefore_of_lastAt h, parts_append,
    List.take_append_of_le_length (Nat.le_of_lt h.lt_length)]

theorem cutBefore_foldl_join (hp : p.Proper) (h : LastAt segment p.parts i) {more : List String}
    (hmore : ∀ c ∈ more, '/' ∉ c.toList ∧ c ≠ segment) :
    (more.foldl (fun q c => q.join (ofString c)) p).cutBefore segment = p.cutBefore segment := by
  rw [foldl_join (fun c hc => (hmore c hc).1)]
  apply cutBefore_append hp h
  · intro n hn
    obtain ⟨hin, hname⟩ := List.mem_filter.mp hn
    exact ⟨(hmore n hin).1, hname⟩
  · intro hin
    exact (hmore segment (List.mem_filter.mp hin).1).2 rfl

/-! ## 4. Texts -/

/-- **The root of a project.**  A text is read as a path, and the path is cut.  If a part behind the
first has the name of the segment, the parts before the last such part make the result, and there is
at least one of them; otherwise the result is the path itself.  Written down, the result is read as
the same path.  Further components with other names, written behind the text or joined to the path,
do not change the result of a cut. -/
theorem cutBefore_last_segment (s segment : String) :
    ((∃ i, LastAt segment (ofString s).parts i) ↔
      ∃ i, 1 ≤ i ∧ (ofString s).parts[i]? = some segment) ∧
    (∀ i, LastAt segment (ofString s).parts i →
      (ofString s).cutBefore segment = ofParts ((ofString s).parts.take i) ∧
      ((ofString s).cutBefore segment).parts = (ofString s).parts.take i ∧
      (ofString s).parts.take i ≠ [] ∧
      ∀ more : List String, (∀ c ∈ more, '/' ∉ c.toList ∧ c ≠ segment) →
        (ofString (extended s more)).cutBefore segment = (ofString s).cutBefore segment ∧
        (more.foldl (fun q c => q.join (ofString c)) (ofString s)).cutBefore segment
          = (ofString s).cutBefore segment) ∧
    ((∀ i, 1 ≤ i → (ofString s).parts[i]? ≠ some segment) →
      (ofString s).cutBefore segment = ofString s) ∧
    ofString ((ofString s).cutBefore segment).text = (ofString s).cutBefore segment := by
  have hproper := proper_ofString s
  have hcut := proper_cutBefore hproper segment
  refine ⟨?_, ?_, cutBefore_of_forall_ne, ofString_text hcut⟩
  · constructor
    · rintro ⟨i, hi⟩
      exact ⟨i, hi.pos, hi.here⟩
    · rintro ⟨i, hi, hx⟩
      exact exists_lastAt hi hx
  · intro i hi
    have hparts := parts_cutBefore_of_lastAt hi
    refine ⟨?_, hparts, ?_, ?_⟩
    · rw [← hparts, ofParts_parts hcut]
    · obtain ⟨first, front, htake⟩ := hi.take_eq_cons
      rw [htake]
      exact List.cons_ne_nil first front
    · intro more hmore
      have hjoined := cutBefore_foldl_join hproper hi hmore
      refine ⟨?_, hjoined⟩
      rw [ofString_extended (fun c hc => (hmore c hc).1) (names_ne_nil_of_lastAt hi), hjoined]

/-- A path with a root of two slashes in which the build directory is named three times, and one
whose first part has that name. -/
theorem cutBefore_last_segment_nested :
    ∃ s : String, (ofString s).parts = ["//", "build", "a", "build", "..", "build", "x"] ∧
      (ofString s).cutBefore "build" = ofParts ["//", "build", "a", "build", ".."] ∧
      ((ofString s).cutBefore "build").text = "//build/a/build/.." ∧
      ofString ((ofString s).cutBefore "build").text = (ofString s).cutBefore "build" ∧
      (ofString (extended s [".", "builds", ""])).cutBefore "build"
        = (ofString s).cutBefore "build" ∧
      (ofString "build/a").cutBefore "build" = ofString "build/a" := by
  let s := "//build/./a//build/../build/x/"
  have hparts : (ofString s).parts = ["//", "build", "a", "build", "..", "build", "x"] := by
    decide +kernel
  have hlast : LastAt "build" (ofString s).parts 5 := by
    rw [hparts]
    refine ⟨by decide, rfl, ?_⟩
    intro j hj
    rcases Nat.lt_or_ge j 7 with hlt | hge
    · obtain rfl : j = 6 := by omega
      decide
    · rw [List.getElem?_eq_none hge]
      decide
  obtain ⟨-, hcut, -, htext⟩ := cutBefore_last_segment s "build"
  obtain ⟨hresult, -, -, hmore⟩ := hcut 5 hlast
  obtain ⟨hlonger, -⟩ := hmore [".", "builds", ""] (by decide)
  obtain ⟨-, -, hwhole, -⟩ := cutBefore_last_segment "build/a" "build"
  refine ⟨s, hparts, ?_, by decide +kernel, htext, hlonger, hwhole ?_⟩
  · rw [hresult, hparts]
    rfl
  · intro i hi
    rcases Nat.lt_or_ge i 2 with hlt | hge
    · obtain rfl : i = 1 := by omega
      decide +kernel
    · have hlength : (ofString "build/a").parts.length = 2 := by decide +kernel
      rw [List.getElem?_eq_none (by omega)]
      decide

end TypingPolicy.Path
