import TypingPolicy.Proofs.Independence
import TypingPolicy.Proofs.Validation

/-!
# Extensions that are not allowed

A declaration may carry any number of static directives, and each may carry anything as its
argument.  This file says which extensions are named and where (`Declaration.NamedAt`), without
collecting anything, and which list of them an inspection has to give (`Declaration.Lists`): every
name that is not allowed, once, in the order in which the names appear for the first time.

* `Lists.unique`: there is only one such list;
* `lists_disallowedExtensions`: the inspection gives it, although it collects as it goes and looks
  only at what it has already;
* `Lists.without`: allowing more takes the further names off the list and changes nothing else.

So what the inspection does under two collections of allowed names is compared by what it has to
give under each, and not by running it twice.
-/

namespace TypingPolicy

/-! ## 1. Where extensions are named -/

/-- A directive of a declaration, and an item of the list that is its argument. -/
structure ExtensionPlace where
  directive : Nat
  item : Nat
  deriving DecidableEq, Repr

/-- The reading order: directive by directive, and in each from the first item on. -/
def ExtensionPlace.Before (a b : ExtensionPlace) : Prop :=
  a.directive < b.directive ∨ a.directive = b.directive ∧ a.item < b.item

theorem ExtensionPlace.Before.asymm {a b : ExtensionPlace} (h : a.Before b) : ¬ b.Before a := by
  unfold Before at *
  omega

namespace Declaration

/-- The extension `e` is named at a place: a static directive stands there whose argument is a list,
and the item is the text `e`. -/
def NamedAt (d : Declaration) (e : String) (a : ExtensionPlace) : Prop :=
  ∃ dir items, d.directives[a.directive]? = some dir ∧ dir.kind = .compileStatic ∧
    dir.extensions = .list items ∧ items[a.item]? = some (.text e)

/-- The extension `x` appears for the first time before `y` does. -/
def NamesBefore (d : Declaration) (x y : String) : Prop :=
  ∃ a, d.NamedAt x a ∧ ∀ b, d.NamedAt y b → a.Before b

theorem NamesBefore.asymm {d : Declaration} {x y : String} (h : d.NamesBefore x y) :
    ¬ d.NamesBefore y x := by
  obtain ⟨a, ha, hafter⟩ := h
  rintro ⟨b, hb, hbefore⟩
  exact (hafter b hb).asymm (hbefore a ha)

/-- **What an inspection has to give**: the names that are not allowed, each of them once, in the
order of their first appearances. -/
structure Lists (d : Declaration) (allowed xs : List String) : Prop where
  nodup : xs.Nodup
  ordered : xs.Pairwise d.NamesBefore
  members : ∀ e, e ∈ xs ↔ (∃ a, d.NamedAt e a) ∧ e ∉ allowed

namespace Lists

variable {d : Declaration} {allowed xs ys : List String}

theorem unique (hx : d.Lists allowed xs) (hy : d.Lists allowed ys) : xs = ys := by
  have hmembers : ∀ e, e ∈ xs ↔ e ∈ ys := fun e => (hx.members e).trans (hy.members e).symm
  have hperm : xs.Perm ys := (List.perm_ext_iff_of_nodup hx.nodup hy.nodup).mpr hmembers
  exact hperm.eq_of_pairwise (fun _ _ _ _ h h' => absurd h' h.asymm) hx.ordered hy.ordered

/-- With further names allowed, what remains of the list is the list. -/
theorem without {more both : List String} (hx : d.Lists allowed xs)
    (hboth : ∀ e, e ∈ both ↔ e ∈ allowed ∨ e ∈ more) :
    d.Lists both (xs.filter (· ∉ more)) := by
  refine ⟨hx.nodup.filter _, hx.ordered.filter _, ?_⟩
  intro e
  rw [List.mem_filter, hx.members, hboth, decide_eq_true_eq]
  constructor
  · rintro ⟨⟨hnamed, hallowed⟩, hmore⟩
    exact ⟨hnamed, fun h => h.elim hallowed hmore⟩
  · rintro ⟨hnamed, hneither⟩
    exact ⟨⟨hnamed, fun h => hneither (Or.inl h)⟩, fun h => hneither (Or.inr h)⟩

end Lists

end Declaration

/-! ## 2. The names with their places

The inspection runs through names; to say where it meets them, the same run is made through names
with places. -/

theorem toText?_eq_some_iff {v : Value} {e : String} : toText? v = some e ↔ v = .text e := by
  cases v <;> simp [toText?]

theorem pairwise_zipIdx {α : Type} (xs : List α) : xs.zipIdx.Pairwise (fun x y => x.2 < y.2) := by
  rw [← List.pairwise_map (f := Prod.snd), List.zipIdx_map_snd]
  exact List.pairwise_lt_range' 1

namespace Declaration

/-- The names in the argument of directive number `i`. -/
def namingsOn (i : Nat) (dir : Directive) : List (ExtensionPlace × String) :=
  match dir.extensions with
  | .list items => items.zipIdx.filterMap fun (v, j) => (toText? v).map fun e => (⟨i, j⟩, e)
  | _ => []

/-- The names on the static directives of a declaration. -/
def namings (d : Declaration) : List (ExtensionPlace × String) :=
  (d.directives.zipIdx.filter (·.1.kind = .compileStatic)).flatMap fun (dir, i) => namingsOn i dir

theorem map_snd_namingsOn (i : Nat) (dir : Directive) :
    (namingsOn i dir).map Prod.snd = dir.extensionNames := by
  unfold namingsOn Directive.extensionNames
  cases dir.extensions with
  | list items =>
    simp only [List.map_filterMap]
    conv => rhs; rw [← List.zipIdx_map_fst 0 items, List.filterMap_map]
    apply List.filterMap_congr
    rintro ⟨v, j⟩ -
    cases v <;> rfl
  | _ => rfl

/-- Without the places the names are those that the inspection runs through. -/
theorem map_snd_namings (d : Declaration) : d.namings.map Prod.snd = d.staticExtensions := by
  unfold namings staticExtensions directivesOf
  conv => rhs; rw [← List.zipIdx_map_fst 0 d.directives, List.filter_map, List.flatMap_map]
  simp only [List.map_flatMap, map_snd_namingsOn]
  rfl

theorem mem_namingsOn {i : Nat} {dir : Directive} {a : ExtensionPlace} {e : String} :
    (a, e) ∈ namingsOn i dir ↔
      a.directive = i ∧ ∃ items, dir.extensions = .list items ∧ items[a.item]? = some (.text e) := by
  unfold namingsOn
  cases dir.extensions with
  | list items =>
    simp only [List.mem_filterMap, Prod.exists, List.mk_mem_zipIdx_iff_getElem?,
      Option.map_eq_some_iff, toText?_eq_some_iff, Prod.mk.injEq, Value.list.injEq]
    constructor
    · rintro ⟨v, j, hitem, s, rfl, rfl, rfl⟩
      exact ⟨rfl, items, rfl, hitem⟩
    · rintro ⟨rfl, _, rfl, hitem⟩
      exact ⟨_, _, hitem, e, rfl, rfl, rfl⟩
  | _ => simp

theorem mem_namings {d : Declaration} {a : ExtensionPlace} {e : String} :
    (a, e) ∈ d.namings ↔ d.NamedAt e a := by
  unfold namings NamedAt
  simp only [List.mem_flatMap, List.mem_filter, Prod.exists, List.mk_mem_zipIdx_iff_getElem?,
    decide_eq_true_eq, mem_namingsOn]
  constructor
  · rintro ⟨dir, i, ⟨hdir, hkind⟩, rfl, items, hext, hitem⟩
    exact ⟨dir, items, hdir, hkind, hext, hitem⟩
  · rintro ⟨dir, items, hdir, hkind, hext, hitem⟩
    exact ⟨dir, _, ⟨hdir, hkind⟩, rfl, items, hext, hitem⟩

theorem pairwise_namingsOn (i : Nat) (dir : Directive) :
    (namingsOn i dir).Pairwise (fun m n => m.1.Before n.1) := by
  unfold namingsOn
  cases dir.extensions with
  | list items =>
    refine (pairwise_zipIdx items).filterMap _ ?_
    rintro ⟨v, j⟩ ⟨w, k⟩ hjk m hm n hn
    obtain ⟨s, -, rfl⟩ := Option.map_eq_some_iff.mp hm
    obtain ⟨t, -, rfl⟩ := Option.map_eq_some_iff.mp hn
    exact Or.inr ⟨rfl, hjk⟩
  | _ => exact List.Pairwise.nil

/-- The places come in reading order. -/
theorem pairwise_namings (d : Declaration) :
    d.namings.Pairwise (fun m n => m.1.Before n.1) := by
  refine List.pairwise_flatMap.mpr ⟨fun x _ => pairwise_namingsOn x.2 x.1, ?_⟩
  refine ((pairwise_zipIdx d.directives).filter _).imp ?_
  rintro ⟨dir, i⟩ ⟨dir', i'⟩ hlt ⟨a, e⟩ ha ⟨b, e'⟩ hb
  obtain ⟨rfl, -⟩ := mem_namingsOn.mp ha
  obtain ⟨rfl, -⟩ := mem_namingsOn.mp hb
  exact Or.inl hlt

end Declaration

/-! ## 3. Collecting new names -/

/-- Names are collected in the order of their first appearances, whatever the places are that they
come from.  The induction is over the names still to come: a name that is met now has an appearance
before all of those, and no other name can gain one. -/
theorem Text.pairwise_newNames {β : Type} {before : β → β → Prop} :
    ∀ {ms : List (β × String)} (known : List String),
      ms.Pairwise (fun m n => before m.1 n.1) →
      (Text.newNames known (ms.map Prod.snd)).Pairwise
        (fun x y => ∃ a, (a, x) ∈ ms ∧ ∀ b, (b, y) ∈ ms → before a b)
  | [], _, _ => List.Pairwise.nil
  | (a, s) :: ms, known, h => by
    obtain ⟨hfirst, hrest⟩ := List.pairwise_cons.mp h
    have later : ∀ {b : β} {y : String}, y ≠ s → (b, y) ∈ (a, s) :: ms → (b, y) ∈ ms := by
      intro b y hy hb
      rcases List.mem_cons.mp hb with heq | hb
      · exact absurd (Prod.mk.inj heq).2 hy
      · exact hb
    -- What is collected from the rest keeps its order if `s` is not collected there.
    have lift : ∀ known', s ∈ known' →
        (Text.newNames known' (ms.map Prod.snd)).Pairwise
          (fun x y => ∃ a', (a', x) ∈ (a, s) :: ms ∧ ∀ b, (b, y) ∈ (a, s) :: ms → before a' b) := by
      intro known' hs
      refine (pairwise_newNames known' hrest).imp_of_mem ?_
      rintro x y - hy ⟨a', ha', hbefore⟩
      have hys : y ≠ s := fun heq => ((Text.mem_newNames _ _).mp hy).2 (heq ▸ hs)
      exact ⟨a', List.mem_cons_of_mem _ ha', fun b hb => hbefore b (later hys hb)⟩
    rw [List.map_cons, Text.newNames]
    by_cases hs : s ∈ known
    · rw [if_pos hs]
      exact lift known hs
    · rw [if_neg hs]
      refine List.pairwise_cons.mpr ⟨?_, lift (s :: known) List.mem_cons_self⟩
      intro y hy
      have hys : y ≠ s := fun heq =>
        ((Text.mem_newNames _ _).mp hy).2 (heq ▸ List.mem_cons_self)
      exact ⟨a, List.mem_cons_self, fun b hb => hfirst (b, y) (later hys hb)⟩

namespace Declaration

theorem mem_staticExtensions {d : Declaration} {e : String} :
    e ∈ d.staticExtensions ↔ ∃ a, d.NamedAt e a := by
  simp only [← map_snd_namings, List.mem_map, Prod.exists, exists_eq_right, mem_namings]

/-- **The inspection gives the list.** -/
theorem lists_disallowedExtensions (d : Declaration) (allowed : List String) :
    d.Lists allowed (d.disallowedExtensions allowed) := by
  refine ⟨Text.nodup_newNames _ _, ?_, ?_⟩
  · have h := Text.pairwise_newNames allowed d.pairwise_namings
    simp only [map_snd_namings, mem_namings] at h
    exact h
  · intro e
    rw [disallowedExtensions, Text.mem_newNames, mem_staticExtensions]

/-- The test that looks for one such name agrees with the list of all of them. -/
theorem hasDisallowedExtensions_iff (d : Declaration) (allowed : List String) :
    d.hasDisallowedExtensions allowed = true ↔ d.disallowedExtensions allowed ≠ [] := by
  simp only [hasDisallowedExtensions, List.any_eq_true, decide_eq_true_eq]
  constructor
  · rintro ⟨e, he, hnot⟩
    exact List.ne_nil_of_mem ((Text.mem_newNames _ _).mpr ⟨he, hnot⟩)
  · intro hne
    obtain ⟨e, he⟩ := List.exists_mem_of_ne_nil _ hne
    exact ⟨e, (Text.mem_newNames _ _).mp he⟩

end Declaration

/-! ## 4. Violations -/

/-- A violation of the extension rule shows what is allowed and what the inspection gives. -/
theorem Policy.extensions_of_mem_check {p : Policy} {exempt : Bool} {d : Declaration}
    {v : Violation} (hv : v ∈ p.check exempt d) (hk : v.kind = .extensionsLimited) :
    v.allowed = p.allowedExtensions ∧
      v.offending = d.disallowedExtensions p.allowedExtensions ∧ v.offending ≠ [] := by
  have hrule : v ∈ p.checkExtensions d := by
    rcases mem_check_cases p exempt d hv with h | h | h
    · exact absurd (((says_checkUntyped p d).of_mem h).1.symm.trans hk) (by decide)
    · exact absurd (((says_checkDynamic p exempt d).of_mem h).1.symm.trans hk) (by decide)
    · exact h
  unfold checkExtensions at hrule
  split at hrule
  · rename_i hhas
    rw [List.mem_singleton] at hrule
    subst hrule
    exact ⟨rfl, rfl, (d.hasDisallowedExtensions_iff _).mp (Bool.and_eq_true_iff.mp hhas).2⟩
  · exact absurd hrule List.not_mem_nil

namespace Declaration

/-- **Inspection of extensions.**  Whatever the directives of a declaration carry, the inspection
lists the extensions named on static ones that are not allowed, each once and in the order of first
appearance; the test for such extensions agrees with the list; and allowing more takes the further
names off the list.  So a violation of the extension rule names at least one extension, none of them
twice, and none that is allowed. -/
theorem disallowedExtensions_by_first_appearance (d : Declaration) (allowed : List String) :
    d.Lists allowed (d.disallowedExtensions allowed) ∧
    (d.hasDisallowedExtensions allowed = true ↔ d.disallowedExtensions allowed ≠ []) ∧
    (∀ more both : List String, (∀ e, e ∈ both ↔ e ∈ allowed ∨ e ∈ more) →
      d.disallowedExtensions both = (d.disallowedExtensions allowed).filter (· ∉ more)) ∧
    ∀ (p : Policy) (exempt : Bool), ∀ v ∈ p.check exempt d, v.kind = .extensionsLimited →
      v.allowed = p.allowedExtensions ∧ v.offending ≠ [] ∧ v.offending.Nodup ∧
        ∀ e ∈ v.offending, e ∉ v.allowed := by
  refine ⟨d.lists_disallowedExtensions allowed, d.hasDisallowedExtensions_iff allowed, ?_, ?_⟩
  · intro more both hboth
    exact (d.lists_disallowedExtensions both).unique
      ((d.lists_disallowedExtensions allowed).without hboth)
  · intro p exempt v hv hk
    obtain ⟨hallowed, hoffending, hne⟩ := Policy.extensions_of_mem_check hv hk
    have hlists := d.lists_disallowedExtensions p.allowedExtensions
    rw [← hoffending] at hlists
    refine ⟨hallowed, hne, hlists.nodup, ?_⟩
    intro e he
    rw [hallowed]
    exact ((hlists.members e).mp he).2

/-- Two static directives of a method that name extensions, one of them several times and among
items of other kinds; a text that is no list, and a dynamic directive, name none. -/
theorem disallowedExtensions_by_first_appearance_mixed :
    ∃ (d : Declaration) (p : Policy) (v : Violation),
      d.disallowedExtensions ["a"] = ["c", "b", "d"] ∧ d.Lists ["a"] ["c", "b", "d"] ∧
      d.disallowedExtensions ["b", "a", "e"] = ["c", "d"] ∧
      v ∈ p.check true d ∧ v.kind = .extensionsLimited ∧
      v.allowed = ["a"] ∧ v.offending ≠ [] ∧ ∀ e ∈ v.offending, e ∉ v.allowed := by
  let d : Declaration :=
    { site := .methodAt 0 0, name := "m"
      directives := [⟨"x", .compileDynamic, .list [.text "e"]⟩,
        .compileStatic (.list [.text "c", .int 1, .text "a", .text "b", .text "c"]),
        .compileStatic (.text "f"),
        .compileStatic (.list [.text "b", .null, .text "d"])] }
  let p : Policy := { limitExtensions := true, allowedExtensions := ["a"] }
  let v : Violation :=
    { kind := .extensionsLimited, subject := ⟨.methodAt 0 0, "m"⟩, allowed := ["a"]
      offending := ["c", "b", "d"] }
  have hv : v ∈ p.check true d := by decide
  obtain ⟨hlists, -, hmore, hviolation⟩ := disallowedExtensions_by_first_appearance d ["a"]
  have hboth : d.disallowedExtensions ["b", "a", "e"] = ["c", "d"] :=
    hmore ["e", "b"] ["b", "a", "e"] (by grind)
  obtain ⟨hallowed, hne, -, hdisjoint⟩ := hviolation p true v hv rfl
  exact ⟨d, p, v, rfl, hlists, hboth, hv, rfl, hallowed, hne, hdisjoint⟩

end Declaration

end TypingPolicy
