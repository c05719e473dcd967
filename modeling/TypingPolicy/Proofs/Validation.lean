import Mathlib.Data.List.Forall2
import TypingPolicy.Proofs.Resolution

/-!
# Which tables are usable, and what is wrong with the others

A table is read setting by setting, and either all settings come of it or a list of all problems.
This file says both without reading anything: which values can be used for a setting of either kind
(`SettingKind.Accepts`), what is wrong with any other value (`SettingKind.Faults`), and which value
counts, with the name that problems are located at (`Table.Counts`).

* `toBool_eq_ok_iff`: the values that stand for a truth value, by kinds of value;
* `faults_readOptional`: reading one setting finds exactly what is wrong with the value that counts;
* `Faults.eq_nil_iff`: nothing is wrong if and only if that value is null or acceptable;
* `gives_of_setting?`: a setting that is left open takes its default, any other what its value says.

The main statement is `ofRaw_all_or_nothing`.
-/

namespace TypingPolicy

/-! ## 1. Repeated names -/

namespace Text

theorem mem_newNames {x : String} :
    ∀ (names known : List String), x ∈ newNames known names ↔ x ∈ names ∧ x ∉ known
  | [], _ => by simp [newNames]
  | s :: names, known => by
    rw [newNames]
    by_cases hs : s ∈ known
    · rw [if_pos hs, mem_newNames names known, List.mem_cons]
      constructor
      · rintro ⟨hx, hk⟩
        exact ⟨Or.inr hx, hk⟩
      · rintro ⟨rfl | hx, hk⟩
        · exact absurd hs hk
        · exact ⟨hx, hk⟩
    · rw [if_neg hs, List.mem_cons, mem_newNames names (s :: known), List.mem_cons, List.mem_cons]
      constructor
      · rintro (rfl | ⟨hx, hk⟩)
        · exact ⟨Or.inl rfl, hs⟩
        · exact ⟨Or.inr hx, fun h => hk (Or.inr h)⟩
      · rintro ⟨hx, hk⟩
        by_cases hxs : x = s
        · exact Or.inl hxs
        · exact Or.inr ⟨hx.resolve_left hxs, fun h => h.elim hxs hk⟩

/-- What is new is listed once. -/
theorem nodup_newNames : ∀ names known : List String, (newNames known names).Nodup
  | [], _ => List.nodup_nil
  | s :: names, known => by
    rw [newNames]
    by_cases hs : s ∈ known
    · rw [if_pos hs]
      exact nodup_newNames names known
    · rw [if_neg hs, List.nodup_cons, mem_newNames]
      exact ⟨fun h => h.2 List.mem_cons_self, nodup_newNames names (s :: known)⟩

theorem newNames_of_nodup :
    ∀ {names known : List String}, names.Nodup → (∀ x ∈ names, x ∉ known) →
      newNames known names = names
  | [], _, _, _ => rfl
  | s :: names, known, hnodup, hnew => by
    rw [List.nodup_cons] at hnodup
    rw [newNames, if_neg (hnew s List.mem_cons_self), newNames_of_nodup hnodup.2]
    intro x hx hknown
    rcases List.mem_cons.mp hknown with rfl | hold
    · exact hnodup.1 hx
    · exact hnew x (List.mem_cons_of_mem s hx) hold

/-- Of the names that are not known the first occurrences are kept. -/
theorem newNames_eq_eraseDups :
    ∀ names known : List String,
      newNames known names = (names.filter fun s => s ∉ known).eraseDups
  | [], _ => by simp [newNames]
  | s :: names, known => by
    rw [newNames, List.filter_cons]
    by_cases hs : s ∈ known
    · simpa [hs] using newNames_eq_eraseDups names known
    · have hrest : (names.filter fun x => x ∉ s :: known)
          = (names.filter fun x => x ∉ known).filter fun x => !x == s := by
        rw [List.filter_filter]
        congr 1
        funext x
        by_cases hx : x = s <;> simp [hx]
      rw [if_neg hs, if_pos (by simpa using hs), List.eraseDups_cons, ← hrest,
        newNames_eq_eraseDups names (s :: known)]

theorem newNames_nil (names : List String) : newNames [] names = names.eraseDups := by
  rw [newNames_eq_eraseDups, List.filter_eq_self.mpr (by simp)]

end Text

/-! ## 2. Truth values -/

/-- The words for each truth value. -/
def boolWords : Bool → List String
  | true => ["1", "on", "t", "true", "y", "yes"]
  | false => ["0", "off", "f", "false", "n", "no"]

namespace Value

/-- The value stands for a truth value: it is one, or it is zero or one as an integer or as a
fraction, or it is a word for one, in whatever case. -/
inductive Means : Value → Bool → Prop where
  | bool (b : Bool) : Means (.bool b) b
  | int (b : Bool) : Means (.int b.toInt) b
  | float {x : Binary64} {b : Bool} : x.toInt? = some b.toInt → Means (.float x) b
  | text {s : String} {b : Bool} : Text.lowerAscii s ∈ boolWords b → Means (.text s) b

/-- The complaint about a value that stands for no truth value.  Which one is meant is unclear if it
is a text or a whole number of at most 64 bits; any other value cannot mean one. -/
def flagComplaint : Value → Complaint
  | .text _ => .unclearBoolean
  | .int n => if -wordEnd ≤ n ∧ n < wordEnd then .unclearBoolean else .notABoolean
  | .float x => x.toInt?.elim .notABoolean fun n =>
      if -wordEnd < n ∧ n < wordEnd then .unclearBoolean else .notABoolean
  | _ => .notABoolean

/-- The value lists these names, apart from repetitions. -/
def Lists (v : Value) (names : List String) : Prop :=
  ∃ texts : List String, v = .list (texts.map .text) ∧ names = texts.eraseDups

end Value

theorem intToBool_eq_ok_iff {n : Int} {b : Bool} : intToBool n = .ok b ↔ n = b.toInt := by
  unfold intToBool
  by_cases h0 : n = 0
  · subst h0
    cases b <;> simp
  · by_cases h1 : n = 1
    · subst h1
      cases b <;> simp
    · have hne : n ≠ b.toInt := by
        cases b
        · exact h0
        · exact h1
      rw [if_neg h0, if_neg h1]
      constructor
      · intro h
        split at h <;> simp at h
      · exact fun h => absurd h hne

/-- No word means both. -/
theorem not_mem_boolWords_true : ∀ word ∈ boolWords false, word ∉ boolWords true := by
  decide

theorem wordToBool?_eq_some_iff {s : String} {b : Bool} :
    wordToBool? s = some b ↔ Text.lowerAscii s ∈ boolWords b := by
  have hboth := not_mem_boolWords_true (Text.lowerAscii s)
  show (if Text.lowerAscii s ∈ boolWords true then some true
    else if Text.lowerAscii s ∈ boolWords false then some false else none) = some b ↔ _
  by_cases ht : Text.lowerAscii s ∈ boolWords true
  · rw [if_pos ht]
    cases b
    · simpa using fun hf => hboth hf ht
    · simpa using ht
  · rw [if_neg ht]
    by_cases hf : Text.lowerAscii s ∈ boolWords false
    · rw [if_pos hf]
      cases b
      · simpa using hf
      · simpa using ht
    · rw [if_neg hf]
      cases b
      · simpa using hf
      · simpa using ht

/-- A whole number strictly between the ends of the 64-bit range counts by its amount, like an
integer; so zero and one do, and no other number is a truth value. -/
theorem floatToBool_eq_ok_iff {x : Binary64} {b : Bool} :
    floatToBool x = .ok b ↔ x.toInt? = some b.toInt := by
  unfold floatToBool
  cases x.toInt? with
  | none => simp
  | some n =>
    by_cases hn : -wordEnd < n
    · simp only [if_pos hn, Option.some.injEq, intToBool_eq_ok_iff]
    · simp only [if_neg hn, Option.some.injEq, reduceCtorEq, false_iff]
      rintro rfl
      cases b <;> exact hn (by decide)

/-- **Truth values, by kinds of value.** -/
theorem toBool_eq_ok_iff {v : Value} {b : Bool} : toBool v = .ok b ↔ v.Means b := by
  constructor
  · intro h
    cases v with
    | bool c =>
      obtain rfl : c = b := by simpa [toBool] using h
      exact .bool c
    | int n =>
      obtain rfl := intToBool_eq_ok_iff.mp h
      exact .int b
    | float x => exact .float (floatToBool_eq_ok_iff.mp h)
    | text s =>
      refine .text (wordToBool?_eq_some_iff.mp ?_)
      rw [toBool] at h
      cases hs : wordToBool? s with
      | none => simp [hs] at h
      | some c => simpa [hs] using h
    | _ => simp [toBool] at h
  · intro h
    cases h with
    | bool => rfl
    | int => exact intToBool_eq_ok_iff.mpr rfl
    | float hx => exact floatToBool_eq_ok_iff.mpr hx
    | text hs =>
      rw [toBool, wordToBool?_eq_some_iff.mpr hs]
      rfl

theorem intToBool_eq_error {n : Int} {c : Complaint} (h : intToBool n = .error c) :
    c = if -wordEnd ≤ n ∧ n < wordEnd then .unclearBoolean else .notABoolean := by
  unfold intToBool at h
  by_cases h0 : n = 0
  · simp [h0] at h
  · by_cases h1 : n = 1
    · simp [h1] at h
    · rw [if_neg h0, if_neg h1] at h
      split at h
      · rename_i hn
        rw [if_pos hn]
        exact (Except.error.inj h).symm
      · rename_i hn
        rw [if_neg hn]
        exact (Except.error.inj h).symm

theorem toBool_eq_error {v : Value} {c : Complaint} (h : toBool v = .error c) :
    c = v.flagComplaint := by
  cases v with
  | bool b => simp [toBool] at h
  | int n => exact intToBool_eq_error h
  | float x =>
    rw [toBool, floatToBool] at h
    rw [Value.flagComplaint]
    cases hx : x.toInt? with
    | none => simpa [hx] using h.symm
    | some n =>
      by_cases hn : -wordEnd < n
      · simp only [hx, if_pos hn] at h
        simpa [hn, Int.le_of_lt hn] using intToBool_eq_error h
      · simpa [hx, hn] using h.symm
  | text s =>
    rw [toBool] at h
    cases hs : wordToBool? s with
    | none => simpa [hs, Value.flagComplaint] using h.symm
    | some b => simp [hs] at h
  | _ => simpa [toBool, Value.flagComplaint] using h.symm

/-! ## 3. What is wrong with a value -/

/-- What a setting is about. -/
inductive SettingKind where
  | flag
  | names
  deriving DecidableEq

namespace SettingKind

/-- A flag takes what stands for a truth value, a list of names a list of texts only. -/
def Accepts : SettingKind → Value → Prop
  | .flag, v => ∃ b, v.Means b
  | .names, v => ∃ texts : List String, v = .list (texts.map .text)

/-- One problem for each item that is not a text, located at its position in the list. -/
def textless (key : String) (items : List Value) : List Problem :=
  items.zipIdx.filterMap fun (v, i) =>
    if (toText? v).isSome then none else some ⟨.notAText, .item key i⟩

/-- **What is wrong** with a value that counts for a setting and stands under the key. -/
inductive Faults (key : String) : SettingKind → Value → List Problem → Prop where
  | null {kind : SettingKind} : Faults key kind .null []
  | meaning {v : Value} {b : Bool} : v.Means b → Faults key .flag v []
  | noMeaning {v : Value} : v ≠ .null → (∀ b, ¬ v.Means b) →
      Faults key .flag v [⟨v.flagComplaint, .key key⟩]
  | items (items : List Value) : Faults key .names (.list items) (textless key items)
  | noList {v : Value} : v ≠ .null → (∀ items, v ≠ .list items) →
      Faults key .names v [⟨.notAList, .key key⟩]

end SettingKind

/-- The problems of the items are counted off from the first item on. -/
theorem itemProblems_eq_textless (key : String) :
    ∀ (items : List Value) (start : Nat),
      itemProblems key start items
        = (items.zipIdx start).filterMap fun (v, i) =>
            if (toText? v).isSome then none else some ⟨.notAText, .item key i⟩
  | [], _ => rfl
  | v :: items, start => by
    rw [itemProblems, itemProblems_eq_textless key items (start + 1), List.zipIdx_cons,
      List.filterMap_cons]
    by_cases hv : (toText? v).isSome = true <;> simp [hv]

/-- A list has no problems if and only if it is a list of texts. -/
theorem itemProblems_eq_nil_iff (key : String) :
    ∀ (items : List Value) (start : Nat),
      itemProblems key start items = [] ↔ ∃ texts : List String, items = texts.map .text
  | [], _ => ⟨fun _ => ⟨[], rfl⟩, fun _ => rfl⟩
  | v :: items, start => by
    rw [itemProblems, List.append_eq_nil_iff, itemProblems_eq_nil_iff key items (start + 1)]
    constructor
    · rintro ⟨hv, texts, rfl⟩
      cases v with
      | text s => exact ⟨s :: texts, rfl⟩
      | _ => simp [toText?] at hv
    · rintro ⟨texts, htexts⟩
      cases texts with
      | nil => simp at htexts
      | cons s texts =>
        obtain ⟨rfl, rfl⟩ := List.cons.inj htexts
        exact ⟨rfl, texts, rfl⟩

namespace SettingKind

variable {key : String} {kind : SettingKind} {v : Value} {ps : List Problem}

/-- **Nothing is wrong** if and only if the value is null or acceptable. -/
theorem Faults.eq_nil_iff (h : Faults key kind v ps) : ps = [] ↔ v = .null ∨ kind.Accepts v := by
  cases h with
  | null => simp
  | meaning hb => simpa using Or.inr ⟨_, hb⟩
  | noMeaning hne hno => simp [Accepts, hne, hno]
  | items items =>
    rw [textless, ← itemProblems_eq_textless, itemProblems_eq_nil_iff]
    simp [Accepts]
  | noList hne hno => simpa [Accepts] using ⟨hne, fun texts => hno _⟩

/-- Only one list of problems is right. -/
theorem Faults.unique {ps' : List Problem} (h : Faults key kind v ps) (h' : Faults key kind v ps') :
    ps = ps' := by
  cases h with
  | null =>
    cases h' with
    | null => rfl
    | meaning => rfl
    | noMeaning hne => exact absurd rfl hne
    | noList hne => exact absurd rfl hne
  | meaning hb =>
    cases h' with
    | null => rfl
    | meaning => rfl
    | noMeaning hne hno => exact absurd hb (hno _)
  | noMeaning hne hno =>
    cases h' with
    | null => exact absurd rfl hne
    | meaning hb => exact absurd hb (hno _)
    | noMeaning => rfl
  | items items =>
    cases h' with
    | items => rfl
    | noList hne hno => exact absurd rfl (hno items)
  | noList hne hno =>
    cases h' with
    | null => exact absurd rfl hne
    | items items => exact absurd rfl (hno items)
    | noList => rfl

end SettingKind

theorem faults_readFlag (key : String) {v : Value} (hv : v ≠ .null) :
    SettingKind.Faults key .flag v (readFlag key v).problems := by
  unfold readFlag
  cases hb : toBool v with
  | ok b => exact .meaning (toBool_eq_ok_iff.mp hb)
  | error c =>
    obtain rfl := toBool_eq_error hb
    refine .noMeaning hv fun b hmeans => ?_
    rw [toBool_eq_ok_iff.mpr hmeans] at hb
    simp at hb

theorem faults_readNames (key : String) {v : Value} (hv : v ≠ .null) :
    SettingKind.Faults key .names v (readNames .notAList key v).problems := by
  cases v with
  | list items =>
    have h : SettingKind.Faults key .names (.list items) _ := .items items
    rwa [SettingKind.textless, ← itemProblems_eq_textless] at h
  | _ => exact .noList hv (by simp)

/-! ## 4. What is wrong with a table -/

namespace Table

/-- The value counts for the names and stands under the key: it is present, and no preferred name
is. -/
def Counts (t : Table) (names : List String) (key : String) (v : Value) : Prop :=
  key ∈ names ∧ t.get? key = some v ∧ ∀ other ∈ preferred names key, t.has other = false

/-- None of the names is present. -/
def Lacks (t : Table) (names : List String) : Prop := ∀ name ∈ names, t.has name = false

variable {t : Table} {names : List String} {key : String} {v : Value}

theorem select_eq_none_iff : select t names = none ↔ t.Lacks names := by
  rw [select, List.findSome?_eq_none_iff]
  simp [Lacks, has]

theorem select_eq_some_iff : select t names = some (key, v) ↔ t.Counts names key v := by
  induction names with
  | nil => simp [select, Counts]
  | cons name names ih =>
    have hcons : select t (name :: names)
        = ((t.get? name).map (name, ·)).or (select t names) := by
      rw [select, List.findSome?_cons]
      cases t.get? name <;> rfl
    rw [hcons]
    by_cases hname : name = key
    · subst hname
      cases hv : t.get? name with
      | some w => simp [Counts, hv, preferred]
      | none =>
        rw [Option.map_none, Option.none_or, ih]
        simp [Counts, hv]
    · have hpreferred : preferred (name :: names) key = name :: preferred names key :=
        List.takeWhile_cons_of_pos (by simpa using hname)
      have hmem : key ∈ name :: names ↔ key ∈ names := by
        rw [List.mem_cons]
        exact ⟨fun h => h.resolve_left (fun e => hname e.symm), Or.inr⟩
      rw [Counts, hpreferred, hmem, List.forall_mem_cons]
      cases hw : t.get? name with
      | some w => simp [has, hw, hname]
      | none =>
        rw [Option.map_none, Option.none_or, ih, Counts]
        simp [has, hw]

/-- At most one value counts, under one name. -/
theorem Counts.unique {key' : String} {v' : Value} (h : t.Counts names key v)
    (h' : t.Counts names key' v') : key = key' ∧ v = v' := by
  rw [← select_eq_some_iff] at h h'
  exact Prod.mk.inj (Option.some.inj (h.symm.trans h'))

theorem Lacks.not_counts (h : t.Lacks names) : ¬ t.Counts names key v := by
  rw [← select_eq_some_iff, select_eq_none_iff.mpr h]
  simp

/-- Which value counts, whatever its name. -/
theorem chosen_eq_some_iff : t.chosen names = some v ↔ ∃ key, t.Counts names key v := by
  rw [← map_select, Option.map_eq_some_iff]
  constructor
  · rintro ⟨⟨key, w⟩, hselect, rfl⟩
    exact ⟨key, select_eq_some_iff.mp hselect⟩
  · rintro ⟨key, hcounts⟩
    exact ⟨(key, v), select_eq_some_iff.mpr hcounts, rfl⟩

theorem chosen_eq_none_iff : t.chosen names = none ↔ t.Lacks names := by
  rw [← map_select, Option.map_eq_none_iff, select_eq_none_iff]

end Table

/-- One setting: its names, the preferred one first, and what it is about. -/
structure Setting where
  names : List String
  kind : SettingKind

/-- All settings, in the order of their declaration. -/
def Settings.declared : List Setting :=
  [⟨disableNames, .flag⟩, ⟨whitelistNames, .names⟩, ⟨extensionsNames, .names⟩, ⟨limitNames, .flag⟩,
    ⟨defNames, .flag⟩, ⟨skipNames, .flag⟩]

namespace Setting

/-- The setting can be used: if a value counts for it, then this is null or acceptable. -/
def Usable (t : Table) (s : Setting) : Prop :=
  ∀ key v, t.Counts s.names key v → v = .null ∨ s.kind.Accepts v

/-- What is wrong with a setting: what is wrong with the value that counts for it. -/
inductive Faults (t : Table) (s : Setting) : List Problem → Prop where
  | absent : t.Lacks s.names → Faults t s []
  | present {key : String} {v : Value} {ps : List Problem} :
      t.Counts s.names key v → s.kind.Faults key v ps → Faults t s ps

variable {t : Table} {s : Setting} {ps ps' : List Problem}

theorem Faults.eq_nil_iff (h : s.Faults t ps) : ps = [] ↔ s.Usable t := by
  cases h with
  | absent hlacks => exact ⟨fun _ _ _ hcounts => absurd hcounts hlacks.not_counts, fun _ => rfl⟩
  | present hcounts hfaults =>
    rw [hfaults.eq_nil_iff]
    constructor
    · intro hv key' v' hcounts'
      obtain ⟨-, rfl⟩ := hcounts.unique hcounts'
      exact hv
    · exact fun h => h _ _ hcounts

theorem Faults.unique (h : s.Faults t ps) (h' : s.Faults t ps') : ps = ps' := by
  cases h with
  | absent hlacks =>
    cases h' with
    | absent => rfl
    | present hcounts => exact absurd hcounts hlacks.not_counts
  | present hcounts hfaults =>
    cases h' with
    | absent hlacks => exact absurd hcounts hlacks.not_counts
    | present hcounts' hfaults' =>
      obtain ⟨rfl, rfl⟩ := hcounts.unique hcounts'
      exact hfaults.unique hfaults'

end Setting

/-- **Reading one setting** finds what is wrong with it, if reading a value does. -/
theorem faults_readOptional {α : Type} {read : String → Value → Reading (Option α)}
    {kind : SettingKind}
    (hread : ∀ key {v : Value}, v ≠ .null → kind.Faults key v (read key v).problems)
    (names : List String) (t : Table) :
    Setting.Faults t ⟨names, kind⟩ (readOptional read names t).problems := by
  unfold readOptional
  cases hselect : select t names with
  | none => exact .absent (Table.select_eq_none_iff.mp hselect)
  | some found =>
    obtain ⟨key, v⟩ := found
    have hcounts := Table.select_eq_some_iff.mp hselect
    cases v with
    | null => exact .present hcounts .null
    | _ => exact .present hcounts (hread key (by simp))

namespace Settings

/-- The problems of a table are those of its settings, one setting after the other. -/
def Faulty (t : Table) (ps : List Problem) : Prop :=
  ∃ parts, List.Forall₂ (Setting.Faults t) declared parts ∧ ps = parts.flatten

variable {t : Table} {ps : List Problem}

theorem faulty_readTable (t : Table) : Faulty t (readTable t).problems := by
  refine ⟨_, .cons (faults_readOptional faults_readFlag disableNames t)
    (.cons (faults_readOptional faults_readNames whitelistNames t)
    (.cons (faults_readOptional faults_readNames extensionsNames t)
    (.cons (faults_readOptional faults_readFlag limitNames t)
    (.cons (faults_readOptional faults_readFlag defNames t)
    (.cons (faults_readOptional faults_readFlag skipNames t) .nil))))), ?_⟩
  simp [readTable]

theorem Faulty.unique {ps' : List Problem} (h : Faulty t ps) (h' : Faulty t ps') : ps = ps' := by
  obtain ⟨parts, hparts, rfl⟩ := h
  obtain ⟨parts', hparts', rfl⟩ := h'
  have hunique : Relator.RightUnique (Setting.Faults t) := fun _ _ _ h h' => h.unique h'
  rw [List.right_unique_forall₂' hunique hparts hparts']

theorem flatten_eq_nil_iff {ss : List Setting} {parts : List (List Problem)}
    (h : List.Forall₂ (Setting.Faults t) ss parts) :
    parts.flatten = [] ↔ ∀ s ∈ ss, s.Usable t := by
  induction h with
  | nil => simp
  | cons hfaults _ ih =>
    rw [List.flatten_cons, List.append_eq_nil_iff, hfaults.eq_nil_iff, ih, List.forall_mem_cons]

theorem Faulty.eq_nil_iff (h : Faulty t ps) : ps = [] ↔ ∀ s ∈ declared, s.Usable t := by
  obtain ⟨parts, hparts, rfl⟩ := h
  exact flatten_eq_nil_iff hparts

/-- A table is refused if and only if something is wrong with it, and then all of that is said. -/
theorem ofTable_eq_error_iff : ofTable t = .error ps ↔ ps ≠ [] ∧ Faulty t ps := by
  have hfaulty := faulty_readTable t
  unfold ofTable
  by_cases hnil : (readTable t).problems = []
  · rw [if_pos hnil]
    constructor
    · simp
    · rintro ⟨hne, h⟩
      exact absurd ((h.unique hfaulty).trans hnil) hne
  · rw [if_neg hnil]
    constructor
    · intro h
      obtain rfl := Except.error.inj h
      exact ⟨hnil, hfaulty⟩
    · rintro ⟨-, h⟩
      rw [h.unique hfaulty]

/-- A table is accepted if and only if every setting can be used. -/
theorem exists_ofTable_eq_ok_iff :
    (∃ settings, ofTable t = .ok settings) ↔ ∀ s ∈ declared, s.Usable t := by
  rw [← (faulty_readTable t).eq_nil_iff]
  unfold ofTable
  by_cases hnil : (readTable t).problems = [] <;> simp [hnil]

end Settings

/-! ## 5. What the policy takes from a table -/

namespace Table

/-- A setting is left open: no value counts for it, or null does. -/
def LeavesOpen (t : Table) (names : List String) : Prop :=
  t.Lacks names ∨ ∃ key, t.Counts names key .null

/-- What a table says about a setting: the default if it leaves it open, and otherwise what the value
that counts says. -/
def Gives {α : Type} (t : Table) (names : List String) (gives : Value → α → Prop) (default x : α) :
    Prop :=
  t.LeavesOpen names ∧ x = default ∨ ∃ key v, t.Counts names key v ∧ gives v x

end Table

/-- Every field of the policy is as the table says. -/
structure Policy.Follows (p : Policy) (t : Table) : Prop where
  disable : t.Gives Settings.disableNames Value.Means false p.disableDynamicCompile
  whitelist : t.Gives Settings.whitelistNames Value.Lists [] p.whitelist
  limit : t.Gives Settings.limitNames Value.Means false p.limitExtensions
  allowed : t.Gives Settings.extensionsNames Value.Lists [] p.allowedExtensions
  untyped : t.Gives Settings.defNames Value.Means true p.untypedAllowed
  skip : t.Gives Settings.skipNames Value.Means false p.skipDefaultPackage

theorem means_of_toFlag? {v : Value} {b : Bool} (h : toFlag? v = some b) : v.Means b := by
  rw [toFlag?] at h
  cases hb : toBool v with
  | ok c =>
    obtain rfl : c = b := by simpa [hb, Except.toOption] using h
    exact toBool_eq_ok_iff.mp hb
  | error c => simp [hb, Except.toOption] at h

theorem mapM_toText?_eq_some :
    ∀ {items : List Value} {texts : List String}, items.mapM toText? = some texts →
      items = texts.map .text
  | [], texts, h => by
    obtain rfl : texts = [] := by simpa using h.symm
    rfl
  | v :: items, texts, h => by
    rw [List.mapM_cons] at h
    cases v with
    | text s =>
      cases hrest : items.mapM toText? with
      | none => simp [toText?, hrest] at h
      | some rest =>
        obtain rfl : s :: rest = texts := by simpa [toText?, hrest] using h
        rw [List.map_cons, mapM_toText?_eq_some hrest]
    | _ => simp [toText?] at h

theorem lists_of_toTexts? {v : Value} {texts : List String} (h : toTexts? v = some texts) :
    v.Lists (Text.newNames [] texts) := by
  cases v with
  | list items => exact ⟨texts, by rw [mapM_toText?_eq_some h], Text.newNames_nil texts⟩
  | _ => simp [toTexts?] at h

/-- **What a setting comes to.**  `f` is what the policy makes of the value. -/
theorem gives_of_setting? {α : Type} {use : Value → Option α} {gives : Value → α → Prop} {f : α → α}
    (huse : ∀ {v x}, use v = some x → gives v (f x)) {t : Table} {names : List String}
    {open? : Option α} (h : setting? use (t.chosen names) = some open?) (default : α) :
    t.Gives names gives (f default) (f (open?.getD default)) := by
  cases hchosen : t.chosen names with
  | none =>
    obtain rfl : none = open? := by simpa [hchosen, setting?] using h
    exact Or.inl ⟨Or.inl (Table.chosen_eq_none_iff.mp hchosen), rfl⟩
  | some v =>
    obtain ⟨key, hcounts⟩ := Table.chosen_eq_some_iff.mp hchosen
    by_cases hv : v = .null
    · subst hv
      obtain rfl : none = open? := by simpa [hchosen, setting?] using h
      exact Or.inl ⟨Or.inr ⟨key, hcounts⟩, rfl⟩
    · have hused : (use v).map some = some open? := by
        rw [hchosen] at h
        cases v with
        | null => exact absurd rfl hv
        | _ => exact h
      obtain ⟨x, hx, rfl⟩ := Option.map_eq_some_iff.mp hused
      exact Or.inr ⟨key, v, hcounts, huse hx⟩

namespace Policy

/-- The policy of settings that could all be used. -/
theorem follows_ofSettings {t : Table} {settings : Settings}
    (h : Settings.resolve? t.chosen = some settings) : (ofSettings settings).Follows t := by
  simp only [Settings.resolve?, Option.bind_eq_bind, Option.bind_eq_some_iff] at h
  obtain ⟨disable, hdisable, whitelist, hwhitelist, extensions, hextensions, limit, hlimit, defs,
    hdefs, skip, hskip, hsettings⟩ := h
  obtain rfl := Option.some.inj hsettings
  exact {
    disable := gives_of_setting? (f := id) means_of_toFlag? hdisable false
    whitelist := gives_of_setting? lists_of_toTexts? hwhitelist []
    limit := gives_of_setting? (f := id) means_of_toFlag? hlimit false
    allowed := gives_of_setting? lists_of_toTexts? hextensions []
    untyped := gives_of_setting? (f := id) means_of_toFlag? hdefs true
    skip := gives_of_setting? (f := id) means_of_toFlag? hskip false }

/-- **Validation is complete, and a policy takes all or nothing.**  A table is accepted if and only
if for every setting the value that counts, if there is one, is null or acceptable.  Otherwise it is
refused with all that is wrong: setting by setting in the order of their declaration, one problem at
the name in use for a flag that means nothing or a list that is none, and one problem for each item
that is not a text, at its position.  The policy for a refused table is the default policy, whatever
the table says elsewhere; the policy for an accepted one follows the table in every field. -/
theorem ofRaw_all_or_nothing (t : Table) :
    ((∃ settings, Settings.ofValue (.table t) = .ok settings) ↔
        ∀ s ∈ Settings.declared, s.Usable t) ∧
      (∀ ps, Settings.ofValue (.table t) = .error ps ↔ ps ≠ [] ∧ Settings.Faulty t ps) ∧
      ((∃ s ∈ Settings.declared, ¬ s.Usable t) → ofRaw (some (.table t)) = {}) ∧
      ((∀ s ∈ Settings.declared, s.Usable t) → (ofRaw (some (.table t))).Follows t) := by
  refine ⟨Settings.exists_ofTable_eq_ok_iff, fun _ => Settings.ofTable_eq_error_iff, ?_, ?_⟩
  · rintro ⟨s, hs, hunusable⟩
    rw [ofRaw_table, resolve, ← Settings.ofTable_eq_resolve?]
    cases hread : Settings.ofTable t with
    | ok settings => exact absurd (Settings.exists_ofTable_eq_ok_iff.mp ⟨_, hread⟩ s hs) hunusable
    | error ps => rfl
  · intro husable
    obtain ⟨settings, hread⟩ := Settings.exists_ofTable_eq_ok_iff.mpr husable
    have hresolve : Settings.resolve? t.chosen = some settings := by
      rw [← Settings.ofTable_eq_resolve?, hread]
      rfl
    rw [ofRaw_table, resolve, hresolve, Option.elim_some]
    exact follows_ofSettings hresolve

/-- Of two tables one has three things wrong with it, so the flag that is in order does not count
either.  The other one has a word in capitals, a repeated name, and a null before an unread flag. -/
theorem ofRaw_all_or_nothing_mixed :
    let bad : Table := [("disableDynamicCompile", .text "perhaps"), ("defAllowed", .bool false),
      ("dynamic_compile_whitelist", .list [.text "legacy", .int 3, .null])]
    let good : Table := [("disableDynamicCompile", .text "YES"), ("defAllowed", .null),
      ("dynamicCompileWhiteList", .list [.text "legacy", .text "old", .text "legacy"]),
      ("def_allowed", .bool false)]
    let problems : List Problem := [⟨.unclearBoolean, .key "disableDynamicCompile"⟩,
      ⟨.notAText, .item "dynamic_compile_whitelist" 1⟩,
      ⟨.notAText, .item "dynamic_compile_whitelist" 2⟩]
    Settings.ofValue (.table bad) = .error problems ∧ Settings.Faulty bad problems ∧
      (∃ s ∈ Settings.declared, ¬ s.Usable bad) ∧ ofRaw (some (.table bad)) = {} ∧
      (∀ s ∈ Settings.declared, s.Usable good) ∧ (ofRaw (some (.table good))).Follows good ∧
      ofRaw (some (.table good))
        = { disableDynamicCompile := true, whitelist := ["legacy", "old"] } := by
  intro bad good problems
  obtain ⟨haccepted, hrefused, hnothing, -⟩ := ofRaw_all_or_nothing bad
  obtain ⟨haccepted', -, -, hall⟩ := ofRaw_all_or_nothing good
  have hbad : Settings.ofValue (.table bad) = .error problems := rfl
  have hunusable : ∃ s ∈ Settings.declared, ¬ s.Usable bad := by
    apply Classical.byContradiction
    intro hno
    obtain ⟨settings, hsettings⟩ := haccepted.mpr fun s hs =>
      Classical.byContradiction fun hs' => hno ⟨s, hs, hs'⟩
    rw [hbad] at hsettings
    simp at hsettings
  have husable : ∀ s ∈ Settings.declared, s.Usable good := haccepted'.mp ⟨_, rfl⟩
  refine ⟨hbad, ((hrefused problems).mp hbad).2, hunusable, hnothing hunusable, husable,
    hall husable, ?_⟩
  decide

end Policy

end TypingPolicy
