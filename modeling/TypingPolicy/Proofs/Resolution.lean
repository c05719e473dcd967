import TypingPolicy.Policy.Basic

/-!
# Only the values that count decide

A configuration table may say more than a policy takes from it: keys that name no setting, several
names of one setting side by side, values that are unusable.  Of each setting the value under the
first name present counts, and of all that the table holds nothing else does:

* `ofTable_eq_resolve?`: the settings of a table are put together from the six values that count
  (`Table.chosen`), by a definition that sees nothing else of it (`Settings.resolve?`);
* `chosen_of_agree`: two tables may differ at every key that is behind a name which is present, and
  still the same values count;
* `Harmless.chosen_apply`: so one may put, change or remove a key that is foreign to all settings
  or behind another name, and rename a key that stands alone for its setting.

The main statement is `ofRaw_of_harmless`.
-/

namespace TypingPolicy

/-! ## 1. The values that count -/

namespace Table

def has (t : Table) (key : String) : Bool := (t.get? key).isSome

/-- The value under the first of the names that is present. -/
def chosen (t : Table) (names : List String) : Option Value := names.findSome? t.get?

theorem map_select (t : Table) (names : List String) :
    (select t names).map Prod.snd = t.chosen names := by
  unfold select chosen
  rw [List.map_findSome?]
  congr 1
  funext name
  rw [Function.comp_apply, Option.map_map]
  exact Option.map_id'

theorem chosen_cons (t : Table) (name : String) (names : List String) :
    t.chosen (name :: names) = (t.get? name).or (t.chosen names) := by
  rw [chosen, List.findSome?_cons]
  cases t.get? name <;> rfl

end Table

/-- The names of the list that come before `key`. -/
def preferred (names : List String) (key : String) : List String := names.takeWhile (· ≠ key)

/-- **Where tables may differ.**  If two tables differ only at keys behind a name that is present
in the first, the same value counts in both. -/
theorem Table.chosen_of_agree {t t' : Table} :
    ∀ {names : List String},
      (∀ key ∈ names, t.get? key = t'.get? key ∨ ∃ name ∈ preferred names key, t.has name = true) →
      t.chosen names = t'.chosen names
  | [], _ => rfl
  | name :: names, h => by
    -- Nothing is preferred to the first name, so the tables agree there.
    have hname : t.get? name = t'.get? name := by
      rcases h name List.mem_cons_self with heq | ⟨other, hother, -⟩
      · exact heq
      · simp [preferred] at hother
    rw [chosen_cons, chosen_cons, ← hname]
    cases hv : t.get? name with
    | some v => rfl
    | none =>
      rw [Option.none_or, Option.none_or]
      apply chosen_of_agree
      intro key hkey
      by_cases hne : name = key
      · exact Or.inl (hne ▸ hname)
      · rcases h key (List.mem_cons_of_mem _ hkey) with heq | ⟨other, hother, hpresent⟩
        · exact Or.inl heq
        · right
          rw [preferred, List.takeWhile_cons_of_pos (by simpa using hne), List.mem_cons] at hother
          rcases hother with rfl | hother
          · simp [has, hv] at hpresent
          · exact ⟨other, hother, hpresent⟩

/-! ## 2. Settings from the values that count -/

/-- The value of a reading that met no problem. -/
def Reading.usable {α : Type} (r : Reading α) : Option α :=
  if r.problems = [] then some r.value else none

/-- What a setting comes to if `v` counts: open if there is no value or it is null, and nothing at
all if it is unusable. -/
def setting? {α : Type} (read : Value → Option α) (v : Option Value) : Option (Option α) :=
  match v with
  | none | some .null => some none
  | some v => (read v).map some

def toFlag? (v : Value) : Option Bool := (toBool v).toOption

/-- A list that holds texts only. -/
def toTexts? : Value → Option (List String)
  | .list items => items.mapM toText?
  | _ => none

/-- The settings that six values come to, if all of them are usable. -/
def Settings.resolve? (chosen : List String → Option Value) : Option Settings := do
  let disable ← setting? toFlag? (chosen disableNames)
  let whitelist ← setting? toTexts? (chosen whitelistNames)
  let extensions ← setting? toTexts? (chosen extensionsNames)
  let limit ← setting? toFlag? (chosen limitNames)
  let defs ← setting? toFlag? (chosen defNames)
  let skip ← setting? toFlag? (chosen skipNames)
  return ⟨disable, whitelist, extensions, limit, defs, skip⟩

theorem usable_readFlag (key : String) (v : Value) :
    (readFlag key v).usable = (toFlag? v).map some := by
  unfold readFlag toFlag?
  cases toBool v <;> rfl

/-- A list has no problems if and only if every item is a text, and then no item is lost. -/
theorem usable_items (key : String) :
    ∀ (items : List Value) (start : Nat),
      (if itemProblems key start items = [] then some (items.filterMap toText?) else none)
        = items.mapM toText?
  | [], _ => rfl
  | v :: items, start => by
    have ih := usable_items key items (start + 1)
    rw [itemProblems, List.mapM_cons]
    cases hv : toText? v with
    | none => simp
    | some s =>
      simp only [Option.isSome_some, if_true, List.nil_append, List.filterMap_cons_some hv, ← ih]
      split <;> rfl

theorem usable_readNames (shape : Complaint) (key : String) (v : Value) :
    (readNames shape key v).usable = (toTexts? v).map some := by
  cases v with
  | list items =>
    simp only [readNames, Reading.usable, toTexts?, ← usable_items key items 0]
    by_cases h : itemProblems key 0 items = [] <;> simp [h]
  | _ => rfl

/-- One setting depends on the value that counts, and not on the name under which it stands. -/
theorem usable_readOptional {α : Type} {read : String → Value → Reading (Option α)}
    {use : Value → Option α} (hread : ∀ key v, (read key v).usable = (use v).map some)
    (names : List String) (t : Table) :
    (readOptional read names t).usable = setting? use (t.chosen names) := by
  rw [← Table.map_select, readOptional]
  rcases select t names with _ | ⟨key, v⟩
  · rfl
  · cases v with
    | null => rfl
    | _ => exact hread key _

/-- **The settings of a table are those of the values that count.** -/
theorem Settings.ofTable_eq_resolve? (t : Table) :
    (Settings.ofTable t).toOption = Settings.resolve? t.chosen := by
  unfold ofTable readTable resolve?
  simp only [← usable_readOptional usable_readFlag, ← usable_readOptional (usable_readNames .notAList)]
  generalize readOptional readFlag disableNames t = disable
  generalize readOptional (readNames .notAList) whitelistNames t = whitelist
  generalize readOptional (readNames .notAList) extensionsNames t = extensions
  generalize readOptional readFlag limitNames t = limit
  generalize readOptional readFlag defNames t = defs
  generalize readOptional readFlag skipNames t = skip
  simp only [Reading.usable, List.append_eq_nil_iff]
  -- One reading with a problem is enough for both sides to come to nothing.
  by_cases h1 : disable.problems = []
  case neg => simp [h1, Except.toOption]
  by_cases h2 : whitelist.problems = []
  case neg => simp [h2, Except.toOption]
  by_cases h3 : extensions.problems = []
  case neg => simp [h3, Except.toOption]
  by_cases h4 : limit.problems = []
  case neg => simp [h4, Except.toOption]
  by_cases h5 : defs.problems = []
  case neg => simp [h5, Except.toOption]
  by_cases h6 : skip.problems = []
  case neg => simp [h6, Except.toOption]
  simp [h1, h2, h3, h4, h5, h6, Except.toOption]

/-- The policy of six values: the defaults throughout if one of them is unusable. -/
def Policy.resolve (chosen : List String → Option Value) : Policy :=
  (Settings.resolve? chosen).elim {} Policy.ofSettings

/-- **The policy for a table is that of the values that count.** -/
theorem Policy.ofRaw_table (t : Table) : Policy.ofRaw (some (.table t)) = Policy.resolve t.chosen := by
  rw [Policy.ofRaw, Policy.ofValue?, Value.toTable?, Option.bind_some, Settings.ofTable_eq_resolve?,
    Policy.resolve]
  cases Settings.resolve? t.chosen <;> rfl

/-! ## 3. Which keys matter -/

namespace Settings

/-- The names of the settings, one list for each. -/
def names : List (List String) :=
  [disableNames, whitelistNames, extensionsNames, limitNames, defNames, skipNames]

/-- No key names two settings. -/
theorem names_eq_of_mem :
    ∀ ns ∈ names, ∀ ns' ∈ names, ∀ key ∈ ns, key ∈ ns' → ns = ns' := by
  decide

/-- Only the values that count for the settings matter. -/
theorem resolve?_congr {chosen chosen' : List String → Option Value}
    (h : ∀ ns ∈ names, chosen ns = chosen' ns) : resolve? chosen = resolve? chosen' := by
  unfold resolve?
  rw [h disableNames (by simp [names]), h whitelistNames (by simp [names]),
    h extensionsNames (by simp [names]), h limitNames (by simp [names]),
    h defNames (by simp [names]), h skipNames (by simp [names])]

end Settings

namespace Table

/-- The key names no setting. -/
def Foreign (key : String) : Prop := ∀ ns ∈ Settings.names, key ∉ ns

/-- The key names a setting of which a preferred name is present, whatever stands there. -/
def Shadowed (t : Table) (key : String) : Prop :=
  ∃ ns ∈ Settings.names, key ∈ ns ∧ ∃ name ∈ preferred ns key, t.has name = true

/-- The key is the only name of its setting that may be present, and `other` is a name of the same
setting. -/
def Alone (t : Table) (key other : String) : Prop :=
  ∃ ns ∈ Settings.names, key ∈ ns ∧ other ∈ ns ∧ ∀ name ∈ ns, name ≠ key → t.has name = false

instance (key : String) : Decidable (Foreign key) :=
  inferInstanceAs (Decidable (∀ ns ∈ Settings.names, key ∉ ns))

instance (t : Table) (key : String) : Decidable (t.Shadowed key) :=
  inferInstanceAs (Decidable (∃ ns ∈ Settings.names, key ∈ ns ∧ _))

instance (t : Table) (key other : String) : Decidable (t.Alone key other) :=
  inferInstanceAs (Decidable (∃ ns ∈ Settings.names, key ∈ ns ∧ other ∈ ns ∧ _))

/-! ## 4. Revisions -/

/-- The table without a key. -/
def without (key : String) (t : Table) : Table := t.filter (·.1 ≠ key)

theorem get?_cons (key : String) (v : Value) (t : Table) (name : String) :
    get? ((key, v) :: t) name = if name = key then some v else t.get? name := by
  rw [get?, List.lookup_cons, get?]
  by_cases h : name = key
  · simp [h]
  · simp [h, beq_false_of_ne h]

theorem get?_without (key : String) (t : Table) (name : String) :
    (t.without key).get? name = if name = key then none else t.get? name := by
  induction t with
  | nil => simp [without, get?]
  | cons entry t ih =>
    obtain ⟨k, v⟩ := entry
    rw [without] at ih
    rw [without, get?_cons, List.filter_cons]
    by_cases hk : k = key
    · subst hk
      by_cases hname : name = k
      · simpa [hname] using ih
      · simpa [hname] using ih
    · by_cases hname : name = k
      · subst hname
        simp [hk, get?_cons]
      · simpa [hk, hname, get?_cons] using ih

end Table

/-- A change to a configuration table. -/
inductive Revision where
  /-- Add a key, or change what stands there. -/
  | put (key : String) (v : Value)
  | remove (key : String)
  /-- Let what stands under one key stand under another. -/
  | rename (key other : String)

namespace Revision

def apply (t : Table) : Revision → Table
  | .put key v => (key, v) :: t.without key
  | .remove key => t.without key
  | .rename key other =>
    (t.get? key).elim t fun v => (other, v) :: (t.without key).without other

/-- The revision concerns a key that does not count, or keeps the value that counts. -/
def Harmless (t : Table) : Revision → Prop
  | .put key _ | .remove key => Table.Foreign key ∨ t.Shadowed key
  | .rename key other => t.Alone key other

instance (t : Table) : (r : Revision) → Decidable (r.Harmless t)
  | .put key _ | .remove key => inferInstanceAs (Decidable (Table.Foreign key ∨ t.Shadowed key))
  | .rename key other => inferInstanceAs (Decidable (t.Alone key other))

variable {t : Table} {ns : List String} {key other : String}

/-- A change at one key that does not count. -/
theorem chosen_of_unheeded (hkey : Table.Foreign key ∨ t.Shadowed key) {t' : Table}
    (hrest : ∀ name, name ≠ key → t.get? name = t'.get? name) (hns : ns ∈ Settings.names) :
    t.chosen ns = t'.chosen ns := by
  apply Table.chosen_of_agree
  intro name hname
  by_cases hne : name = key
  · subst hne
    rcases hkey with hforeign | ⟨ns', hns', hmem, hpresent⟩
    · exact absurd hname (hforeign ns hns)
    · obtain rfl := Settings.names_eq_of_mem ns hns ns' hns' name hname hmem
      exact Or.inr hpresent
  · exact Or.inl (hrest name hne)

/-- A value that stands alone counts, under whichever name. -/
theorem chosen_of_alone {t : Table} {key : String} {v : Value} (hkey : t.get? key = some v) :
    ∀ {ns : List String}, key ∈ ns → (∀ name ∈ ns, name ≠ key → t.has name = false) →
      t.chosen ns = some v
  | [], hmem, _ => absurd hmem List.not_mem_nil
  | name :: ns, hmem, halone => by
    rw [Table.chosen_cons]
    by_cases hname : name = key
    · rw [hname, hkey, Option.some_or]
    · have habsent : t.get? name = none := by
        simpa [Table.has] using halone name List.mem_cons_self hname
      have hrest : key ∈ ns := (List.mem_cons.mp hmem).resolve_left (fun e => hname e.symm)
      rw [habsent, Option.none_or]
      exact chosen_of_alone hkey hrest fun other hother => halone other (List.mem_cons_of_mem _ hother)

/-- After a renaming the value counts under its new name. -/
theorem chosen_of_renamed {v : Value} (halone : t.Alone key other) (hkey : t.get? key = some v)
    (hns : ns ∈ Settings.names) :
    t.chosen ns = Table.chosen ((other, v) :: (t.without key).without other) ns := by
  obtain ⟨ns', hns', hmem, hother, hrest⟩ := halone
  by_cases hk : key ∈ ns
  · obtain rfl := Settings.names_eq_of_mem ns hns ns' hns' key hk hmem
    have hnew : Table.get? ((other, v) :: (t.without key).without other) other = some v := by
      rw [Table.get?_cons, if_pos rfl]
    rw [chosen_of_alone hkey hk hrest, chosen_of_alone hnew hother]
    intro name hname hne
    have hold := hrest name hname
    rw [Table.has, Table.get?_cons, if_neg hne, Table.get?_without, if_neg hne, Table.get?_without]
    by_cases hnk : name = key
    · simp [hnk]
    · simpa [Table.has, hnk] using hold hnk
  · -- No name of this setting was touched.
    have ho : other ∉ ns := by
      intro ho
      obtain rfl := Settings.names_eq_of_mem ns hns ns' hns' other ho hother
      exact hk hmem
    apply Table.chosen_of_agree
    intro name hname
    have hnk : name ≠ key := fun e => hk (e ▸ hname)
    have hno : name ≠ other := fun e => ho (e ▸ hname)
    left
    rw [Table.get?_cons, if_neg hno, Table.get?_without, if_neg hno, Table.get?_without, if_neg hnk]

/-- **One harmless revision** leaves all values that count. -/
theorem Harmless.chosen_apply {r : Revision} (h : r.Harmless t) (hns : ns ∈ Settings.names) :
    t.chosen ns = (r.apply t).chosen ns := by
  cases r with
  | put key v =>
    refine chosen_of_unheeded h (fun name hname => ?_) hns
    rw [apply, Table.get?_cons, if_neg hname, Table.get?_without, if_neg hname]
  | remove key =>
    refine chosen_of_unheeded h (fun name hname => ?_) hns
    rw [apply, Table.get?_without, if_neg hname]
  | rename key other =>
    cases hkey : t.get? key with
    | none => rw [apply, hkey, Option.elim_none]
    | some v =>
      rw [apply, hkey, Option.elim_some]
      exact chosen_of_renamed h hkey hns

/-- One revision after the other. -/
def applyAll (rs : List Revision) (t : Table) : Table := rs.foldl apply t

/-- Each revision is harmless to the table that the ones before it leave. -/
def AllHarmless : Table → List Revision → Prop
  | _, [] => True
  | t, r :: rs => r.Harmless t ∧ AllHarmless (r.apply t) rs

instance decidableAllHarmless : (t : Table) → (rs : List Revision) → Decidable (AllHarmless t rs)
  | _, [] => inferInstanceAs (Decidable True)
  | t, r :: rs =>
    have := decidableAllHarmless (r.apply t) rs
    inferInstanceAs (Decidable (r.Harmless t ∧ AllHarmless (r.apply t) rs))

theorem AllHarmless.chosen_applyAll :
    ∀ {rs : List Revision} {t : Table}, AllHarmless t rs → ∀ ns ∈ Settings.names,
      t.chosen ns = (applyAll rs t).chosen ns
  | [], _, _, _, _ => rfl
  | _ :: _, _, h, ns, hns => (h.1.chosen_apply hns).trans (h.2.chosen_applyAll ns hns)

end Revision

/-! ## 5. Policies -/

namespace Policy

/-- **Only the values that count decide.**  The policy for a table is put together from six values,
for each setting the one under the first of its names that is present.  Hence it stays the same
however often the table is revised, as long as each time a key is put, changed or removed that names
no setting, or that names one of which a preferred name is present, even if what stands there is
null or unusable; or a key is renamed to another name of its setting, and no other name of that
setting is present.  Nor does it matter in which order the table lists its keys. -/
theorem ofRaw_of_harmless (t : Table) :
    ofRaw (some (.table t)) = resolve t.chosen ∧
      ∀ (rs : List Revision) (t' : Table), Revision.AllHarmless t rs →
        (∀ key, t'.get? key = (Revision.applyAll rs t).get? key) →
        ofRaw (some (.table t')) = ofRaw (some (.table t)) := by
  refine ⟨ofRaw_table t, ?_⟩
  intro rs t' hrs hsame
  have hchosen : ∀ ns ∈ Settings.names, t'.chosen ns = t.chosen ns := by
    intro ns hns
    rw [hrs.chosen_applyAll ns hns]
    exact Table.chosen_of_agree fun key _ => Or.inl (hsame key)
  rw [ofRaw_table, ofRaw_table, resolve, resolve, Settings.resolve?_congr hchosen]

/-- A comment is put in and taken out again, an unusable value comes to stand behind a name that is
present, and the only name of another setting is changed.  Both settings still hold. -/
theorem ofRaw_of_harmless_shadowed :
    let t : Table := [("defAllowed", .bool false), ("skipDefaultPackage", .bool true)]
    let rs : List Revision := [.put "comment" (.text "strict"), .put "def_allowed" (.text "perhaps"),
      .rename "skipDefaultPackage" "skip_default_package", .remove "comment"]
    let t' : Table := [("skip_default_package", .bool true), ("def_allowed", .text "perhaps"),
      ("defAllowed", .bool false)]
    Revision.AllHarmless t rs ∧ (∀ key, t'.get? key = (Revision.applyAll rs t).get? key) ∧
      ofRaw (some (.table t')) = { untypedAllowed := false, skipDefaultPackage := true } := by
  intro t rs t'
  have hrs : Revision.AllHarmless t rs := by decide
  have hsame : ∀ key, t'.get? key = (Revision.applyAll rs t).get? key := fun _ => rfl
  refine ⟨hrs, hsame, ?_⟩
  rw [(ofRaw_of_harmless t).2 rs t' hrs hsame]
  decide

end Policy

end TypingPolicy
