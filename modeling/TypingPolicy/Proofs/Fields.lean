import TypingPolicy.Proofs.Validation

/-!
# Two ways to a policy

A host can build a policy from its own fields (`Policy.ofFields`), or have it read from a table of
settings (`Policy.ofRaw`).  The two were made for different hands: the fields go by other names, null
is no value there, and a repeated name stays repeated.  Otherwise they agree:

* `chosen_renamed`: of a table of fields under the names of settings, each value counts for its
  setting;
* `setting?_of_readField`: a field that is accepted comes to the same as the setting does;
* `ofFields_toValue`: the fields of a policy lead back to it.

The main statement is `ofRaw_agrees_with_ofFields`.
-/

namespace TypingPolicy

/-! ## 1. Fields under the names of settings -/

/-- The fields of a policy, each with a name of its setting. -/
def Policy.columns : List (String × String) := [
  ("disable_dynamic_compile", "disable_dynamic_compile"),
  ("dynamic_compile_whitelist", "dynamic_compile_whitelist"),
  ("limit_extensions", "limitCompileStaticExtensions"),
  ("allowed_extensions", "compileStaticExtensions"),
  ("untyped_allowed", "defAllowed"),
  ("skip_default_package", "skip_default_package")]

namespace Table

/-- What stands under the first name of a column comes to stand under the second; all else is left
out. -/
def renamed (columns : List (String × String)) (t : Table) : Table :=
  columns.filterMap fun column => (t.get? column.1).map (column.2, ·)

variable {columns : List (String × String)} {t : Table} {field name : String}

theorem get?_renamed_cons (key : String) :
    (renamed ((field, name) :: columns) t).get? key
      = if key = name then (t.get? field).or ((renamed columns t).get? key)
        else (renamed columns t).get? key := by
  cases hv : t.get? field with
  | none => simp [renamed, hv]
  | some v =>
    have hcons : renamed ((field, name) :: columns) t = (name, v) :: renamed columns t :=
      List.filterMap_cons_some (by simp [hv])
    rw [hcons, get?_cons, Option.some_or]

theorem get?_renamed_of_not_mem {key : String} (h : key ∉ columns.map Prod.snd) :
    (renamed columns t).get? key = none := by
  induction columns with
  | nil => rfl
  | cons column columns ih =>
    obtain ⟨field, name⟩ := column
    rw [List.map_cons, List.mem_cons, not_or] at h
    rw [get?_renamed_cons, if_neg h.1, ih h.2]

theorem get?_renamed (hnodup : (columns.map Prod.snd).Nodup) (hmem : (field, name) ∈ columns) :
    (renamed columns t).get? name = t.get? field := by
  induction columns with
  | nil => exact absurd hmem List.not_mem_nil
  | cons column columns ih =>
    obtain ⟨field', name'⟩ := column
    rw [List.map_cons, List.nodup_cons] at hnodup
    rw [get?_renamed_cons]
    rcases List.mem_cons.mp hmem with heq | hlater
    · obtain ⟨rfl, rfl⟩ := Prod.mk.inj heq
      rw [if_pos rfl, get?_renamed_of_not_mem hnodup.1, Option.or_none]
    · have hne : name ≠ name' := by
        rintro rfl
        exact hnodup.1 (List.mem_map.mpr ⟨(field, name), hlater, rfl⟩)
      rw [if_neg hne, ih hnodup.2 hlater]

/-- If only one of the names is in use, the value of its field counts. -/
theorem chosen_renamed {names : List String} (hnodup : (columns.map Prod.snd).Nodup)
    (hmem : (field, name) ∈ columns) (hname : name ∈ names)
    (hrest : ∀ other ∈ names, other ≠ name → other ∉ columns.map Prod.snd) :
    (renamed columns t).chosen names = t.get? field := by
  have halone : ∀ other ∈ names, other ≠ name → (renamed columns t).has other = false := by
    intro other hother hne
    rw [has, get?_renamed_of_not_mem (hrest other hother hne)]
    rfl
  have hvalue : (renamed columns t).get? name = t.get? field := get?_renamed hnodup hmem
  cases hv : t.get? field with
  | some v => exact Revision.chosen_of_alone (hvalue.trans hv) hname halone
  | none =>
    rw [chosen_eq_none_iff]
    intro other hother
    by_cases hne : other = name
    · rw [has, hne, hvalue, hv]
      rfl
    · exact halone other hother hne

end Table

/-! ## 2. One field -/

/-- **A field that is accepted** comes to the same as the setting.  Null is no value for a field. -/
theorem setting?_of_readField {α : Type} {read : String → Value → Reading (Option α)}
    {use : Value → Option α} (hread : ∀ key v, (read key v).usable = (use v).map some)
    (hnull : use .null = none) {key : String} {default : α} {fields : Table}
    (h : (Policy.readField read key default fields).problems = []) :
    ∃ given, setting? use (fields.get? key) = some given ∧
      given.getD default = (Policy.readField read key default fields).value := by
  unfold Policy.readField at h ⊢
  cases hv : fields.get? key with
  | none => exact ⟨none, rfl, rfl⟩
  | some v =>
    simp only [hv] at h ⊢
    have hused : some (read key v).value = (use v).map some := by
      rw [← hread key v, Reading.usable, if_pos h]
    obtain ⟨x, hx, hvalue⟩ := Option.map_eq_some_iff.mp hused.symm
    refine ⟨some x, ?_, by rw [← hvalue]⟩
    cases v with
    | null => simp [hnull] at hx
    | _ => simp [setting?, hx]

/-! ## 3. All fields -/

namespace Policy

/-- Every name of a list once, where it occurs first. -/
def deduplicated (p : Policy) : Policy :=
  { p with
    whitelist := p.whitelist.eraseDups
    allowedExtensions := p.allowedExtensions.eraseDups }

/-- No list holds a name twice. -/
def Distinct (p : Policy) : Prop := p.whitelist.Nodup ∧ p.allowedExtensions.Nodup

/-- No setting has two columns. -/
theorem columns_apart :
    ∀ ns ∈ Settings.names, ∀ name ∈ ns, ∀ other ∈ ns,
      name ∈ columns.map Prod.snd ∧ other ∈ columns.map Prod.snd → other = name := by
  decide

theorem chosen_column (fields : Table) {ns : List String} (field name : String)
    (hcolumn : (field, name) ∈ columns) (hns : ns ∈ Settings.names) (hname : name ∈ ns) :
    (Table.renamed columns fields).chosen ns = fields.get? field := by
  have hused : name ∈ columns.map Prod.snd := List.mem_map_of_mem hcolumn
  refine Table.chosen_renamed (by decide) hcolumn hname fun other hother hne hmem => hne ?_
  exact columns_apart ns hns name hname other hother ⟨hused, hmem⟩

/-- **The same values under the names of settings** make the same policy, apart from repeated
names. -/
theorem ofRaw_renamed {fields : Table} {p : Policy} (h : ofFields fields = .ok p) :
    ofRaw (some (.table (Table.renamed columns fields))) = p.deduplicated := by
  simp only [ofFields] at h
  split at h
  · rename_i hproblems
    obtain rfl := Except.ok.inj h
    simp only [List.append_eq_nil_iff] at hproblems
    obtain ⟨⟨⟨⟨⟨h1, h2⟩, h3⟩, h4⟩, h5⟩, h6⟩ := hproblems
    obtain ⟨disable, hd, hd'⟩ := setting?_of_readField usable_readFlag rfl h1
    obtain ⟨whitelist, hw, hw'⟩ := setting?_of_readField (usable_readNames _) rfl h2
    obtain ⟨limit, hl, hl'⟩ := setting?_of_readField usable_readFlag rfl h3
    obtain ⟨extensions, he, he'⟩ := setting?_of_readField (usable_readNames _) rfl h4
    obtain ⟨defs, hf, hf'⟩ := setting?_of_readField usable_readFlag rfl h5
    obtain ⟨skip, hs, hs'⟩ := setting?_of_readField usable_readFlag rfl h6
    have hresolve : Settings.resolve? (Table.renamed columns fields).chosen
        = some ⟨disable, whitelist, extensions, limit, defs, skip⟩ := by
      rw [Settings.resolve?,
        chosen_column fields "disable_dynamic_compile" "disable_dynamic_compile" (by decide) (by decide)
          (by decide), hd,
        chosen_column fields "dynamic_compile_whitelist" "dynamic_compile_whitelist" (by decide)
          (by decide) (by decide), hw,
        chosen_column fields "allowed_extensions" "compileStaticExtensions" (by decide) (by decide)
          (by decide), he,
        chosen_column fields "limit_extensions" "limitCompileStaticExtensions" (by decide) (by decide)
          (by decide), hl,
        chosen_column fields "untyped_allowed" "defAllowed" (by decide) (by decide) (by decide), hf,
        chosen_column fields "skip_default_package" "skip_default_package" (by decide) (by decide)
          (by decide), hs]
      rfl
    rw [ofRaw_table, resolve, hresolve, Option.elim_some, ofSettings, deduplicated, hd', hw', hl', he',
      hf', hs', Text.newNames_nil, Text.newNames_nil]
  · simp at h

/-- A list of names is accepted as it is. -/
theorem readNames_texts (shape : Complaint) (key : String) (names : List String) :
    readNames shape key (.list (names.map .text)) = ⟨some names, []⟩ := by
  have htexts : (names.map Value.text).filterMap toText? = names := by
    rw [List.filterMap_map]
    exact List.filterMap_some
  rw [readNames, htexts, (itemProblems_eq_nil_iff key _ 0).mpr ⟨names, rfl⟩]

/-- **The fields of a policy lead back to it.** -/
theorem ofFields_toValue (p : Policy) :
    ∃ fields, p.toValue = .table fields ∧ ofFields fields = .ok p := by
  refine ⟨_, rfl, ?_⟩
  simp [ofFields, readField, Table.get?_cons, readFlag, toBool, readNames_texts]

theorem deduplicated_eq_self {p : Policy} (h : p.Distinct) : p.deduplicated = p := by
  rw [deduplicated, ← Text.newNames_nil, ← Text.newNames_nil, Text.newNames_of_nodup h.1 (by simp),
    Text.newNames_of_nodup h.2 (by simp)]

/-- No policy that was read holds a name twice. -/
theorem distinct_ofRaw (raw : Option Value) : (ofRaw raw).Distinct := by
  have hdefault : Distinct {} := ⟨List.nodup_nil, List.nodup_nil⟩
  cases raw with
  | none => exact hdefault
  | some v =>
    rw [ofRaw]
    cases hv : ofValue? v with
    | none => exact hdefault
    | some p =>
      obtain ⟨t, -, hp⟩ := Option.bind_eq_some_iff.mp hv
      obtain ⟨settings, -, rfl⟩ := Option.map_eq_some_iff.mp hp
      exact ⟨Text.nodup_newNames _ _, Text.nodup_newNames _ _⟩

/-- **Two ways to a policy.**  Whenever a policy can be built from fields, the same values under the
names of settings, absent ones left absent, are read as the same policy, except that of a repeated
name only the first occurrence is kept; so it is the very same policy if no name is repeated.  What
is read never holds a name twice, and every policy that holds none twice can be read. -/
theorem ofRaw_agrees_with_ofFields :
    (∀ fields p, ofFields fields = .ok p →
      ofRaw (some (.table (Table.renamed columns fields))) = p.deduplicated ∧
        (p.Distinct → ofRaw (some (.table (Table.renamed columns fields))) = p)) ∧
      (∀ raw, (ofRaw raw).Distinct) ∧
      ∀ p : Policy, p.Distinct → ∃ fields, ofFields fields = .ok p ∧
        ofRaw (some (.table (Table.renamed columns fields))) = p := by
  refine ⟨fun fields p h => ⟨ofRaw_renamed h, fun hp => ?_⟩, distinct_ofRaw, fun p hp => ?_⟩
  · rw [ofRaw_renamed h, deduplicated_eq_self hp]
  · obtain ⟨fields, -, h⟩ := ofFields_toValue p
    exact ⟨fields, h, by rw [ofRaw_renamed h, deduplicated_eq_self hp]⟩

/-- A repeated name is kept by one way and dropped by the other; without it both agree. -/
theorem ofRaw_agrees_with_ofFields_repeated :
    let fields : Table := [("allowed_extensions", .list [.text "A", .text "B", .text "A"]),
      ("untyped_allowed", .text "off"), ("defAllowed", .int 7)]
    let p : Policy := { allowedExtensions := ["A", "B", "A"], untypedAllowed := false }
    let q : Policy := { allowedExtensions := ["A", "B"], untypedAllowed := false }
    ofFields fields = .ok p ∧
      Table.renamed columns fields
        = [("compileStaticExtensions", .list [.text "A", .text "B", .text "A"]),
          ("defAllowed", .text "off")] ∧
      ofRaw (some (.table (Table.renamed columns fields))) = q ∧
      q.Distinct ∧ ∃ fields', ofFields fields' = .ok q ∧
        ofRaw (some (.table (Table.renamed columns fields'))) = q := by
  intro fields p q
  have hp : ofFields fields = .ok p := rfl
  have hq : q.Distinct := ⟨by decide, by decide⟩
  refine ⟨hp, rfl, ?_, hq, ofRaw_agrees_with_ofFields.2.2 q hq⟩
  rw [(ofRaw_agrees_with_ofFields.1 fields p hp).1]
  decide

end Policy

end TypingPolicy
