import Mathlib.Data.List.Basic
import TypingPolicy.Proofs.Resolution

/-!
# Sequences of pairs

A host may hand over a sequence of pairs in the place of a table.  A pair may be written in three
ways (`Value.IsPair`), and of several pairs with one key the last one counts (`LastPair`), while of
several names of one setting the first one present counts.

A table with two keys is a pair, and which key is the first one depends on the order of the keys.
Reading takes the order written (`Table.KeysWritten`).  Tables from a format that does not keep an
order come with ascending keys, and for these the pair is the two keys in sorted order
(`Table.KeysSorted`).

* `toPair?_eq_some_iff`: what is read as a pair is one;
* `isPair_sorted_iff`: where keys ascend, the order written is the sorted order;
* `get?_ofPairs`: under each key of the table that is made stands the last pair's value;
* `Table.tidy`: a table with the same values under distinct keys.

The main statement is `ofRaw_list`.
-/

namespace TypingPolicy

/-! ## 1. Pairs -/

namespace Table

/-- The table has two keys, written in this order. -/
def KeysWritten (t : Table) (a b : String) : Prop := t.map Prod.fst = [a, b] ∧ a ≠ b

/-- The table has two keys, of which the first one is the lesser, however they are written. -/
def KeysSorted (t : Table) (a b : String) : Prop := (t.map Prod.fst).Perm [a, b] ∧ a < b

/-- Where keys ascend, the order written is the sorted order. -/
theorem keysWritten_iff_keysSorted {t : Table} (h : (t.map Prod.fst).Pairwise (· < ·))
    (a b : String) : t.KeysWritten a b ↔ t.KeysSorted a b := by
  constructor
  · rintro ⟨hkeys, -⟩
    rw [hkeys] at h
    exact ⟨hkeys ▸ List.Perm.refl _, by simpa using h⟩
  · rintro ⟨hperm, hab⟩
    have hsorted : [a, b].Pairwise (· < ·) := by simpa using hab
    exact ⟨hperm.eq_of_pairwise (fun x y _ _ hxy hyx => absurd hyx (String.lt_asymm hxy)) h hsorted,
      fun heq => String.lt_irrefl b (heq ▸ hab)⟩

/-- How a table is written does not matter for the sorted order. -/
theorem keysSorted_congr {t t' : Table} (h : t.Perm t') {a b : String} :
    t.KeysSorted a b ↔ t'.KeysSorted a b :=
  and_congr_left' ((h.map Prod.fst).congr_left [a, b])

end Table

/-- The value is a pair of a key and a value: a list of two items, a text of two characters, or a
table with two keys, which are the pair in the order that is asked for.  No list and no table is a
key. -/
inductive Value.IsPair (order : Table → String → String → Prop) : Value → Value → Value → Prop where
  | list {key v : Value} : (∀ items, key ≠ .list items) → (∀ t, key ≠ .table t) →
      IsPair order (.list [key, v]) key v
  | text {s : String} {a b : Char} : s.toList = [a, b] →
      IsPair order (.text s) (.text (String.singleton a)) (.text (String.singleton b))
  | table {t : Table} {a b : String} : order t a b → IsPair order (.table t) (.text a) (.text b)

/-- If the value is a table, its keys are written in ascending order. -/
def Value.Ascending (x : Value) : Prop := ∀ t, x = .table t → (t.map Prod.fst).Pairwise (· < ·)

/-- Only for a table does the order matter. -/
theorem Value.IsPair.mono {order order' : Table → String → String → Prop} {x key v : Value}
    (h : ∀ t, x = .table t → ∀ a b, order t a b → order' t a b) (hpair : x.IsPair order key v) :
    x.IsPair order' key v := by
  cases hpair with
  | list hlist htable => exact .list hlist htable
  | text hs => exact .text hs
  | table hkeys => exact .table (h _ rfl _ _ hkeys)

theorem isPair_sorted_iff {x key v : Value} (h : x.Ascending) :
    x.IsPair Table.KeysSorted key v ↔ x.IsPair Table.KeysWritten key v := by
  have hkeys (t : Table) (ht : x = .table t) (a b : String) : t.KeysWritten a b ↔ t.KeysSorted a b :=
    Table.keysWritten_iff_keysSorted (h t ht) a b
  constructor
  · exact fun hpair => hpair.mono fun t ht a b => (hkeys t ht a b).mpr
  · exact fun hpair => hpair.mono fun t ht a b => (hkeys t ht a b).mp

theorem isKey_iff {key : Value} :
    key.isKey = true ↔ (∀ items, key ≠ .list items) ∧ ∀ t, key ≠ .table t := by
  cases key <;> simp [Value.isKey]

/-- **What is read as a pair is one**, with the keys of a table in the order written. -/
theorem toPair?_eq_some_iff {x key v : Value} :
    x.toPair? = some (key, v) ↔ x.IsPair Table.KeysWritten key v := by
  constructor
  · intro h
    unfold Value.toPair? at h
    split at h
    · rename_i k w
      by_cases hk : k.isKey = true
      · rw [if_pos hk] at h
        obtain ⟨rfl, rfl⟩ := Prod.mk.inj (Option.some.inj h)
        obtain ⟨hlist, htable⟩ := isKey_iff.mp hk
        exact .list hlist htable
      · simp [hk] at h
    · rename_i a _ b _
      by_cases hab : a = b
      · simp [hab] at h
      · rw [if_neg hab] at h
        obtain ⟨rfl, rfl⟩ := Prod.mk.inj (Option.some.inj h)
        exact .table ⟨rfl, hab⟩
    · rename_i s
      split at h
      · rename_i a b hs
        obtain ⟨rfl, rfl⟩ := Prod.mk.inj (Option.some.inj h)
        exact .text hs
      · simp at h
    · simp at h
  · intro h
    cases h with
    | list hlist htable => simp [Value.toPair?, isKey_iff.mpr ⟨hlist, htable⟩]
    | text hs => simp [Value.toPair?, hs]
    | @table t a b hkeys =>
      obtain ⟨hwritten, hab⟩ := hkeys
      obtain ⟨⟨x, u⟩, ⟨y, w⟩, rfl⟩ : ∃ e f, t = [e, f] := by
        have hlength := congrArg List.length hwritten
        rw [List.length_map] at hlength
        exact List.length_eq_two.mp hlength
      obtain ⟨rfl, rfl⟩ : x = a ∧ y = b := by simpa using hwritten
      rw [Value.toPair?, if_neg hab]

/-- A sequence is read as pairs if and only if it consists of pairs. -/
theorem exists_mapM_toPair?_iff {items : List Value} :
    (∃ pairs, items.mapM Value.toPair? = some pairs) ↔
      ∀ x ∈ items, ∃ key v, x.IsPair Table.KeysWritten key v := by
  induction items with
  | nil => simp
  | cons x items ih =>
    rw [List.forall_mem_cons, ← ih, List.mapM_cons]
    constructor
    · rintro ⟨pairs, h⟩
      obtain ⟨⟨key, v⟩, hx, h⟩ := Option.bind_eq_some_iff.mp h
      obtain ⟨rest, hrest, -⟩ := Option.bind_eq_some_iff.mp h
      exact ⟨⟨key, v, toPair?_eq_some_iff.mp hx⟩, rest, hrest⟩
    · rintro ⟨⟨key, v, hx⟩, rest, hrest⟩
      exact ⟨(key, v) :: rest, by simp [toPair?_eq_some_iff.mpr hx, hrest]⟩

/-! ## 2. The last pair counts -/

/-- The value stands in the last pair that has the key. -/
def LastPair (order : Table → String → String → Prop) (items : List Value) (key : String) (v : Value) :
    Prop :=
  ∃ before x after, items = before ++ x :: after ∧ x.IsPair order (.text key) v ∧
    ∀ y ∈ after, ∀ w, ¬ y.IsPair order (.text key) w

variable {order order' : Table → String → String → Prop} {items : List Value} {key : String} {v : Value}

theorem lastPair_cons {x : Value} :
    LastPair order (x :: items) key v ↔
      LastPair order items key v ∨
        x.IsPair order (.text key) v ∧ ∀ y ∈ items, ∀ w, ¬ y.IsPair order (.text key) w := by
  constructor
  · rintro ⟨before, y, after, heq, hy, hafter⟩
    cases before with
    | nil =>
      obtain ⟨rfl, rfl⟩ := List.cons.inj heq
      exact Or.inr ⟨hy, hafter⟩
    | cons z before =>
      obtain ⟨rfl, rfl⟩ := List.cons.inj heq
      exact Or.inl ⟨before, y, after, rfl, hy, hafter⟩
  · rintro (⟨before, y, after, rfl, hy, hafter⟩ | ⟨hx, hrest⟩)
    · exact ⟨x :: before, y, after, rfl, hy, hafter⟩
    · exact ⟨[], x, items, rfl, hx, hrest⟩

theorem lastPair_singleton {x : Value} : LastPair order [x] key v ↔ x.IsPair order (.text key) v := by
  rw [lastPair_cons]
  simp [LastPair]

/-- Two orders that make the same pairs of the items have the same last pairs. -/
theorem lastPair_congr
    (h : ∀ x ∈ items, ∀ key v, x.IsPair order key v ↔ x.IsPair order' key v) :
    LastPair order items key v ↔ LastPair order' items key v := by
  induction items with
  | nil => simp [LastPair]
  | cons x items ih =>
    obtain ⟨hx, hitems⟩ := List.forall_mem_cons.mp h
    have hnone : (∀ y ∈ items, ∀ w, ¬ y.IsPair order (.text key) w) ↔
        ∀ y ∈ items, ∀ w, ¬ y.IsPair order' (.text key) w :=
      forall₂_congr fun y hy => forall_congr' fun w => not_congr (hitems y hy (.text key) w)
    rw [lastPair_cons, lastPair_cons, ih hitems, hx, hnone]

/-- If no pair with the key is the last one, there is none. -/
theorem not_isPair_of_no_lastPair (h : ∀ v, ¬ LastPair order items key v) :
    ∀ y ∈ items, ∀ w, ¬ y.IsPair order (.text key) w := by
  induction items with
  | nil => exact fun y hy => absurd hy List.not_mem_nil
  | cons x items ih =>
    have hrest := ih fun v hv => h v (lastPair_cons.mpr (Or.inl hv))
    intro y hy w hw
    rcases List.mem_cons.mp hy with rfl | hy
    · exact h w (lastPair_cons.mpr (Or.inr ⟨hw, hrest⟩))
    · exact hrest y hy w hw

theorem LastPair.exists_isPair (h : LastPair order items key v) :
    ∃ y ∈ items, y.IsPair order (.text key) v := by
  obtain ⟨before, x, after, rfl, hx, -⟩ := h
  exact ⟨x, by simp, hx⟩

namespace Table

theorem get?_append (s t : Table) (key : String) : get? (s ++ t) key = (s.get? key).or (t.get? key) :=
  List.lookup_append

/-- The entry that one pair makes, as a table. -/
theorem get?_entry_iff (p : Value × Value) (key : String) (v : Value) :
    get? (Value.toEntry? p).toList key = some v ↔ p = (.text key, v) := by
  obtain ⟨k, w⟩ := p
  cases k with
  | text s =>
    rw [Value.toEntry?, Option.toList_some, get?_cons]
    by_cases hs : key = s
    · simp [hs]
    · simp [hs, Ne.symm hs, get?]
  | _ => simp [Value.toEntry?, get?]

/-- **The last pair counts** in the table that pairs make. -/
theorem get?_ofPairs {pairs : List (Value × Value)} (h : items.mapM Value.toPair? = some pairs)
    (key : String) (v : Value) :
    (ofPairs (pairs.filterMap Value.toEntry?)).get? key = some v ↔
      LastPair Table.KeysWritten items key v := by
  induction items generalizing pairs v with
  | nil =>
    obtain rfl : pairs = [] := by simpa using h.symm
    constructor
    · intro hget
      simp [ofPairs, get?] at hget
    · rintro ⟨before, x, after, hnil, -⟩
      simp at hnil
  | cons x items ih =>
    rw [List.mapM_cons] at h
    obtain ⟨p, hp, h⟩ := Option.bind_eq_some_iff.mp h
    obtain ⟨rest, hrest, h⟩ := Option.bind_eq_some_iff.mp h
    obtain rfl := Option.some.inj h
    -- The pair in front comes last in the table, so it counts if no other one has its key.
    have hsplit : ofPairs ((p :: rest).filterMap Value.toEntry?)
        = ofPairs (rest.filterMap Value.toEntry?) ++ (Value.toEntry? p).toList := by
      rw [ofPairs, ofPairs, List.filterMap_cons]
      cases Value.toEntry? p <;> simp
    have hpair : get? (Value.toEntry? p).toList key = some v ↔ x.IsPair KeysWritten (.text key) v := by
      rw [get?_entry_iff, ← toPair?_eq_some_iff, hp, Option.some.injEq]
    rw [hsplit, get?_append, lastPair_cons, ← hpair]
    cases hlast : (ofPairs (rest.filterMap Value.toEntry?)).get? key with
    | some w =>
      have hw : LastPair KeysWritten items key w := (ih hrest w).mp hlast
      obtain ⟨y, hy, hyw⟩ := hw.exists_isPair
      rw [Option.some_or, ← hlast, ih hrest v]
      exact ⟨Or.inl, fun h => h.resolve_right fun h' => h'.2 y hy w hyw⟩
    | none =>
      have hno : ∀ u, ¬ LastPair KeysWritten items key u := by
        intro u hu
        rw [(ih hrest u).mpr hu] at hlast
        simp at hlast
      rw [Option.none_or]
      exact ⟨fun h => Or.inr ⟨h, not_isPair_of_no_lastPair hno⟩,
        fun h => (h.resolve_left (hno v)).1⟩

/-! ## 3. Tables with distinct keys -/

/-- The table without the entries that do not count. -/
def tidy : Table → Table
  | [] => []
  | (key, v) :: t => (key, v) :: (tidy t).without key

theorem get?_tidy (t : Table) (key : String) : t.tidy.get? key = t.get? key := by
  induction t with
  | nil => rfl
  | cons entry t ih =>
    obtain ⟨k, v⟩ := entry
    rw [tidy, get?_cons, get?_cons, get?_without, ih]
    by_cases hk : key = k <;> simp [hk]

theorem nodup_tidy : ∀ t : Table, (t.tidy.map Prod.fst).Nodup
  | [] => List.nodup_nil
  | (key, v) :: t => by
    rw [tidy, List.map_cons, List.nodup_cons]
    constructor
    · simp [without]
    · have hsub : ((tidy t).without key).Sublist (tidy t) := List.filter_sublist
      exact (hsub.map Prod.fst).nodup (nodup_tidy t)

end Table

/-! ## 4. Policies -/

namespace Policy

/-- A policy depends on the values under the keys of a table and on nothing else. -/
theorem ofRaw_table_congr {t t' : Table} (h : ∀ key, t.get? key = t'.get? key) :
    ofRaw (some (.table t)) = ofRaw (some (.table t')) := by
  have hchosen : ∀ ns ∈ Settings.names, t.chosen ns = t'.chosen ns :=
    fun _ _ => Table.chosen_of_agree fun key _ => Or.inl (h key)
  rw [ofRaw_table, ofRaw_table, resolve, resolve, Settings.resolve?_congr hchosen]

theorem ofRaw_of_pairs {pairs : List (Value × Value)} (h : items.mapM Value.toPair? = some pairs) :
    ofRaw (some (.list items))
      = ofRaw (some (.table (Table.ofPairs (pairs.filterMap Value.toEntry?)))) := by
  simp only [ofRaw, ofValue?, Value.toTable?, h, Option.map_some]

/-- What reading makes of a sequence of pairs, where two keys of a table are a pair in that order. -/
structure ReadsPairs (order : Table → String → String → Prop) (items : List Value) : Prop where
  /-- If every item is a pair, there is a table with distinct keys that has under each key what stands
  in the last pair with that key, pairs without a text for a key being left out; and every such table
  has the same policy as the sequence. -/
  pairs : (∀ x ∈ items, ∃ key v, x.IsPair order key v) →
    (∃ t : Table, (t.map Prod.fst).Nodup ∧
      ∀ key v, t.get? key = some v ↔ LastPair order items key v) ∧
    ∀ t : Table, (∀ key v, t.get? key = some v ↔ LastPair order items key v) →
      ofRaw (some (.list items)) = ofRaw (some (.table t))
  /-- If any item is no pair, wherever it stands, the policy is the default one. -/
  other : ∀ x ∈ items, (¬ ∃ key v, x.IsPair order key v) → ofRaw (some (.list items)) = {}

theorem readsPairs_written (items : List Value) : ReadsPairs Table.KeysWritten items := by
  constructor
  · intro hpairs
    obtain ⟨pairs, hread⟩ := exists_mapM_toPair?_iff.mpr hpairs
    have hmade := Table.get?_ofPairs hread
    refine ⟨⟨(Table.ofPairs (pairs.filterMap Value.toEntry?)).tidy, Table.nodup_tidy _, ?_⟩, ?_⟩
    · intro key v
      rw [Table.get?_tidy, hmade]
    · intro t ht
      rw [ofRaw_of_pairs hread]
      refine ofRaw_table_congr fun key => Option.ext fun v => ?_
      rw [hmade, ht]
  · intro x hx hno
    have hunread : items.mapM Value.toPair? = none := by
      cases hread : items.mapM Value.toPair? with
      | none => rfl
      | some pairs => exact absurd (exists_mapM_toPair?_iff.mp ⟨pairs, hread⟩ x hx) hno
    simp [ofRaw, ofValue?, Value.toTable?, hunread]

theorem ReadsPairs.congr (h : ∀ x ∈ items, ∀ key v, x.IsPair order key v ↔ x.IsPair order' key v)
    (hreads : ReadsPairs order items) : ReadsPairs order' items := by
  have hpair (x : Value) (hx : x ∈ items) :
      (∃ key v, x.IsPair order key v) ↔ ∃ key v, x.IsPair order' key v :=
    exists₂_congr (h x hx)
  constructor
  · intro hpairs
    simp only [← lastPair_congr h]
    exact hreads.pairs fun x hx => (hpair x hx).mpr (hpairs x hx)
  · intro x hx hno
    exact hreads.other x hx fun hsome => hno ((hpair x hx).mp hsome)

/-- **A sequence of pairs is read like a table.**  A table among the items stands for its two keys in
the order written.  So where the tables are written with ascending keys, it stands for its two keys in
sorted order; elsewhere it need not, see `not_readsPairs_descending`. -/
theorem ofRaw_list (items : List Value) :
    ReadsPairs Table.KeysWritten items ∧
      ((∀ x ∈ items, x.Ascending) → ReadsPairs Table.KeysSorted items) := by
  constructor
  · exact readsPairs_written items
  · intro hascending
    exact (readsPairs_written items).congr fun x hx key v => (isPair_sorted_iff (hascending x hx)).symm

/-- Two pairs with one key, of which the first is unusable and the second counts, among pairs of all
kinds; and the same sequence with an item that is no pair at its end. -/
theorem ofRaw_list_mixed :
    let items : List Value := [.list [.text "defAllowed", .text "perhaps"], .text "ab",
      .table [("x", .null), ("y", .null)], .list [.int 3, .null],
      .list [.text "defAllowed", .bool false]]
    (∀ x ∈ items, x.Ascending) ∧
      (∀ x ∈ items, ∃ key v, x.IsPair Table.KeysSorted key v) ∧
      (∃ t : Table, (∀ key v, t.get? key = some v ↔ LastPair Table.KeysSorted items key v) ∧
        ofRaw (some (.list items)) = ofRaw (some (.table t))) ∧
      ofRaw (some (.list items)) = { untypedAllowed := false } ∧
      (¬ ∃ key v, (Value.text "abc").IsPair Table.KeysWritten key v) ∧
      ofRaw (some (.list (items ++ [.text "abc"]))) = {} := by
  intro items
  have hascending : ∀ x ∈ items, x.Ascending := by
    intro x hx t ht
    obtain rfl := ht
    obtain rfl : t = [("x", .null), ("y", .null)] := by simpa [items] using hx
    decide
  have hpairs : ∀ x ∈ items, ∃ key v, x.IsPair Table.KeysSorted key v := by
    intro x hx
    obtain ⟨key, v, h⟩ := exists_mapM_toPair?_iff.mp ⟨_, rfl⟩ x hx
    exact ⟨key, v, (isPair_sorted_iff (hascending x hx)).mpr h⟩
  have hno : ¬ ∃ key v, (Value.text "abc").IsPair Table.KeysWritten key v := by
    rintro ⟨key, v, h⟩
    have hread := toPair?_eq_some_iff.mpr h
    simp [Value.toPair?] at hread
  obtain ⟨⟨t, -, ht⟩, hsame⟩ := ((ofRaw_list items).2 hascending).pairs hpairs
  refine ⟨hascending, hpairs, ⟨t, ht, hsame t ht⟩, ?_, hno, ?_⟩
  · decide
  · exact (ofRaw_list (items ++ [.text "abc"])).1.other _ (by simp) hno

/-- **Why the keys have to ascend.**  As it is written, the table is the pair of a setting and its
value; if it is sorted, it is the pair of an unknown key and some text. -/
theorem not_readsPairs_descending :
    ¬ ReadsPairs Table.KeysSorted
      [.table [("disableDynamicCompile", .int 1), ("T", .int 0)]] := by
  intro hreads
  have hsorted {key v : Value} :
      (Value.table [("disableDynamicCompile", .int 1), ("T", .int 0)]).IsPair Table.KeysSorted key v ↔
        key = .text "T" ∧ v = .text "disableDynamicCompile" := by
    constructor
    · intro hpair
      cases hpair with
      | table hkeys =>
        rw [Table.keysSorted_congr (List.Perm.swap _ _ []),
          ← Table.keysWritten_iff_keysSorted (by decide)] at hkeys
        simpa [Table.KeysWritten, eq_comm] using hkeys.1
    · rintro ⟨rfl, rfl⟩
      exact .table ⟨List.Perm.swap _ _ [], by decide⟩
  have hlast (key : String) (v : Value) :
      Table.get? [("T", .text "disableDynamicCompile")] key = some v ↔
        LastPair Table.KeysSorted [.table [("disableDynamicCompile", .int 1), ("T", .int 0)]] key v := by
    rw [lastPair_singleton, hsorted, Table.get?_cons]
    by_cases hkey : key = "T"
    · simp [hkey, eq_comm]
    · simp [hkey, Table.get?]
  have hsame := (hreads.pairs (by simpa using ⟨_, _, hsorted.mpr ⟨rfl, rfl⟩⟩)).2 _ hlast
  exact absurd hsame (by decide)

end Policy

end TypingPolicy
