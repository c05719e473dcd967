import TypingPolicy.Toml.Reader

/-!
# Which documents cannot be read

Reading a document may fail in three ways.  A malformed document is a matter of every line; the other
two faults are a matter of size.  A decimal integer is too long only if the document holds more digits
than an integer may have, and values are nested too deeply only if it holds so many opening brackets
that the room for nesting may be used up.

One predicate carries the argument through all readers.  `Fair room s rest r` says of what a reader
comes to that starts at `s`: it leaves an end of `s`, or it fails with a fault whose cause is found in
`s` (`Fault.Caused`).  `Fair.bind` chains readers, and `fair_values` is the induction over nested values.

The main statement is `caused_of_read`.
-/

namespace TypingPolicy.Toml

variable {α β : Type}

/-! ## 1. Causes -/

def digits (s : List Char) : Nat := s.countP Char.isDigit

/-- The brackets that open a list or a table. -/
def brackets (s : List Char) : Nat := s.countP fun c => c = '[' || c = '{'

/-- The characters give cause for the fault, if there is that much room for nesting. -/
def Fault.Caused (room : Nat) (s : List Char) : Fault → Prop
  | .malformed => True
  | .oversizedInteger => integerLimit < digits s
  | .tooDeep => room < tableRoom * brackets s

/-- What a reader that starts at `s` may come to.  `rest` is what it leaves. -/
def Fair (room : Nat) (s : List Char) (rest : α → List Char) : Except Fault α → Prop
  | .ok a => rest a <:+ s
  | .error fault => fault.Caused room s

/-- Nothing goes wrong but for a malformed document. -/
def Plain : Except Fault α → Prop
  | .ok _ => True
  | .error fault => fault = .malformed

variable {room : Nat} {s s' : List Char} {rest : α → List Char} {rest' : β → List Char}
  {x : Except Fault α} {f : α → Except Fault β}

/-- A cause is kept by what has as many digits and leaves no more room. -/
theorem Fault.Caused.imp {fault : Fault} {room' : Nat} (h : fault.Caused room' s')
    (hdigits : digits s' ≤ digits s)
    (hdeep : room' < tableRoom * brackets s' → room < tableRoom * brackets s) :
    fault.Caused room s := by
  cases fault with
  | malformed => trivial
  | oversizedInteger => exact Nat.lt_of_lt_of_le h hdigits
  | tooDeep => exact hdeep h

theorem Fault.Caused.mono {fault : Fault} (h : fault.Caused room s') (hs : s' <:+ s) :
    fault.Caused room s := by
  refine h.imp hs.sublist.countP_le fun hdeep => ?_
  exact Nat.lt_of_lt_of_le hdeep (Nat.mul_le_mul_left _ hs.sublist.countP_le)

/-- A reader that starts further on. -/
theorem Fair.mono (h : Fair room s' rest x) (hs : s' <:+ s) : Fair room s rest x := by
  cases x with
  | ok a => exact List.IsSuffix.trans h hs
  | error fault => exact Fault.Caused.mono h hs

/-- **One reader after the other.** -/
theorem Fair.bind (hx : Fair room s rest x) (hf : ∀ a, rest a <:+ s → Fair room s rest' (f a)) :
    Fair room s rest' (x >>= f) := by
  cases x with
  | ok a => exact hf a hx
  | error fault => exact hx

/-- A step that reads nothing. -/
theorem Plain.bind (hx : Plain x) (hf : ∀ a, Fair room s rest' (f a)) :
    Fair room s rest' (x >>= f) := by
  cases x with
  | ok a => exact hf a
  | error fault =>
    obtain rfl : fault = .malformed := hx
    exact trivial

theorem Plain.bind_plain (hx : Plain x) (hf : ∀ a, Plain (f a)) : Plain (x >>= f) := by
  cases x with
  | ok a => exact hf a
  | error fault => exact hx

/-! ## 2. Blanks, strings and keys -/

theorem skipBlanks_suffix (s : List Char) : skipBlanks s <:+ s := List.dropWhile_suffix _

/-- What stands behind blanks and one more character. -/
theorem suffix_of_skipBlanks {c : Char} {s rest : List Char} (h : skipBlanks s = c :: rest) :
    rest <:+ s := by
  have hblanks := skipBlanks_suffix s
  rw [h] at hblanks
  exact (List.suffix_cons c rest).trans hblanks

theorem fair_skipComment (s : List Char) : Fair room s id (skipComment s) := by
  unfold skipComment
  split
  · split
    · trivial
    · exact (List.dropWhile_suffix _).trans (List.suffix_cons _ _)
  · exact List.suffix_rfl

theorem fair_skipTrivia : ∀ (s : List Char) (inComment : Bool),
    Fair room s id (skipTrivia inComment s)
  | [], _ => List.suffix_rfl
  | c :: s, inComment => by
    have htrue : Fair room (c :: s) id (skipTrivia true s) :=
      (fair_skipTrivia s true).mono (List.suffix_cons c s)
    have hfalse : Fair room (c :: s) id (skipTrivia false s) :=
      (fair_skipTrivia s false).mono (List.suffix_cons c s)
    unfold skipTrivia
    split
    · split
      · exact hfalse
      · split
        · trivial
        · exact htrue
    · split
      · exact hfalse
      · split
        · exact htrue
        · exact List.suffix_rfl

theorem afterLineEnd?_suffix {s rest : List Char} (h : afterLineEnd? s = some rest) : rest <:+ s := by
  unfold afterLineEnd? at h
  split at h
  · rename_i more hmore
    obtain rfl := Option.some.inj h
    exact (List.dropWhile_suffix _).trans (suffix_of_skipBlanks hmore)
  · simp at h

/-- Every step goes on behind what it has read, so the induction is that of the reader. -/
theorem fair_quoted (multiline : Bool) (text s : List Char) :
    Fair room s Prod.snd (quoted multiline text s) := by
  fun_induction quoted multiline text s with
  | case1 | case6 | case8 | case11 | case12 => trivial
  | case2 => exact List.suffix_cons _ _
  | case3 => exact (List.drop_suffix _ _).trans (List.suffix_cons _ _)
  | case4 _ _ _ _ ih => exact ih.mono (List.suffix_cons _ _)
  | case5 _ a b c d _ _ _ ih => exact ih.mono ⟨['\\', 'u', a, b, c, d], rfl⟩
  | case7 _ a b c d e f g h _ _ _ ih => exact ih.mono ⟨['\\', 'U', a, b, c, d, e, f, g, h], rfl⟩
  | case9 _ c _ _ _ _ _ ih => exact ih.mono ⟨['\\', c], rfl⟩
  | case10 _ c rest _ _ _ more hmore _ ih =>
    subst multiline
    exact ih.mono ((afterLineEnd?_suffix hmore).trans (List.suffix_cons _ _))
  | case13 _ _ _ _ _ _ _ _ ih => exact ih.mono (List.suffix_cons _ _)

theorem fair_literal (s : List Char) : Fair room s Prod.snd (literal s) := by
  simp only [literal]
  split
  · rename_i rest hrest
    split
    · trivial
    · exact (List.suffix_cons _ _).trans (hrest ▸ List.dropWhile_suffix _)
  · trivial

theorem fair_literalLines (text s : List Char) : Fair room s Prod.snd (literalLines text s) := by
  fun_induction literalLines text s with
  | case1 _ rest => exact ⟨['\'', '\'', '\''], rfl⟩
  | case2 | case4 => trivial
  | case3 _ _ _ _ _ ih => exact ih.mono (List.suffix_cons _ _)

theorem moreQuotes_suffix (quote : Char) (found : List Char × List Char) :
    (moreQuotes quote found).2 <:+ found.2 := by
  fun_cases moreQuotes quote found with
  | case1 => exact ⟨[_, _], rfl⟩
  | case2 => exact List.suffix_cons _ _
  | case4 => exact List.suffix_cons _ _
  | case3 | case5 | case6 => exact List.suffix_rfl

theorem skipFirstLineEnd_suffix (s : List Char) : skipFirstLineEnd s <:+ s := by
  unfold skipFirstLineEnd
  split
  · exact List.suffix_cons _ _
  · exact List.suffix_rfl

theorem fair_string (s : List Char) : Fair room s Prod.snd (string s) := by
  unfold string
  split
  · rename_i rest
    have hrest : rest <:+ '"' :: '"' :: '"' :: rest := ⟨['"', '"', '"'], rfl⟩
    refine Fair.bind ((fair_quoted true [] _).mono ((skipFirstLineEnd_suffix rest).trans hrest)) ?_
    exact fun found hfound => (moreQuotes_suffix '"' found).trans hfound
  · rename_i rest
    have hrest : rest <:+ '\'' :: '\'' :: '\'' :: rest := ⟨['\'', '\'', '\''], rfl⟩
    refine Fair.bind ((fair_literalLines [] _).mono ((skipFirstLineEnd_suffix rest).trans hrest)) ?_
    exact fun found hfound => (moreQuotes_suffix '\'' found).trans hfound
  · exact Fair.bind ((fair_quoted false [] _).mono (List.suffix_cons _ _)) fun _ hfound => hfound
  · exact Fair.bind ((fair_literal _).mono (List.suffix_cons _ _)) fun _ hfound => hfound
  · trivial

theorem fair_keyPart (s : List Char) : Fair room s Prod.snd (keyPart s) := by
  unfold keyPart
  split
  · exact Fair.bind ((fair_quoted false [] _).mono (List.suffix_cons _ _)) fun _ hfound => hfound
  · exact Fair.bind ((fair_literal _).mono (List.suffix_cons _ _)) fun _ hfound => hfound
  · split
    · trivial
    · exact List.dropWhile_suffix _

theorem fair_keyParts : ∀ (fuel : Nat) (s : List Char), Fair room s Prod.snd (keyParts fuel s)
  | 0, _ => trivial
  | fuel + 1, s => by
    unfold keyParts
    refine Fair.bind (fair_keyPart s) ?_
    rintro ⟨part, rest⟩ hfound
    dsimp only
    split
    · rename_i more hmore
      have hpoint : more <:+ s := (suffix_of_skipBlanks hmore).trans hfound
      have hnext := (skipBlanks_suffix more).trans hpoint
      exact Fair.bind ((fair_keyParts fuel _).mono hnext) fun _ hparts => hparts
    · exact (skipBlanks_suffix rest).trans hfound

theorem fair_key (s : List Char) : Fair room s Prod.snd (key s) := fair_keyParts _ s

/-! ## 3. Numbers -/

/-- A run of digits ends somewhere, and what it counts are digits. -/
theorem digitRun_spec (isDigit : Char → Bool) (s : List Char) :
    (digitRun isDigit s).2 <:+ s ∧ (digitRun isDigit s).1.length ≤ s.countP isDigit := by
  fun_induction digitRun isDigit s with
  | case1 c rest hc digits more hrun ih =>
    rw [hrun] at ih
    refine ⟨ih.1.trans ⟨['_', c], rfl⟩, ?_⟩
    have hcount : rest.countP isDigit + 1 ≤ ('_' :: c :: rest).countP isDigit := by
      simp [List.countP_cons, hc]
    exact Nat.le_trans (Nat.succ_le_succ ih.2) hcount
  | case3 c rest _ hc digits more hrun ih =>
    rw [hrun] at ih
    refine ⟨ih.1.trans (List.suffix_cons c rest), ?_⟩
    rw [List.countP_cons_of_pos hc]
    exact Nat.succ_le_succ ih.2
  | case2 | case4 | case5 => exact ⟨List.suffix_rfl, Nat.zero_le _⟩

theorem digitRun?_spec {isDigit : Char → Bool} {s run rest : List Char}
    (h : digitRun? isDigit s = some (run, rest)) :
    rest <:+ s ∧ run.length ≤ s.countP isDigit := by
  have hspec := digitRun_spec isDigit s
  cases s with
  | nil => simp [digitRun?] at h
  | cons c more =>
    simp only [digitRun?, Option.ite_none_right_eq_some, Option.some.injEq] at h
    rwa [h.2] at hspec

theorem sign_suffix (s : List Char) : (sign s).2 <:+ s := by
  unfold sign
  split
  · exact List.suffix_cons _ _
  · exact List.suffix_cons _ _
  · exact List.suffix_rfl

theorem fraction?_suffix {s places rest : List Char} (h : fraction? s = some (places, rest)) :
    rest <:+ s := by
  unfold fraction? at h
  split at h
  · exact (digitRun?_spec h).1.trans (List.suffix_cons _ _)
  · simp at h

theorem exponent?_suffix {s rest : List Char} {power : Int} (h : exponent? s = some (power, rest)) :
    rest <:+ s := by
  unfold exponent? at h
  split at h
  · rename_i c more
    split at h
    · obtain ⟨⟨digits, last⟩, hrun, hlast⟩ := Option.map_eq_some_iff.mp h
      obtain ⟨-, rfl⟩ := Prod.mk.inj hlast
      exact (digitRun?_spec hrun).1.trans ((sign_suffix more).trans (List.suffix_cons _ _))
    · simp at h
  · simp at h

theorem whole?_spec {s run rest : List Char} (h : whole? s = some (run, rest)) :
    rest <:+ s ∧ run.length ≤ digits s := by
  unfold whole? at h
  split at h
  · obtain ⟨rfl, rfl⟩ := Prod.mk.inj (Option.some.inj h)
    exact ⟨List.suffix_cons _ _, by simp [digits]⟩
  · exact digitRun?_spec h

/-- **Decimal numbers.**  An integer that is too long is made of that many digits. -/
theorem fair_decimal? {s : List Char} {r : Except Fault (Value × List Char)}
    (h : decimal? s = some r) : Fair room s Prod.snd r := by
  simp only [decimal?, Option.map_eq_some_iff] at h
  obtain ⟨⟨run, rest⟩, hwhole, rfl⟩ := h
  obtain ⟨hrest, hlength⟩ := whole?_spec hwhole
  have hs := hrest.trans (sign_suffix s)
  dsimp only
  cases hfraction : fraction? rest with
  | none =>
    cases hpower : exponent? rest with
    | none =>
      -- only a number without both parts is an integer
      by_cases hlong : integerLimit < run.length
      · have hdigits : digits (sign s).2 ≤ digits s := (sign_suffix s).sublist.countP_le
        have hcaused : integerLimit < digits s := by omega
        simpa [hlong, Fair, Fault.Caused] using hcaused
      · simpa [hlong, Fair] using hs
    | some found => exact (exponent?_suffix hpower).trans hs
  | some found =>
    have hplaces := (fraction?_suffix hfraction).trans hs
    cases hpower : exponent? found.2 with
    | none => simpa [hpower, Fair] using hplaces
    | some power => simpa [hpower, Fair] using (exponent?_suffix hpower).trans hplaces

theorem based?_suffix {s rest : List Char} {v : Value} (h : based? s = some (v, rest)) :
    rest <:+ s := by
  have hread {base : Nat} {isDigit : Char → Bool} {c : Char} {more : List Char}
      (h : based?.read base isDigit more = some (v, rest)) : rest <:+ '0' :: c :: more := by
    obtain ⟨⟨run, last⟩, hrun, hlast⟩ := Option.map_eq_some_iff.mp h
    obtain ⟨-, rfl⟩ := Prod.mk.inj hlast
    exact (digitRun?_spec hrun).1.trans ⟨['0', c], rfl⟩
  unfold based? at h
  split at h
  · exact hread h
  · exact hread h
  · exact hread h
  · simp at h

theorem special?_suffix {s rest : List Char} {v : Value} (h : special? s = some (v, rest)) :
    rest <:+ s := by
  refine List.IsSuffix.trans ?_ (sign_suffix s)
  simp only [special?] at h
  split at h
  · rename_i more hmore
    obtain ⟨-, rfl⟩ := Prod.mk.inj (Option.some.inj h)
    exact hmore ▸ ⟨['i', 'n', 'f'], rfl⟩
  · rename_i more hmore
    obtain ⟨-, rfl⟩ := Prod.mk.inj (Option.some.inj h)
    exact hmore ▸ ⟨['n', 'a', 'n'], rfl⟩
  · simp at h

/-! ## 4. Dates and times -/

theorem fixedDigits?_suffix {n low high x : Nat} {s rest : List Char}
    (h : fixedDigits? n low high s = some (x, rest)) : rest <:+ s := by
  simp only [fixedDigits?, Option.ite_none_right_eq_some, Option.some.injEq, Prod.mk.injEq] at h
  obtain ⟨-, -, -, rfl⟩ := h
  exact List.drop_suffix n s

theorem expect?_suffix {c : Char} {s rest : List Char} (h : expect? c s = some rest) :
    rest <:+ s := by
  cases s with
  | nil => simp [expect?] at h
  | cons d more =>
    simp only [expect?, Option.ite_none_right_eq_some, Option.some.injEq] at h
    exact h.2 ▸ List.suffix_cons d more

/-- Digits behind a mark. -/
theorem field_suffix {n low high x : Nat} {c : Char} {s more rest : List Char}
    (hmark : expect? c s = some more) (h : fixedDigits? n low high more = some (x, rest)) :
    rest <:+ s :=
  (fixedDigits?_suffix h).trans (expect?_suffix hmark)

theorem micros_suffix (s : List Char) : (micros s).2 <:+ s := by
  unfold micros
  split
  · split
    · exact List.suffix_rfl
    · exact (List.dropWhile_suffix _).trans (List.suffix_cons _ _)
  · exact List.suffix_rfl

theorem clock?_suffix {s rest : List Char} {c : Clock} (h : clock? s = some (c, rest)) :
    rest <:+ s := by
  simp only [clock?, Option.bind_eq_bind, Option.bind_eq_some_iff] at h
  obtain ⟨⟨hour, s₁⟩, h₁, s₂, h₂, ⟨minute, s₃⟩, h₃, s₄, h₄, ⟨second, s₅⟩, h₅, h₆⟩ := h
  obtain ⟨-, rfl⟩ := Prod.mk.inj (Option.some.inj h₆)
  have hhour : s₁ <:+ s := fixedDigits?_suffix h₁
  have hminute : s₃ <:+ s := (field_suffix h₂ h₃).trans hhour
  have hsecond : s₅ <:+ s := (field_suffix h₄ h₅).trans hminute
  exact (micros_suffix s₅).trans hsecond

theorem day?_suffix {s rest : List Char} {d : Day} (h : day? s = some (d, rest)) : rest <:+ s := by
  simp only [day?, Option.bind_eq_bind, Option.bind_eq_some_iff] at h
  obtain ⟨⟨year, s₁⟩, h₁, s₂, h₂, ⟨month, s₃⟩, h₃, s₄, h₄, ⟨day, s₅⟩, h₅, h₆⟩ := h
  obtain ⟨-, rfl⟩ := Prod.mk.inj (Option.some.inj h₆)
  have hyear : s₁ <:+ s := fixedDigits?_suffix h₁
  have hmonth : s₃ <:+ s := (field_suffix h₂ h₃).trans hyear
  exact (field_suffix h₄ h₅).trans hmonth

theorem offsetAmount?_suffix {n : Nat} {s rest : List Char} (h : offsetAmount? s = some (n, rest)) :
    rest <:+ s := by
  simp only [offsetAmount?, Option.bind_eq_bind, Option.bind_eq_some_iff] at h
  obtain ⟨⟨hours, s₁⟩, h₁, s₂, h₂, ⟨minutes, s₃⟩, h₃, h₄⟩ := h
  obtain ⟨-, rfl⟩ := Prod.mk.inj (Option.some.inj h₄)
  exact (field_suffix h₂ h₃).trans (fixedDigits?_suffix h₁)

theorem offset_suffix (s : List Char) : (offset s).2 <:+ s := by
  unfold offset
  split
  · exact List.suffix_cons _ _
  · exact List.suffix_cons _ _
  · split
    · exact (offsetAmount?_suffix ‹_›).trans (List.suffix_cons _ _)
    · exact List.suffix_rfl
  · split
    · exact (offsetAmount?_suffix ‹_›).trans (List.suffix_cons _ _)
    · exact List.suffix_rfl
  · exact List.suffix_rfl

theorem clockAfter?_suffix {s rest : List Char} {c : Clock} (h : clockAfter? s = some (c, rest)) :
    rest <:+ s := by
  cases s with
  | nil => simp [clockAfter?] at h
  | cons d more =>
    simp only [clockAfter?, Option.ite_none_right_eq_some] at h
    exact (clock?_suffix h.2).trans (List.suffix_cons d more)

theorem fair_date? {s : List Char} {r : Except Fault (Value × List Char)} (h : date? s = some r) :
    Fair room s Prod.snd r := by
  obtain ⟨⟨d, rest⟩, hday, rfl⟩ := Option.map_eq_some_iff.mp h
  have hs := day?_suffix hday
  dsimp only
  split
  · trivial
  · split
    · rename_i c more hclock
      exact (offset_suffix more).trans ((clockAfter?_suffix hclock).trans hs)
    · exact hs

theorem fair_scalar (s : List Char) : Fair room s Prod.snd (scalar s) := by
  unfold scalar
  split
  · exact fair_date? ‹_›
  · split
    · exact clock?_suffix ‹_›
    · split
      · exact based?_suffix ‹_›
      · split
        · exact fair_decimal? ‹_›
        · cases hspecial : special? s with
          | none => trivial
          | some found => exact special?_suffix hspecial

/-! ## 5. Nested values -/

/-- **Going in.**  A bracket is worth the room that a list or a table takes. -/
theorem Fair.nested {c : Char} {needed : Nat} {f : Nat → Except Fault β} (hc : c = '[' ∨ c = '{')
    (hneeded : needed ≤ tableRoom) (hf : Fair (room - needed) s rest' (f (room - needed))) :
    Fair room (c :: s) rest' (takeRoom room needed >>= f) := by
  have hcount : tableRoom * brackets (c :: s) = tableRoom * brackets s + tableRoom := by
    rcases hc with rfl | rfl <;> simp [brackets, Nat.mul_add]
  by_cases hroom : needed ≤ room
  · simp only [takeRoom, if_pos hroom]
    change Fair room (c :: s) rest' (f (room - needed))
    cases hr : f (room - needed) with
    | ok b =>
      rw [hr] at hf
      exact List.IsSuffix.trans hf (List.suffix_cons c s)
    | error fault =>
      rw [hr] at hf
      refine Fault.Caused.imp hf (List.suffix_cons c s).sublist.countP_le fun hdeep => ?_
      omega
  · simp only [takeRoom, if_neg hroom]
    change room < tableRoom * brackets (c :: s)
    omega

theorem plain_reach {intoLists : Bool} {f : Table → Except Fault Table} (hf : ∀ t, Plain (f t)) :
    ∀ (k : Key) (t : Table), Plain (reach intoLists f k t)
  | [], t => hf t
  | k :: rest, t => by
    unfold reach
    split
    · exact (plain_reach hf rest []).bind_plain fun _ => trivial
    · exact (plain_reach hf rest _).bind_plain fun _ => trivial
    · split
      · exact (plain_reach hf rest _).bind_plain fun _ => trivial
      · rfl
    · rfl

theorem plain_addEntry (name : String) (v : Value) (t : Table) : Plain (addEntry name v t) := by
  unfold addEntry
  split
  · rfl
  · trivial

theorem plain_addInline (frozen : List Key) (k : Key) (v : Value) (t : Table) :
    Plain (addInline frozen k v t) := by
  unfold addInline
  split
  · rfl
  · exact plain_reach (plain_addEntry _ v) _ t

/-- What the readers of values do with that much fuel. -/
structure FairValues (fuel : Nat) : Prop where
  value : ∀ room s, Fair room s Prod.snd (value fuel room s)
  array : ∀ room items s, Fair room s Prod.snd (array fuel room items s)
  inline : ∀ room t frozen s, Fair room s Prod.snd (inline fuel room t frozen s)
  pair : ∀ room s, Fair room s (fun found => found.2.2) (pair fuel room s)

namespace FairValues

variable {fuel : Nat}

theorem value_succ (h : FairValues fuel) (room : Nat) (s : List Char) :
    Fair room s Prod.snd (Toml.value (fuel + 1) room s) := by
  unfold Toml.value
  split
  · exact Fair.bind (fair_string _) fun _ hfound => hfound
  · exact Fair.bind (fair_string _) fun _ hfound => hfound
  · exact ⟨['t', 'r', 'u', 'e'], rfl⟩
  · exact ⟨['f', 'a', 'l', 's', 'e'], rfl⟩
  · refine Fair.nested (.inl rfl) (by decide) ?_
    refine Fair.bind (fair_skipTrivia _ false) fun inner hinner => ?_
    exact Fair.bind ((h.array _ [] inner).mono hinner) fun _ hfound => hfound
  · rename_i rest
    refine Fair.nested (.inr rfl) (by decide) ?_
    dsimp only
    split
    · exact suffix_of_skipBlanks ‹_›
    · exact Fair.bind ((h.inline _ [] [] _).mono (skipBlanks_suffix rest)) fun _ hfound => hfound
  · exact fair_scalar s

theorem array_succ (h : FairValues fuel) (room : Nat) (items : List Value) (s : List Char) :
    Fair room s Prod.snd (Toml.array (fuel + 1) room items s) := by
  unfold Toml.array
  split
  · exact List.suffix_cons _ _
  · refine Fair.bind (h.value room s) ?_
    rintro ⟨v, rest⟩ hrest
    refine Fair.bind ((fair_skipTrivia rest false).mono hrest) fun more hmore => ?_
    split
    · exact (List.suffix_cons _ _).trans hmore
    · have hnext := (List.suffix_cons _ _).trans hmore
      refine Fair.bind ((fair_skipTrivia _ false).mono hnext) fun next hnext => ?_
      exact (h.array room _ next).mono hnext
    · trivial

theorem inline_succ (h : FairValues fuel) (room : Nat) (t : Table) (frozen : List Key)
    (s : List Char) : Fair room s Prod.snd (Toml.inline (fuel + 1) room t frozen s) := by
  unfold Toml.inline
  refine Fair.bind (h.pair room s) ?_
  rintro ⟨k, v, rest⟩ hrest
  refine Plain.bind (plain_addInline frozen k v t) fun t => ?_
  split
  · exact (suffix_of_skipBlanks ‹_›).trans hrest
  · rename_i more hmore
    have hnext : more <:+ s := (suffix_of_skipBlanks hmore).trans hrest
    exact (h.inline room t _ _).mono ((skipBlanks_suffix more).trans hnext)
  · trivial

theorem pair_succ (h : FairValues fuel) (room : Nat) (s : List Char) :
    Fair room s (fun found => found.2.2) (Toml.pair (fuel + 1) room s) := by
  unfold Toml.pair
  refine Fair.bind (fair_key s) ?_
  rintro ⟨k, rest⟩ hrest
  dsimp only at hrest ⊢
  split
  · have hnext := (skipBlanks_suffix _).trans ((List.suffix_cons _ _).trans hrest)
    exact Fair.bind ((h.value room _).mono hnext) fun _ hfound => hfound
  · trivial

end FairValues

/-- **Values of any depth.** -/
theorem fair_values : ∀ fuel, FairValues fuel
  | 0 =>
    { value := fun _ _ => by rw [value]; trivial
      array := fun _ _ _ => by rw [array]; trivial
      inline := fun _ _ _ _ => by rw [inline]; trivial
      pair := fun _ _ => by rw [pair]; trivial }
  | fuel + 1 =>
    have h := fair_values fuel
    ⟨h.value_succ, h.array_succ, h.inline_succ, h.pair_succ⟩

/-! ## 6. Documents -/

theorem plain_addItem (name : String) (t : Table) : Plain (addItem name t) := by
  unfold addItem
  split
  · trivial
  · trivial
  · rfl

theorem plain_openTable (k : Key) (d : Draft) : Plain (d.openTable k) := by
  simp only [Draft.openTable]
  split
  · rfl
  · exact (plain_reach (f := .ok) (fun _ => trivial) k _).bind_plain fun _ => trivial

theorem plain_openItem (k : Key) (d : Draft) : Plain (d.openItem k) := by
  simp only [Draft.openItem]
  split
  · rfl
  · exact (plain_reach (plain_addItem _) _ _).bind_plain fun _ => trivial

theorem plain_assign (k : Key) (v : Value) (d : Draft) : Plain (d.assign k v) := by
  simp only [Draft.assign]
  split
  · rfl
  · split
    · rfl
    · exact (plain_reach (plain_addEntry _ v) _ _).bind_plain fun _ => trivial

theorem fair_header (d : Draft) (s : List Char) : Fair room s Prod.snd (header d s) := by
  unfold header
  split
  · rename_i rest
    have hkey := (skipBlanks_suffix rest).trans (List.suffix_cons '[' rest)
    refine Fair.bind ((fair_key _).mono hkey) ?_
    rintro ⟨k, more⟩ hmore
    refine Plain.bind (plain_openItem k d) fun d => ?_
    dsimp only at hmore ⊢
    split
    · exact List.IsSuffix.trans ⟨[']', ']'], rfl⟩ hmore
    · trivial
  · refine Fair.bind ((fair_key _).mono (skipBlanks_suffix s)) ?_
    rintro ⟨k, more⟩ hmore
    refine Plain.bind (plain_openTable k d) fun d => ?_
    dsimp only at hmore ⊢
    split
    · exact (List.suffix_cons _ _).trans hmore
    · trivial

theorem fair_statement (fuel : Nat) (d : Draft) (s : List Char) :
    Fair valueRoom s Prod.snd (statement fuel d s) := by
  unfold statement
  split
  · exact (fair_header d _).mono (List.suffix_cons _ _)
  · exact List.suffix_rfl
  · split
    · refine Fair.bind ((fair_values fuel).pair valueRoom _) ?_
      rintro ⟨k, v, rest⟩ hrest
      exact Plain.bind (plain_assign k v d) fun _ => hrest
    · trivial
  · exact List.suffix_rfl

/-- A document is read to its end. -/
theorem fair_statements : ∀ (fuel : Nat) (d : Draft) (s : List Char),
    Fair valueRoom s (fun _ => []) (statements fuel d s)
  | 0, _, _ => trivial
  | fuel + 1, d, s => by
    unfold statements
    split
    · exact List.nil_suffix
    · rename_i rest hrest
      exact (fair_statements fuel d rest).mono (suffix_of_skipBlanks hrest)
    · refine Fair.bind ((fair_statement fuel d _).mono (skipBlanks_suffix s)) ?_
      rintro ⟨d, rest⟩ hrest
      have hcomment := (skipBlanks_suffix rest).trans hrest
      refine Fair.bind ((fair_skipComment _).mono hcomment) fun more hmore => ?_
      split
      · exact List.nil_suffix
      · exact (fair_statements fuel d _).mono ((List.suffix_cons _ _).trans hmore)
      · trivial

/-- Line ends are neither digits nor brackets. -/
theorem countP_joinLineEnds {p : Char → Bool} (hp : p '\r' = false) (s : List Char) :
    (joinLineEnds s).countP p = s.countP p := by
  fun_induction joinLineEnds s with
  | case1 rest ih => simp [List.countP_cons, hp, ih]
  | case2 c rest _ ih => rw [List.countP_cons, List.countP_cons, ih]
  | case3 => rfl

/-- **Faults have causes.**  A document that is more than malformed holds more digits than an integer
may have, or more brackets than there is room for. -/
theorem caused_of_read {document : List Char} {fault : Fault}
    (h : read document = .error fault) : fault.Caused valueRoom document := by
  have hfair := fair_statements (4 * (joinLineEnds document).length + 8) {} (joinLineEnds document)
  cases hr : statements (4 * (joinLineEnds document).length + 8) {} (joinLineEnds document) with
  | ok d => simp [read, hr, Except.map] at h
  | error found =>
    obtain rfl : found = fault := by simpa [read, hr, Except.map] using h
    rw [hr] at hfair
    have hdigits : digits (joinLineEnds document) = digits document :=
      countP_joinLineEnds (by decide) document
    have hbrackets : brackets (joinLineEnds document) = brackets document :=
      countP_joinLineEnds (by decide) document
    refine Fault.Caused.imp hfair (Nat.le_of_eq hdigits) fun hdeep => ?_
    rwa [hbrackets] at hdeep

end TypingPolicy.Toml
