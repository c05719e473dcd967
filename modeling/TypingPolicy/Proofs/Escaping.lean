import Mathlib.Data.List.Basic
import TypingPolicy.Markup.Basic

/-!
# Escaped text is read as it was written

Writing and reading markup are two scans for tags, one before and one after backslashes were put in.
They see the same tags:

* `scan_escape`: the pieces of an escaped text are those of the text itself, but that each tag stands
  behind an odd number of backslashes;
* `exists_scan_append`: a text is cut into the same pieces whatever is written behind it, if no tag
  can end there (`EndsNoTag`); only the backslashes at its end go over to what follows.

So all pieces of an escaped text are literal ones (`literal_of_mem_escape`), reading which can only
add to the text (`Sheet.pieces_of_literal`).  Without backslashes, what they add is the text that was
escaped (`flatMap_shown_escape`).
-/

namespace TypingPolicy.Markup

/-! ## 1. Where tags end -/

/-- No tag that begins further in front ends in the text. -/
def EndsNoTag (t : List Char) : Prop := tagRest? t = none

theorem tagRest?_of_ne {c : Char} (hclose : c ≠ ']') (hopen : c ≠ '[') (s : List Char) :
    tagRest? (c :: s) = (tagRest? s).map fun (body, after) => (c :: body, after) := by
  rw [tagRest?] <;> assumption

theorem endsNoTag_bracket (t : List Char) : EndsNoTag ('[' :: t) := rfl

theorem endsNoTag_slashes (n : Nat) : EndsNoTag (slashes n) := by
  induction n with
  | zero => rfl
  | succ n ih =>
    rw [EndsNoTag, slashes, List.replicate_succ, tagRest?_of_ne (by decide) (by decide)]
    exact congrArg _ ih

theorem tagRest?_append {t : List Char} (ht : EndsNoTag t) (s : List Char) :
    tagRest? (s ++ t) = (tagRest? s).map fun (body, after) => (body, after ++ t) := by
  induction s with
  | nil => exact ht
  | cons c s ih =>
    by_cases hclose : c = ']'
    · subst hclose
      rfl
    by_cases hopen : c = '['
    · subst hopen
      rfl
    rw [List.cons_append, tagRest?_of_ne hclose hopen, tagRest?_of_ne hclose hopen, ih]
    cases tagRest? s <;> rfl

/-- The characters that a tag begins with are neither brackets nor backslashes. -/
theorem ne_of_startsTag {c : Char} (h : startsTag c = true) : c ≠ ']' ∧ c ≠ '[' ∧ c ≠ '\\' := by
  refine ⟨?_, ?_, ?_⟩
  all_goals
    rintro rfl
    exact absurd h (by decide)

theorem tag?_of_endsNoTag {t : List Char} (ht : EndsNoTag t) : tag? t = none := by
  cases t with
  | nil => rfl
  | cons c t =>
    rw [tag?]
    split
    · rename_i hc
      obtain ⟨hclose, hopen, -⟩ := ne_of_startsTag hc
      rw [EndsNoTag, tagRest?_of_ne hclose hopen] at ht
      exact ht
    · rfl

theorem tag?_append {t : List Char} (ht : EndsNoTag t) (s : List Char) :
    tag? (s ++ t) = (tag? s).map fun (body, after) => (body, after ++ t) := by
  cases s with
  | nil => exact tag?_of_endsNoTag ht
  | cons c s =>
    rw [List.cons_append, tag?, tag?, tagRest?_append ht]
    split
    · cases tagRest? s <;> rfl
    · rfl

/-- A body is read off again, whatever comes after the bracket. -/
theorem tagRest?_of_some {s body after : List Char} (h : tagRest? s = some (body, after)) :
    s = body ++ ']' :: after ∧ ∀ t, tagRest? (body ++ ']' :: t) = some (body, t) := by
  induction s generalizing body with
  | nil => exact absurd h (by simp [tagRest?])
  | cons c s ih =>
    by_cases hclose : c = ']'
    · subst hclose
      obtain ⟨rfl, rfl⟩ : [] = body ∧ s = after := by simpa [tagRest?] using h
      exact ⟨rfl, fun _ => rfl⟩
    by_cases hopen : c = '['
    · subst hopen
      exact absurd h (by simp [tagRest?])
    rw [tagRest?_of_ne hclose hopen] at h
    obtain ⟨⟨rest, after'⟩, hrest, heq⟩ := Option.map_eq_some_iff.mp h
    obtain ⟨rfl, rfl⟩ : c :: rest = body ∧ after' = after := by simpa using heq
    obtain ⟨hs, hagain⟩ := ih hrest
    refine ⟨by rw [hs, List.cons_append], fun t => ?_⟩
    rw [List.cons_append, tagRest?_of_ne hclose hopen, hagain]
    rfl

theorem tag?_of_some {s body after : List Char} (h : tag? s = some (body, after)) :
    s = body ++ ']' :: after ∧ ∀ t, tag? (body ++ ']' :: t) = some (body, t) := by
  cases s with
  | nil => exact absurd h (by simp [tag?])
  | cons c s =>
    rw [tag?] at h
    split at h
    · rename_i hc
      obtain ⟨⟨rest, after'⟩, hrest, heq⟩ := Option.map_eq_some_iff.mp h
      obtain ⟨rfl, rfl⟩ : c :: rest = body ∧ after' = after := by simpa using heq
      obtain ⟨hs, hagain⟩ := tagRest?_of_some hrest
      refine ⟨by rw [hs, List.cons_append], fun t => ?_⟩
      rw [List.cons_append, tag?, if_pos hc, hagain]
      rfl
    · exact absurd h (by simp)

/-! ## 2. Scanning -/

theorem scan_nil (n : Nat) : scan n [] = plainSlashes n := by rw [scan]

theorem scan_slash (n : Nat) (s : List Char) : scan n ('\\' :: s) = scan (n + 1) s := by rw [scan]

theorem scan_of_tag {s body after : List Char} (h : tag? s = some (body, after)) (n : Nat) :
    scan n ('[' :: s) = .tag n body :: scan 0 after := by
  rw [scan]
  split
  · rename_i body' after' h'
    obtain ⟨rfl, rfl⟩ : body = body' ∧ after = after' := by simpa using h.symm.trans h'
    rfl
  · rename_i h'
    exact absurd (h.symm.trans h') (by simp)

theorem scan_of_bracket {s : List Char} (h : tag? s = none) (n : Nat) :
    scan n ('[' :: s) = .bracket n :: scan 0 s := by
  rw [scan]
  split
  · rename_i h'
    exact absurd (h.symm.trans h') (by simp)
  · rfl

theorem scan_of_plain {c : Char} (hslash : c ≠ '\\') (hopen : c ≠ '[') (n : Nat) (s : List Char) :
    scan n (c :: s) = plainSlashes n ++ .plain c :: scan 0 s := by
  rw [scan] <;> assumption

/-- Backslashes on their own, in whichever way pieces are written. -/
theorem flatMap_plainSlashes {f : Piece → List Char} (hf : f (.plain '\\') = ['\\']) (n : Nat) :
    (plainSlashes n).flatMap f = slashes n := by
  induction n with
  | zero => rfl
  | succ n ih =>
    have hfirst : (plainSlashes (n + 1)).flatMap f = f (.plain '\\') ++ (plainSlashes n).flatMap f := rfl
    rw [hfirst, ih, hf]
    rfl

theorem scan_slashes (k n : Nat) (s : List Char) : scan k (slashes n ++ s) = scan (k + n) s := by
  induction n generalizing k with
  | zero => rfl
  | succ n ih =>
    have hfirst : slashes (n + 1) ++ s = '\\' :: (slashes n ++ s) := rfl
    rw [hfirst, scan_slash, ih]
    congr 1
    omega

/-- Characters of which none is special are pieces of their own. -/
theorem scan_plain_append {s : List Char} (hslash : '\\' ∉ s) (hopen : '[' ∉ s) (t : List Char) :
    scan 0 (s ++ t) = s.map .plain ++ scan 0 t := by
  induction s with
  | nil => rfl
  | cons c s ih =>
    rw [List.mem_cons, not_or] at hslash hopen
    rw [List.cons_append, scan_of_plain (Ne.symm hslash.1) (Ne.symm hopen.1), ih hslash.2 hopen.2]
    rfl

/-- **What is written behind a text.**  If no tag can end there, the text is cut as before, and the
backslashes at its end stand in front of what follows. -/
theorem exists_scan_append (n : Nat) (s : List Char) :
    ∃ front m, scan n s = front ++ plainSlashes m ∧
      ∀ t, EndsNoTag t → scan n (s ++ t) = front ++ scan m t := by
  fun_induction scan n s with
  | case1 n => exact ⟨[], n, rfl, fun _ _ => rfl⟩
  | case2 n s ih =>
    obtain ⟨front, m, hs, happend⟩ := ih
    refine ⟨front, m, hs, fun t ht => ?_⟩
    rw [List.cons_append, scan_slash, happend t ht]
  | case3 n s body after h ih =>
    obtain ⟨front, m, hs, happend⟩ := ih
    refine ⟨.tag n body :: front, m, by rw [hs, List.cons_append], fun t ht => ?_⟩
    have htag : tag? (s ++ t) = some (body, after ++ t) := by rw [tag?_append ht, h]; rfl
    rw [List.cons_append, scan_of_tag htag, happend t ht, List.cons_append]
  | case4 n s h ih =>
    obtain ⟨front, m, hs, happend⟩ := ih
    refine ⟨.bracket n :: front, m, by rw [hs, List.cons_append], fun t ht => ?_⟩
    have htag : tag? (s ++ t) = none := by rw [tag?_append ht, h]; rfl
    rw [List.cons_append, scan_of_bracket htag, happend t ht, List.cons_append]
  | case5 n c s hslash hopen ih =>
    obtain ⟨front, m, hs, happend⟩ := ih
    refine ⟨plainSlashes n ++ .plain c :: front, m, by rw [hs]; simp, fun t ht => ?_⟩
    rw [List.cons_append, scan_of_plain hslash hopen, happend t ht]
    simp

/-! ## 3. Escaping -/

/-- The piece that escaping makes of a piece. -/
def Piece.escaped : Piece → Piece
  | .tag n body => .tag (2 * n + 1) body
  | p => p

theorem flatMap_escape_plainSlashes (n : Nat) :
    (plainSlashes n).flatMap Piece.escape = slashes n :=
  flatMap_plainSlashes rfl n

theorem map_escaped_plainSlashes (n : Nat) :
    (plainSlashes n).map Piece.escaped = plainSlashes n := by
  rw [plainSlashes, List.map_replicate]
  rfl

/-- Escaping puts backslashes in front of brackets only, where no tag ends. -/
theorem endsNoTag_escape {n : Nat} {s : List Char} (h : EndsNoTag s) :
    EndsNoTag ((scan n s).flatMap Piece.escape) := by
  have hbracket (k : Nat) (t : List Char) : EndsNoTag (slashes k ++ '[' :: t) :=
    (tagRest?_append (endsNoTag_bracket t) _).trans (congrArg _ (endsNoTag_slashes k))
  fun_induction scan n s with
  | case1 n =>
    rw [flatMap_escape_plainSlashes]
    exact endsNoTag_slashes n
  | case2 n s ih =>
    apply ih
    rw [EndsNoTag, tagRest?_of_ne (by decide) (by decide)] at h
    exact Option.map_eq_none_iff.mp h
  | case3 n s body after htag ih =>
    rw [List.flatMap_cons, Piece.escape, bracketed, List.append_assoc]
    exact hbracket _ _
  | case4 n s htag ih =>
    rw [List.flatMap_cons, Piece.escape, List.append_assoc]
    exact hbracket _ _
  | case5 n c s hslash hopen ih =>
    have hclose : c ≠ ']' := by
      rintro rfl
      exact absurd h (by simp [EndsNoTag, tagRest?])
    rw [EndsNoTag, tagRest?_of_ne hclose hopen] at h
    rw [List.flatMap_append, flatMap_escape_plainSlashes, List.flatMap_cons, Piece.escape]
    have hrest := ih (Option.map_eq_none_iff.mp h)
    have hc : EndsNoTag ([c] ++ (scan 0 s).flatMap Piece.escape) := by
      rw [EndsNoTag, List.singleton_append, tagRest?_of_ne hclose hopen]
      exact congrArg _ hrest
    exact (tagRest?_append hc _).trans (congrArg _ (endsNoTag_slashes n))

/-- A backslash begins no tag, and nothing but backslashes is put in front of a text. -/
theorem head?_escape {n : Nat} {s : List Char} {c : Char} (hc : startsTag c = true)
    (h : ((scan n s).flatMap Piece.escape).head? = some c) : n = 0 ∧ s.head? = some c := by
  have hfirst {k : Nat} {t : List Char} (ht : (slashes k ++ t).head? = some c) :
      k = 0 ∧ t.head? = some c := by
    cases k with
    | zero => exact ⟨rfl, ht⟩
    | succ k => exact absurd (Option.some.inj ht).symm (ne_of_startsTag hc).2.2
  fun_induction scan n s with
  | case1 n =>
    rw [flatMap_escape_plainSlashes, ← List.append_nil (slashes n)] at h
    exact hfirst h
  | case2 n s ih => exact absurd (ih h).1 (Nat.succ_ne_zero n)
  | case3 n s body after htag ih =>
    rw [List.flatMap_cons, Piece.escape, List.append_assoc] at h
    exact absurd (hfirst h).1 (Nat.succ_ne_zero _)
  | case4 n s htag ih =>
    rw [List.flatMap_cons, Piece.escape, List.append_assoc] at h
    obtain ⟨hn, hhead⟩ := hfirst h
    exact ⟨hn, hhead⟩
  | case5 n d s hslash hopen ih =>
    rw [List.flatMap_append, flatMap_escape_plainSlashes, List.flatMap_cons] at h
    obtain ⟨hn, hhead⟩ := hfirst h
    exact ⟨hn, hhead⟩

theorem tag?_escape {s : List Char} (h : tag? s = none) :
    tag? ((scan 0 s).flatMap Piece.escape) = none := by
  cases ht : (scan 0 s).flatMap Piece.escape with
  | nil => rfl
  | cons c t =>
    by_cases hc : startsTag c = true
    · -- The tag would begin with the first character of the text, and would have to end later on.
      obtain ⟨-, hs⟩ := head?_escape (n := 0) (s := s) hc (by rw [ht]; rfl)
      obtain ⟨rest, rfl⟩ : ∃ rest, s = c :: rest := by
        cases s with
        | nil => exact absurd hs (by simp)
        | cons d rest => exact ⟨rest, by rw [Option.some.inj hs]⟩
      obtain ⟨-, hopen, hslash⟩ := ne_of_startsTag hc
      rw [tag?, if_pos hc, Option.map_eq_none_iff] at h
      have hrest : (scan 0 rest).flatMap Piece.escape = t := by
        rw [scan_of_plain hslash hopen] at ht
        exact (List.cons.inj ht).2
      rw [tag?, if_pos hc, ← hrest, endsNoTag_escape h]
      rfl
    · rw [tag?, if_neg hc]

/-- **Both scans see the same tags.** -/
theorem scan_escape (n : Nat) (s : List Char) :
    scan 0 ((scan n s).flatMap Piece.escape) = (scan n s).map Piece.escaped := by
  fun_induction scan n s with
  | case1 n =>
    rw [flatMap_escape_plainSlashes, map_escaped_plainSlashes, ← List.append_nil (slashes n),
      scan_slashes, scan_nil, Nat.zero_add]
  | case2 n s ih => exact ih
  | case3 n s body after h ih =>
    have hread := (tag?_of_some h).2 ((scan 0 after).flatMap Piece.escape)
    have htext : (Piece.tag n body).escape ++ (scan 0 after).flatMap Piece.escape
        = slashes (2 * n + 1) ++ '[' :: (body ++ ']' :: (scan 0 after).flatMap Piece.escape) := by
      simp [Piece.escape, bracketed]
    rw [List.flatMap_cons, htext, scan_slashes, scan_of_tag hread, ih, Nat.zero_add]
    rfl
  | case4 n s h ih =>
    rw [List.flatMap_cons, Piece.escape, List.append_assoc, List.singleton_append, scan_slashes,
      scan_of_bracket (tag?_escape h), ih, Nat.zero_add]
    rfl
  | case5 n c s hslash hopen ih =>
    rw [List.flatMap_append, flatMap_escape_plainSlashes, List.flatMap_cons, Piece.escape,
      List.singleton_append, scan_slashes, scan_of_plain hslash hopen, ih, Nat.zero_add,
      List.map_append, map_escaped_plainSlashes]
    rfl

/-! ## 4. Literal pieces -/

/-- A piece that is shown, whatever it says. -/
def Piece.Literal : Piece → Prop
  | .tag n _ => n % 2 = 1
  | _ => True

theorem literal_escaped (p : Piece) : p.escaped.Literal := by
  cases p with
  | plain c => trivial
  | bracket n => trivial
  | tag n body =>
    change (2 * n + 1) % 2 = 1
    omega

/-- A backslash at most is added at the end. -/
theorem closeEnd_cases (s : List Char) : closeEnd s = s ∨ closeEnd s = s ++ slashes 1 := by
  unfold closeEnd
  split
  · exact .inl rfl
  · exact .inr rfl
  · exact .inl rfl

/-- **All of an escaped text is literal.** -/
theorem literal_of_mem_escape {s : String} {p : Piece} (h : p ∈ pieces (escape s).toList) :
    p.Literal := by
  have hscan := scan_escape 0 s.toList
  have hliteral : ∀ q ∈ pieces ((pieces s.toList).flatMap Piece.escape), q.Literal := by
    intro q hq
    rw [pieces, pieces, hscan] at hq
    obtain ⟨q', -, rfl⟩ := List.mem_map.mp hq
    exact literal_escaped q'
  rw [escape, String.toList_ofList] at h
  rcases closeEnd_cases ((pieces s.toList).flatMap Piece.escape) with hend | hend
  · exact hliteral p (hend ▸ h)
  · obtain ⟨front, m, hfront, happend⟩ :=
      exists_scan_append 0 ((pieces s.toList).flatMap Piece.escape)
    rw [hend, pieces, happend _ (endsNoTag_slashes 1), ← List.append_nil (slashes 1), scan_slashes,
      scan_nil] at h
    rcases List.mem_append.mp h with h | h
    · exact hliteral p (by rw [pieces, hfront]; exact List.mem_append_left _ h)
    · rw [List.eq_of_mem_replicate h]
      trivial

/-- What a literal piece adds to the text. -/
def Piece.shown : Piece → List Char
  | .plain c => [c]
  | .bracket n => slashes (n - 1) ++ ['[']
  | .tag n body => slashes (n / 2) ++ bracketed body

namespace Sheet

@[simp] theorem add_add (more further : List Char) (s : Sheet) :
    (s.add more).add further = s.add (more ++ further) := by
  simp [add]

theorem pieces_append (ps qs : List Piece) (s : Sheet) :
    s.pieces (ps ++ qs) = (s.pieces ps).bind fun s => s.pieces qs := by
  induction ps generalizing s with
  | nil => rfl
  | cons p ps ih =>
    rw [List.cons_append, pieces, pieces]
    cases s.piece p with
    | ok s => exact ih s
    | error e => rfl

theorem piece_of_literal {p : Piece} (h : p.Literal) (s : Sheet) :
    s.piece p = .ok (s.add p.shown) := by
  cases p with
  | plain c => rfl
  | bracket n => rfl
  | tag n body => exact if_pos h

/-- **Literal pieces only add to the text.** -/
theorem pieces_of_literal {ps : List Piece} (h : ∀ p ∈ ps, p.Literal) (s : Sheet) :
    s.pieces ps = .ok (s.add (ps.flatMap Piece.shown)) := by
  induction ps generalizing s with
  | nil => simp [pieces, add]
  | cons p ps ih =>
    rw [pieces, piece_of_literal (h p List.mem_cons_self) s]
    exact (ih (fun q hq => h q (List.mem_cons_of_mem p hq)) _).trans (by rw [add_add]; rfl)

theorem pieces_plain (cs : List Char) (s : Sheet) : s.pieces (cs.map .plain) = .ok (s.add cs) := by
  induction cs generalizing s with
  | nil => simp [pieces, add]
  | cons c cs ih => exact (ih (s.add [c])).trans (by rw [add_add, List.singleton_append])

end Sheet

/-! ## 5. Texts without backslashes -/

/-- A piece of a text in which there is no backslash. -/
def Piece.Bare : Piece → Prop
  | .plain c => c ≠ '\\'
  | .bracket n => n = 0
  | .tag n _ => n = 0

theorem bare_of_mem_scan {s : List Char} (hs : '\\' ∉ s) {p : Piece} (hp : p ∈ scan 0 s) :
    p.Bare := by
  generalize hn : 0 = n at hp
  fun_induction scan n s with
  | case1 n =>
    subst hn
    exact absurd hp List.not_mem_nil
  | case2 n s ih => exact absurd List.mem_cons_self hs
  | case3 n s body after h ih =>
    subst hn
    have hafter : '\\' ∉ after := by
      rw [(tag?_of_some h).1] at hs
      simp_all
    rcases List.mem_cons.mp hp with rfl | hp
    · rfl
    · exact ih hafter rfl hp
  | case4 n s h ih =>
    subst hn
    rcases List.mem_cons.mp hp with rfl | hp
    · rfl
    · exact ih (fun hin => hs (List.mem_cons_of_mem _ hin)) rfl hp
  | case5 n c s hslash hopen ih =>
    subst hn
    rcases List.mem_cons.mp hp with rfl | hp
    · exact hslash
    · exact ih (fun hin => hs (List.mem_cons_of_mem _ hin)) rfl hp

/-- The characters that a piece was cut from. -/
def Piece.text : Piece → List Char
  | .plain c => [c]
  | .bracket n => slashes n ++ ['[']
  | .tag n body => slashes n ++ bracketed body

/-- **A text is its pieces.** -/
theorem flatMap_text_scan (n : Nat) (s : List Char) :
    (scan n s).flatMap Piece.text = slashes n ++ s := by
  fun_induction scan n s with
  | case1 n => rw [flatMap_plainSlashes rfl, List.append_nil]
  | case2 n s ih =>
    rw [ih, slashes, List.replicate_succ', List.append_assoc]
    rfl
  | case3 n s body after h ih =>
    rw [List.flatMap_cons, ih, Piece.text, (tag?_of_some h).1]
    simp [bracketed, slashes]
  | case4 n s h ih =>
    rw [List.flatMap_cons, ih]
    simp [Piece.text, slashes]
  | case5 n c s hslash hopen ih =>
    rw [List.flatMap_append, flatMap_plainSlashes rfl, List.flatMap_cons, ih]
    rfl

theorem shown_escaped_of_bare {p : Piece} (h : p.Bare) : p.escaped.shown = p.text := by
  cases p with
  | plain c => rfl
  | bracket n =>
    obtain rfl : n = 0 := h
    rfl
  | tag n body =>
    obtain rfl : n = 0 := h
    rfl

theorem getLast?_escape_of_bare {ps : List Piece} (h : ∀ p ∈ ps, p.Bare) :
    (ps.flatMap Piece.escape).getLast? ≠ some '\\' := by
  induction ps with
  | nil => simp
  | cons p ps ih =>
    have hp : p.escape.getLast? ≠ some '\\' := by
      have hbare := h p List.mem_cons_self
      cases p with
      | plain c => simpa [Piece.escape, Piece.Bare] using hbare
      | bracket n => simp [Piece.escape]
      | tag n body =>
        rw [Piece.escape, bracketed, ← List.append_assoc, List.getLast?_concat]
        decide
    have hps := ih fun q hq => h q (List.mem_cons_of_mem p hq)
    rw [List.flatMap_cons, List.getLast?_append]
    cases hlast : (ps.flatMap Piece.escape).getLast? with
    | none => exact hp
    | some c => rw [hlast] at hps; exact hps

theorem closeEnd_of_getLast? {s : List Char} (h : s.getLast? ≠ some '\\') : closeEnd s = s := by
  rw [← List.head?_reverse] at h
  unfold closeEnd
  split
  · rfl
  · rename_i hs
    exact absurd (by rw [hs]; rfl) h
  · rfl

/-- **A text without backslashes**, when it is escaped: its own pieces, with one backslash in front
of each tag. -/
theorem pieces_escape_of_bare {s : String} (h : '\\' ∉ s.toList) :
    pieces (escape s).toList = (pieces s.toList).map Piece.escaped := by
  have hbare : ∀ p ∈ pieces s.toList, p.Bare := fun p hp => bare_of_mem_scan h hp
  rw [escape, String.toList_ofList, closeEnd_of_getLast? (getLast?_escape_of_bare hbare), pieces,
    pieces, scan_escape]

theorem flatMap_shown_escape {s : String} (h : '\\' ∉ s.toList) :
    (pieces (escape s).toList).flatMap Piece.shown = s.toList := by
  have hbare : ∀ p ∈ pieces s.toList, p.Bare := fun p hp => bare_of_mem_scan h hp
  calc
    (pieces (escape s).toList).flatMap Piece.shown
      = (pieces s.toList).flatMap fun p => p.escaped.shown := by
        rw [pieces_escape_of_bare h, List.flatMap_map]
    _ = (pieces s.toList).flatMap Piece.text :=
        List.flatMap_congr fun p hp => shown_escaped_of_bare (hbare p hp)
    _ = s.toList := flatMap_text_scan 0 s.toList

end TypingPolicy.Markup
