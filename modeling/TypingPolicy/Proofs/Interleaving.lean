import TypingPolicy.Proofs.Lifecycle

/-!
# Many callers, one initialisation

Hosts may ask one engine for its policy from several threads at once.  A call reads the policy
without a lock first, and is done if there is one.  Otherwise it waits for the lock, reads again,
and only if there is still no policy does it ask a source, store the policy and record it.  Between
any two of these steps other callers may go on, each in steps of its own.

`Crowd.advance` is one step of one caller, and `Crowd.run` a schedule of such steps, which may
leave callers waiting or never let them move.  What ties the callers together is

* the lock: whoever stands in the locked part of the code holds it, and nobody else does;
* the `Stage`: how far the one initialisation has come, and who makes it;
* what is known of a policy: nobody leaves or returns without the one that is stored.

`Sound` says this of a crowd, and every step keeps it (`sound_advance`).  Nor can the callers block
each other: whoever holds the lock can go on and give it back (`returns_of_free`).  The main
statement, `run_initialises_once`, is read off these.
-/

namespace TypingPolicy

variable {ε σ : Type}

/-! ## 1. An initialisation, step by step -/

namespace Host

/-- Asks for the configuration: what was found, and the host after the question. -/
def question (outlet : Outlet ε σ) (given : Option Source) (h : Host σ) : Option Value × Host σ :=
  let ((raw, notes), h) := h.ask given
  (raw, { h with sink := notes.foldl (fun s line => outlet.debug line s) h.sink })

/-- Stores the policy for what was found. -/
def store (raw : Option Value) (h : Host σ) : Host σ :=
  { h with engine := { h.engine with policy := some (Policy.ofRaw raw) } }

/-- Records the policy that is stored. -/
def announce (outlet : Outlet ε σ) (raw : Option Value) (h : Host σ) : Host σ :=
  { h with
    trace := h.trace.record
      (.configured (.bool raw.isSome) (h.engine.policy.elim .null Policy.toValue)) none
    sink := (policyNotes raw).foldl (fun s line => outlet.debug line s) h.sink }

variable (outlet : Outlet ε σ) (given : Option Source) (h : Host σ)

theorem ofRaw_question :
    Policy.ofRaw (h.question outlet given).1 = (h.asks given).policy h.files := by
  cases given with
  | none => exact Source.ofRaw_ask h.files h.engine.source
  | some source => exact Source.ofRaw_ask h.files source

theorem policy_question : (h.question outlet given).2.engine.policy = h.engine.policy := by
  cases given <;> rfl

theorem asked_question : (h.question outlet given).2.engine.asked = h.engine.asked + 1 := by
  cases given <;> simp only [question, ask, Engine.asked] <;> omega

theorem trace_question : (h.question outlet given).2.trace = h.trace := by
  cases given <;> rfl

theorem policy_initialise :
    (h.initialise outlet given).2.engine.policy = some ((h.asks given).policy h.files) := by
  rw [initialise_eq]
  exact Engine.policy_configured h.files given h.engine

/-- The three steps make up an initialisation. -/
theorem initialise_eq_steps :
    h.initialise outlet given
      = (Policy.ofRaw (h.question outlet given).1,
         ((h.question outlet given).2.store (h.question outlet given).1).announce outlet
           (h.question outlet given).1) := by
  cases given with
  | none => simp only [initialise, ask, question, store, announce, List.foldl_append]; rfl
  | some source => simp only [initialise, ask, question, store, announce, List.foldl_append]; rfl

end Host

/-! ## 2. Callers -/

/-- Where a caller stands. -/
inductive Point where
  /-- The first reading is due, without the lock. -/
  | entering
  /-- No policy was read.  The lock is wanted. -/
  | waiting
  /-- The lock is held, and the second reading is due. -/
  | inside
  /-- There is still no policy.  A source is to be asked. -/
  | asking
  /-- The policy for what was found is to be stored. -/
  | storing (raw : Option Value)
  /-- The policy is to be recorded. -/
  | recording (raw : Option Value)
  /-- The stored policy is to be returned, and the lock to be given back. -/
  | leaving
  | returned (policy : Option Policy)

namespace Point

/-- Where the first reading leads. -/
@[simp] def afterFirst : Option Policy → Point
  | some p => .returned (some p)
  | none => .waiting

/-- Where the second reading leads. -/
@[simp] def afterSecond : Option Policy → Point
  | some _ => .leaving
  | none => .asking

/-- In the locked part of the code? -/
def locked : Point → Bool
  | .inside | .asking | .storing _ | .recording _ | .leaving => true
  | .entering | .waiting | .returned _ => false

/-- Having found no policy under the lock, and not yet through with it? -/
def busy : Point → Bool
  | .asking | .storing _ | .recording _ => true
  | _ => false

/-- How many steps a caller is from its return, at most, if nobody is in its way. -/
def distance : Point → Nat
  | .entering => 7
  | .waiting => 6
  | .inside => 5
  | .asking => 4
  | .storing _ => 3
  | .recording _ => 2
  | .leaving => 1
  | .returned _ => 0

theorem locked_of_busy {p : Point} (h : p.busy = true) : p.locked = true := by
  cases p with
  | asking => rfl
  | storing raw => rfl
  | recording raw => rfl
  | entering => exact h
  | waiting => exact h
  | inside => rfl
  | leaving => rfl
  | returned policy => exact h

end Point

/-- Callers, told apart by numbers, around the engine of one host.  There are as many of them as a
schedule lets move. -/
structure Crowd (σ : Type) where
  host : Host σ
  /-- The caller who holds the lock. -/
  lock : Option Nat := none
  point : Nat → Point := fun _ => .entering

namespace Crowd

/-- Caller `i` goes to `p`. -/
def move (i : Nat) (p : Point) (s : Crowd σ) : Crowd σ :=
  { s with point := fun j => if j = i then p else s.point j }

/-- The next step of caller `i`, who comes with the source `given i` or with none.  Who wants a lock
that is taken, or has returned, stays where they are. -/
def advance (outlet : Outlet ε σ) (given : Nat → Option Source) (i : Nat) (s : Crowd σ) : Crowd σ :=
  match s.point i with
  | .entering => s.move i (.afterFirst s.host.engine.policy)
  | .waiting =>
    match s.lock with
    | none => { s with lock := some i }.move i .inside
    | some _ => s
  | .inside => s.move i (.afterSecond s.host.engine.policy)
  | .asking =>
    let (raw, host) := s.host.question outlet (given i)
    { s with host }.move i (.storing raw)
  | .storing raw => { s with host := s.host.store raw }.move i (.recording raw)
  | .recording raw => { s with host := s.host.announce outlet raw }.move i .leaving
  | .leaving => { s with lock := none }.move i (.returned s.host.engine.policy)
  | .returned _ => s

/-- The callers move in the order given. -/
def run (outlet : Outlet ε σ) (given : Nat → Option Source) (schedule : List Nat) (s : Crowd σ) :
    Crowd σ :=
  schedule.foldl (fun s i => s.advance outlet given i) s

/-- Caller `i`, if it is about to find under the lock that there is no policy. -/
def finding (i : Nat) (s : Crowd σ) : List Nat :=
  match s.point i, s.host.engine.policy with
  | .inside, none => [i]
  | _, _ => []

/-- The callers that find, in the course of a schedule, that there is no policy under the lock. -/
def finders (outlet : Outlet ε σ) (given : Nat → Option Source) : List Nat → Crowd σ → List Nat
  | [], _ => []
  | i :: rest, s => s.finding i ++ finders outlet given rest (s.advance outlet given i)

variable {s : Crowd σ} {i j : Nat} {p q : Point}

theorem finding_of_ne (h : s.point i ≠ .inside) : s.finding i = [] := by
  unfold finding
  split
  · rename_i hi _
    exact absurd hi h
  · rfl

@[simp] theorem point_move_self : (s.move i p).point i = p := if_pos rfl

theorem point_move_of_ne (h : j ≠ i) : (s.move i p).point j = s.point j := if_neg h

/-- Either the caller that moved, or one that stands where it stood. -/
theorem point_move_cases (h : (s.move i p).point j = q) :
    (j = i ∧ p = q) ∨ (j ≠ i ∧ s.point j = q) := by
  by_cases hj : j = i
  · subst hj
    rw [point_move_self] at h
    exact Or.inl ⟨rfl, h⟩
  · rw [point_move_of_ne hj] at h
    exact Or.inr ⟨hj, h⟩

/-! ## 3. What holds of every crowd -/

variable {outlet : Outlet ε σ} {given : Nat → Option Source} {h : Host σ} {found : List Nat}

/-- What the host `h` is by the time that the caller who initialises it stands at a point. -/
def Midway (outlet : Outlet ε σ) (given : Option Source) (h : Host σ) : Point → Host σ → Prop
  | .asking, now => now = h
  | .storing raw, now => raw = (h.question outlet given).1 ∧ now = (h.question outlet given).2
  | .recording raw, now =>
    raw = (h.question outlet given).1 ∧ now = (h.question outlet given).2.store raw
  | _, _ => False

/-- How far the initialisation of the host `h` has come, and which caller makes it. -/
inductive Stage (outlet : Outlet ε σ) (given : Nat → Option Source) (h : Host σ) :
    List Nat → Crowd σ → Prop
  | before {s : Crowd σ} : s.host = h → (∀ i, (s.point i).busy = false) → Stage outlet given h [] s
  | midway {s : Crowd σ} {w : Nat} : h.engine.policy = none →
      Midway outlet (given w) h (s.point w) s.host → Stage outlet given h [w] s
  | done {s : Crowd σ} {w : Nat} : h.engine.policy = none →
      s.host = (h.initialise outlet (given w)).2 → (∀ i, (s.point i).busy = false) →
      Stage outlet given h [w] s

/-- What holds of a crowd around the host `h`, of which the callers `found` have found no policy
under the lock. -/
structure Sound (outlet : Outlet ε σ) (given : Nat → Option Source) (h : Host σ) (found : List Nat)
    (s : Crowd σ) : Prop where
  guarded : ∀ i, (s.point i).locked = true ↔ s.lock = some i
  stage : Stage outlet given h found s
  leaving : ∀ i, s.point i = .leaving → s.host.engine.policy ≠ none
  returned : ∀ i r, s.point i = .returned r → r ≠ none ∧ r = s.host.engine.policy

theorem sound_start (outlet : Outlet ε σ) (given : Nat → Option Source) (h : Host σ) :
    Sound outlet given h [] { host := h } where
  guarded i := iff_of_false (by simp [Point.locked]) (by simp)
  stage := .before rfl fun _ => rfl
  leaving i hi := by simp at hi
  returned i r hi := by simp at hi

theorem Midway.busy {given : Option Source} {now : Host σ} (h : Midway outlet given h p now) :
    p.busy = true := by
  cases p with
  | asking => rfl
  | storing raw => rfl
  | recording raw => rfl
  | entering => exact h.elim
  | waiting => exact h.elim
  | inside => exact h.elim
  | leaving => exact h.elim
  | returned policy => exact h.elim

/-- Moves between points that are not busy do not concern the initialisation. -/
theorem Stage.move (hs : Stage outlet given h found s) (lock : Option Nat)
    (hi : (s.point i).busy = false) (hp : p.busy = false) :
    Stage outlet given h found ({ s with lock }.move i p) := by
  have hidle : (∀ j, (s.point j).busy = false) →
      ∀ j, (({ s with lock }.move i p).point j).busy = false := by
    intro hidle j
    by_cases hj : j = i
    · rw [hj, point_move_self, hp]
    · rw [point_move_of_ne hj]
      exact hidle j
  cases hs with
  | before hh hb => exact .before hh (hidle hb)
  | @midway _ w hn hm =>
    have hw : w ≠ i := by
      rintro rfl
      rw [hm.busy] at hi
      exact Bool.noConfusion hi
    refine .midway hn ?_
    rw [point_move_of_ne hw]
    exact hm
  | done hn hh hb => exact .done hn hh (hidle hb)

namespace Sound

/-- Two callers cannot both be in the locked part. -/
theorem holder_unique (hs : Sound outlet given h found s) (hi : (s.point i).locked = true)
    (hj : (s.point j).locked = true) : i = j :=
  Option.some.inj (((hs.guarded i).mp hi).symm.trans ((hs.guarded j).mp hj))

/-- A move between points that are not busy, with which the lock may be taken or given back. -/
theorem shift (hs : Sound outlet given h found s) {lock : Option Nat}
    (hi : (s.point i).busy = false) (hp : p.busy = false)
    (hself : p.locked = true ↔ lock = some i)
    (hothers : ∀ j, j ≠ i → (s.lock = some j ↔ lock = some j))
    (hleaving : p = .leaving → s.host.engine.policy ≠ none)
    (hreturned : ∀ r, p = .returned r → r ≠ none ∧ r = s.host.engine.policy) :
    Sound outlet given h found ({ s with lock }.move i p) where
  guarded j := by
    by_cases hj : j = i
    · rw [hj, point_move_self]
      exact hself
    · rw [point_move_of_ne hj]
      exact (hs.guarded j).trans (hothers j hj)
  stage := hs.stage.move lock hi hp
  leaving j hj := by
    rcases point_move_cases hj with ⟨-, hq⟩ | ⟨-, hq⟩
    · exact hleaving hq
    · exact hs.leaving j hq
  returned j r hj := by
    rcases point_move_cases hj with ⟨-, hq⟩ | ⟨-, hq⟩
    · exact hreturned r hq
    · exact hs.returned j r hq

/-- A move that the holder of the lock makes within the locked part, and with which the host becomes
another. -/
theorem within (hs : Sound outlet given h found s) (host : Host σ) {found' : List Nat}
    (hi : (s.point i).locked = true) (hp : p.locked = true)
    (hstage : Stage outlet given h found' ({ s with host }.move i p))
    (hleaving : p = .leaving → host.engine.policy ≠ none)
    (hpolicy : s.host.engine.policy ≠ none → host.engine.policy = s.host.engine.policy) :
    Sound outlet given h found' ({ s with host }.move i p) where
  guarded j := by
    by_cases hj : j = i
    · rw [hj, point_move_self]
      exact iff_of_true hp ((hs.guarded i).mp hi)
    · rw [point_move_of_ne hj]
      exact hs.guarded j
  stage := hstage
  leaving j hj := by
    rcases point_move_cases hj with ⟨-, hq⟩ | ⟨hne, hq⟩
    · exact hleaving hq
    · have hlocked : (s.point j).locked = true := by
        simp only at hq
        rw [hq]
        rfl
      exact absurd (hs.holder_unique hlocked hi) hne
  returned j r hj := by
    rcases point_move_cases hj with ⟨-, hq⟩ | ⟨-, hq⟩
    · rw [hq] at hp
      exact Bool.noConfusion hp
    · obtain ⟨hr, hr'⟩ := hs.returned j r hq
      exact ⟨hr, hr'.trans (hpolicy (hr' ▸ hr)).symm⟩

/-- Who finds no policy under the lock is the first to do so. -/
theorem before_of_inside (hs : Sound outlet given h found s) (hi : s.point i = .inside)
    (hnone : s.host.engine.policy = none) : found = [] ∧ s.host = h := by
  have hlocked : (s.point i).locked = true := by rw [hi]; rfl
  cases hs.stage with
  | before hh _ => exact ⟨rfl, hh⟩
  | @midway _ w _ hm =>
    -- The one who initialises holds the lock as well, but is past the second reading.
    have hw : w = i := hs.holder_unique (Point.locked_of_busy hm.busy) hlocked
    rw [hw, hi] at hm
    exact hm.elim
  | done _ hh _ =>
    rw [hh, Host.policy_initialise] at hnone
    exact absurd hnone (Option.some_ne_none _)

/-- Who is busy makes the initialisation. -/
theorem midway_of_busy (hs : Sound outlet given h found s) (hi : (s.point i).busy = true) :
    found = [i] ∧ h.engine.policy = none ∧ Midway outlet (given i) h (s.point i) s.host := by
  cases hs.stage with
  | before _ hb => exact absurd hi (by rw [hb i]; exact Bool.noConfusion)
  | @midway _ w hn hm =>
    have hw : w = i :=
      hs.holder_unique (Point.locked_of_busy hm.busy) (Point.locked_of_busy hi)
    subst hw
    exact ⟨rfl, hn, hm⟩
  | done _ _ hb => exact absurd hi (by rw [hb i]; exact Bool.noConfusion)

end Sound

/-! ## 4. One step -/

/-- **One step of one caller.** -/
theorem sound_advance (hs : Sound outlet given h found s) (i : Nat) :
    Sound outlet given h (found ++ s.finding i) (s.advance outlet given i) := by
  have hguarded := hs.guarded i
  cases hi : s.point i with
  | entering =>
    rw [hi] at hguarded
    rw [finding_of_ne (by simp [hi]), List.append_nil, advance, hi]
    cases hp : s.host.engine.policy with
    | some p =>
      refine hs.shift (by rw [hi]; rfl) rfl hguarded (fun _ _ => Iff.rfl) (by simp) ?_
      rintro r ⟨⟩
      exact ⟨by simp, hp.symm⟩
    | none =>
      exact hs.shift (by rw [hi]; rfl) rfl hguarded (fun _ _ => Iff.rfl) (by simp) (by simp)
  | waiting =>
    rw [finding_of_ne (by simp [hi]), List.append_nil, advance, hi]
    cases hl : s.lock with
    | some w => exact hs
    | none =>
      refine hs.shift (by rw [hi]; rfl) rfl (iff_of_true rfl rfl) ?_ (by simp) (by simp)
      intro j hj
      rw [hl]
      exact iff_of_false (by simp) (fun hij => hj (Option.some.inj hij).symm)
  | inside =>
    rw [hi] at hguarded
    rw [advance, hi]
    cases hp : s.host.engine.policy with
    | some p =>
      have hfind : s.finding i = [] := by simp only [finding, hi, hp]
      rw [hfind, List.append_nil]
      exact hs.shift (by rw [hi]; rfl) rfl hguarded (fun _ _ => Iff.rfl) (by simp [hp]) (by simp)
    | none =>
      have hfind : s.finding i = [i] := by simp only [finding, hi, hp]
      obtain ⟨rfl, hh⟩ := hs.before_of_inside hi hp
      rw [hfind, List.nil_append]
      refine hs.within s.host (by rw [hi]; rfl) rfl (.midway (hh ▸ hp) ?_) (by simp) (fun _ => rfl)
      rw [point_move_self]
      exact hh
  | asking =>
    obtain ⟨rfl, hnone, hm⟩ := hs.midway_of_busy (i := i) (by rw [hi]; rfl)
    rw [hi] at hm
    rw [finding_of_ne (by simp [hi]), List.append_nil, advance, hi]
    refine hs.within _ (by rw [hi]; rfl) rfl (.midway hnone ?_) (by simp) ?_
    · rw [point_move_self, show s.host = h from hm]
      exact ⟨rfl, rfl⟩
    · exact fun _ => Host.policy_question outlet (given i) s.host
  | storing raw =>
    obtain ⟨rfl, hnone, hm⟩ := hs.midway_of_busy (i := i) (by rw [hi]; rfl)
    rw [hi] at hm
    obtain ⟨hraw, hh⟩ := hm
    rw [finding_of_ne (by simp [hi]), List.append_nil, advance, hi]
    refine hs.within _ (by rw [hi]; rfl) rfl (.midway hnone ?_) (by simp) ?_
    · rw [point_move_self]
      exact ⟨hraw, congrArg (Host.store raw) hh⟩
    · intro hsome
      rw [hh, Host.policy_question] at hsome
      exact absurd hnone hsome
  | recording raw =>
    obtain ⟨rfl, hnone, hm⟩ := hs.midway_of_busy (i := i) (by rw [hi]; rfl)
    rw [hi] at hm
    obtain ⟨rfl, hh⟩ := hm
    rw [finding_of_ne (by simp [hi]), List.append_nil, advance, hi]
    refine hs.within _ (by rw [hi]; rfl) rfl (.done hnone ?_ ?_) ?_ (fun _ => rfl)
    · rw [Host.initialise_eq_steps]
      exact congrArg (Host.announce outlet _) hh
    · intro j
      by_cases hj : j = i
      · rw [hj, point_move_self]
        rfl
      · -- A second busy caller would hold the lock as well.
        rw [point_move_of_ne hj, ← Bool.not_eq_true]
        intro hb
        exact hj (hs.holder_unique (Point.locked_of_busy hb) (by rw [hi]; rfl))
    · intro _ hn
      have hstored : s.host.engine.policy = none := hn
      rw [hh] at hstored
      exact absurd hstored (Option.some_ne_none _)
  | leaving =>
    have hlock : s.lock = some i := hguarded.mp (by rw [hi]; rfl)
    rw [finding_of_ne (by simp [hi]), List.append_nil, advance, hi]
    refine hs.shift (by rw [hi]; rfl) rfl (iff_of_false (by simp [Point.locked]) (by simp)) ?_
      (by simp) ?_
    · intro j hj
      rw [hlock]
      exact iff_of_false (fun hij => hj (Option.some.inj hij).symm) (by simp)
    · rintro r ⟨⟩
      exact ⟨hs.leaving i hi, rfl⟩
  | returned r =>
    rw [finding_of_ne (by simp [hi]), List.append_nil, advance, hi]
    exact hs

/-- A policy that is stored is never replaced. -/
theorem policy_advance (hs : Sound outlet given h found s) (hp : s.host.engine.policy ≠ none)
    (i : Nat) : (s.advance outlet given i).host.engine.policy = s.host.engine.policy := by
  cases hi : s.point i with
  | entering => rw [advance, hi]; rfl
  | waiting =>
    rw [advance, hi]
    cases s.lock <;> rfl
  | inside => rw [advance, hi]; rfl
  | asking =>
    rw [advance, hi]
    exact Host.policy_question outlet (given i) s.host
  | storing raw =>
    obtain ⟨-, hnone, hm⟩ := hs.midway_of_busy (i := i) (by rw [hi]; rfl)
    rw [hi] at hm
    rw [hm.2, Host.policy_question] at hp
    exact absurd hnone hp
  | recording raw => rw [advance, hi]; rfl
  | leaving => rw [advance, hi]; rfl
  | returned r => rw [advance, hi]

/-! ## 5. Schedules -/

theorem sound_run :
    ∀ (schedule : List Nat) {found : List Nat} {s : Crowd σ}, Sound outlet given h found s →
      Sound outlet given h (found ++ s.finders outlet given schedule) (s.run outlet given schedule)
  | [], found, s, hs => by
    rw [finders, List.append_nil]
    exact hs
  | i :: rest, found, s, hs => by
    rw [finders, ← List.append_assoc]
    exact sound_run rest (sound_advance hs i)

theorem policy_run :
    ∀ (schedule : List Nat) {found : List Nat} {s : Crowd σ}, Sound outlet given h found s →
      s.host.engine.policy ≠ none →
      (s.run outlet given schedule).host.engine.policy = s.host.engine.policy
  | [], _, _, _, _ => rfl
  | i :: rest, _, s, hs, hp => by
    have hstep := policy_advance hs hp i
    exact (policy_run rest (sound_advance hs i) (hstep ▸ hp)).trans hstep

theorem run_append (front rest : List Nat) (s : Crowd σ) :
    s.run outlet given (front ++ rest) = (s.run outlet given front).run outlet given rest := by
  simp only [run, List.foldl_append]

/-! ## 6. Nobody is blocked for good -/

/-- Nobody but `i` holds the lock. -/
def Free (i : Nat) (s : Crowd σ) : Prop := s.lock = none ∨ s.lock = some i

/-- A step brings a caller in whose way nobody is nearer to its return. -/
theorem nearer_advance (hs : Sound outlet given h found s) (hfree : s.Free i)
    (hi : 0 < (s.point i).distance) :
    ((s.advance outlet given i).point i).distance < (s.point i).distance ∧
      (s.advance outlet given i).Free i := by
  cases hp : s.point i with
  | entering =>
    rw [advance, hp]
    refine ⟨?_, hfree⟩
    rw [point_move_self]
    cases s.host.engine.policy <;> simp [Point.distance]
  | waiting =>
    have hlock : s.lock = none := by
      rcases hfree with hl | hl
      · exact hl
      · have hlocked := (hs.guarded i).mpr hl
        rw [hp] at hlocked
        exact Bool.noConfusion hlocked
    rw [advance, hp]
    simp only [hlock]
    refine ⟨?_, Or.inr rfl⟩
    rw [point_move_self]
    decide
  | inside =>
    rw [advance, hp]
    refine ⟨?_, hfree⟩
    rw [point_move_self]
    cases s.host.engine.policy <;> simp [Point.distance]
  | asking =>
    rw [advance, hp]
    refine ⟨?_, hfree⟩
    rw [point_move_self]
    exact Nat.lt_succ_self 3
  | storing raw =>
    rw [advance, hp]
    refine ⟨?_, hfree⟩
    rw [point_move_self]
    exact Nat.lt_succ_self 2
  | recording raw =>
    rw [advance, hp]
    refine ⟨?_, hfree⟩
    rw [point_move_self]
    exact Nat.lt_succ_self 1
  | leaving =>
    rw [advance, hp]
    refine ⟨?_, Or.inl rfl⟩
    rw [point_move_self]
    exact Nat.lt_succ_self 0
  | returned r =>
    rw [hp] at hi
    exact absurd hi (Nat.lt_irrefl 0)

/-- A caller in whose way nobody is can return, and then the lock is free. -/
theorem returns_of_free :
    ∀ (n : Nat) {found : List Nat} {s : Crowd σ}, Sound outlet given h found s → s.Free i →
      (s.point i).distance ≤ n →
      ∃ more r, (s.run outlet given more).point i = .returned r ∧
        (s.run outlet given more).lock = none := by
  intro n
  induction n with
  | zero =>
    intro found s hs hfree hn
    cases hp : s.point i with
    | returned r =>
      refine ⟨[], r, hp, ?_⟩
      rcases hfree with hl | hl
      · exact hl
      · have hlocked := (hs.guarded i).mpr hl
        rw [hp] at hlocked
        exact Bool.noConfusion hlocked
    | _ =>
      rw [hp] at hn
      exact absurd hn (by simp [Point.distance])
  | succ n ih =>
    intro found s hs hfree hn
    by_cases h0 : (s.point i).distance ≤ n
    · exact ih hs hfree h0
    · obtain ⟨hlt, hfree'⟩ := nearer_advance hs hfree (by omega)
      obtain ⟨more, r, hr⟩ := ih (sound_advance hs i) hfree' (by omega)
      exact ⟨i :: more, r, hr⟩

/-- Every caller can return: whoever holds the lock can give it back first. -/
theorem can_return (hs : Sound outlet given h found s) (i : Nat) :
    ∃ more r, (s.run outlet given more).point i = .returned r := by
  have hfree : ∃ first, (s.run outlet given first).lock = none := by
    cases hl : s.lock with
    | none => exact ⟨[], hl⟩
    | some w =>
      obtain ⟨first, -, -, hlock⟩ := returns_of_free _ hs (Or.inr hl) (Nat.le_refl _)
      exact ⟨first, hlock⟩
  obtain ⟨first, hlock⟩ := hfree
  obtain ⟨more, r, hr, -⟩ :=
    returns_of_free (i := i) _ (sound_run first hs) (Or.inl hlock) (Nat.le_refl _)
  refine ⟨first ++ more, r, ?_⟩
  rw [run_append]
  exact hr

/-! ## 7. One initialisation -/

theorem Midway.cases {given : Option Source} {now : Host σ} (hm : Midway outlet given h p now) :
    now = h ∨ now = (h.question outlet given).2 ∨
      now = (h.question outlet given).2.store (h.question outlet given).1 := by
  cases p with
  | asking => exact Or.inl hm
  | storing raw => exact Or.inr (Or.inl hm.2)
  | recording raw =>
    obtain ⟨rfl, hnow⟩ := hm
    exact Or.inr (Or.inr hnow)
  | _ => exact hm.elim

namespace Stage

theorem length_le (hs : Stage outlet given h found s) : found.length ≤ 1 := by
  cases hs <;> simp

/-- A source is asked by those only who found no policy. -/
theorem asked_le (hs : Stage outlet given h found s) :
    s.host.engine.asked ≤ h.engine.asked + found.length := by
  cases hs with
  | before hh _ => rw [hh]; exact Nat.le_add_right _ _
  | @midway _ w _ hm =>
    have hasked := Host.asked_question outlet (given w) h
    rcases hm.cases with hh | hh | hh
    · rw [hh]
      exact Nat.le_succ _
    · rw [hh]
      exact Nat.le_of_eq hasked
    · rw [hh]
      exact Nat.le_of_eq hasked
  | @done _ w _ hh _ =>
    rw [hh, Host.initialise_eq]
    exact Nat.le_of_eq (Engine.asked_configured h.files (given w) h.engine)

/-- The policy is recorded by those only who found none. -/
theorem configEvents_le (hs : Stage outlet given h found s) :
    (s.host.trace.eventsOf .configInit).length
      ≤ (h.trace.eventsOf .configInit).length + found.length := by
  cases hs with
  | before hh _ => rw [hh]; exact Nat.le_add_right _ _
  | @midway _ w _ hm =>
    have htrace : s.host.trace = h.trace := by
      rcases hm.cases with hh | hh | hh
      · rw [hh]
      · rw [hh, Host.trace_question]
      · rw [hh]
        exact Host.trace_question outlet (given w) h
    rw [htrace]
    exact Nat.le_succ _
  | @done _ w _ hh _ =>
    rw [hh, Host.initialise_eq]
    exact Trace.length_eventsOf_record _ _ _ _

/-- A policy that is stored was there before, or is that of the source which was asked. -/
theorem policy_eq {p : Policy} (hs : Stage outlet given h found s)
    (hp : s.host.engine.policy = some p) :
    (found = [] ∧ h.engine.policy = some p) ∨
      ∃ w, found = [w] ∧ h.engine.policy = none ∧ p = (h.asks (given w)).policy h.files := by
  cases hs with
  | before hh _ => exact Or.inl ⟨rfl, hh ▸ hp⟩
  | @midway _ w hn hm =>
    refine Or.inr ⟨w, rfl, hn, ?_⟩
    rcases hm.cases with hh | hh | hh
    · rw [hh, hn] at hp
      exact absurd hp.symm (Option.some_ne_none _)
    · rw [hh, Host.policy_question, hn] at hp
      exact absurd hp.symm (Option.some_ne_none _)
    · rw [hh] at hp
      exact (Option.some.inj hp).symm.trans (Host.ofRaw_question outlet (given w) h)
  | @done _ w hn hh _ =>
    refine Or.inr ⟨w, rfl, hn, ?_⟩
    rw [hh, Host.policy_initialise] at hp
    exact (Option.some.inj hp).symm

end Stage

/-- **One initialisation, whatever the schedule.**  However the steps of the callers are mixed, at
most one caller finds no policy under the lock.  No source is asked, and no policy recorded, but by
this caller, and each at most once.  A policy that is stored was there from the start or is that of
the source which this caller asked, and it stays whatever happens next.  All who have returned have
returned this policy, and everybody can return in the end.  Until somebody finds no policy, nothing
has happened to the host; once the one who did has given the lock back, the host is as after a call
that was made alone. -/
theorem run_initialises_once (outlet : Outlet ε σ) (given : Nat → Option Source) (h : Host σ)
    (schedule : List Nat) :
    let start : Crowd σ := { host := h }
    let now := start.run outlet given schedule
    let found := start.finders outlet given schedule
    found.length ≤ 1 ∧
      now.host.engine.asked ≤ h.engine.asked + found.length ∧
      (now.host.trace.eventsOf .configInit).length
        ≤ (h.trace.eventsOf .configInit).length + found.length ∧
      (∀ p, now.host.engine.policy = some p →
        ((found = [] ∧ h.engine.policy = some p) ∨
          ∃ w, found = [w] ∧ h.engine.policy = none ∧
            p = ((given w).getD h.engine.source).policy h.files) ∧
        ∀ more, (now.run outlet given more).host.engine.policy = some p) ∧
      (∀ i r, now.point i = .returned r → ∃ p, r = some p ∧ now.host.engine.policy = some p) ∧
      (∀ i, ∃ more p, (now.run outlet given more).point i = .returned (some p)) ∧
      (found = [] → now.host = h) ∧
      (∀ w, found = [w] → now.lock = none →
        now.host = (h.ensureInitialised outlet (given w)).2) := by
  intro start now found
  have hs : Sound outlet given h found now := sound_run schedule (sound_start outlet given h)
  have hreturned : ∀ {found' : List Nat} {s : Crowd σ}, Sound outlet given h found' s → ∀ i r,
      s.point i = .returned r → ∃ p, r = some p ∧ s.host.engine.policy = some p := by
    intro found' s hs i r hr
    obtain ⟨hne, heq⟩ := hs.returned i r hr
    obtain ⟨p, rfl⟩ := Option.ne_none_iff_exists'.mp hne
    exact ⟨p, rfl, heq.symm⟩
  refine ⟨hs.stage.length_le, hs.stage.asked_le, hs.stage.configEvents_le, ?_, hreturned hs, ?_,
    ?_, ?_⟩
  · intro p hp
    refine ⟨hs.stage.policy_eq hp, ?_⟩
    intro more
    exact (policy_run more hs (by simp [hp])).trans hp
  · intro i
    obtain ⟨more, r, hr⟩ := can_return hs i
    obtain ⟨p, rfl, -⟩ := hreturned (sound_run more hs) i r hr
    exact ⟨more, p, hr⟩
  · intro hnil
    rw [hnil] at hs
    cases hs.stage with
    | before hh _ => exact hh
  · intro w hw hfree
    rw [hw] at hs
    cases hs.stage with
    | midway _ hm =>
      have hlock := (hs.guarded w).mp (Point.locked_of_busy hm.busy)
      rw [hfree] at hlock
      exact absurd hlock.symm (Option.some_ne_none _)
    | done hn hh _ =>
      rw [Host.ensureInitialised_of_none hn]
      exact hh

/-- Callers 0 and 1 both find no policy at first.  Caller 1 gets the lock, with a source of its own
that fails; caller 2 returns before the policy is recorded, and only then caller 0 gets the lock. -/
theorem run_initialises_once_in_a_race :
    ∃ (given : Nat → Option Source) (start : Crowd Collector) (schedule : List Nat),
      given 0 = none ∧ given 1 = some (.failing .system) ∧
      start = { host := { engine := { source := .fixed (.table [("defAllowed", .bool false)]) }
                          sink := {} } } ∧
      schedule = [0, 1, 1, 0, 1, 1, 1, 2, 1, 1, 0, 0, 0] ∧
      start.finders Collector.outlet given schedule = [1] ∧
      (∀ i ∈ [0, 1, 2], (start.run Collector.outlet given schedule).point i = .returned (some {})) ∧
      (∀ more, ((start.run Collector.outlet given schedule).run Collector.outlet given
        more).host.engine.policy = some {}) ∧
      (start.run Collector.outlet given schedule).host
        = (start.host.ensureInitialised Collector.outlet (given 1)).2 := by
  let given : Nat → Option Source := fun i => if i = 1 then some (.failing .system) else none
  obtain ⟨-, -, -, hpolicy, -, -, -, hhost⟩ := run_initialises_once Collector.outlet given
    { engine := { source := .fixed (.table [("defAllowed", .bool false)]) }, sink := {} }
    [0, 1, 1, 0, 1, 1, 1, 2, 1, 1, 0, 0, 0]
  refine ⟨given, _, _, rfl, rfl, rfl, rfl, by decide +kernel, ?_, (hpolicy _ (by decide +kernel)).2,
    hhost 1 (by decide +kernel) (by decide +kernel)⟩
  intro i hi
  simp only [List.mem_cons, List.not_mem_nil, or_false] at hi
  rcases hi with rfl | rfl | rfl <;> rfl

end Crowd

end TypingPolicy
