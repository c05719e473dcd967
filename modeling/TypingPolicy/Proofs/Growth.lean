import TypingPolicy.Proofs.Completion
import TypingPolicy.Proofs.Lifecycle

/-!
# All that is ever done to a class

An engine and any number of walkers may work on the same classes, under different policies and in
any order, while the host adds directives of its own; calls may be cut short by an outlet.  This
file says what can become of a class in such a run.

* One deed either leaves a class alone or adds one directive at the end, and nothing else changes
  (`class_perform`).
* The directives that a run adds to a class make up its `Team.history`, which tells those of the
  host from those of an engine or a walker.  Such histories are `Lawful`: an engine or a walker adds
  only where no directive says yet how the class is compiled, and what it adds says so itself.
* Hence at most one directive of a history is not the host's (`Lawful.tools_le_one`).

The main statement is `run_adds_directives_only`.
-/

namespace TypingPolicy

variable {ε σ : Type}

/-! ## 1. An engine and walkers on the same classes -/

/-- A walker, with what it remembers between calls.  It records in a trace of its own or, if it has
none, in that of the engine. -/
structure Walker (ε σ : Type) where
  policy : Policy
  outlet : Outlet ε σ
  trace : Option Trace := none
  unit : Option Nat := none
  reported : Nat := 0

/-- The state in which a call finds the walker. -/
def Walker.state (w : Walker ε σ) (h : Host σ) : Walk σ where
  pool := h.pool
  trace := w.trace.getD h.trace
  sink := h.sink
  unit := w.unit
  reported := w.reported

/-- An engine and walkers on the classes of one host.  Their outlets may share parts of the sink. -/
structure Team (ε σ : Type) where
  host : Host σ
  walkers : List (Walker ε σ) := []

/-- What a member of the team, or the host, does. -/
inductive Deed (ε σ : Type) where
  /-- A call to the engine, or a change that the host makes. -/
  | call (c : Call ε σ)
  /-- One more walker. -/
  | join (w : Walker ε σ)
  /-- Walker number `i` walks a unit. -/
  | walk (i : Nat) (u : SourceUnit)
  /-- Walker number `i` injects class number `c`, whoever is to be passed over. -/
  | inject (i c : Nat)
  /-- Walker number `i` checks class number `c`. -/
  | enforce (i c : Nat)

/-- The directive that the host adds to class number `c`, if that is what is done. -/
def Deed.byHost (c : Nat) : Deed ε σ → Option Directive
  | .call (.annotate i d) => if i = c then some d else none
  | _ => none

namespace Team

/-- The team after walker number `i`, known as `w`, has left the state `s` behind. -/
def after (i : Nat) (w : Walker ε σ) (s : Walk σ) (t : Team ε σ) : Team ε σ where
  host := { t.host with
    pool := s.pool
    sink := s.sink
    trace := if w.trace.isSome then t.host.trace else s.trace }
  walkers := t.walkers.set i { w with
    trace := w.trace.map fun _ => s.trace
    unit := s.unit
    reported := s.reported }

/-- One deed; `own` is the outlet of the engine.  There is nothing to do for walkers and classes
that do not exist. -/
def perform (own : Outlet ε σ) (t : Team ε σ) : Deed ε σ → Team ε σ
  | .call c => { t with host := t.host.call own c }
  | .join w => { t with walkers := t.walkers ++ [w] }
  | .walk i u =>
    match t.walkers[i]? with
    | some w => t.after i w (Walk.unitOf w.policy w.outlet u (w.state t.host)).2
    | none => t
  | .inject i c =>
    match t.walkers[i]?, t.host.pool[c]? with
    | some w, some k => t.after i w ((w.state t.host).inject w.policy c k).2
    | _, _ => t
  | .enforce i c =>
    match t.walkers[i]?, t.host.pool[c]? with
    | some w, some k => t.after i w ((w.state t.host).enforce w.policy w.outlet c k).2
    | _, _ => t

/-- One deed after the other. -/
def run (own : Outlet ε σ) (deeds : List (Deed ε σ)) (t : Team ε σ) : Team ε σ :=
  deeds.foldl (perform own) t

/-- The policy under which a deed may add directives: that of the engine for a visit, that of the
walker for what a walker does. -/
def acting (own : Outlet ε σ) (t : Team ε σ) : Deed ε σ → Option Policy
  | .call (.visit u outlet) =>
    if t.host.engine.excludes u.name then none
    else some (t.host.ensureInitialised (outlet.getD own) none).1
  | .walk i _ | .inject i _ => t.walkers[i]?.map (·.policy)
  | _ => none

end Team

/-! ## 2. What a policy may do to a pool -/

namespace ClassDecl

/-- The class with more directives at the end. -/
def grown (k : ClassDecl) (ds : List Directive) : ClassDecl :=
  { k with directives := k.directives ++ ds }

@[simp] theorem grown_nil (k : ClassDecl) : k.grown [] = k := by
  simp [grown]

@[simp] theorem grown_grown (k : ClassDecl) (ds es : List Directive) :
    (k.grown ds).grown es = k.grown (ds ++ es) := by
  simp [grown]

/-- A class that does not say how it is compiled carries neither of the two markers. -/
theorem kind_of_not_isMarked {k : ClassDecl} (h : k.isMarked = false) :
    ∀ e ∈ k.directives, e.kind ∉ [DirectiveKind.compileStatic, DirectiveKind.compileDynamic] := by
  intro e he
  have hmarker : ¬ e.kind.isMarker = true := List.any_eq_false.mp h e he
  cases hk : e.kind with
  | compileStatic => exact absurd rfl (hk ▸ hmarker)
  | compileDynamic => exact absurd rfl (hk ▸ hmarker)
  | other => decide

end ClassDecl

/-- Every class is as it was, or was without a marker and has gained the static directive of `p`. -/
structure Policy.Treated (p : Policy) (pool pool' : List ClassDecl) : Prop where
  length : pool'.length = pool.length
  classes : ∀ (c : Nat) (k : ClassDecl), pool[c]? = some k →
    ∃ ds, pool'[c]? = some (k.grown ds) ∧
      (ds = [] ∨ (k.isMarked = false ∧ ds = [p.staticDirective]))

theorem Policy.Treated.rfl {p : Policy} {pool : List ClassDecl} : p.Treated pool pool where
  length := Eq.refl _
  classes c k hk := ⟨[], by rw [hk, ClassDecl.grown_nil], Or.inl (Eq.refl _)⟩

theorem Policy.treated_settledPool (p : Policy) (cs : List Nat) (pool : List ClassDecl) :
    p.Treated pool (p.settledPool cs pool) where
  length := List.length_mapIdx
  classes c k hk := by
    rw [Policy.getElem?_settledPool, hk, Option.map_some]
    by_cases hc : c ∈ cs ∧ p.Injects k
    · refine ⟨[p.staticDirective], ?_, Or.inr ⟨hc.2.2, rfl⟩⟩
      rw [if_pos hc.1, Policy.settled, if_pos hc.2]
      rfl
    · refine ⟨[], ?_, Or.inl rfl⟩
      rw [ClassDecl.grown_nil]
      by_cases hin : c ∈ cs
      · rw [if_pos hin, Policy.settled, if_neg (fun hi => hc ⟨hin, hi⟩)]
      · rw [if_neg hin]

namespace Walk

theorem treated_unitOf (p : Policy) (outlet : Outlet ε σ) (u : SourceUnit) (s : Walk σ) :
    p.Treated s.pool (unitOf p outlet u s).2.pool := by
  obtain ⟨front, -, hpool⟩ := pool_unitOf p outlet u s
  rw [hpool]
  exact p.treated_settledPool front s.pool

/-- Injection on its own asks only for a marker, not whether the class is to be passed over. -/
theorem treated_inject (p : Policy) {c : Nat} {k : ClassDecl} {s : Walk σ}
    (hk : s.pool[c]? = some k) : p.Treated s.pool (s.inject p c k).2.pool := by
  unfold inject
  cases hm : k.isMarked with
  | true => exact Policy.Treated.rfl
  | false =>
    refine ⟨List.length_set, ?_⟩
    intro i j hj
    change ∃ ds, (s.pool.set c (k.addDirective p.staticDirective))[i]? = some (j.grown ds) ∧ _
    by_cases hi : c = i
    · subst hi
      obtain rfl : k = j := Option.some.inj (hk.symm.trans hj)
      have hlt : c < s.pool.length := (List.getElem?_eq_some_iff.mp hk).1
      refine ⟨[p.staticDirective], ?_, Or.inr ⟨hm, rfl⟩⟩
      rw [List.getElem?_set_self hlt]
      rfl
    · refine ⟨[], ?_, Or.inl rfl⟩
      rw [List.getElem?_set_ne hi, hj, ClassDecl.grown_nil]

theorem pool_enforce (p : Policy) (outlet : Outlet ε σ) (c : Nat) (k : ClassDecl) (s : Walk σ) :
    (s.enforce p outlet c k).2.pool = s.pool := by
  unfold enforce
  split
  · exact pool_deliverAll outlet _ s
  · rfl

end Walk

namespace Host

theorem treated_walkUnder (p : Policy) (outlet : Outlet ε σ) (u : SourceUnit) (h : Host σ) :
    p.Treated h.pool (h.walkUnder p outlet u).2.pool :=
  Walk.treated_unitOf p outlet u { pool := h.pool, trace := h.trace, sink := h.sink }

/-- A visit treats the classes under the policy of the engine. -/
theorem treated_visit {outlet : Outlet ε σ} {u : SourceUnit} {h : Host σ}
    (hx : h.engine.excludes u.name = false) :
    (h.ensureInitialised outlet none).1.Treated h.pool (h.visit outlet u).2.pool := by
  rw [visit_of_included hx, ← pool_ensureInitialised outlet none h]
  exact treated_walkUnder _ outlet u _

end Host

/-! ## 3. What one deed does to a class -/

namespace Team

variable {t : Team ε σ} {c : Nat} {k : ClassDecl}

/-- A deed that is not the host's treats the classes under the policy that acts, if there is one,
and leaves them alone otherwise. -/
theorem treated_perform (own : Outlet ε σ) (t : Team ε σ) {deed : Deed ε σ}
    (hd : ∀ c, deed.byHost c = none) :
    ((t.perform own deed).host.pool = t.host.pool) ∨
      ∃ p, t.acting own deed = some p ∧ p.Treated t.host.pool (t.perform own deed).host.pool := by
  cases deed with
  | call call =>
    cases call with
    | ensure given => exact Or.inl (Host.pool_ensureInitialised own given t.host)
    | visit u outlet =>
      cases hx : t.host.engine.excludes u.name with
      | true =>
        left
        rw [perform, Host.call, Host.visit_of_excluded hx]
      | false =>
        right
        exact ⟨_, by simp [acting, hx], Host.treated_visit hx⟩
    | annotate i d => exact absurd (hd i) (by simp [Deed.byHost])
    | refile files => exact Or.inl rfl
  | join w => exact Or.inl rfl
  | walk i u =>
    rw [perform, acting]
    cases t.walkers[i]? with
    | none => exact Or.inl rfl
    | some w => exact Or.inr ⟨_, rfl, Walk.treated_unitOf w.policy w.outlet u (w.state t.host)⟩
  | inject i c =>
    rw [perform, acting]
    cases t.walkers[i]? with
    | none => exact Or.inl rfl
    | some w =>
      cases hk : t.host.pool[c]? with
      | none => exact Or.inl rfl
      | some k => exact Or.inr ⟨_, rfl, Walk.treated_inject w.policy (s := w.state t.host) hk⟩
  | enforce i c =>
    rw [perform]
    cases t.walkers[i]? with
    | none => exact Or.inl rfl
    | some w =>
      cases t.host.pool[c]? with
      | none => exact Or.inl rfl
      | some k => exact Or.inl (Walk.pool_enforce w.policy w.outlet c k (w.state t.host))

/-- A deed is the host's addition to some class, or no addition of the host to any. -/
theorem annotates_or_not (deed : Deed ε σ) :
    (∃ i d, deed = .call (.annotate i d)) ∨ ∀ c, deed.byHost c = none := by
  match deed with
  | .call (.annotate i d) => exact Or.inl ⟨i, d, rfl⟩
  | .call (.ensure _) | .call (.visit _ _) | .call (.refile _) => exact Or.inr fun _ => rfl
  | .join _ | .walk _ _ | .inject _ _ | .enforce _ _ => exact Or.inr fun _ => rfl

theorem length_perform (own : Outlet ε σ) (t : Team ε σ) (deed : Deed ε σ) :
    (t.perform own deed).host.pool.length = t.host.pool.length := by
  rcases annotates_or_not deed with ⟨i, d, rfl⟩ | hd
  · exact List.length_modify _ _ _
  · rcases treated_perform own t hd with h | ⟨p, -, h⟩
    · rw [h]
    · exact h.length

/-- **One deed and one class.**  If the host adds a directive to the class, that is all that happens
to it.  Any other deed leaves it alone, or adds the static directive of the policy that acts, where
nothing says yet how the class is compiled. -/
theorem class_perform (own : Outlet ε σ) (deed : Deed ε σ) (hk : t.host.pool[c]? = some k) :
    ∃ ds, (t.perform own deed).host.pool[c]? = some (k.grown ds) ∧
      ((∃ d, deed.byHost c = some d ∧ t.acting own deed = none ∧ ds = [d]) ∨
        (deed.byHost c = none ∧ ds = []) ∨
        ∃ p, deed.byHost c = none ∧ t.acting own deed = some p ∧ k.isMarked = false ∧
          ds = [p.staticDirective]) := by
  rcases annotates_or_not deed with ⟨i, d, rfl⟩ | hd
  · change ∃ ds, (t.host.pool.modify i (·.addDirective d))[c]? = some (k.grown ds) ∧ _
    rw [List.getElem?_modify, hk]
    by_cases hi : i = c
    · exact ⟨[d], by simp [hi]; rfl, Or.inl ⟨d, by simp [Deed.byHost, hi], rfl, rfl⟩⟩
    · exact ⟨[], by simp [hi], Or.inr (Or.inl ⟨by simp [Deed.byHost, hi], rfl⟩)⟩
  · rcases treated_perform own t hd with h | ⟨p, hp, h⟩
    · exact ⟨[], by rw [h, hk, ClassDecl.grown_nil], Or.inr (Or.inl ⟨hd c, rfl⟩)⟩
    · obtain ⟨ds, hclass, rfl | ⟨hm, rfl⟩⟩ := h.classes c k hk
      · exact ⟨[], hclass, Or.inr (Or.inl ⟨hd c, rfl⟩)⟩
      · exact ⟨_, hclass, Or.inr (Or.inr ⟨p, hd c, hp, hm, rfl⟩)⟩

end Team

/-! ## 4. Histories -/

/-- A directive that was added to a class, and the policy of the engine or the walker that added it;
the host has none. -/
structure Addition where
  author : Option Policy
  directive : Directive

/-- The additions that may follow each other on a class that carries the directives `ds`.  The host
adds what it likes.  Engines and walkers add only where there is no marker, and only the static
directive of their policy. -/
inductive Lawful : List Directive → List Addition → Prop
  | done {ds : List Directive} : Lawful ds []
  | host {ds : List Directive} {d : Directive} {rest : List Addition} :
      Lawful (ds ++ [d]) rest → Lawful ds (⟨none, d⟩ :: rest)
  | tool {ds : List Directive} {p : Policy} {rest : List Addition} :
      (∀ e ∈ ds, e.kind ∉ [.compileStatic, .compileDynamic]) →
      Lawful (ds ++ [p.staticDirective]) rest →
      Lawful ds (⟨some p, p.staticDirective⟩ :: rest)

namespace Lawful

variable {ds : List Directive} {adds : List Addition}

/-- Where there is a marker, only the host adds anything. -/
theorem author_of_marked (h : Lawful ds adds) :
    (∃ e ∈ ds, e.kind ∈ [.compileStatic, .compileDynamic]) → ∀ a ∈ adds, a.author = none := by
  induction h with
  | done => exact fun _ a ha => absurd ha List.not_mem_nil
  | host _ ih =>
    rintro ⟨e, he, hm⟩ a ha
    rcases List.mem_cons.mp ha with rfl | ha
    · rfl
    · exact ih ⟨e, List.mem_append_left _ he, hm⟩ a ha
  | tool hds _ _ =>
    rintro ⟨e, he, hm⟩
    exact absurd hm (hds e he)

/-- After an engine or a walker has added its directive, there is a marker. -/
theorem marked_staticDirective (ds : List Directive) (p : Policy) :
    ∃ e ∈ ds ++ [p.staticDirective],
      e.kind ∈ [DirectiveKind.compileStatic, DirectiveKind.compileDynamic] :=
  ⟨p.staticDirective, by simp, List.mem_cons_self⟩

/-- **At most one addition is not the host's.** -/
theorem tools_le_one (h : Lawful ds adds) : (adds.filter (·.author.isSome)).length ≤ 1 := by
  induction h with
  | done => exact Nat.zero_le 1
  | host _ ih => exact ih
  | @tool ds p rest _ hrest _ =>
    have hnone : rest.filter (·.author.isSome) = [] := by
      rw [List.filter_eq_nil_iff]
      intro a ha
      simp [hrest.author_of_marked (marked_staticDirective ds p) a ha]
    simp [hnone]

/-- What stood on the class when an engine or a walker added a directive, and what it added. -/
theorem tool_at (h : Lawful ds adds) :
    ∀ {before after : List Addition} {p : Policy} {d : Directive},
      adds = before ++ ⟨some p, d⟩ :: after →
      (∀ e ∈ ds ++ before.map (·.directive), e.kind ∉ [.compileStatic, .compileDynamic]) ∧
        d = p.staticDirective := by
  induction h with
  | done =>
    intro before after p d heq
    exact absurd heq (by simp)
  | @host ds d₀ rest _ ih =>
    intro before after p d heq
    cases before with
    | nil => exact absurd heq (by simp)
    | cons a before =>
      obtain ⟨rfl, hrest⟩ := List.cons.inj heq
      simpa using ih hrest
  | @tool ds p₀ rest hds hrest _ =>
    intro before after p d heq
    cases before with
    | nil =>
      obtain ⟨ha, -⟩ := List.cons.inj heq
      obtain ⟨hp, rfl⟩ := Addition.mk.inj ha
      obtain rfl := Option.some.inj hp
      exact ⟨by simpa using hds, rfl⟩
    | cons a before =>
      -- The second of two such additions would fall on a class with a marker.
      obtain ⟨-, rfl⟩ := List.cons.inj heq
      have hauthor := hrest.author_of_marked (marked_staticDirective ds p₀) ⟨some p, d⟩ (by simp)
      exact absurd hauthor (by simp)

end Lawful

namespace Team

/-- The directives on class number `c`. -/
def directivesAt (c : Nat) (t : Team ε σ) : List Directive := t.host.pool[c]?.elim [] (·.directives)

/-- What a deed adds to class number `c`. -/
def additions (own : Outlet ε σ) (c : Nat) (deed : Deed ε σ) (t : Team ε σ) : List Addition :=
  (((t.perform own deed).directivesAt c).drop (t.directivesAt c).length).map
    fun d => ⟨t.acting own deed, d⟩

/-- What a run adds to class number `c`. -/
def history (own : Outlet ε σ) (c : Nat) : List (Deed ε σ) → Team ε σ → List Addition
  | [], _ => []
  | deed :: rest, t => t.additions own c deed ++ history own c rest (t.perform own deed)

variable {own : Outlet ε σ} {t : Team ε σ} {c : Nat} {k : ClassDecl}

theorem additions_eq {deed : Deed ε σ} {ds : List Directive} (hk : t.host.pool[c]? = some k)
    (hclass : (t.perform own deed).host.pool[c]? = some (k.grown ds)) :
    t.additions own c deed = ds.map fun d => ⟨t.acting own deed, d⟩ := by
  simp [additions, directivesAt, hk, hclass, ClassDecl.grown]

/-- The step from one deed to the rest of a run, for whatever is to be shown of the history of a
class: the class as the first deed leaves it, and what that deed adds. -/
theorem additions_cases (own : Outlet ε σ) (deed : Deed ε σ) (hk : t.host.pool[c]? = some k) :
    (t.perform own deed).host.pool[c]?
        = some (k.grown ((t.additions own c deed).map (·.directive))) ∧
      ((∃ d, deed.byHost c = some d ∧ t.additions own c deed = [⟨none, d⟩]) ∨
        (deed.byHost c = none ∧ t.additions own c deed = []) ∨
        ∃ p, deed.byHost c = none ∧ k.isMarked = false ∧
          t.additions own c deed = [⟨some p, p.staticDirective⟩]) := by
  obtain ⟨ds, hclass, hcases⟩ := class_perform own deed hk
  have hadds := additions_eq hk hclass
  refine ⟨?_, ?_⟩
  · rw [hclass, hadds, List.map_map]
    simp [Function.comp_def]
  · rcases hcases with ⟨d, hd, hauthor, rfl⟩ | ⟨hd, rfl⟩ | ⟨p, hd, hauthor, hm, rfl⟩
    · exact Or.inl ⟨d, hd, by rw [hadds, hauthor]; rfl⟩
    · exact Or.inr (Or.inl ⟨hd, hadds⟩)
    · exact Or.inr (Or.inr ⟨p, hd, hm, by rw [hadds, hauthor]; rfl⟩)

/-! ## 5. Runs -/

theorem length_run (own : Outlet ε σ) :
    ∀ (deeds : List (Deed ε σ)) (t : Team ε σ),
      (t.run own deeds).host.pool.length = t.host.pool.length
  | [], _ => rfl
  | deed :: deeds, t =>
    (length_run own deeds (t.perform own deed)).trans (length_perform own t deed)

theorem history_append (own : Outlet ε σ) (c : Nat) (rest : List (Deed ε σ)) :
    ∀ (front : List (Deed ε σ)) (t : Team ε σ),
      t.history own c (front ++ rest)
        = t.history own c front ++ (t.run own front).history own c rest
  | [], _ => rfl
  | deed :: front, t => by
    rw [List.cons_append, history, history, history_append own c rest front, List.append_assoc]
    rfl

/-- A run does nothing to a class but add its history at the end of the directives. -/
theorem class_run (own : Outlet ε σ) :
    ∀ (deeds : List (Deed ε σ)) {t : Team ε σ} {k : ClassDecl}, t.host.pool[c]? = some k →
      (t.run own deeds).host.pool[c]?
        = some (k.grown ((t.history own c deeds).map (·.directive)))
  | [], t, k, hk => by
    rw [history, List.map_nil, ClassDecl.grown_nil]
    exact hk
  | deed :: deeds, t, k, hk => by
    have hrest := class_run own deeds (additions_cases own deed hk).1
    rw [ClassDecl.grown_grown, ← List.map_append] at hrest
    exact hrest

theorem lawful_history (own : Outlet ε σ) :
    ∀ (deeds : List (Deed ε σ)) {t : Team ε σ} {k : ClassDecl}, t.host.pool[c]? = some k →
      Lawful k.directives (t.history own c deeds)
  | [], _, _, _ => .done
  | deed :: deeds, t, k, hk => by
    obtain ⟨hclass, hcases⟩ := additions_cases own deed hk
    have hrest := lawful_history own deeds hclass
    rw [history]
    rcases hcases with ⟨d, -, hadds⟩ | ⟨-, hadds⟩ | ⟨p, -, hm, hadds⟩
    · rw [hadds] at hrest ⊢
      exact .host hrest
    · rw [hadds] at hrest ⊢
      simpa using hrest
    · rw [hadds] at hrest ⊢
      exact .tool (ClassDecl.kind_of_not_isMarked hm) hrest

/-- The additions of the host are those that it made. -/
theorem hosts_history (own : Outlet ε σ) :
    ∀ (deeds : List (Deed ε σ)) {t : Team ε σ} {k : ClassDecl}, t.host.pool[c]? = some k →
      ((t.history own c deeds).filter (·.author.isNone)).map (·.directive)
        = deeds.filterMap (·.byHost c)
  | [], _, _, _ => rfl
  | deed :: deeds, t, k, hk => by
    obtain ⟨hclass, hcases⟩ := additions_cases own deed hk
    have hrest := hosts_history own deeds hclass
    rw [history, List.filter_append, List.map_append, hrest, List.filterMap_cons]
    rcases hcases with ⟨d, hd, hadds⟩ | ⟨hd, hadds⟩ | ⟨p, hd, -, hadds⟩
    · rw [hd, hadds]
      rfl
    · rw [hd, hadds]
      rfl
    · rw [hd, hadds]
      rfl

/-- **All that a run does to classes.**  Whatever an engine, walkers and the host do, in any order
and also if outlets cut their calls short, no class comes or goes, and a class keeps everything but
its directives, to which the run adds at the end and nowhere else: the longer the run, the longer
the history.  The host's share of the history is what the host added.  Besides that, the engine and
all walkers together add at most one directive to a class; when they do, no directive on the class
says yet how it is compiled, and what they add is the static directive with the extensions that the
acting policy allows. -/
theorem run_adds_directives_only (own : Outlet ε σ) (deeds : List (Deed ε σ)) (t : Team ε σ) :
    (t.run own deeds).host.pool.length = t.host.pool.length ∧
      ∀ (c : Nat) (k : ClassDecl), t.host.pool[c]? = some k →
        (t.run own deeds).host.pool[c]?
            = some { k with
                directives := k.directives ++ (t.history own c deeds).map (·.directive) } ∧
          (∀ front rest, deeds = front ++ rest →
            t.history own c front <+: t.history own c deeds) ∧
          ((t.history own c deeds).filter (·.author.isNone)).map (·.directive)
            = deeds.filterMap (·.byHost c) ∧
          ((t.history own c deeds).filter (·.author.isSome)).length ≤ 1 ∧
          ∀ before p d after, t.history own c deeds = before ++ ⟨some p, d⟩ :: after →
            (∀ e ∈ k.directives ++ before.map (·.directive),
              e.kind ∉ [.compileStatic, .compileDynamic]) ∧
            d.name = "compile_static" ∧ d.kind = .compileStatic ∧
            d.extensions = (if p.allowedExtensions = [] then .null
              else .list (p.allowedExtensions.map .text)) := by
  refine ⟨length_run own deeds t, ?_⟩
  intro c k hk
  have hlawful := lawful_history own deeds hk
  refine ⟨class_run own deeds hk, ?_, hosts_history own deeds hk, hlawful.tools_le_one, ?_⟩
  · rintro front rest rfl
    rw [history_append]
    exact List.prefix_append _ _
  · intro before p d after heq
    obtain ⟨hkinds, rfl⟩ := hlawful.tool_at heq
    exact ⟨hkinds, rfl, rfl, rfl⟩

/-- The host adds a note, a visit injects the class and is then cut short, a walker with other
extensions tries to inject it again, and the host adds a marker of its own.  Of the three additions
two are the host's, and one is the engine's. -/
theorem run_adds_directives_only_interleaved :
    ∃ (t : Team Full Collector) (deeds : List (Deed Full Collector)) (k : ClassDecl) (q : Policy),
      t.host.pool[0]? = some k ∧ k.directives = [] ∧
      (t.host.visit Collector.outlet ⟨"Unit", [0]⟩).1 = .error .full ∧
      deeds = [.call (.annotate 0 ⟨"note", .other, .null⟩), .call (.visit ⟨"Unit", [0]⟩ none),
        .inject 0 0, .call (.annotate 0 .compileDynamic)] ∧
      (t.history Collector.outlet 0 deeds).map (·.directive)
        = [⟨"note", .other, .null⟩, q.staticDirective, .compileDynamic] ∧
      ((t.history Collector.outlet 0 deeds).filter (·.author.isNone)).map (·.directive)
        = [⟨"note", .other, .null⟩, .compileDynamic] ∧
      ((t.history Collector.outlet 0 deeds).filter (·.author.isSome)).length ≤ 1 := by
  let q : Policy := { untypedAllowed := false, allowedExtensions := ["checker"] }
  let k : ClassDecl := { name := "Pair", fields := [{ name := "left", untyped := true }] }
  let t : Team Full Collector :=
    { host := { engine := { policy := some q }, pool := [k], sink := { capacity := some 0 } }
      walkers := [{ policy := { allowedExtensions := ["other"] }, outlet := Collector.outlet }] }
  let deeds : List (Deed Full Collector) :=
    [.call (.annotate 0 ⟨"note", .other, .null⟩), .call (.visit ⟨"Unit", [0]⟩ none), .inject 0 0,
      .call (.annotate 0 .compileDynamic)]
  obtain ⟨hclass, -, hhost, htool, -⟩ :=
    (run_adds_directives_only Collector.outlet deeds t).2 0 k rfl
  have hend : (t.run Collector.outlet deeds).host.pool[0]?
      = some (k.grown [⟨"note", .other, .null⟩, q.staticDirective, .compileDynamic]) := rfl
  have hadded := congrArg ClassDecl.directives (Option.some.inj (hclass.symm.trans hend))
  exact ⟨t, deeds, k, q, rfl, rfl, rfl, rfl, hadded, hhost, htool⟩

end Team

end TypingPolicy
