import TypingPolicy.Proofs.Completion

/-!
# Walking the same unit again

The first walk through a unit may change the classes that the second one reads.  After that nothing
changes any more: a walk leaves every class of its unit in a state in which a further walk under
the same policy has nothing to add (`injectedNames_of_settled`), and what there is to report does
not depend on what was added.  `Walk.turns` lets any number of walkers go through the unit one
after the other; the main statement about them is `unitOf_again`.
-/

namespace TypingPolicy

variable {ε ε' σ σ' : Type}

/-! ## 1. Classes that have been walked already -/

/-- Where all classes listed have been through a walk, none gets a directive. -/
theorem Policy.injectedNames_of_settled (p : Policy) (pool : List ClassDecl) {cs ds : List Nat}
    (h : ∀ i ∈ cs, i ∈ ds) : p.injectedNames (p.settledPool ds pool) cs = [] := by
  have hnone : (cs.filter fun i => (p.settledPool ds pool)[i]?.any fun k => p.Injects k) = [] := by
    rw [List.filter_eq_nil_iff]
    intro i hi
    rw [Policy.getElem?_settledPool]
    cases pool[i]? with
    | none => simp
    | some k => simp [h i hi, Policy.not_injects_settled]
  rw [injectedNames, hnone]
  rfl

namespace Walk

variable {p : Policy} {u : SourceUnit} {pool : List ClassDecl}

/-- A further walk changes no class, even if its outlet cuts it short. -/
theorem pool_unitOf_of_settled {outlet : Outlet ε σ} {s : Walk σ}
    (hs : s.pool = p.settledPool u.classes pool) : (unitOf p outlet u s).2.pool = s.pool := by
  obtain ⟨front, hfront, hpool⟩ := pool_unitOf p outlet u s
  rw [hpool, hs]
  exact Policy.settledPool_of_settled p pool (fun i hi => hfront.subset hi)

/-- A further walk into an unfailing outlet finds what the pool held before the first. -/
theorem unitOf_of_settled {outlet : Outlet ε σ} {s : Walk σ}
    (hs : s.pool = p.settledPool u.classes pool) (hout : outlet.Unfailing s.sink) :
    (unitOf p outlet u s).1
        = .ok { unit := u.name
                skipped := p.skippedNames pool u.classes
                reported := (p.unitFindings pool u.classes).length } ∧
      s.heard p outlet u = (p.unitFindings pool u.classes).map Violation.report := by
  obtain ⟨sink, h⟩ := hout ((p.unitFindings s.pool u.classes).map Violation.report)
  have hinjected : p.injectedNames s.pool u.classes = [] := by
    rw [hs]
    exact Policy.injectedNames_of_settled p pool (fun _ hi => hi)
  refine ⟨?_, ?_⟩
  · rw [unitOf_of_accept h, hinjected, hs, Policy.skippedNames_settledPool,
      Policy.unitFindings_settledPool]
  · rw [heard_of_accept h, hs, Policy.unitFindings_settledPool]

/-! ## 2. One walker after the other -/

/-- Walkers that go through `u` in turn, each with an outlet and a memory of its own but all on the
same classes, beginning with `pool`: the outcomes, and the classes in the end. -/
def turns (p : Policy) (u : SourceUnit) :
    List (Outlet ε σ × Walk σ) → List ClassDecl → List (Outcome ε) × List ClassDecl
  | [], pool => ([], pool)
  | (outlet, s) :: rest, pool =>
    let now := { s with pool }
    let (outcomes, last) := turns p u rest (unitOf p outlet u now).2.pool
    (⟨(unitOf p outlet u now).1, now.heard p outlet u⟩ :: outcomes, last)

/-- Turns taken on classes that have been walked already: the classes stay as they are, and each
walk with an unfailing outlet comes to the same. -/
theorem turns_of_settled :
    ∀ (walkers : List (Outlet ε σ × Walk σ)) {now : List ClassDecl},
      now = p.settledPool u.classes pool →
      (turns p u walkers now).2 = now ∧
        ∀ (i : Nat) (outlet : Outlet ε σ) (s : Walk σ), walkers[i]? = some (outlet, s) →
          outlet.Unfailing s.sink →
          (turns p u walkers now).1[i]?
            = some ⟨.ok { unit := u.name
                          skipped := p.skippedNames pool u.classes
                          reported := (p.unitFindings pool u.classes).length },
                (p.unitFindings pool u.classes).map Violation.report⟩
  | [], now, _ => ⟨rfl, fun i outlet s hi _ => absurd hi (by simp)⟩
  | (outlet, s) :: rest, now, hnow => by
    have hpool : (unitOf p outlet u { s with pool := now }).2.pool = now :=
      pool_unitOf_of_settled (s := { s with pool := now }) hnow
    obtain ⟨hlast, houtcomes⟩ := turns_of_settled rest hnow
    rw [turns]
    simp only [hpool]
    refine ⟨hlast, ?_⟩
    rintro (_ | i) outlet' s' hi hout
    · obtain ⟨rfl, rfl⟩ : outlet = outlet' ∧ s = s' := by simpa using hi
      obtain ⟨hresult, hheard⟩ := unitOf_of_settled (s := { s with pool := now }) hnow hout
      simp only [List.getElem?_cons_zero, hresult, hheard]
    · rw [List.getElem?_cons_succ] at hi ⊢
      exact houtcomes i outlet' s' hi hout

/-- **A second walk adds nothing.**  Once a walk through a unit has returned, any number of further
walks through it under the same policy, by the same walker or by others, leave every class exactly
as it is, also if their outlets cut them short.  Each of them whose outlet does not fail returns
what the first returned, except that it injects nothing, and hands over the same reports. -/
theorem unitOf_again (p : Policy) (u : SourceUnit) (outlet : Outlet ε σ) (s w : Walk σ)
    (first : WalkResult) (hfirst : unitOf p outlet u s = (.ok first, w))
    (walkers : List (Outlet ε' σ' × Walk σ')) :
    (turns p u walkers w.pool).2 = w.pool ∧
      ∀ (i : Nat) (outlet' : Outlet ε' σ') (t : Walk σ'), walkers[i]? = some (outlet', t) →
        outlet'.Unfailing t.sink →
        (turns p u walkers w.pool).1[i]?
          = some ⟨.ok { first with injected := [] }, s.heard p outlet u⟩ := by
  have haccept := accept_of_unitOf hfirst
  rw [unitOf_of_accept haccept, Prod.mk.injEq, Except.ok.injEq] at hfirst
  obtain ⟨rfl, hw⟩ := hfirst
  have hpool : w.pool = p.settledPool u.classes s.pool := by rw [← hw]; rfl
  rw [heard_of_accept haccept]
  exact turns_of_settled walkers hpool

/-- A class with an untyped field and no directive is listed twice, and the sink has room for just
the two reports.  The first walk injects the class; then the same walker and a new one, whose
memory holds other numbers, both report the field twice and inject nothing. -/
theorem unitOf_again_twice :
    ∃ (p : Policy) (s w : Walk Collector) (first : WalkResult),
      unitOf p Collector.outlet ⟨"Unit", [0, 0]⟩ s = (.ok first, w) ∧
        first.injected = ["Pair"] ∧ w.pool.map (·.directives.length) = [1] ∧
        s.sink.capacity = some 2 ∧
        (turns p ⟨"Unit", [0, 0]⟩ [(Collector.outlet, { w with sink := {} }),
            (Collector.outlet, { w with sink := {}, trace := {}, unit := none, reported := 9 })]
          w.pool)
          = (List.replicate 2 ⟨.ok { unit := "Unit", reported := 2 },
              List.replicate 2 ⟨"Untyped fields are not allowed.", .fieldAt 0 0, "left"⟩⟩,
            w.pool) := by
  let p : Policy :=
    { untypedAllowed := false, limitExtensions := true, allowedExtensions := ["checker"] }
  let s : Walk Collector :=
    { pool := [{ name := "Pair", fields := [{ name := "left", untyped := true }] }]
      trace := {}
      sink := { capacity := some 2 } }
  obtain ⟨w, hfirst, hgrown⟩ : ∃ w, unitOf p Collector.outlet ⟨"Unit", [0, 0]⟩ s
      = (.ok { unit := "Unit", injected := ["Pair"], reported := 2 }, w) ∧
        w.pool.map (·.directives.length) = [1] := ⟨_, rfl, rfl⟩
  have hout : Collector.outlet.Unfailing {} := Collector.unfailing_of_unlimited rfl
  obtain ⟨hpool, hturns⟩ := unitOf_again p ⟨"Unit", [0, 0]⟩ Collector.outlet s w _ hfirst
    [(Collector.outlet, { w with sink := {} }),
      (Collector.outlet, { w with sink := {}, trace := {}, unit := none, reported := 9 })]
  refine ⟨p, s, w, _, hfirst, rfl, hgrown, rfl, Prod.ext ?_ hpool⟩
  apply List.ext_getElem?
  rintro (_ | _ | i)
  · rw [hturns 0 _ _ rfl hout]
    rfl
  · rw [hturns 1 _ _ rfl hout]
    rfl
  · rfl

end Walk

end TypingPolicy
