import TypingPolicy.Violation

/-!
# Where reports go

An outlet takes reports one by one, and may refuse one; what it already holds is never looked at by
those who report.  It also takes debug lines, which it cannot refuse.  The outlet of this file is the
collector, which keeps reports up to a capacity.
-/

namespace TypingPolicy

/-- How reports and debug lines change a state `σ`, and which refusals `ε` there are. -/
structure Outlet (ε σ : Type) where
  report : Report → σ → Except ε σ
  debug : String → σ → σ

/-- Reports in the order received.  Without a capacity there is room for any number. -/
structure Collector where
  reports : List Report := []
  capacity : Option Nat := none
  deriving DecidableEq, Repr, Inhabited

/-- The refusal of a collector whose capacity is used up. -/
inductive Full where
  | full
  deriving DecidableEq, Repr, Inhabited

namespace Collector

def isFull (k : Collector) : Bool := k.capacity.any (· ≤ k.reports.length)

def add (r : Report) (k : Collector) : Except Full Collector :=
  if k.isFull then .error .full else .ok { k with reports := k.reports ++ [r] }

def messages (k : Collector) : List String := k.reports.map (·.message)

def clear (k : Collector) : Collector := { k with reports := [] }

/-- Keeps reports and drops debug lines. -/
def outlet : Outlet Full Collector := ⟨add, fun _ k => k⟩

end Collector

end TypingPolicy
