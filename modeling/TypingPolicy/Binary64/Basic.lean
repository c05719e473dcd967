/-!
# Binary64 numbers, held exactly

A floating-point number is kept as the significand and the power of two that it stands for, so that
every question about it (is it a whole number? which decimals read back as it?) is a question about
`Nat` and `Int`.  Numbers enter through `ofDecimal`, which rounds once, to the nearest representable
number and to the even significand when two are equally near.
-/

namespace TypingPolicy

/-- A binary64 number.  `finite negative m q` stands for `± m * 2 ^ q`; the numbers that
`Binary64.ofRatio` builds have `m < 2 ^ 53` and the least `q ≥ -1074` that allows it, so each
value other than zero has one form. -/
inductive Binary64 where
  | finite (negative : Bool) (significand : Nat) (exponent : Int)
  | infinite (negative : Bool)
  | nan
  deriving DecidableEq, Repr, Inhabited

namespace Binary64

/-! ## 1. Rounding a ratio -/

def pow2 (n : Nat) : Nat := Nat.pow 2 n

def pow10 (n : Nat) : Nat := Nat.pow 10 n

/-- What a full significand lies below: two to the power of 53. -/
def significandEnd : Nat := 9007199254740992

/-- The least full significand, half of that. -/
def significandStart : Nat := 4503599627370496

/-- The whole number nearest to `n / d`, the even one of two equally near. -/
def nearestEven (n d : Nat) : Nat :=
  let rest := 2 * (n % d)
  if rest < d ∨ (rest = d ∧ n / d % 2 = 0) then n / d else n / d + 1

/-- Numerator and denominator of `n / d` measured in units of `2 ^ q`. -/
def inUnits (q : Int) (n d : Nat) : Nat × Nat :=
  (n * pow2 (-q).toNat, d * pow2 q.toNat)

/-- The least exponent of a unit, reached by numbers too small for a full significand. -/
def leastExponent : Int := -1074

/-- The greatest exponent of a unit. -/
def greatestExponent : Int := 971

/-- The exponent at which `n / d` has its 53 bits, or the least one. -/
def unitExponent (n d : Nat) : Int :=
  let exact := (n.log2 : Int) - d.log2 - 53
  let q := if exact < leastExponent then leastExponent else exact
  let (n', d') := inUnits q n d
  if n' / d' < significandEnd then q else q + 1

/-- The binary64 number nearest to `± n / d`. -/
def ofRatio (negative : Bool) (n d : Nat) : Binary64 :=
  if n = 0 then .finite negative 0 leastExponent
  else
    let q := unitExponent n d
    let (n', d') := inUnits q n d
    let m := nearestEven n' d'
    -- Rounding up may need one bit more, and then the significand is a power of two.
    let (m, q) := if m = significandEnd then (significandStart, q + 1) else (m, q)
    if greatestExponent < q then .infinite negative else .finite negative m q

/-- The binary64 number nearest to `± digits * 10 ^ exponent`.  Exponents that lie far outside the
range are decided without computing the power. -/
def ofDecimal (negative : Bool) (digits : Nat) (exponent : Int) : Binary64 :=
  if digits = 0 then ofRatio negative 0 1
  else if 400 < exponent then .infinite negative
  else if exponent < -(digits.log2 + 400 : Int) then ofRatio negative 0 1
  else ofRatio negative (digits * pow10 exponent.toNat) (pow10 (-exponent).toNat)

/-! ## 2. Whole numbers and equality -/

/-- The number as an integer, if it is a whole number. -/
def toInt? : Binary64 → Option Int
  | .finite negative m q =>
    let unit := pow2 (-q).toNat
    if m % unit = 0 then
      let whole : Int := (m / unit * pow2 q.toNat : Nat)
      some (if negative then -whole else whole)
    else none
  | _ => none

/-- Equality of numbers: the two zeros are equal and a NaN equals nothing. -/
def same : Binary64 → Binary64 → Bool
  | .nan, _ | _, .nan => false
  | .finite _ 0 _, .finite _ 0 _ => true
  | x, y => x == y

end Binary64

end TypingPolicy
