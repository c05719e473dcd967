import TypingPolicy.Binary64.Basic

/-!
# The shortest decimal text of a binary64 number

`shortest` chooses the digits: the fewest that read back as the number, and of those the nearest.
`text` lays them out: positionally while the first digit stands for `10 ^ -4` to `10 ^ 15`, with a
fraction always shown, and with an exponent of at least two digits otherwise.
-/

namespace TypingPolicy.Binary64

/-! ## 1. The digits -/

/-- The exponent of the leading decimal digit of `n / d`, for a positive ratio.  The logarithm to
base two bounds it up to one, and one comparison decides. -/
def leadingExponent (n d : Nat) : Int :=
  let low := (((n.log2 : Int) - d.log2 - 1) * 30103).fdiv 100000
  let next := low + 1
  if d * pow10 next.toNat ≤ n * pow10 (-next).toNat then next else low

/-- The numbers that round to `m * 2 ^ q`, in quarters of its unit: the least, the greatest, and
whether the two ends belong to them. -/
structure Neighbourhood where
  low : Nat
  high : Nat
  closed : Bool

/-- Below a power of two the next number is only half a unit away, unless the unit is the least. -/
def neighbourhood (m : Nat) (q : Int) : Neighbourhood where
  low := 4 * m - if m = significandStart ∧ q ≠ leastExponent then 1 else 2
  high := 4 * m + 2
  closed := m % 2 = 0

/-- Does `x / scale` lie in the neighbourhood? -/
def Neighbourhood.holds (a : Neighbourhood) (x scale : Nat) : Bool :=
  if a.closed then a.low * scale ≤ x && x ≤ a.high * scale
  else a.low * scale < x && x < a.high * scale

/-- The nearest decimal with the given last place that rounds to `m * 2 ^ q`, if one does; of two
equally near the even one. -/
def decimalAt? (m : Nat) (q place : Int) : Option Nat :=
  let a := neighbourhood m q
  -- Quarters of the unit and units of the last place, brought to a common measure.
  let quarter := pow2 (q - 2).toNat * pow10 (-place).toNat
  let unit := pow2 (2 - q).toNat * pow10 place.toNat
  let value := 4 * m * quarter
  let below := value / unit
  let fits (k : Nat) : Bool := a.holds (k * unit) quarter
  match fits below, fits (below + 1) with
  | true, true => some (nearestEven value unit)
  | true, false => some below
  | false, true => some (below + 1)
  | false, false => none

/-- Tries ever more digits. -/
def searchDigits (m : Nat) (q leading : Int) : Nat → Nat → Nat × Int
  | 0, _ => (m, q)
  | fuel + 1, count =>
    let place := leading - count
    match decimalAt? m q place with
    | some k => (k, place)
    | none => searchDigits m q leading fuel (count + 1)

/-- The digits of `m * 2 ^ q` and the place of the last one; seventeen digits always suffice. -/
def shortest (m : Nat) (q : Int) : Nat × Int :=
  let leading := leadingExponent (m * pow2 q.toNat) (pow2 (-q).toNat)
  searchDigits m q leading 18 0

/-! ## 2. The text -/

/-- A decimal without the zeros at its end. -/
def dropZeros : List Char → Int → List Char × Int
  | '0' :: rest, place => dropZeros rest (place + 1)
  | digits, place => (digits, place)

def zeros (n : Nat) : List Char := List.replicate n '0'

/-- `digits * 10 ^ place`, with a point. -/
def positional (digits : List Char) (place : Int) : List Char :=
  if 0 ≤ place then digits ++ zeros place.toNat ++ ['.', '0']
  else
    let after := (-place).toNat
    if after < digits.length then
      digits.take (digits.length - after) ++ '.' :: digits.drop (digits.length - after)
    else '0' :: '.' :: zeros (after - digits.length) ++ digits

/-- `digits * 10 ^ place`, one digit before the point and an exponent after the others. -/
def scientific (digits : List Char) (leading : Int) : List Char :=
  let size := Nat.toDigits 10 leading.natAbs
  digits.take 1 ++ (if digits.length = 1 then [] else '.' :: digits.drop 1)
    ++ 'e' :: (if leading < 0 then '-' else '+') :: zeros (2 - size.length) ++ size

/-- The text of a number that is not negative. -/
def unsignedText (m : Nat) (q : Int) : String :=
  if m = 0 then "0.0"
  else
    let (k, place) := shortest m q
    let (back, place) := dropZeros (Nat.toDigits 10 k).reverse place
    let digits := back.reverse
    let leading := place + digits.length - 1
    String.ofList
      (if -4 ≤ leading ∧ leading < 16 then positional digits place else scientific digits leading)

/-- The shortest text that reads back as the number. -/
def text : Binary64 → String
  | .finite negative m q => (if negative then "-" else "") ++ unsignedText m q
  | .infinite negative => if negative then "-inf" else "inf"
  | .nan => "nan"

end TypingPolicy.Binary64
