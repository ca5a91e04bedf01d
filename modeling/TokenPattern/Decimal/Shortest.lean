import TokenPattern.Decimal.Binary64

/-!
# The shortest decimal that reads back

A finite binary number is shown by the fewest decimal digits that still lie nearer to it than to
any other binary number; of two such decimals the nearer is taken, and of two equally near ones the
even one.  `Binary64.shortest` finds the digits by exact arithmetic on natural numbers: on ever
finer decimal grids it tries the two neighbours of the number until one lies in the interval of
numbers that round to it.

The digits are laid out with a decimal point if it stands not too far from them (`hasPoint`), and
with an exponent otherwise.
-/

namespace TokenPattern

/-! ## Digits -/

/-- A decimal number `digits · 10 ^ exponent`. -/
structure ShortDecimal where
  digits : Nat
  exponent : Int
deriving DecidableEq, Inhabited

/-- The magnitudes that round to a binary number, over a common denominator: `low` and `high` are
the ends and `value` is the number itself; the ends belong to the interval when `closed` holds. -/
structure RoundingInterval where
  low : Nat
  value : Nat
  high : Nat
  denominator : Nat
  closed : Bool

namespace RoundingInterval

/-- Whether `n` units of `unit / denominator` lie in the interval. -/
def holds (r : RoundingInterval) (n unit : Nat) : Bool :=
  let x := n * unit
  if r.closed then r.low ≤ x && x ≤ r.high else r.low < x && x < r.high

/-- The interval with numerators scaled by `n`. -/
def scale (r : RoundingInterval) (n : Nat) : RoundingInterval :=
  { r with low := r.low * n, value := r.value * n, high := r.high * n }

/-- The neighbour of the value on the grid of multiples of `unit` that lies in the interval, the
nearer one if both do, the even one if both are equally near. -/
def neighbour? (r : RoundingInterval) (unit : Nat) : Option Nat :=
  let below := r.value / unit
  let above := below + 1
  match r.holds below unit, r.holds above unit with
  | true, true =>
    let down := r.value - below * unit
    let up := above * unit - r.value
    if down < up then some below
    else if up < down then some above
    else if below % 2 = 0 then some below
    else some above
  | true, false => some below
  | false, true => some above
  | false, false => none

/-- The neighbour of the value on the grid of multiples of `10 ^ k`. -/
def onGrid? (r : RoundingInterval) (k : Int) : Option Nat :=
  if 0 ≤ k then r.neighbour? (r.denominator * Nat.pow 10 k.natAbs)
  else (r.scale (Nat.pow 10 k.natAbs)).neighbour? r.denominator

/-- The first hit on the grids `10 ^ k`, `10 ^ (k - 1)`, … -/
def search (r : RoundingInterval) : Nat → Int → ShortDecimal
  | 0, k => ⟨0, k⟩
  | n + 1, k =>
    match r.onGrid? k with
    | some digits => ⟨digits, k⟩
    | none => search r n (k - 1)

end RoundingInterval

namespace Binary64

/-- The magnitudes that round to a finite number, in quarters of its last place. -/
def roundingInterval (x : Binary64) : RoundingInterval :=
  let m := x.significand
  let q := x.exponent - 2
  let scale := if 0 ≤ q then Nat.pow 2 q.natAbs else 1
  { low := (4 * m - if x.lowerGapIsHalf then 1 else 2) * scale
    value := 4 * m * scale
    high := (4 * m + 2) * scale
    denominator := if 0 ≤ q then 1 else Nat.pow 2 q.natAbs
    closed := m % 2 = 0 }

/-- A power of ten above a quotient. -/
def magnitude (numerator denominator : Nat) : Int :=
  if denominator ≤ numerator then (Nat.toDigits 10 (numerator / denominator)).length
  else 1 - (Nat.toDigits 10 (denominator / numerator)).length

/-- The shortest decimal that reads back as a finite number other than zero.  Eighteen grids are
enough, because seventeen digits always are and the first grid may be one too coarse. -/
def shortest (x : Binary64) : ShortDecimal :=
  let r := x.roundingInterval
  r.search 20 (magnitude r.value r.denominator)

end Binary64

/-! ## Layout -/

/-- Whether a decimal point is written, given where it stands, counted in digits from the front of
the digits: numbers from `0.00001` up to sixteen digits before the point have no exponent. -/
def hasPoint (place : Int) : Bool := -4 ≤ place && place ≤ 16

/-- A run of zeros. -/
def zeros (n : Nat) : String := String.ofList (List.replicate n '0')

/-- An exponent, always with its sign. -/
def exponentText (power : Int) : String :=
  "e" ++ (if power < 0 then "-" else "+") ++ power.natAbs.repr

/-- Lays out a positive decimal: a number without a fraction keeps `.0`, and an exponent follows
the first digit. -/
def ShortDecimal.layout (d : ShortDecimal) : String :=
  let digits := Nat.repr d.digits
  let place := (digits.length : Int) + d.exponent
  if hasPoint place then
    if 0 ≤ d.exponent then digits ++ zeros d.exponent.natAbs ++ ".0"
    else if 0 < place then
      String.ofList (digits.toList.take place.natAbs) ++ "." ++
        String.ofList (digits.toList.drop place.natAbs)
    else "0." ++ zeros place.natAbs ++ digits
  else
    let fraction := digits.toList.drop 1
    String.ofList (digits.toList.take 1) ++
      (if fraction.isEmpty then "" else "." ++ String.ofList fraction) ++ exponentText (place - 1)

/-- The text of a binary number. -/
def Binary64.render (x : Binary64) : String :=
  let sign := if x.negative then "-" else ""
  if !x.isFinite then if x.fraction = 0 then sign ++ "inf" else "NaN"
  else if x.significand = 0 then sign ++ "0.0"
  else sign ++ x.shortest.layout

end TokenPattern
