/-!
# The shortest decimal of a binary fraction

A positive double is a number `m * 2 ^ q`, and the reals that round to it form an interval around
it. The shortest decimal is the point of the coarsest decimal grid that lies in the interval, the
nearer one if there are two. All arithmetic is exact, over quotients of natural numbers.
-/

namespace AuthChain.Decimal

/-- A positive number `significand * 2 ^ exponent`; `lopsided` tells that its lower neighbour is
half as far away as the upper one. -/
structure Binary where
  significand : Nat
  exponent : Int
  lopsided : Bool
  deriving DecidableEq, Repr

/-- A double without its sign: zero, a positive number, or neither. -/
inductive Magnitude where
  | zero
  | positive (b : Binary)
  | infinite
  | undefined
  deriving DecidableEq, Repr

/-- The sign and the magnitude that the 64 bits of a double stand for. -/
def ofBits (bits : UInt64) : Bool × Magnitude :=
  let n := bits.toNat
  let negative := n >>> 63 == 1
  -- the sign, eleven bits of exponent, fifty-two bits of fraction
  let field : Nat := (n >>> 52) % 0x800
  let fraction : Nat := n % 0x10000000000000
  let magnitude :=
    if field == 0x7ff then (if fraction == 0 then .infinite else .undefined)
    else if field == 0 then
      (if fraction == 0 then .zero else .positive ⟨fraction, -1074, false⟩)
    else .positive ⟨0x10000000000000 + fraction, (field : Int) - 1075, fraction == 0 && field != 1⟩
  (negative, magnitude)

/-- A number `digits * 10 ^ exponent`. -/
structure Point where
  digits : Nat
  exponent : Int
  deriving DecidableEq, Repr

/-- A quotient of natural numbers times a power of ten, as numerator and denominator. -/
def scale (num den : Nat) (power : Int) : Nat × Nat :=
  if 0 ≤ power then (num * Nat.pow 10 power.toNat, den) else (num, den * Nat.pow 10 (-power).toNat)

/-- The four times enlarged ends and value of the interval of a number, over one denominator. -/
structure Interval where
  low : Nat
  value : Nat
  high : Nat
  den : Nat
  closed : Bool

/-- The interval of the reals that round to the number. -/
def Binary.interval (b : Binary) : Interval :=
  let up := Nat.pow 2 b.exponent.toNat
  let below := if b.lopsided then 1 else 2
  { low := (4 * b.significand - below) * up
    value := 4 * b.significand * up
    high := (4 * b.significand + 2) * up
    den := 4 * Nat.pow 2 (-b.exponent).toNat
    -- the ends of the interval round to the even neighbour
    closed := b.significand % 2 == 0 }

/-- The point lies in the interval. -/
def Interval.contains (i : Interval) (p : Point) : Bool :=
  let (num, den) := scale p.digits 1 p.exponent
  let n := num * i.den
  if i.closed then i.low * den ≤ n && n ≤ i.high * den else i.low * den < n && n < i.high * den

/-- Twice the distance to the value is compared for the two neighbours on a grid: the lower one is
strictly nearer, or as near and even. -/
def Interval.prefersLower (i : Interval) (lower : Nat) (exponent : Int) : Bool :=
  let (num, den) := scale (2 * lower + 1) 2 exponent
  let middle := num * i.den
  let value := i.value * den
  value < middle || (value == middle && lower % 2 == 0)

/-- The number of decimal digits before the point of a quotient that is at least one. -/
def wholeDigits (n : Nat) : Nat :=
  (Nat.toDigits 10 n).length

/-- The least `j`, at most `limit` steps on, such that `num * 10 ^ j` reaches `den`. -/
def leadingZeros : Nat → Nat → Nat → Nat
  | 0, _, _ => 0
  | limit + 1, num, den => if den ≤ num then 0 else leadingZeros limit (num * 10) den + 1

/-- The `k` with `10 ^ (k - 1) ≤ num / den < 10 ^ k`. -/
def magnitudeOf (num den : Nat) : Int :=
  if den ≤ num then wholeDigits (num / den) else 1 - (leadingZeros (wholeDigits den) num den : Nat)

/-- The point of the grid of `n` digits that lies in the interval, the nearer of two. -/
def Interval.onGrid (i : Interval) (k : Int) (n : Nat) : Option Point :=
  let exponent := k - n
  let (num, den) := scale i.value i.den (-exponent)
  let lower : Point := ⟨num / den, exponent⟩
  let upper : Point := ⟨num / den + 1, exponent⟩
  match i.contains lower, i.contains upper with
  | true, true => some (if i.prefersLower lower.digits exponent then lower else upper)
  | true, false => some lower
  | false, true => some upper
  | false, false => none

/-- The first grid from `n` digits on that has a point in the interval. -/
def Interval.search (i : Interval) (k : Int) : Nat → Nat → Point
  | 0, n => (i.onGrid k n).getD ⟨0, 0⟩
  | grids + 1, n =>
    match i.onGrid k n with
    | some p => p
    | none => i.search k grids (n + 1)

/-- The decimal digits of a number without the zeros at its end. -/
def significantDigits (n : Nat) : List Char :=
  ((Nat.toDigits 10 n).reverse.dropWhile (· == '0')).reverse

/-- Digits `d₁ d₂ …` and the exponent `e` of a number `d₁.d₂… * 10 ^ e`. -/
structure Scientific where
  digits : List Char
  exponent : Int
  deriving DecidableEq, Repr

/-- The shortest decimal that rounds to the number; seventeen digits always suffice. -/
def shortest (b : Binary) : Scientific :=
  let i := b.interval
  let p := i.search (magnitudeOf i.value i.den) 16 1
  ⟨significantDigits p.digits, p.exponent + (wholeDigits p.digits : Int) - 1⟩

end AuthChain.Decimal
