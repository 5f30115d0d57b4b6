/-!
# Reading decimals by scaling

A decimal is read as a significand of 64 bits and a power of ten: digits that no longer fit are
dropped, the significand is rounded to a double, and the double is multiplied with or divided by
the power of ten. A result beyond the doubles is refused.
-/

namespace AuthChain.Decimal

/-- The greatest significand. -/
def significandLimit : Nat := UInt64.size - 1

/-- Append digits to a significand as long as it fits; the second part counts the digits left. -/
def absorb (significand : Nat) : List Nat → Nat × Nat
  | [] => (significand, 0)
  | d :: rest =>
    if significand * 10 + d ≤ significandLimit then absorb (significand * 10 + d) rest
    else (significand, rest.length + 1)

/-- The significand and the power of ten of the digits before and behind a point. -/
def significandOf (whole fraction : List Nat) : Nat × Int :=
  let (front, dropped) := absorb 0 whole
  let (significand, unused) := absorb front fraction
  (significand, (dropped : Int) - (fraction.length - unused : Nat))

/-- A power of ten with an exponent up to 308. -/
def powerOfTen (n : Nat) : Float :=
  Float.ofScientific 1 false n

/-- The double `significand * 10 ^ exponent`, none when it is too large. -/
def scaled? (significand : Nat) (exponent : Int) : Option Float :=
  let f := Float.ofNat significand
  if 0 ≤ exponent then
    if exponent ≤ 308 then
      let product := f * powerOfTen exponent.toNat
      if product.isInf then none else some product
    else if significand = 0 then some f
    else none
  else
    let n := exponent.natAbs
    if n ≤ 308 then some (f / powerOfTen n)
    else if n ≤ 616 then some (f / powerOfTen 308 / powerOfTen (n - 308))
    else some 0.0

end AuthChain.Decimal
