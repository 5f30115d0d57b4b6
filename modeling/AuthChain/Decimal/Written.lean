import AuthChain.Decimal.Shortest

/-!
# Written decimals

The text of a number given by its digits and exponent: positional for exponents in a range, with a
digit behind the point, and scientific with a signed exponent outside it.
-/

namespace AuthChain.Decimal

/-- The exponents that are written positionally, least and greatest. -/
structure Positional where
  least : Int
  greatest : Int
  deriving DecidableEq, Repr

/-- `n` zeros. -/
def zeros (n : Nat) : List Char :=
  List.replicate n '0'

/-- The digits with a point among them or zeros around them. -/
def positionalText (s : Scientific) : List Char :=
  if s.exponent < 0 then ['0', '.'] ++ zeros (-s.exponent - 1).toNat ++ s.digits
  else
    let whole := s.exponent.toNat + 1
    if s.digits.length ≤ whole then s.digits ++ zeros (whole - s.digits.length) ++ ['.', '0']
    else s.digits.take whole ++ '.' :: s.digits.drop whole

/-- One digit, the others behind a point, and the exponent with its sign. -/
def scientificText (s : Scientific) : List Char :=
  let fraction := s.digits.drop 1
  s.digits.take 1 ++ (if fraction.isEmpty then [] else '.' :: fraction) ++
    ['e', if s.exponent < 0 then '-' else '+'] ++ Nat.toDigits 10 s.exponent.natAbs

/-- The text of digits and exponent. -/
def written (form : Positional) (s : Scientific) : List Char :=
  if form.least ≤ s.exponent ∧ s.exponent ≤ form.greatest then positionalText s
  else scientificText s

/-- The text of a double; one without a decimal is written as `empty`. -/
def writtenDouble (form : Positional) (empty : String) (bits : UInt64) : List Char :=
  let (negative, magnitude) := ofBits bits
  let sign := if negative then ['-'] else []
  match magnitude with
  | .zero => sign ++ ['0', '.', '0']
  | .positive b => sign ++ written form (shortest b)
  | .infinite => empty.toList
  | .undefined => empty.toList

end AuthChain.Decimal
