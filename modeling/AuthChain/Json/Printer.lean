import AuthChain.Decimal.Written
import AuthChain.Json.Value

/-!
# Printed JSON

The compact text of a document: no blanks, members in their order, texts escaped only where JSON
demands it, doubles by their shortest decimal.
-/

namespace AuthChain.Json

/-- Doubles are written positionally for decimal exponents from -5 to 15. -/
def doubleForm : Decimal.Positional :=
  ⟨-5, 15⟩

/-- The text of a double. -/
def printDouble (x : Float) : List Char :=
  Decimal.writtenDouble doubleForm "null" x.toBits

/-- The text of an integer. -/
def printInt (n : Int) : List Char :=
  if n < 0 then '-' :: Nat.toDigits 10 n.natAbs else Nat.toDigits 10 n.natAbs

/-- The escape of a control character by its code. -/
def controlEscape (c : Char) : List Char :=
  ['\\', 'u', '0', '0'] ++
    (if c.toNat < 0x10 then ['0'] else ['1']) ++ Nat.toDigits 16 (c.toNat % 0x10)

/-- The written form of a character of a text. -/
def printChar (c : Char) : List Char :=
  if c = '"' then ['\\', '"']
  else if c = '\\' then ['\\', '\\']
  else if c = '\x08' then ['\\', 'b']
  else if c = '\x0c' then ['\\', 'f']
  else if c = '\n' then ['\\', 'n']
  else if c = '\r' then ['\\', 'r']
  else if c = '\t' then ['\\', 't']
  else if c.toNat < 0x20 then controlEscape c
  else [c]

/-- The text of a text. -/
def printString (s : String) : List Char :=
  '"' :: s.toList.flatMap printChar ++ ['"']

mutual

/-- The compact text of a document. -/
def print : Value → List Char
  | .null => ['n', 'u', 'l', 'l']
  | .bool true => ['t', 'r', 'u', 'e']
  | .bool false => ['f', 'a', 'l', 's', 'e']
  | .int n => printInt n
  | .double x => printDouble x
  | .string s => printString s
  | .array items => '[' :: printItems items ++ [']']
  | .object members => '\x7b' :: printMembers members ++ ['\x7d']

/-- The texts of the items of an array, separated by commas. -/
def printItems : List Value → List Char
  | [] => []
  | [v] => print v
  | v :: w :: rest => print v ++ ',' :: printItems (w :: rest)

/-- The texts of the members of an object, separated by commas. -/
def printMembers : List (String × Value) → List Char
  | [] => []
  | [(k, v)] => printString k ++ ':' :: print v
  | (k, v) :: m :: rest => printString k ++ ':' :: print v ++ ',' :: printMembers (m :: rest)

end

/-- The compact text of a document. -/
def Value.compact (v : Value) : String :=
  String.ofList (print v)

end AuthChain.Json
