import AuthChain.Text.Extending
import AuthChain.Text.Printable
import AuthChain.Text.Utf8

/-!
# Quoted text

A text between quotation marks in which every character can be told apart: the common controls, the
quotation mark and the backslash have short escapes, characters that are not printable or attach to
their neighbour are shown by their code point, and all others stand for themselves. Byte sequences
are quoted likewise, with the stray bytes shown in hexadecimal.
-/

namespace AuthChain.Text

/-- A number in lower-case hexadecimal. -/
def hex (n : Nat) : List Char :=
  Nat.toDigits 16 n

/-- The escape of a character by its code point. -/
def codeEscape (c : Char) : List Char :=
  ['\\', 'u', '\x7b'] ++ hex c.toNat ++ ['\x7d']

/-- The written form of a character inside quotation marks. -/
def escapeChar (c : Char) : List Char :=
  if c = '\x00' then ['\\', '0']
  else if c = '\t' then ['\\', 't']
  else if c = '\r' then ['\\', 'r']
  else if c = '\n' then ['\\', 'n']
  else if c = '\\' then ['\\', '\\']
  else if c = '"' then ['\\', '"']
  else if isExtending c || !isPrintable c then codeEscape c
  else [c]

/-- The text in quotation marks. -/
def quote (s : String) : String :=
  String.ofList ('"' :: s.toList.flatMap escapeChar ++ ['"'])

/-- A byte as two upper-case hexadecimal digits. -/
def byteEscape (b : UInt8) : List Char :=
  let digits := (hex b.toNat).map Char.toUpper
  ['\\', 'x'] ++ (if digits.length < 2 then '0' :: digits else digits)

/-- The written form of one unit of a byte sequence. -/
def escapeUnit : Utf8Unit → List Char
  | .char c => escapeChar c
  | .stray b => byteEscape b

/-- A byte sequence in quotation marks. -/
def quoteBytes (bytes : List UInt8) : String :=
  String.ofList ('"' :: (utf8Units bytes).flatMap escapeUnit ++ ['"'])

end AuthChain.Text
