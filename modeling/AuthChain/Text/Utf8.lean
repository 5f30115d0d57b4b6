/-!
# Bytes as text

Reading one character from the front of a byte sequence in UTF-8, in its shortest form and outside
the surrogates, and reading a whole sequence.
-/

namespace AuthChain.Text

/-- The value of a continuation byte. -/
def continuation? (b : UInt8) : Option Nat :=
  if 0x80 ≤ b && b < 0xc0 then some (b.toNat - 0x80) else none

/-- The character of a code point that lies in the range of its encoded length. -/
def scalar? (least n : Nat) : Option Char :=
  if least ≤ n ∧ n.isValidChar then some (Char.ofNat n) else none

/-- The first character of a byte sequence and the bytes after it. -/
def firstChar? : List UInt8 → Option (Char × List UInt8)
  | [] => none
  | a :: rest =>
    if a < 0x80 then some (Char.ofNat a.toNat, rest)
    else if a < 0xe0 then
      match rest with
      | b :: rest => do
        let b ← continuation? b
        let c ← if a < 0xc0 then none else scalar? 0x80 ((a.toNat - 0xc0) * 0x40 + b)
        some (c, rest)
      | _ => none
    else if a < 0xf0 then
      match rest with
      | b :: c :: rest => do
        let b ← continuation? b
        let c ← continuation? c
        let d ← scalar? 0x800 (((a.toNat - 0xe0) * 0x40 + b) * 0x40 + c)
        some (d, rest)
      | _ => none
    else if a < 0xf8 then
      match rest with
      | b :: c :: d :: rest => do
        let b ← continuation? b
        let c ← continuation? c
        let d ← continuation? d
        let e ← scalar? 0x10000 ((((a.toNat - 0xf0) * 0x40 + b) * 0x40 + c) * 0x40 + d)
        some (e, rest)
      | _ => none
    else none

/-- One unit of a byte sequence: a character, or a byte that belongs to none. -/
inductive Utf8Unit where
  | char (c : Char)
  | stray (b : UInt8)
  deriving DecidableEq, Repr

/-- The units of a byte sequence, at most `limit` of them. -/
def unitsUpTo : Nat → List UInt8 → List Utf8Unit
  | 0, _ => []
  | limit + 1, bytes =>
    match firstChar? bytes, bytes with
    | some (c, rest), _ => .char c :: unitsUpTo limit rest
    | none, b :: rest => .stray b :: unitsUpTo limit rest
    | none, [] => []

/-- The units of a byte sequence: each takes at least one byte. -/
def utf8Units (bytes : List UInt8) : List Utf8Unit :=
  unitsUpTo bytes.length bytes

/-- The character of a unit. -/
def Utf8Unit.char? : Utf8Unit → Option Char
  | .char c => some c
  | .stray _ => none

/-- The text that a byte sequence encodes, when every byte belongs to a character. -/
def decodeUtf8? (bytes : List UInt8) : Option String :=
  ((utf8Units bytes).mapM Utf8Unit.char?).map String.ofList

end AuthChain.Text
