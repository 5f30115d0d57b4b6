/-!
# Fingerprints of texts

A hash of 64 bits of a text: the bytes of the text and an end mark are mixed into four words by one
round for every eight bytes and three rounds at the end.
-/

namespace AuthChain.Auth

/-- The four words that are mixed. -/
structure Mixer where
  a : UInt64
  b : UInt64
  c : UInt64
  d : UInt64
  deriving DecidableEq, Repr

namespace Mixer

/-- The words before the first byte. -/
def start : Mixer :=
  ⟨0x736f6d6570736575, 0x646f72616e646f6d, 0x6c7967656e657261, 0x7465646279746573⟩

/-- The bits of a word turned to the left. -/
def rotate (x : UInt64) (n : UInt64) : UInt64 :=
  (x <<< n) ||| (x >>> (64 - n))

/-- One round of additions, turns and exclusive ors. -/
def round (m : Mixer) : Mixer :=
  let a := m.a + m.b
  let b := rotate m.b 13 ^^^ a
  let a := rotate a 32
  let c := m.c + m.d
  let d := rotate m.d 16 ^^^ c
  let a := a + d
  let d := rotate d 21 ^^^ a
  let c := c + b
  let b := rotate b 17 ^^^ c
  let c := rotate c 32
  ⟨a, b, c, d⟩

/-- Mix in one word. -/
def absorb (m : Mixer) (word : UInt64) : Mixer :=
  let m := round { m with d := m.d ^^^ word }
  { m with a := m.a ^^^ word }

/-- The hash after the last word. -/
def finish (m : Mixer) : UInt64 :=
  let m := round (round (round { m with c := m.c ^^^ 0xff }))
  m.a ^^^ m.b ^^^ m.c ^^^ m.d

end Mixer

/-- The word of up to eight bytes, the first byte lowest. -/
def wordOf (bytes : List UInt8) : UInt64 :=
  bytes.foldr (fun b w => w <<< 8 ||| b.toUInt64) 0

/-- Mix in the full words of a byte sequence and then the rest with the length, at most `limit`
words. -/
def absorbBytes (length : Nat) : Nat → List UInt8 → Mixer → Mixer
  | 0, bytes, m => m.absorb (wordOf bytes ||| (UInt64.ofNat length <<< 56))
  | limit + 1, bytes, m =>
    if bytes.length < 8 then m.absorb (wordOf bytes ||| (UInt64.ofNat length <<< 56))
    else absorbBytes length limit (bytes.drop 8) (m.absorb (wordOf (bytes.take 8)))

/-- The fingerprint of a text: of its bytes and the byte 255 as the end mark. -/
def fingerprint (s : String) : UInt64 :=
  let bytes := s.toUTF8.toList ++ [0xff]
  (absorbBytes bytes.length bytes.length bytes .start).finish

end AuthChain.Auth
