/-!
# Blanks

The characters with the property White_Space, and texts without blanks at their ends.
-/

namespace AuthChain.Text

/-- The character has the property White_Space. -/
def isBlank (c : Char) : Bool :=
  let n := c.toNat
  (0x9 ≤ n && n ≤ 0xd) || n == 0x20 || n == 0x85 || n == 0xa0 || n == 0x1680 ||
    (0x2000 ≤ n && n ≤ 0x200a) || n == 0x2028 || n == 0x2029 || n == 0x202f || n == 0x205f ||
    n == 0x3000

/-- The text without the blanks at its start. -/
def dropBlanks (cs : List Char) : List Char :=
  cs.dropWhile isBlank

/-- The text without the blanks at its two ends. -/
def stripBlanks (cs : List Char) : List Char :=
  (dropBlanks (dropBlanks cs).reverse).reverse

/-- The text without the blanks at its two ends. -/
def trim (s : String) : String :=
  String.ofList (stripBlanks s.toList)

/-- The text holds nothing but blanks. -/
def isBlankText (s : String) : Bool :=
  s.toList.all isBlank

end AuthChain.Text
