/-!
# Failed readings

Why a text is no document, and where: a reading stops with so many bytes of the text left, and the
place of the stop is told by its line, counted from one, and by the number of bytes before it in
this line.
-/

namespace AuthChain.Json

/-- What is wrong with a text at the place where its reading stops. -/
inductive Fault where
  | unfinishedArray
  | unfinishedObject
  | unfinishedText
  | unfinishedValue
  | noColon
  | noArrayEnd
  | noObjectEnd
  | noWord
  | noValue
  | badEscape
  | badNumber
  | numberOutOfRange
  | controlCharacter
  | keyNoText
  | loneSurrogate
  | brokenPair
  | trailingComma
  | trailingText
  | nestedTooDeep
  deriving DecidableEq, Repr

namespace Fault

/-- The text ended too early; another text that begins with it may be a document. -/
def isUnfinished : Fault → Bool
  | unfinishedArray | unfinishedObject | unfinishedText | unfinishedValue => true
  | _ => false

def message : Fault → String
  | unfinishedArray => "EOF while parsing a list"
  | unfinishedObject => "EOF while parsing an object"
  | unfinishedText => "EOF while parsing a string"
  | unfinishedValue => "EOF while parsing a value"
  | noColon => "expected `:`"
  | noArrayEnd => "expected `,` or `]`"
  | noObjectEnd => "expected `,` or `\x7d`"
  | noWord => "expected ident"
  | noValue => "expected value"
  | badEscape => "invalid escape"
  | badNumber => "invalid number"
  | numberOutOfRange => "number out of range"
  | controlCharacter => "control character (\\u0000-\\u001F) found while parsing a string"
  | keyNoText => "key must be a string"
  | loneSurrogate => "lone leading surrogate in hex escape"
  | brokenPair => "unexpected end of hex escape"
  | trailingComma => "trailing comma"
  | trailingText => "trailing characters"
  | nestedTooDeep => "recursion limit exceeded"

end Fault

/-- The number of bytes of characters. -/
def byteCount (cs : List Char) : Nat :=
  cs.foldl (fun n c => n + c.utf8Size) 0

/-- Where a reading stops: what is wrong there, and how many bytes of the text it has not used. -/
structure Stop where
  fault : Fault
  left : Nat
  deriving DecidableEq, Repr

namespace Stop

/-- The reading stops at the characters left. -/
def here (fault : Fault) (cs : List Char) : Stop :=
  ⟨fault, byteCount cs⟩

/-- The reading stops behind the first byte of the characters left, which cannot stand there. -/
def behind (fault : Fault) (cs : List Char) : Stop :=
  ⟨fault, byteCount cs - 1⟩

/-- The text must go on otherwise: it ends too early or has a byte that cannot stand there. -/
def before (ended wrong : Fault) : List Char → Stop
  | [] => ⟨ended, 0⟩
  | cs => behind wrong cs

end Stop

/-- The line and the column behind bytes of a text, from a line and a column on. -/
def placeFrom (line column : Nat) : Nat → List Char → Nat × Nat
  | 0, _ => (line, column)
  | _ + 1, [] => (line, column)
  | n + 1, c :: cs =>
    if c = '\n' then placeFrom (line + 1) 0 n cs
    else placeFrom line (column + min (n + 1) c.utf8Size) (n + 1 - c.utf8Size) cs

/-- Why a text is no document, with the line and the column at which its reading stops. -/
structure Failure where
  fault : Fault
  line : Nat
  column : Nat
  deriving DecidableEq, Repr

namespace Failure

/-- A stop in a text as a failure with its place. -/
def ofStop (text : List Char) (stop : Stop) : Failure :=
  let (line, column) := placeFrom 1 0 (byteCount text - stop.left) text
  ⟨stop.fault, line, column⟩

def message (f : Failure) : String :=
  f.fault.message ++ " at line " ++ toString f.line ++ " column " ++ toString f.column

end Failure

end AuthChain.Json
