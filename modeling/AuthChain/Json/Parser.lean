import AuthChain.Decimal.Scaled
import AuthChain.Json.Failure
import AuthChain.Json.Value

/-!
# Parsed JSON

Reading a document from a text, strictly after the standard: blanks are the four of ASCII and
nesting is bounded. Every function takes the characters left and returns those it did not use, or
stops with what is wrong and the number of bytes left.
-/

namespace AuthChain.Json

/-- The character is a blank of JSON. -/
def isBlank (c : Char) : Bool :=
  c == ' ' || c == '\t' || c == '\n' || c == '\r'

/-- The text without the blanks at its start. -/
def skipBlanks (cs : List Char) : List Char :=
  cs.dropWhile isBlank

/-- The rest of a text behind a word, which must come next. -/
def expect : List Char → List Char → Except Stop (List Char)
  | [], cs => .ok cs
  | w :: ws, c :: cs => if w = c then expect ws cs else .error (.behind .noWord (c :: cs))
  | _ :: _, [] => .error (.here .unfinishedValue [])

/-! ## Texts -/

/-- The value of a hexadecimal digit. -/
def hexDigit? (c : Char) : Option Nat :=
  if '0' ≤ c ∧ c ≤ '9' then some (c.toNat - 48)
  else if 'a' ≤ c ∧ c ≤ 'f' then some (c.toNat - 87)
  else if 'A' ≤ c ∧ c ≤ 'F' then some (c.toNat - 55)
  else none

/-- The number of four hexadecimal digits. With fewer than four bytes left the text is unfinished;
otherwise the four bytes are used also when they are no digits. -/
def hexFour (cs : List Char) : Except Stop (Nat × List Char) :=
  if byteCount (cs.take 4) < 4 then .error (.here .unfinishedText [])
  else
    let wrong : Stop := ⟨.badEscape, byteCount cs - 4⟩
    match cs with
    | a :: b :: c :: d :: rest =>
      match hexDigit? a, hexDigit? b, hexDigit? c, hexDigit? d with
      | some a, some b, some c, some d => .ok (((a * 16 + b) * 16 + c) * 16 + d, rest)
      | _, _, _, _ => .error wrong
    -- four bytes, but fewer than four characters
    | _ => .error wrong

/-- The rest of a text behind a character in the middle of a pair of escapes. -/
def expectInPair (w : Char) : List Char → Except Stop (List Char)
  | [] => .error (.here .unfinishedText [])
  | c :: cs => if c = w then .ok cs else .error (.behind .brokenPair (c :: cs))

/-- The character of an escape by its code: a code of the first half of a pair needs the second
half. -/
def codeEscaped (cs : List Char) : Except Stop (Char × List Char) := do
  let (n, cs) ← hexFour cs
  if 0xdc00 ≤ n ∧ n ≤ 0xdfff then .error (.here .loneSurrogate cs)
  else if 0xd800 ≤ n ∧ n ≤ 0xdbff then do
    let cs ← expectInPair '\\' cs
    let cs ← expectInPair 'u' cs
    let (m, cs) ← hexFour cs
    if 0xdc00 ≤ m ∧ m ≤ 0xdfff then
      .ok (Char.ofNat (0x10000 + (n - 0xd800) * 0x400 + (m - 0xdc00)), cs)
    else .error (.here .loneSurrogate cs)
  else .ok (Char.ofNat n, cs)

/-- The character of an escape, behind its backslash. -/
def escaped : List Char → Except Stop (Char × List Char)
  | [] => .error (.here .unfinishedText [])
  | c :: cs =>
    match c with
    | '"' => .ok ('"', cs)
    | '\\' => .ok ('\\', cs)
    | '/' => .ok ('/', cs)
    | 'b' => .ok ('\x08', cs)
    | 'f' => .ok ('\x0c', cs)
    | 'n' => .ok ('\n', cs)
    | 'r' => .ok ('\r', cs)
    | 't' => .ok ('\t', cs)
    | 'u' => codeEscaped cs
    | _ => .error (.behind .badEscape (c :: cs))

/-- The characters of a text up to its closing quotation mark, at most `fuel` of them. -/
def stringBody : Nat → List Char → Except Stop (List Char × List Char)
  | 0, _ => .error (.here .unfinishedText [])
  | _ + 1, [] => .error (.here .unfinishedText [])
  | fuel + 1, c :: cs =>
    if c = '"' then .ok ([], cs)
    else if c = '\\' then do
      let (e, cs) ← escaped cs
      let (body, cs) ← stringBody fuel cs
      .ok (e :: body, cs)
    else if c.toNat < 0x20 then .error (.behind .controlCharacter (c :: cs))
    else do
      let (body, cs) ← stringBody fuel cs
      .ok (c :: body, cs)

/-- A text, behind its opening quotation mark. -/
def stringRest (cs : List Char) : Except Stop (String × List Char) := do
  let (body, cs) ← stringBody (cs.length + 1) cs
  .ok (String.ofList body, cs)

/-! ## Numbers -/

/-- A written exponent: its sign and its digits. -/
structure Exponent where
  negative : Bool
  digits : List Nat
  deriving DecidableEq, Repr

/-- The parts of a written number. -/
structure Numeral where
  negative : Bool
  whole : List Nat
  fraction : Option (List Nat)
  exponent : Option Exponent
  deriving DecidableEq, Repr

/-- The digits at the start of a text and the text behind them. -/
def digits (cs : List Char) : List Nat × List Char :=
  ((cs.takeWhile Char.isDigit).map fun c => c.toNat - 48, cs.dropWhile Char.isDigit)

/-- The number that digits stand for. -/
def digitsValue (ds : List Nat) : Nat :=
  ds.foldl (fun n d => n * 10 + d) 0

/-- At least one digit and the text behind. -/
def someDigits (cs : List Char) : Except Stop (List Nat × List Char) :=
  match digits cs with
  | ([], rest) => .error (.before .unfinishedValue .badNumber rest)
  | (ds, rest) => .ok (ds, rest)

/-- The digits before the point: a zero stands alone. -/
def wholePart (cs : List Char) : Except Stop (List Nat × List Char) := do
  let (ds, rest) ← someDigits cs
  match ds with
  | 0 :: _ :: _ => .error (.behind .badNumber (cs.drop 1))
  | _ => .ok (ds, rest)

/-- The digits behind a point, if there is one. -/
def fractionPart : List Char → Except Stop (Option (List Nat) × List Char)
  | '.' :: cs => do
    let (ds, rest) ← someDigits cs
    .ok (some ds, rest)
  | cs => .ok (none, cs)

/-- The exponent, if there is one. -/
def exponentPart : List Char → Except Stop (Option Exponent × List Char)
  | [] => .ok (none, [])
  | c :: cs =>
    if c = 'e' ∨ c = 'E' then
      match cs with
      | '-' :: cs => do
        let (ds, rest) ← someDigits cs
        .ok (some ⟨true, ds⟩, rest)
      | '+' :: cs => do
        let (ds, rest) ← someDigits cs
        .ok (some ⟨false, ds⟩, rest)
      | cs => do
        let (ds, rest) ← someDigits cs
        .ok (some ⟨false, ds⟩, rest)
    else .ok (none, c :: cs)

/-- The number that an exponent stands for. -/
def Exponent.value (e : Exponent) : Int :=
  if e.negative then -(digitsValue e.digits : Int) else digitsValue e.digits

/-- The digits of an exponent from which on it is too large for any double, and the reading of a
number need not go on: those behind the first ones that exceed 31 bits. -/
def excessDigits (value : Nat) : List Nat → List Nat
  | [] => []
  | d :: ds => if 2147483647 < value * 10 + d then ds else excessDigits (value * 10 + d) ds

/-- A double with its sign. -/
def signed (negative : Bool) (x : Float) : Float :=
  if negative then -x else x

/-- The value of a written number. Without fraction and exponent it is an integer when it fits 64
bits, except that minus zero is a double; a double out of range has no value. -/
def Numeral.value? (n : Numeral) : Option Value :=
  let whole := digitsValue n.whole
  let asDouble : Option Value :=
    let (significand, power) := Decimal.significandOf n.whole (n.fraction.getD [])
    (Decimal.scaled? significand (power + (n.exponent.map Exponent.value).getD 0)).map fun x =>
      .double (signed n.negative x)
  match n.fraction, n.exponent with
  | none, none =>
    if n.negative then
      if whole = 0 ∨ 9223372036854775808 < whole then asDouble else some (.int (-(whole : Int)))
    else if whole < UInt64.size then some (.int whole)
    else asDouble
  | _, _ => asDouble

/-- A number, behind its sign. -/
def numberRest (negative : Bool) (cs : List Char) : Except Stop (Value × List Char) := do
  let (whole, cs) ← wholePart cs
  let (fraction, cs) ← fractionPart cs
  let (exponent, cs) ← exponentPart cs
  match (⟨negative, whole, fraction, exponent⟩ : Numeral).value? with
  | some v => .ok (v, cs)
  | none =>
    let unread := (exponent.map fun e => (excessDigits 0 e.digits).length).getD 0
    .error ⟨.numberOutOfRange, unread + byteCount cs⟩

/-! ## Documents -/

mutual

/-- A value, blanks before it included. `depth` more containers may be opened; `fuel` bounds the
steps. -/
def value : Nat → Nat → List Char → Except Stop (Value × List Char)
  | 0, _, _ => .error (.here .unfinishedValue [])
  | fuel + 1, depth, cs =>
    match skipBlanks cs with
    | [] => .error (.here .unfinishedValue [])
    | c :: rest =>
      if c = '"' then do
        let (s, rest) ← stringRest rest
        .ok (.string s, rest)
      else if c = '[' then
        match depth with
        | 0 => .error (.behind .nestedTooDeep (c :: rest))
        | depth + 1 =>
          match skipBlanks rest with
          | [] => .error (.here .unfinishedArray [])
          | ']' :: rest => .ok (.array [], rest)
          | rest => do
            let (items, rest) ← elements fuel depth rest
            .ok (.array items, rest)
      else if c = '\x7b' then
        match depth with
        | 0 => .error (.behind .nestedTooDeep (c :: rest))
        | depth + 1 =>
          match skipBlanks rest with
          | [] => .error (.here .unfinishedObject [])
          | '\x7d' :: rest => .ok (.object [], rest)
          | rest => do
            let (entries, rest) ← members fuel depth rest
            .ok (.ofMembers entries, rest)
      else if c = 'n' then (expect ['u', 'l', 'l'] rest).map (.null, ·)
      else if c = 't' then (expect ['r', 'u', 'e'] rest).map (.bool true, ·)
      else if c = 'f' then (expect ['a', 'l', 's', 'e'] rest).map (.bool false, ·)
      else if c = '-' then numberRest true rest
      else if c.isDigit then numberRest false (c :: rest)
      else .error (.behind .noValue (c :: rest))

/-- The items of an array up to its closing bracket, at least one. -/
def elements : Nat → Nat → List Char → Except Stop (List Value × List Char)
  | 0, _, _ => .error (.here .unfinishedArray [])
  | fuel + 1, depth, cs => do
    let (v, cs) ← value fuel depth cs
    match skipBlanks cs with
    | ',' :: cs =>
      match skipBlanks cs with
      | ']' :: cs => .error (.behind .trailingComma (']' :: cs))
      | cs => do
        let (rest, cs) ← elements fuel depth cs
        .ok (v :: rest, cs)
    | ']' :: cs => .ok ([v], cs)
    | cs => .error (.before .unfinishedArray .noArrayEnd cs)

/-- The members of an object up to its closing brace, at least one, without blanks before them. -/
def members : Nat → Nat → List Char → Except Stop (Members × List Char)
  | 0, _, _ => .error (.here .unfinishedObject [])
  | fuel + 1, depth, cs =>
    match cs with
    | '"' :: cs => do
      let (k, cs) ← stringRest cs
      match skipBlanks cs with
      | ':' :: cs => do
        let (v, cs) ← value fuel depth cs
        match skipBlanks cs with
        | ',' :: cs =>
          match skipBlanks cs with
          | '\x7d' :: cs => .error (.behind .trailingComma ('\x7d' :: cs))
          | cs => do
            let (rest, cs) ← members fuel depth cs
            .ok ((k, v) :: rest, cs)
        | '\x7d' :: cs => .ok ([(k, v)], cs)
        | cs => .error (.before .unfinishedObject .noObjectEnd cs)
      | cs => .error (.before .unfinishedObject .noColon cs)
    | cs => .error (.before .unfinishedValue .keyNoText cs)

end

/-- How many containers may be nested. -/
def nestingLimit : Nat := 127

/-- The document that a text is, with nothing but blanks around it. -/
def documentWithin (depth : Nat) (text : List Char) : Except Stop Value := do
  -- at most two nested calls for each character
  let (v, rest) ← value (2 * text.length + 2) depth text
  match skipBlanks rest with
  | [] => .ok v
  | c :: rest => .error (.behind .trailingText (c :: rest))

/-- The document that a text is, with containers nested at most `depth` deep. -/
def parseWithin (depth : Nat) (text : List Char) : Except Failure Value :=
  (documentWithin depth text).mapError (.ofStop text)

/-- The document that a text is. -/
def parse (text : String) : Except Failure Value :=
  parseWithin nestingLimit text.toList

end AuthChain.Json
