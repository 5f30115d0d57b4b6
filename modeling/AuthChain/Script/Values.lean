import AuthChain.Build.Processors
import AuthChain.Json.Access

/-!
# Described values

Value types that a document names, each with its own carrier: texts, integers of 64 bits and lists
of texts. Two types with the same carrier are different types.
-/

namespace AuthChain.Script

open Json (Value)

/-- What the values of a type look like. -/
inductive Carrier where
  | text
  | integer
  | texts
  deriving DecidableEq, Repr

/-- The values of a carrier. -/
abbrev Carrier.Values : Carrier → Type
  | text => String
  | integer => Int64
  | texts => List String

/-- A value type by its full name and its carrier. -/
structure ValueType where
  name : String
  carrier : Carrier
  deriving DecidableEq, Repr

/-- The values of a value type. -/
abbrev ValueType.Values (t : ValueType) : Type :=
  t.carrier.Values

/-- The integer of a document. -/
def readInt64 : Value → Int64
  | .int n => Int64.ofInt n
  | _ => 0

/-- The value that a document describes. -/
def readValue : (c : Carrier) → Value → c.Values
  | .text, v => v.text?.getD ""
  | .integer, v => readInt64 v
  | .texts, v => v.items.filterMap Value.text?

/-- A value as a document. -/
def valueReport : (c : Carrier) → c.Values → Value
  | .text, s => .string s
  | .integer, n => .int n.toInt
  | .texts, xs => .texts xs

/-- A value or null. -/
def optionReport (c : Carrier) (x : Option c.Values) : Value :=
  .orNull (x.map (valueReport c))

/-- What a described processor does to a value: append to a text, write one more digit behind a
number, or reverse, empty or lengthen a list. -/
def process : (c : Carrier) → Value → c.Values → c.Values
  | .text, argument, s => s ++ argument.text?.getD ""
  | .integer, argument, n => n * 10 + readInt64 argument
  | .texts, argument, xs =>
    match argument.text?.getD "" with
    | "<reverse>" => xs.reverse
    | "<clear>" => []
    | other => xs ++ [other]

/-- The processor that a document describes; a closure has no order of its own. -/
def readProcessor (t : ValueType) (v : Value) : Build.PostProcessor ValueType.Values where
  code := t
  order := if v.textAt? "via" = some "closure" then 0 else (v.intAt? "order").getD 0
  run := process t.carrier ((v.member? "arg").getD .null)

end AuthChain.Script
