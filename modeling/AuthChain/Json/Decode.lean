import AuthChain.Json.Printer
import AuthChain.Text.Layout

/-!
# Values decoded from JSON

Turning a document into a value of a known shape. A mismatch names what was found and what was
expected; records may also be given as arrays, whose length may then be wrong.
-/

namespace AuthChain.Json

/-- What a decoder asks for. -/
inductive Expected where
  | boolean
  | text
  | sequence
  | mapping
  | signed64
  | unsigned8
  | record (name : String)
  deriving DecidableEq, Repr

/-- The description of what is asked for. -/
def Expected.describe : Expected → String
  | boolean => "a boolean"
  | text => "a string"
  | sequence => "a sequence"
  | mapping => "a map"
  | signed64 => "i64"
  | unsigned8 => "u8"
  | record name => "struct " ++ name

/-- Why a document does not decode. -/
inductive Mismatch where
  | shape (found : Value) (expected : Expected)
  | tooShort (length : Nat) (record : String) (fields : Nat)
  | tooLong (length : Nat)

/-- The description of a document by its outermost constructor. -/
def Value.describe : Value → String
  | .null => "null"
  | .bool b => "boolean `" ++ Text.truth b ++ "`"
  | .int n => "integer `" ++ String.ofList (printInt n) ++ "`"
  | .double x => "floating point `" ++ String.ofList (printDouble x) ++ "`"
  | .string s => "string " ++ Text.quote s
  | .array _ => "sequence"
  | .object _ => "map"

/-- The text of a mismatch. -/
def Mismatch.message : Mismatch → String
  | shape found expected => "invalid type: " ++ found.describe ++ ", expected " ++ expected.describe
  | tooShort length record fields =>
    "invalid length " ++ toString length ++ ", expected struct " ++ record ++ " with " ++
      toString fields ++ " elements"
  | tooLong length => "invalid length " ++ toString length ++ ", expected fewer elements in array"

/-- A way to decode documents. -/
abbrev Decoder (α : Type) := Value → Except Mismatch α

namespace Decoder

/-- A truth value. -/
def bool : Decoder Bool
  | .bool b => .ok b
  | v => .error (.shape v .boolean)

/-- A text. -/
def text : Decoder String
  | .string s => .ok s
  | v => .error (.shape v .text)

/-- Any document. -/
def any : Decoder Value
  | v => .ok v

/-- An integer of 64 bits. -/
def signed64 : Decoder Int
  | .int n =>
    if -9223372036854775808 ≤ n ∧ n ≤ 9223372036854775807 then .ok n
    else .error (.shape (.int n) .signed64)
  | v => .error (.shape v .signed64)

/-- A natural number of 8 bits. -/
def unsigned8 : Decoder Int
  | .int n => if 0 ≤ n ∧ n ≤ 255 then .ok n else .error (.shape (.int n) .unsigned8)
  | v => .error (.shape v .unsigned8)

/-- An array of items of one shape. -/
def list {α : Type} (item : Decoder α) : Decoder (List α)
  | .array items => items.mapM item
  | v => .error (.shape v .sequence)

/-- Null or a value. -/
def optional {α : Type} (inner : Decoder α) : Decoder (Option α)
  | .null => .ok none
  | v => (inner v).map some

/-- Text members of an object, in their order. -/
def texts : Decoder (List (String × String))
  | .object members => members.mapM fun (k, v) => (text v).map (k, ·)
  | v => .error (.shape v .mapping)

end Decoder

/-- A field of a record: its name and how a document sets it. -/
structure Field (α : Type) where
  name : String
  set : Value → α → Except Mismatch α

/-- Set the fields of a record from the members of an object, in their order; members that are no
field are ignored. -/
def setMembers {α : Type} (fields : List (Field α)) : Members → α → Except Mismatch α
  | [], a => .ok a
  | (name, v) :: rest, a => do
    let a ←
      match fields.find? (·.name == name) with
      | some field => field.set v a
      | none => .ok a
    setMembers fields rest a

/-- Set the fields of a record from the items of an array, in the order of the fields. -/
def setItems {α : Type} : List (Field α) → List Value → α → Except Mismatch α
  | field :: fields, v :: rest, a => do
    let a ← field.set v a
    setItems fields rest a
  | _, _, a => .ok a

/-- A record with the given name and fields over a default. As an array it needs at least `needed`
items and may not have more items than fields. -/
def Decoder.record {α : Type} (name : String) (fields : List (Field α)) (needed : Nat) (start : α) :
    Decoder α
  | .object members => setMembers fields members start
  | .array items => do
    let a ← setItems fields items start
    -- a wrong item is reported before a wrong number of items
    if items.length < needed then .error (.tooShort items.length name fields.length)
    else if fields.length < items.length then .error (.tooLong items.length)
    else .ok a
  | v => .error (.shape v (.record name))

end AuthChain.Json
