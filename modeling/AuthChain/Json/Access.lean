import AuthChain.Json.Value

/-!
# Access to documents

Reading the members of a document with defaults. A member that is null counts as missing.
-/

namespace AuthChain.Json.Value

/-- The member of a name, unless it is missing or null. -/
def field? (v : Value) (name : String) : Option Value :=
  match v.member? name with
  | some .null => none
  | other => other

/-- The text of a text. -/
def text? : Value → Option String
  | string s => some s
  | _ => none

/-- The items of an array. -/
def items : Value → List Value
  | array items => items
  | _ => []

/-- The members of an object. -/
def members : Value → Members
  | object members => members
  | _ => []

/-- The text member of a name. -/
def textAt? (v : Value) (name : String) : Option String :=
  (v.field? name).bind text?

/-- The text member of a name, or a default. -/
def textAt (v : Value) (name : String) (default : String) : String :=
  (v.textAt? name).getD default

/-- The items of the array member of a name. -/
def itemsAt (v : Value) (name : String) : List Value :=
  ((v.field? name).map items).getD []

/-- The texts of the array member of a name. -/
def textsAt (v : Value) (name : String) : List String :=
  (v.itemsAt name).filterMap text?

/-- The integer member of a name. -/
def intAt? (v : Value) (name : String) : Option Int :=
  match v.field? name with
  | some (int n) => some n
  | _ => none

/-- The truth value of a name, or a default. -/
def boolAt (v : Value) (name : String) (default : Bool) : Bool :=
  match v.field? name with
  | some (bool b) => b
  | _ => default

/-- An array of texts. -/
def texts (xs : List String) : Value :=
  array (xs.map string)

/-- A document or null. -/
def orNull : Option Value → Value
  | some v => v
  | none => null

/-- A text or null. -/
def textOrNull (s : Option String) : Value :=
  orNull (s.map string)

/-- A natural number. -/
def nat (n : Nat) : Value :=
  int n

end AuthChain.Json.Value
