/-!
# JSON values

Documents of null, truth values, integers, doubles, texts, arrays and objects. The members of an
object are kept in increasing order of their names, the last one of a name winning.
-/

namespace AuthChain.Json

/-- A JSON document. -/
inductive Value where
  | null
  | bool (b : Bool)
  | int (n : Int)
  | double (x : Float)
  | string (s : String)
  | array (items : List Value)
  | object (members : List (String × Value))
  deriving Inhabited

/-- The members of an object. -/
abbrev Members := List (String × Value)

/-- Put a member at its place, replacing a member of the same name. -/
def insertMember (name : String) (v : Value) : Members → Members
  | [] => [(name, v)]
  | (k, w) :: rest =>
    if name < k then (name, v) :: (k, w) :: rest
    else if k < name then (k, w) :: insertMember name v rest
    else (name, v) :: rest

/-- The object with the given members, the last one of a name winning. -/
def Value.ofMembers (members : Members) : Value :=
  .object (members.foldl (fun ms (k, v) => insertMember k v ms) [])

/-- The member of an object; other values have none. -/
def Value.member? : Value → String → Option Value
  | .object members, name => members.lookup name
  | _, _ => none

end AuthChain.Json
