import AuthChain.Json.Value

/-!
# Depth of documents

How deep the arrays and objects of a document are nested, which bounds every recursion into it.
-/

namespace AuthChain.Json

mutual

/-- The number of values on the longest way into the document. -/
def Value.depth : Value → Nat
  | .array items => depthOfItems items + 1
  | .object members => depthOfMembers members + 1
  | _ => 1

def depthOfItems : List Value → Nat
  | [] => 0
  | v :: rest => max v.depth (depthOfItems rest)

def depthOfMembers : List (String × Value) → Nat
  | [] => 0
  | (_, v) :: rest => max v.depth (depthOfMembers rest)

end

end AuthChain.Json
