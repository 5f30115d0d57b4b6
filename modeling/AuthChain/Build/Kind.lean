import AuthChain.Text.Layout

/-!
# Kinds of configurers

The kind of a configurer is its full type name; in messages only the part behind the last path
separator is shown.
-/

namespace AuthChain.Build

/-- The part of a path behind its last separator, if it has one. -/
def lastSegment? : List Char → Option (List Char)
  | [] => none
  | c :: rest =>
    match lastSegment? rest with
    | some segment => some segment
    | none => if c = ':' ∧ rest.head? = some ':' then some (rest.drop 1) else none

/-- The identity of a configurer's type. -/
structure ConfigurerKind where
  name : String
  deriving DecidableEq, Repr

namespace ConfigurerKind

/-- The name without its path. -/
def shortName (k : ConfigurerKind) : String :=
  match lastSegment? k.name.toList with
  | some segment => String.ofList segment
  | none => k.name

/-- The kind with its name in quotation marks. -/
def describe (k : ConfigurerKind) : String :=
  Text.applied "ConfigurerKind" [Text.quote k.name]

end ConfigurerKind

end AuthChain.Build
