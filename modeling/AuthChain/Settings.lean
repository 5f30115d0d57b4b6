import AuthChain.Json.Decode
import AuthChain.Text.Blank

/-!
# Security settings

The settings of a chain and of the anonymous identity, their defaults, their JSON form and the
conditions under which they are usable. A default key for anonymous tokens has to be given, since it
is to be a fresh one each time.
-/

namespace AuthChain

/-- What an unauthenticated request runs as. -/
structure AnonymousSettings where
  key : String
  principal : String
  authorities : List String
  deriving DecidableEq, Repr

/-- The settings of a chain. -/
structure SecuritySettings where
  eraseCredentials : Bool
  allowSameKindConfigurers : Bool
  anonymous : AnonymousSettings
  deriving DecidableEq, Repr

namespace AnonymousSettings

/-- The settings without any choice but a fresh key. -/
def standard (freshKey : String) : AnonymousSettings :=
  ⟨freshKey, "anonymousUser", ["ROLE_ANONYMOUS"]⟩

/-- The JSON form, its members in the order of declaration. -/
def toJson (a : AnonymousSettings) : Json.Value :=
  .object [("key", .string a.key), ("principal", .string a.principal),
    ("authorities", .array (a.authorities.map .string))]

/-- The fields of the JSON form, in the order of an array. -/
def fields : List (Json.Field AnonymousSettings) := [
  ⟨"key", fun v a => do
    let x ← Json.Decoder.text v
    return { a with key := x }⟩,
  ⟨"principal", fun v a => do
    let x ← Json.Decoder.text v
    return { a with principal := x }⟩,
  ⟨"authorities", fun v a => do
    let x ← Json.Decoder.list .text v
    return { a with authorities := x }⟩]

/-- The settings that a JSON form stands for; what is missing is as in the standard settings. -/
def ofJson (freshKey : String) : Json.Decoder AnonymousSettings :=
  .record "AnonymousSettings" fields 0 (standard freshKey)

end AnonymousSettings

/-- What makes settings unusable. -/
inductive SettingsFault where
  | blankKey
  | blankPrincipal
  | noAuthority
  deriving DecidableEq, Repr

namespace SecuritySettings

/-- The settings without any choice but a fresh key. -/
def standard (freshKey : String) : SecuritySettings :=
  ⟨true, false, .standard freshKey⟩

/-- The JSON form, its members in the order of declaration. -/
def toJson (s : SecuritySettings) : Json.Value :=
  .object [("erase_credentials", .bool s.eraseCredentials),
    ("allow_same_kind_configurers", .bool s.allowSameKindConfigurers),
    ("anonymous", s.anonymous.toJson)]

/-- The fields of the JSON form, in the order of an array. -/
def fields (freshKey : String) : List (Json.Field SecuritySettings) := [
  ⟨"erase_credentials", fun v s => do
    let x ← Json.Decoder.bool v
    return { s with eraseCredentials := x }⟩,
  ⟨"allow_same_kind_configurers", fun v s => do
    let x ← Json.Decoder.bool v
    return { s with allowSameKindConfigurers := x }⟩,
  ⟨"anonymous", fun v s => do
    let x ← AnonymousSettings.ofJson freshKey v
    return { s with anonymous := x }⟩]

/-- The settings that a JSON form stands for; what is missing is as in the standard settings. -/
def ofJson (freshKey : String) : Json.Decoder SecuritySettings :=
  .record "SecuritySettings" (fields freshKey) 0 (standard freshKey)

/-- The first fault of the settings: a key or principal of blanks only, or no authority. -/
def fault? (s : SecuritySettings) : Option SettingsFault :=
  if Text.isBlankText s.anonymous.key then some .blankKey
  else if Text.isBlankText s.anonymous.principal then some .blankPrincipal
  else if s.anonymous.authorities.isEmpty then some .noAuthority
  else none

end SecuritySettings

end AuthChain
