import AuthChain.Act
import AuthChain.Cell
import AuthChain.Error
import AuthChain.Json.Parser
import AuthChain.Log
import AuthChain.TextMap

/-!
# Configuration providers

A provider answers dotted keys with raw values, or has none, or fails. On top of it values are read
as JSON of a wanted shape, with plain text accepted where a text is wanted, and lists also as text
separated by commas. The simplest provider serves a map that is kept in memory.
-/

namespace AuthChain.Config

/-- What happens while configuration is read. -/
inductive Event where
  /-- One of several providers had the value. -/
  | resolved (key provider : String)
  /-- A file is missing and counts as an empty document. -/
  | fileMissing (path : String)
  /-- Settings were loaded. -/
  | loaded (provider : String) (settings : SecuritySettings)
  deriving DecidableEq, Repr

/-- The log line that the event writes. -/
def Event.line : Event → LogLine
  | resolved key provider =>
    ⟨.trace, "Config value resolved", [("key", key), ("provider", provider)]⟩
  | fileMissing path =>
    ⟨.debug, "Config file not found, using empty document", [("path", path)]⟩
  | loaded provider settings =>
    ⟨.debug, "Loaded security settings",
      [("provider", provider),
        ("erase_credentials", Text.truth settings.eraseCredentials),
        ("allow_same_kind_configurers", Text.truth settings.allowSameKindConfigurers)]⟩

/-- A reading of configuration that may fail. -/
abbrev Reading (σ α : Type) := ExceptT ConfigError (Act Event σ) α

/-- A reading that is settled. -/
def Reading.ofExcept {σ α : Type} (x : Except ConfigError α) : Reading σ α :=
  ExceptT.mk (pure x)

/-- A reading that cannot fail. -/
def Reading.ofAct {σ α : Type} (m : Act Event σ α) : Reading σ α :=
  ExceptT.lift m

/-- A source of raw values addressed by dotted keys. -/
structure Provider (σ : Type) where
  name : String
  getRaw : String → Reading σ (Option String)

/-- The error of a value that does not have the wanted shape. -/
def invalid {α : Type} (key : String) : Except Json.Mismatch α → Except ConfigError α
  | .ok a => .ok a
  | .error m => .error (.invalidValue key (.mismatch m))

/-- A raw value read as JSON of the wanted shape; when it is no such JSON, as a JSON text with the
raw value as its contents. -/
def interpret {α : Type} (decoder : Json.Decoder α) (key raw : String) : Except ConfigError α :=
  match (Json.parse raw).toOption.bind fun v => (decoder v).toOption with
  | some a => .ok a
  | none => invalid key (decoder (.string raw))

/-- The pieces of a text between commas, without the blanks around them and without empty ones. -/
def commaList (raw : String) : List String :=
  ((raw.toList.splitOn ',').map Text.stripBlanks).filterMap fun piece =>
    if piece.isEmpty then none else some (String.ofList piece)

/-- A raw value read as a list: as JSON when its first character is an opening bracket, blanks
aside, and as pieces between commas otherwise. -/
def interpretList (key raw : String) : Except ConfigError (List String) :=
  if (Text.dropBlanks raw.toList).head? = some '[' then
    interpret (.list .text) key raw
  else .ok (commaList raw)

namespace Provider

variable {σ α : Type}

/-- The value of a key in the wanted shape. -/
def get (p : Provider σ) (decoder : Json.Decoder α) (key : String) : Reading σ (Option α) := do
  match ← p.getRaw key with
  | none => return none
  | some raw => some <$> Reading.ofExcept (interpret decoder key raw)

/-- The list of a key. -/
def getList (p : Provider σ) (key : String) : Reading σ (Option (List String)) := do
  match ← p.getRaw key with
  | none => return none
  | some raw => some <$> Reading.ofExcept (interpretList key raw)

/-- Serves the values of a map in a cell. -/
def memory (name : String) (cell : Cell σ TextMap) : Provider σ :=
  ⟨name, fun key => ExceptT.mk (Act.gets fun s => .ok ((cell.get s).get? key))⟩

end Provider

/-- The name of a provider of values in memory without a choice. -/
def memoryName : String := "memory"

end AuthChain.Config
