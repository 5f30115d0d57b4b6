import AuthChain.Config.Provider
import AuthChain.Text.UpperCase

/-!
# Values of the environment

Dotted keys name variables of the environment: in upper case, with underscores for dots and hyphens,
behind an optional common beginning.
-/

namespace AuthChain.Config

/-- The value of a variable: a text, or bytes that are none. -/
inductive VariableValue where
  | text (s : String)
  | bytes (b : List UInt8)
  deriving DecidableEq, Repr

/-- The value that a byte sequence gives a variable. -/
def VariableValue.ofBytes (b : List UInt8) : VariableValue :=
  match Text.decodeUtf8? b with
  | some s => .text s
  | none => .bytes b

/-- The variables with their values. -/
structure Environment where
  bindings : List (String × VariableValue)

namespace Environment

/-- No variables. -/
def empty : Environment :=
  ⟨[]⟩

/-- Set a variable. -/
def set (e : Environment) (name : String) (v : VariableValue) : Environment :=
  ⟨(name, v) :: e.bindings.filter (·.1 != name)⟩

/-- Remove a variable. -/
def unset (e : Environment) (name : String) : Environment :=
  ⟨e.bindings.filter (·.1 != name)⟩

/-- The text of a variable, none when it is not set. -/
def read (e : Environment) (name : String) : Except ConfigError (Option String) :=
  match e.bindings.lookup name with
  | none => .ok none
  | some (.text s) => .ok (some s)
  | some (.bytes b) => .error (.environment (.notText b))

end Environment

/-- A beginning of variable names that ends in an underscore, unless it is empty. -/
def underscored (start : String) : String :=
  if start.isEmpty || start.toList.getLast? = some '_' then start else start ++ "_"

/-- An underscore in the place of a dot or a hyphen. -/
def underscore (c : Char) : Char :=
  if c = '.' ∨ c = '-' then '_' else c

/-- The name of the variable for a key. -/
def variableName (start : Option String) (key : String) : String :=
  let name := String.ofList ((Text.upperCase key).toList.map underscore)
  match start with
  | some start => Text.upperCase start ++ name
  | none => name

/-- Serves the variables of the environment that is part of the state. -/
def Provider.environment {σ : Type} (start : Option String) (environment : σ → Environment) :
    Provider σ :=
  ⟨"env", fun key => ExceptT.mk (Act.gets fun s => (environment s).read (variableName start key))⟩

/-- The description of a provider of the environment. -/
def describeEnvironmentProvider (start : Option String) : String :=
  Text.recorded "EnvConfigProvider" [("prefix", Text.optional Text.quote start)]

end AuthChain.Config
