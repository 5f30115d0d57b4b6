import AuthChain.Auth.Error
import AuthChain.Build.Kind
import AuthChain.Build.State
import AuthChain.Json.Decode
import AuthChain.Json.Parser
import AuthChain.Settings

/-!
# Errors

The errors of builds, resolutions and configuration, each by its cause; the texts are given by one
function for each type. Errors of configuration are seen as errors of the whole through
`Error.ofConfig`.
-/

namespace AuthChain

open Build (State ConfigurerKind)

/-- Why an operation was refused in the state in which it was attempted. -/
inductive IllegalState where
  | badTransition (before after : State)
  | registrationClosed (kind : ConfigurerKind) (state : State)
  | severalConfigurers (kind : ConfigurerKind) (count : Nat)
  | failedBefore (state : State)
  | missingObject
  | nestedRegistration (kind : ConfigurerKind)
  | missingShared (typeName : String)
  | stated (message : String)
  deriving DecidableEq, Repr

def IllegalState.message : IllegalState → String
  | badTransition before after =>
    "illegal build state transition: " ++ before.name ++ " -> " ++ after.name
  | registrationClosed kind state =>
    "cannot apply " ++ kind.shortName ++ " to a builder that is already " ++ state.name
  | severalConfigurers kind count =>
    "only one configurer expected for " ++ kind.shortName ++ ", but got " ++ toString count
  | failedBefore state =>
    "a previous build failed while " ++ state.name ++ "; builders cannot be rebuilt"
  | missingObject => "builder is built but holds no object"
  | nestedRegistration kind =>
    kind.shortName ++ " was registered while initializing late-registered configurers; " ++
      "nested registration is limited to one level"
  | missingShared typeName => "shared object " ++ typeName ++ " has not been set"
  | stated message => message

/-- A fault of a JSON text or of a document that does not decode. -/
inductive JsonFault where
  | text (failure : Json.Failure)
  | document (mismatch : Json.Mismatch)

def JsonFault.message : JsonFault → String
  | text failure => failure.message
  | document mismatch => mismatch.message

/-- Why a file could not be read. -/
inductive FileFault where
  | isDirectory
  | notDirectory
  | nameTooLong
  | nulInPath
  | notText
  | stated (message : String)
  deriving DecidableEq, Repr

def FileFault.message : FileFault → String
  | isDirectory => "Is a directory (os error 21)"
  | notDirectory => "Not a directory (os error 20)"
  | nameTooLong => "File name too long (os error 36)"
  | nulInPath => "file name contained an unexpected NUL byte"
  | notText => "stream did not contain valid UTF-8"
  | stated message => message

/-- Why a variable of the environment has no text. -/
inductive VariableFault where
  | absent
  | notText (bytes : List UInt8)
  deriving DecidableEq, Repr

def VariableFault.message : VariableFault → String
  | absent => "environment variable not found"
  | notText bytes => "environment variable was not valid unicode: " ++ Text.quoteBytes bytes

/-- Why a configured value cannot be used. -/
inductive ValueFault where
  | mismatch (mismatch : Json.Mismatch)
  | blank
  | noAuthority
  | stated (message : String)

def ValueFault.message : ValueFault → String
  | mismatch m => m.message
  | blank => "must not be empty"
  | noAuthority => "at least one authority is required"
  | stated message => message

/-- Errors while reading configuration. -/
inductive ConfigError where
  | invalidValue (key : String) (fault : ValueFault)
  | serialization (fault : JsonFault)
  | io (fault : FileFault)
  | environment (fault : VariableFault)
  | provider (message : String)

namespace ConfigError

/-- The text for an unusable value. -/
def invalidText (key : String) (fault : ValueFault) : String :=
  "Invalid value for " ++ key ++ ": " ++ fault.message

def message : ConfigError → String
  | invalidValue key fault => invalidText key fault
  | serialization fault => "Serialization error: " ++ fault.message
  | io fault => "IO error: " ++ fault.message
  | environment fault => "Environment error: " ++ fault.message
  | provider message => "Provider error: " ++ message

end ConfigError

/-- Why a configuration is invalid or missing. -/
inductive Misconfiguration where
  | nothingToAsk
  | invalidValue (key : String) (fault : ValueFault)
  | environment (fault : VariableFault)
  | stated (message : String)

def Misconfiguration.message : Misconfiguration → String
  | nothingToAsk => "a fallback manager is required when no strategies are configured"
  | invalidValue key fault => ConfigError.invalidText key fault
  | environment fault => fault.message
  | stated message => message

/-- The errors of all operations. -/
inductive Error where
  | illegalState (cause : IllegalState)
  | config (cause : Misconfiguration)
  | configurer (kind message : String)
  | auth (error : Auth.AuthError)
  | io (fault : FileFault)
  | json (fault : JsonFault)

/-- The categories of errors. -/
inductive ErrorCategory where
  | illegalState
  | configuration
  | authentication
  | internal
  deriving DecidableEq, Repr

def ErrorCategory.describe : ErrorCategory → String
  | illegalState => "IllegalState"
  | configuration => "Configuration"
  | authentication => "Authentication"
  | internal => "Internal"

namespace Error

def message : Error → String
  | illegalState cause => "Illegal state: " ++ cause.message
  | config cause => "Configuration error: " ++ cause.message
  | configurer kind message => "Configurer '" ++ kind ++ "' failed: " ++ message
  | auth error => error.message
  | io fault => "IO error: " ++ fault.message
  | json fault => "JSON parsing failed: " ++ fault.message

def category : Error → ErrorCategory
  | illegalState _ => .illegalState
  | config _ => .configuration
  | configurer .. => .configuration
  | auth _ => .authentication
  | io _ => .internal
  | json _ => .internal

def isIllegalState (e : Error) : Bool :=
  e.category == .illegalState

def isAuthentication (e : Error) : Bool :=
  e.category == .authentication

/-- The authentication error inside, if it is one. -/
def auth? : Error → Option Auth.AuthError
  | auth error => some error
  | _ => none

/-- An error of configuration seen as an error of the whole. -/
def ofConfig : ConfigError → Error
  | .invalidValue key fault => config (.invalidValue key fault)
  | .serialization fault => json fault
  | .io fault => io fault
  | .environment fault => config (.environment fault)
  | .provider message => config (.stated message)

end Error

end AuthChain
