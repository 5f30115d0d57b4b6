import AuthChain.Error
import AuthChain.Json.Access

/-!
# Described errors

Errors that a document describes, for components that are to fail.
-/

namespace AuthChain.Script

open Json (Value)

/-- The kind named by a member, or the usual one. -/
def readKind (v : Value) : Auth.CredentialKind :=
  ⟨v.textAt "kind" Auth.CredentialKind.usernamePassword.name⟩

/-- The authentication error that a document describes. -/
def readAuthError (v : Value) : Auth.AuthError :=
  let message := v.textAt "message" ""
  match v.textAt "class" "" with
  | "bad_credentials" => .rejected .badCredentials message
  | "insufficient" => .rejected .insufficientAuthentication message
  | "not_found_credentials" => .rejected .credentialsNotFound message
  | "locked" => .accountStatus .locked message
  | "disabled" => .accountStatus .disabled message
  | "expired" => .accountStatus .expired message
  | "credentials_expired" => .accountStatus .credentialsExpired message
  | "internal" => .internalService message (v.textAt? "source")
  | "provider_not_found" => .providerNotFound (readKind v)
  | _ => .rejected .other message

/-- The fault of the JSON text or of the document that a member holds. -/
def readJsonFault (v : Value) : JsonFault :=
  match v.textAt? "text" with
  | some text =>
    match Json.parse text with
    | .error failure => .text failure
    | .ok _ => .text ⟨.noValue, 1, 0⟩
  | none =>
    match SecuritySettings.ofJson "" ((v.member? "value").getD .null) with
    | .error mismatch => .document mismatch
    | .ok _ => .text ⟨.noValue, 1, 0⟩

/-- The bytes of an array of numbers. -/
def readBytes (items : List Value) : List UInt8 :=
  items.filterMap fun
    | .int n => some (UInt8.ofNat n.toNat)
    | _ => none

/-- The error of configuration that a document describes. -/
def readConfigError (v : Value) : ConfigError :=
  let message := v.textAt "message" ""
  match v.textAt "variant" "" with
  | "InvalidValue" => .invalidValue (v.textAt "key" "") (.stated message)
  | "Serialization" => .serialization (readJsonFault v)
  | "Io" => .io (.stated message)
  | "Env" =>
    match v.field? "bytes" with
    | some bytes => .environment (.notText (readBytes bytes.items))
    | none => .environment .absent
  | _ => .provider message

/-- The error that a document describes. -/
def readError (v : Value) : Error :=
  let message := v.textAt "message" ""
  match v.textAt "variant" "" with
  | "IllegalState" => .illegalState (.stated message)
  | "Config" => .config (.stated message)
  | "Configurer" => .configurer (v.textAt "kind" "") message
  | "Auth" => .auth (readAuthError ((v.field? "auth").getD .null))
  | "Io" => .io (.stated message)
  | "Json" => .json (readJsonFault v)
  | _ => .ofConfig (readConfigError ((v.field? "config").getD .null))

end AuthChain.Script
