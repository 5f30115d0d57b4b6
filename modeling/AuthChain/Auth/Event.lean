import AuthChain.Auth.Error
import AuthChain.Log

/-!
# Events of a resolution

What happens while a credential is resolved, a notice is published or a context is filled, and the
log line that some of these events write.
-/

namespace AuthChain.Auth

/-- What happens on the way to an answer. -/
inductive Event where
  /-- A strategy is asked whether it supports a kind. -/
  | considered (strategy : String) (kind : CredentialKind)
  /-- A strategy is asked about the credential. -/
  | attempted (strategy : String) (position size : Nat)
  /-- A strategy turned the credential down and the next one follows. -/
  | setBack (strategy : String) (error : AuthError)
  /-- A definitive error ended the resolution. -/
  | halted (principal : String) (error : AuthError)
  /-- A resolution with a fallback ended without a result. -/
  | denied
  /-- A manager is asked about the credential. -/
  | asked (manager : String)
  /-- The log receives a success. -/
  | succeeded (principal : String) (kind : CredentialKind) (authorities : Nat)
  /-- The log receives a failure. -/
  | failed (principal : String) (kind : CredentialKind) (error : AuthError)
  /-- A context kept its authentication. -/
  | keptAuthentication
  /-- A context received an anonymous token. -/
  | becameAnonymous (principal : String)
  /-- A component leaves a note. -/
  | noted (text : String)
  deriving DecidableEq, Repr

namespace Event

/-- The log message of a definitive error. -/
def haltMessage : AuthError → String
  | .accountStatus .. => "Authentication failed since the account status is not valid"
  | _ => "Authentication service failed internally"

/-- The log line that the event writes, if it writes one. -/
def line? : Event → Option LogLine
  | considered .. => none
  | attempted strategy position size =>
    some ⟨.trace, "Authenticating request with " ++ strategy ++ " (" ++ toString position ++ "/" ++
      toString size ++ ")", []⟩
  | setBack strategy error =>
    some ⟨.debug, "Authentication failed with strategy",
      [("strategy", strategy), ("error", error.message)]⟩
  | halted principal error =>
    some ⟨.debug, haltMessage error, [("principal", principal), ("error", error.message)]⟩
  | denied => some ⟨.debug, "Denying authentication since all attempted strategies failed", []⟩
  | asked _ => none
  | succeeded principal kind authorities =>
    some ⟨.info, "Authentication succeeded",
      [("principal", principal), ("kind", kind.name), ("authorities", toString authorities)]⟩
  | failed principal kind error =>
    some ⟨.warn, "Authentication failed",
      [("principal", principal), ("kind", kind.name), ("category", error.label),
        ("error", error.message)]⟩
  | keptAuthentication =>
    some ⟨.trace, "Did not populate anonymous context, authentication already present", []⟩
  | becameAnonymous principal =>
    some ⟨.trace, "Populated context with anonymous token", [("principal", principal)]⟩
  | noted _ => none

/-- The entry of the call log that the event writes, if it writes one. -/
def call? : Event → Option String
  | considered strategy kind => some (strategy ++ " supports " ++ kind.name ++ "?")
  | attempted strategy _ _ => some (strategy ++ " asked")
  | asked manager => some (manager ++ " asked")
  | noted text => some text
  | _ => none

end Event

end AuthChain.Auth
