import AuthChain.Auth.Details
import AuthChain.Auth.Fingerprint
import AuthChain.Auth.Kind

/-!
# Authentications and tokens

The interface that the resolver needs of credentials and results, and the general-purpose token: a
presented principal with a secret, a verified principal with authorities, or an anonymous principal.
-/

namespace AuthChain.Auth

/-- Secret material; its description hides it. -/
structure Secret where
  expose : String
  deriving DecidableEq

def Secret.describe (_ : Secret) : String :=
  "SecretBox<str>([REDACTED])"

/-- What can be presented as a credential and returned as a result. `erased?` is present when the
value holds sensitive material that it can drop. -/
class Authentication (α : Type) where
  kind : α → CredentialKind
  name : α → String
  isAuthenticated : α → Bool
  authorities : α → List String
  secret? : α → Option Secret
  details? : α → Option AuthenticationDetails
  setDetails : AuthenticationDetails → α → α
  erased? : α → Option α
  describe : α → String

/-- Values to which a token can be turned. -/
class OfToken (τ α : Type) where
  ofToken : τ → α

/-- The general-purpose token. -/
structure AuthenticationToken where
  kind : CredentialKind
  principal : String
  credentials : Option Secret
  authorities : List String
  authenticated : Bool
  details : Option AuthenticationDetails
  keyHash : Option UInt64
  deriving DecidableEq

namespace AuthenticationToken

/-- A credential presented for verification. -/
def presented (kind : CredentialKind) (principal secret : String) : AuthenticationToken :=
  ⟨kind, principal, some ⟨secret⟩, [], false, none, none⟩

/-- A verified principal. -/
def verified (kind : CredentialKind) (principal : String) (authorities : List String) :
    AuthenticationToken :=
  ⟨kind, principal, none, authorities, true, none, none⟩

/-- An anonymous principal. Only the fingerprint of the key that issues it is kept. -/
def anonymous (key principal : String) (authorities : List String) : AuthenticationToken :=
  { verified .anonymous principal authorities with keyHash := some (fingerprint key) }

/-- Attach a secret. -/
def withCredentials (t : AuthenticationToken) (secret : String) : AuthenticationToken :=
  { t with credentials := some ⟨secret⟩ }

/-- Attach details. -/
def withDetails (t : AuthenticationToken) (d : AuthenticationDetails) : AuthenticationToken :=
  { t with details := some d }

/-- Drop the secret. -/
def eraseCredentials (t : AuthenticationToken) : AuthenticationToken :=
  { t with credentials := none }

/-- The token is an anonymous one issued with the key. -/
def issuedWith (t : AuthenticationToken) (key : String) : Bool :=
  t.keyHash == some (fingerprint key)

/-- The token with its parts. -/
def describe (t : AuthenticationToken) : String :=
  Text.recorded "AuthenticationToken"
    [("kind", t.kind.describe),
      ("principal", Text.quote t.principal),
      ("credentials", Text.optional Secret.describe t.credentials),
      ("authorities", Text.listed (t.authorities.map Text.quote)),
      ("authenticated", Text.truth t.authenticated),
      ("details", Text.optional AuthenticationDetails.describe t.details),
      ("key_hash", Text.optional (fun h => toString h.toNat) t.keyHash)]

instance : Authentication AuthenticationToken where
  kind := kind
  name := principal
  isAuthenticated := authenticated
  authorities := authorities
  secret? := credentials
  details? := details
  setDetails d t := t.withDetails d
  erased? t := some t.eraseCredentials
  describe := describe

instance : OfToken AuthenticationToken AuthenticationToken where
  ofToken := id

theorem issuedWith_anonymous (key principal : String) (authorities : List String) :
    (anonymous key principal authorities).issuedWith key = true := by
  simp [issuedWith, anonymous]

end AuthenticationToken

end AuthChain.Auth
