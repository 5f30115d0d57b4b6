import AuthChain.Text.Layout

/-!
# Credential kinds

A credential kind names a family of credentials. Strategies decide by the kind whether they look at
a credential.
-/

namespace AuthChain.Auth

/-- The name of a family of credentials. -/
structure CredentialKind where
  name : String
  deriving DecidableEq, Repr

namespace CredentialKind

def usernamePassword : CredentialKind := ⟨"username_password"⟩

def bearerToken : CredentialKind := ⟨"bearer_token"⟩

def anonymous : CredentialKind := ⟨"anonymous"⟩

def preAuthenticated : CredentialKind := ⟨"pre_authenticated"⟩

instance : ToString CredentialKind := ⟨name⟩

/-- The kind with its name in quotation marks. -/
def describe (k : CredentialKind) : String :=
  Text.applied "CredentialKind" [Text.quote k.name]

/-- Kinds are ordered by their names. -/
instance : LT CredentialKind := ⟨fun a b => a.name < b.name⟩

instance (a b : CredentialKind) : Decidable (a < b) :=
  inferInstanceAs (Decidable (a.name < b.name))

/-- The kinds in the order of their names. -/
def sort (kinds : List CredentialKind) : List CredentialKind :=
  kinds.mergeSort fun a b => decide (a.name ≤ b.name)

end CredentialKind

end AuthChain.Auth
