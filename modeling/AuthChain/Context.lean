import AuthChain.Auth.Resolver

/-!
# Security contexts

Who a request runs as: nobody yet, or one authentication, which may be an anonymous one.
-/

namespace AuthChain

open Auth

/-- Who a request runs as. -/
structure SecurityContext (α : Type) where
  authentication : Option α

namespace SecurityContext

variable {α σ : Type}

/-- Nobody. -/
def empty : SecurityContext α :=
  ⟨none⟩

/-- A context with an authentication. -/
def withAuthentication (a : α) : SecurityContext α :=
  ⟨some a⟩

/-- Replace the authentication. -/
def setAuthentication (_ : SecurityContext α) (a : α) : SecurityContext α :=
  ⟨some a⟩

/-- The authentication and the context without it. -/
def clear (c : SecurityContext α) : Option α × SecurityContext α :=
  (c.authentication, empty)

/-- The context has an authentication, and it is a verified one. -/
def isAuthenticated [Authentication α] (c : SecurityContext α) : Bool :=
  c.authentication.any Authentication.isAuthenticated

/-- The anonymous token of settings. -/
def anonymousToken (settings : AnonymousSettings) : AuthenticationToken :=
  .anonymous settings.key settings.principal settings.authorities

/-- Give the context an anonymous token unless it has an authentication. -/
def orAnonymous [OfToken AuthenticationToken α] (c : SecurityContext α)
    (settings : AnonymousSettings) : Act Event σ (SecurityContext α) :=
  match c.authentication with
  | some _ => do
    Act.emit .keptAuthentication
    return c
  | none => do
    Act.emit (.becameAnonymous settings.principal)
    return withAuthentication (OfToken.ofToken (anonymousToken settings))

/-- The context with its authentication. -/
def describe [Authentication α] (c : SecurityContext α) : String :=
  Text.recorded "SecurityContext"
    [("authentication", Text.optional Authentication.describe c.authentication)]

end SecurityContext

/-- Resolve a credential and put the result into a context; after an error the context is as
before. -/
def Auth.Resolver.resolveInto {α σ : Type} [Authentication α] (r : Resolver α σ)
    (c : SecurityContext α) (credential : α) :
    Act Event σ (Except AuthError Unit × SecurityContext α) := do
  match ← r.resolve credential with
  | .ok result => return (.ok (), c.setAuthentication result)
  | .error error => return (.error error, c)

end AuthChain
