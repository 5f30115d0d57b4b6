import AuthChain.Act
import AuthChain.Auth.Event
import AuthChain.Auth.Token

/-!
# Walking over strategies

A strategy verifies credentials of some kinds and may have no opinion; a manager always gives a
result or an error. Strategies are asked in order, those that support the credential's kind, until
one gives a result or a definitive error.
-/

namespace AuthChain.Auth

/-- One rule for verifying credentials. Answering none means no opinion. -/
structure Strategy (α σ : Type) where
  name : String
  supports : CredentialKind → Bool
  authenticate : α → Act Event σ (Except AuthError (Option α))

/-- Turns every credential into a result or an error. -/
structure Manager (α σ : Type) where
  authenticate : α → Act Event σ (Except AuthError α)

/-- How the walk over the strategies ended. -/
inductive Walk (α : Type) where
  /-- A strategy gave a result. -/
  | accepted (result : α)
  /-- A strategy gave a definitive error. -/
  | halted (error : AuthError)
  /-- No strategy decided; the last error of one, if there was any. -/
  | undecided (error : Option AuthError)

variable {α σ : Type} [Authentication α]

/-- Give a result the details of the credential, unless it has its own. -/
def copyDetails (credential result : α) : α :=
  match Authentication.details? result, Authentication.details? credential with
  | none, some details => Authentication.setDetails details result
  | _, _ => result

/-- Ask strategies in order. `size` is the number of all strategies, `position` counts those asked
so far, `last` is the last error so far. -/
def walk (credential : α) (size : Nat) :
    Nat → Option AuthError → List (Strategy α σ) → Act Event σ (Walk α)
  | _, last, [] => pure (.undecided last)
  | position, last, strategy :: rest => do
    Act.emit (.considered strategy.name (Authentication.kind credential))
    if strategy.supports (Authentication.kind credential) then
      Act.emit (.attempted strategy.name (position + 1) size)
      match ← strategy.authenticate credential with
      | .ok (some result) => return .accepted (copyDetails credential result)
      -- no opinion: an earlier error stays the last one
      | .ok none => walk credential size (position + 1) last rest
      | .error error =>
        if error.isDefinitive then return .halted error
        else
          Act.emit (.setBack strategy.name error)
          walk credential size (position + 1) (some error) rest
    else walk credential size position last rest

end AuthChain.Auth
