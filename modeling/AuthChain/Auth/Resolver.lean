import AuthChain.Auth.Sink
import AuthChain.Auth.Walk
import AuthChain.Error

/-!
# The chain resolver

A resolver walks over its strategies with a credential. When none of them decides, the fallback is
asked. The outcome is published to the resolver's sink, unless it is the fallback's, who publishes
it itself.
-/

namespace AuthChain.Auth

/-- An ordered list of strategies with an optional fallback. -/
structure Resolver (α σ : Type) where
  strategies : List (Strategy α σ)
  fallback : Option (Manager α σ)
  sink : Sink α σ
  eraseCredentials : Bool

variable {α σ : Type} [Authentication α]

namespace Resolver

/-- Drop the secret of a result where the resolver does so and the result can. -/
def scrub (r : Resolver α σ) (result : α) : α :=
  if r.eraseCredentials then (Authentication.erased? result).getD result else result

/-- End with a result of a strategy. -/
def succeed (r : Resolver α σ) (result : α) : Act Event σ (Except AuthError α) := do
  -- the sink sees the result as it is returned
  let result := r.scrub result
  r.sink.publish (.success result)
  return .ok result

/-- End with a definitive error. -/
def halt (r : Resolver α σ) (credential : α) (error : AuthError) :
    Act Event σ (Except AuthError α) := do
  r.sink.publish (.failure error credential)
  Act.emit (.halted (Authentication.name credential) error)
  return .error error

/-- End with an error after all strategies; an error of the fallback is not published again. -/
def deny (r : Resolver α σ) (credential : α) (published : Bool) (error : AuthError) :
    Act Event σ (Except AuthError α) := do
  if !published then r.sink.publish (.failure error credential)
  if r.fallback.isSome then Act.emit .denied
  return .error error

/-- Ask the fallback, if there is one, after strategies without a result. -/
def fallBack (r : Resolver α σ) (credential : α) (last : Option AuthError) :
    Act Event σ (Except AuthError α) := do
  let own := last.getD (.providerNotFound (Authentication.kind credential))
  match r.fallback with
  | none => r.deny credential false own
  | some manager =>
    match ← manager.authenticate credential with
    | .ok result => return .ok (r.scrub result)
    | .error error =>
      -- a fallback that knows no provider says less than the strategies
      if error.isProviderNotFound then r.deny credential false own
      else r.deny credential true error

/-- Turn a credential into one result or one error. -/
def resolve (r : Resolver α σ) (credential : α) : Act Event σ (Except AuthError α) := do
  match ← walk credential r.strategies.length 0 none r.strategies with
  | .accepted result => r.succeed result
  | .halted error => r.halt credential error
  | .undecided last => r.fallBack credential last

/-- The resolver as a fallback of another one. -/
def toManager (r : Resolver α σ) : Manager α σ :=
  ⟨r.resolve⟩

/-- Successful results keep their secrets. -/
def retainsCredentials (r : Resolver α σ) : Bool :=
  !r.eraseCredentials

/-- The resolver with the names of its strategies. -/
def describe (r : Resolver α σ) : String :=
  Text.recorded "ChainResolver"
    [("strategies", Text.listed (r.strategies.map fun s => Text.quote s.name)),
      ("fallback", Text.truth r.fallback.isSome),
      ("erase_credentials", Text.truth r.eraseCredentials)]

end Resolver

/-- The parts of a resolver before it is made. -/
structure ResolverParts (α σ : Type) where
  strategies : List (Strategy α σ)
  fallback : Option (Manager α σ)
  sink : Sink α σ
  eraseCredentials : Bool

namespace ResolverParts

/-- No strategies, no fallback, a silent sink, and secrets are dropped. -/
def empty : ResolverParts α σ :=
  ⟨[], none, .silent, true⟩

/-- Append strategies. -/
def withStrategies (p : ResolverParts α σ) (strategies : List (Strategy α σ)) :
    ResolverParts α σ :=
  { p with strategies := p.strategies ++ strategies }

def withFallback (p : ResolverParts α σ) (fallback : Manager α σ) : ResolverParts α σ :=
  { p with fallback := some fallback }

def withSink (p : ResolverParts α σ) (sink : Sink α σ) : ResolverParts α σ :=
  { p with sink := sink }

/-- Keep the secrets of results, or drop them. -/
def retainCredentials (p : ResolverParts α σ) (retain : Bool) : ResolverParts α σ :=
  { p with eraseCredentials := !retain }

def withSettings (p : ResolverParts α σ) (settings : SecuritySettings) : ResolverParts α σ :=
  { p with eraseCredentials := settings.eraseCredentials }

/-- The resolver of the parts; it needs a strategy or a fallback. -/
def build (p : ResolverParts α σ) : Except Error (Resolver α σ) :=
  if p.strategies.isEmpty && p.fallback.isNone then .error (.config .nothingToAsk)
  else .ok ⟨p.strategies, p.fallback, p.sink, p.eraseCredentials⟩

end ResolverParts

end AuthChain.Auth
