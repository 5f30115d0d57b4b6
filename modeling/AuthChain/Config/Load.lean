import AuthChain.Config.Provider
import AuthChain.Settings

/-!
# Loaded settings

Security settings read from a provider: the standard settings, overlaid with what the provider has
for five keys, and then validated.
-/

namespace AuthChain.Config

def eraseCredentialsKey : String := "security.erase_credentials"

def allowSameKindKey : String := "security.allow_same_kind_configurers"

def anonymousKeyKey : String := "security.anonymous.key"

def anonymousPrincipalKey : String := "security.anonymous.principal"

def anonymousAuthoritiesKey : String := "security.anonymous.authorities"

/-- The error of a fault of settings, with the key that it is about. -/
def faultError : SettingsFault → ConfigError
  | .blankKey => .invalidValue anonymousKeyKey .blank
  | .blankPrincipal => .invalidValue anonymousPrincipalKey .blank
  | .noAuthority => .invalidValue anonymousAuthoritiesKey .noAuthority

/-- Usable settings pass. -/
def validate (s : SecuritySettings) : Except ConfigError Unit :=
  match s.fault? with
  | some fault => .error (faultError fault)
  | none => .ok ()

variable {σ : Type}

/-- The standard settings overlaid with what the provider has, then validated. -/
def loadSettings (freshKey : String) (p : Provider σ) : Reading σ SecuritySettings := do
  let start := SecuritySettings.standard freshKey
  let erase ← p.get .bool eraseCredentialsKey
  let allow ← p.get .bool allowSameKindKey
  let key ← p.get .text anonymousKeyKey
  let principal ← p.get .text anonymousPrincipalKey
  let authorities ← p.getList anonymousAuthoritiesKey
  let settings : SecuritySettings :=
    { eraseCredentials := erase.getD start.eraseCredentials
      allowSameKindConfigurers := allow.getD start.allowSameKindConfigurers
      anonymous :=
        { key := key.getD start.anonymous.key
          principal := principal.getD start.anonymous.principal
          authorities := authorities.getD start.anonymous.authorities } }
  Reading.ofExcept (validate settings)
  Reading.ofAct (Act.emit (.loaded p.name settings))
  return settings

end AuthChain.Config
