import AuthChain.Auth.Kind

/-!
# Authentication errors

The reasons why a credential is turned down. Account states and failed services are definitive: no
other strategy is asked after them.
-/

namespace AuthChain.Auth

/-- The states of an account that rule out its authentication. -/
inductive AccountStatus where
  | locked
  | disabled
  | expired
  | credentialsExpired
  deriving DecidableEq, Repr

def AccountStatus.message : AccountStatus → String
  | locked => "locked"
  | disabled => "disabled"
  | expired => "expired"
  | credentialsExpired => "credentials expired"

def AccountStatus.describe : AccountStatus → String
  | locked => "Locked"
  | disabled => "Disabled"
  | expired => "Expired"
  | credentialsExpired => "CredentialsExpired"

/-- The grounds on which one strategy rejects a credential. -/
inductive RejectionReason where
  | badCredentials
  | insufficientAuthentication
  | credentialsNotFound
  | other
  deriving DecidableEq, Repr

def RejectionReason.message : RejectionReason → String
  | badCredentials => "Bad credentials"
  | insufficientAuthentication => "Insufficient authentication"
  | credentialsNotFound => "Credentials not found"
  | other => "Authentication rejected"

def RejectionReason.describe : RejectionReason → String
  | badCredentials => "BadCredentials"
  | insufficientAuthentication => "InsufficientAuthentication"
  | credentialsNotFound => "CredentialsNotFound"
  | other => "Other"

/-- Why an authentication failed. -/
inductive AuthError where
  | accountStatus (status : AccountStatus) (message : String)
  | internalService (message : String) (source : Option String)
  | rejected (reason : RejectionReason) (message : String)
  | providerNotFound (kind : CredentialKind)
  deriving DecidableEq, Repr

/-- The four classes of errors. -/
inductive ErrorClass where
  | accountStatus
  | internalService
  | rejected
  | providerNotFound
  deriving DecidableEq, Repr

/-- The label of a class in logs and metrics. -/
def ErrorClass.label : ErrorClass → String
  | accountStatus => "account_status"
  | internalService => "internal_service"
  | rejected => "rejected"
  | providerNotFound => "provider_not_found"

/-- The class with a label. -/
def ErrorClass.ofLabel? (label : String) : Option ErrorClass :=
  [accountStatus, internalService, rejected, providerNotFound].find? (·.label == label)

namespace AuthError

/-- The class of an error. -/
def errorClass : AuthError → ErrorClass
  | accountStatus .. => .accountStatus
  | internalService .. => .internalService
  | rejected .. => .rejected
  | providerNotFound .. => .providerNotFound

/-- The label of the error's class. -/
def label (e : AuthError) : String :=
  e.errorClass.label

/-- The error ends a resolution at once. -/
def isDefinitive : AuthError → Bool
  | accountStatus .. => true
  | internalService .. => true
  | rejected .. => false
  | providerNotFound .. => false

/-- The error says that nobody could handle the credential. -/
def isProviderNotFound : AuthError → Bool
  | providerNotFound .. => true
  | _ => false

/-- The text of the error. -/
def message : AuthError → String
  | accountStatus status message => "Account is " ++ status.message ++ ": " ++ message
  | internalService message _ => "Authentication service failed: " ++ message
  | rejected reason message => reason.message ++ ": " ++ message
  | providerNotFound kind => "No authentication strategy found for " ++ kind.name

/-- The text of the error behind the error, if there is one. -/
def source? : AuthError → Option String
  | internalService _ source => source
  | _ => none

/-- The error with its parts. -/
def describe : AuthError → String
  | accountStatus status message =>
    Text.recorded "AccountStatus" [("status", status.describe), ("message", Text.quote message)]
  | internalService message source =>
    Text.recorded "InternalService"
      [("message", Text.quote message),
        ("source", Text.optional
          (fun s => Text.recorded "Custom" [("kind", "Other"), ("error", Text.quote s)]) source)]
  | rejected reason message =>
    Text.recorded "Rejected" [("reason", reason.describe), ("message", Text.quote message)]
  | providerNotFound kind => Text.recorded "ProviderNotFound" [("kind", kind.describe)]

theorem isDefinitive_iff (e : AuthError) :
    e.isDefinitive = true ↔ e.errorClass = .accountStatus ∨ e.errorClass = .internalService := by
  cases e <;> simp [isDefinitive, errorClass]

theorem isProviderNotFound_iff (e : AuthError) :
    e.isProviderNotFound = true ↔ e.errorClass = .providerNotFound := by
  cases e <;> simp [isProviderNotFound, errorClass]

theorem isProviderNotFound_eq_false_iff (e : AuthError) :
    e.isProviderNotFound = false ↔ e.errorClass ≠ .providerNotFound := by
  rw [Bool.eq_false_iff, ne_eq, e.isProviderNotFound_iff]

end AuthError

theorem ErrorClass.ofLabel?_label (c : ErrorClass) : ofLabel? c.label = some c := by
  cases c <;> decide

end AuthChain.Auth
