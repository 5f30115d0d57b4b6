import AuthChain.Auth.Sink
import AuthChain.Error
import AuthChain.Json.Access

/-!
# Reports

Errors, log lines, authentications and sinks as JSON documents.
-/

namespace AuthChain.Script

open Json (Value)

/-- A document with the name of an error and its text. A fault of a JSON text is told by its class
alone. -/
def errorDocument (name : String) (fault : Option JsonFault) (message : String) : Value :=
  match fault with
  | some (.text failure) =>
    .ofMembers [("error", .string name),
      ("class", .string (if failure.fault.isUnfinished then "eof" else "syntax"))]
  | _ => .ofMembers [("error", .string name), ("message", .string message)]

/-- The report of an authentication error. -/
def authErrorReport (e : Auth.AuthError) : Value :=
  let name := match e.errorClass with
    | .accountStatus => "Auth.AccountStatus"
    | .internalService => "Auth.InternalService"
    | .rejected => "Auth.Rejected"
    | .providerNotFound => "Auth.ProviderNotFound"
  errorDocument name none e.message

/-- The report of an error. -/
def errorReport (e : Error) : Value :=
  match e with
  | .illegalState _ => errorDocument "IllegalState" none e.message
  | .config _ => errorDocument "Config" none e.message
  | .configurer .. => errorDocument "Configurer" none e.message
  | .auth error => authErrorReport error
  | .io _ => errorDocument "Io" none e.message
  | .json fault => errorDocument "Json" (some fault) e.message

/-- The report of an error of configuration. -/
def configErrorReport (e : ConfigError) : Value :=
  match e with
  | .invalidValue .. => errorDocument "InvalidValue" none e.message
  | .serialization fault => errorDocument "Serialization" (some fault) e.message
  | .io _ => errorDocument "Io" none e.message
  | .environment _ => errorDocument "Env" none e.message
  | .provider _ => errorDocument "Provider" none e.message

/-- An error with its category and the questions that it answers. -/
def errorDescription (e : Error) : Value :=
  .ofMembers
    [("shown", errorReport e),
      ("category", .string e.category.describe),
      ("illegal_state", .bool e.isIllegalState),
      ("authentication", .bool e.isAuthentication),
      ("as_auth", .textOrNull (e.auth?.map (·.label)))]

/-- A log line as level, message and fields. -/
def logReport (line : LogLine) : Value :=
  .array [.string line.level.name, .string line.message,
    .ofMembers (line.fields.map fun (k, v) => (k, .string v))]

/-- What can be seen of an authentication. -/
def authenticationReport {α : Type} [Auth.Authentication α] (a : α) : Value :=
  .ofMembers
    [("kind", .string (Auth.Authentication.kind a).name),
      ("name", .string (Auth.Authentication.name a)),
      ("authenticated", .bool (Auth.Authentication.isAuthenticated a)),
      ("authorities", .texts (Auth.Authentication.authorities a)),
      ("secret", .textOrNull ((Auth.Authentication.secret? a).map (·.expose))),
      ("details", .orNull ((Auth.Authentication.details? a).map (·.toJson)))]

/-- The first and the last of more than two items, where only they are wanted. -/
def ends {β : Type} (brief : Bool) (xs : List β) : List β :=
  if brief && 2 < xs.length then xs.take 1 ++ xs.drop (xs.length - 1) else xs

/-- The counts and the entries of a record. -/
def recordingReport (brief : Bool) (r : Auth.Recording) : Value :=
  .ofMembers
    [("successes", .nat r.successes),
      ("failures", .nat r.failures),
      ("events", .array ((ends brief r.entries).map (·.toJson)))]

/-- The texts for which failures are asked. -/
def reportedLabels : List String :=
  ["account_status", "internal_service", "rejected", "provider_not_found", "Rejected", ""]

/-- The counts of metrics. -/
def metricsReport (m : Auth.Metrics) : Value :=
  .ofMembers
    [("successes", .nat m.successes.value.toNat),
      ("failures", .nat m.failures.value.toNat),
      ("by_label", .array (reportedLabels.map fun label => .nat (m.failuresFor label).toNat))]

end AuthChain.Script
