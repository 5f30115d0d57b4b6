import AuthChain.Auth.Token
import AuthChain.Script.Faults

/-!
# Described authentications

Authentications that a document describes: tokens, plain principals that hold nothing but their
name, and tokens under a seal, which do not let go of their secret.
-/

namespace AuthChain.Script

open Auth
open Json (Value)

/-- The authentications that documents describe. -/
inductive Identity where
  | token (t : AuthenticationToken)
  | plain (kind : CredentialKind) (name : String) (authenticated : Bool)
  | sealed (t : AuthenticationToken)
  deriving DecidableEq

namespace Identity

/-- The token inside, if there is one. -/
def token? : Identity → Option AuthenticationToken
  | token t => some t
  | plain .. => none
  | sealed t => some t

/-- The authentication with its parts. -/
def describe : Identity → String
  | token t => t.describe
  | plain kind name authenticated =>
    Text.recorded "Plain"
      [("kind", kind.describe), ("name", Text.quote name),
        ("authenticated", Text.truth authenticated)]
  | sealed t => Text.applied "Sealed" [t.describe]

instance : Authentication Identity where
  kind
    | token t => t.kind
    | plain kind _ _ => kind
    | sealed t => t.kind
  name
    | token t => t.principal
    | plain _ name _ => name
    | sealed t => t.principal
  isAuthenticated
    | token t => t.authenticated
    | plain _ _ authenticated => authenticated
    | sealed t => t.authenticated
  authorities i := (i.token?.map (·.authorities)).getD []
  secret? i := i.token?.bind (·.credentials)
  details? i := i.token?.bind (·.details)
  setDetails d
    | token t => token (t.withDetails d)
    | plain kind name authenticated => plain kind name authenticated
    | sealed t => sealed (t.withDetails d)
  erased?
    | token t => some (token t.eraseCredentials)
    | plain .. => none
    | sealed _ => none
  describe := describe

instance : OfToken AuthenticationToken Identity where
  ofToken := token

end Identity

/-- The details that a document describes. -/
def readDetails (v : Value) : AuthenticationDetails :=
  let d := AuthenticationDetails.empty
  let d := match v.textAt? "remote_address" with
    | some address => d.withRemoteAddress address
    | none => d
  let d := match v.textAt? "session_id" with
    | some id => d.withSessionId id
    | none => d
  (v.itemsAt "attributes").foldl (fun d pair =>
    match pair.items with
    | [.string key, .string value] => d.withAttribute key value
    | _ => d) d

/-- A token with the secret and the details that a document describes. -/
def readExtras (v : Value) (t : AuthenticationToken) : AuthenticationToken :=
  let t := match v.textAt? "secret" with
    | some secret => t.withCredentials secret
    | none => t
  match v.field? "details" with
  | some details => t.withDetails (readDetails details)
  | none => t

/-- The authentication that a document describes; kind and name may be left to the circumstances. -/
def readIdentity (v : Value) (kind : CredentialKind) (name : String) : Identity :=
  let kind := ((v.textAt? "kind").map CredentialKind.mk).getD kind
  let name := v.textAt "principal" name
  let authorities := v.textsAt "authorities"
  match v.textAt "form" "authenticated" with
  | "unauthenticated" =>
    let t := AuthenticationToken.presented kind name (v.textAt "secret" "")
    .token (match v.field? "details" with
      | some details => t.withDetails (readDetails details)
      | none => t)
  | "anonymous" =>
    .token (readExtras v (.anonymous (v.textAt "key" "") name authorities))
  | "plain" => .plain kind name (v.boolAt "authenticated" true)
  | "sealed" => .sealed (readExtras v (.verified kind name authorities))
  | _ => .token (readExtras v (.verified kind name authorities))

/-- The authentication that a document describes by itself. -/
def readCredential (v : Value) : Identity :=
  readIdentity v .usernamePassword ""

end AuthChain.Script
