import AuthChain.Json.Decode
import AuthChain.TextMap

/-!
# Details of an authentication

What is known about the caller beside the credential: an address, a session and named attributes,
with their JSON form, which leaves out what is absent.
-/

namespace AuthChain.Auth

/-- Caller context captured beside a credential. -/
structure AuthenticationDetails where
  remoteAddress : Option String
  sessionId : Option String
  attributes : TextMap
  deriving DecidableEq

namespace AuthenticationDetails

/-- No details. -/
def empty : AuthenticationDetails :=
  ⟨none, none, .empty⟩

def withRemoteAddress (d : AuthenticationDetails) (address : String) : AuthenticationDetails :=
  { d with remoteAddress := some address }

def withSessionId (d : AuthenticationDetails) (id : String) : AuthenticationDetails :=
  { d with sessionId := some id }

/-- Set an attribute, replacing a former value. -/
def withAttribute (d : AuthenticationDetails) (key value : String) : AuthenticationDetails :=
  { d with attributes := d.attributes.insert key value }

/-- The members of the JSON form of an optional text. -/
def optionalMember (name : String) : Option String → Json.Members
  | some s => [(name, .string s)]
  | none => []

/-- The members of the JSON form of the attributes. -/
def attributeMembers (attributes : TextMap) : Json.Members :=
  if attributes.isEmpty then []
  else [("attributes", .object (attributes.entries.map fun (k, v) => (k, .string v)))]

/-- The JSON form: what is absent is left out. -/
def toJson (d : AuthenticationDetails) : Json.Value :=
  .ofMembers (optionalMember "remote_address" d.remoteAddress ++
    optionalMember "session_id" d.sessionId ++ attributeMembers d.attributes)

/-- The fields of the JSON form, in the order of an array. -/
def fields : List (Json.Field AuthenticationDetails) := [
  ⟨"remote_address", fun v d => do
    let a ← Json.Decoder.optional .text v
    return { d with remoteAddress := a }⟩,
  ⟨"session_id", fun v d => do
    let a ← Json.Decoder.optional .text v
    return { d with sessionId := a }⟩,
  ⟨"attributes", fun v d => do
    let a ← Json.Decoder.texts v
    return { d with attributes := .ofList a }⟩]

/-- The details that a JSON form stands for. In an array the first two items must be present. -/
def ofJson : Json.Decoder AuthenticationDetails :=
  .record "AuthenticationDetails" fields 2 empty

/-- The details with their parts. -/
def describe (d : AuthenticationDetails) : String :=
  Text.recorded "AuthenticationDetails"
    [("remote_address", Text.optional Text.quote d.remoteAddress),
      ("session_id", Text.optional Text.quote d.sessionId),
      ("attributes",
        Text.mapped (d.attributes.entries.map fun (k, v) => (Text.quote k, Text.quote v)))]

end AuthenticationDetails

end AuthChain.Auth
