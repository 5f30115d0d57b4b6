import AuthChain.Auth.Resolver
import AuthChain.Json.Depth
import AuthChain.Script.World

/-!
# Described resolvers

Strategies, managers, sinks and resolvers that a document describes. A scripted component answers
with the entries of its script one after the other and then with the last one again.
-/

namespace AuthChain.Script

open Auth
open Json (Value)

/-- Making components may fail and changes the world in which they remember. -/
abbrev Making (α : Type) := ExceptT Error (StateM World) α

/-- One answer of a script. -/
inductive ScriptEntry where
  | abstain
  | fail (error : AuthError)
  | give (identity : Value)

/-- The answer that a document describes. -/
def readEntry (v : Value) : ScriptEntry :=
  match v with
  | .string _ => .abstain
  | _ => if (v.field? "class").isSome then .fail (readAuthError v) else .give v

/-- The entry for the answer with a number. -/
def entryAt (script : List ScriptEntry) (n : Nat) : ScriptEntry :=
  (script[min n (script.length - 1)]?).getD .abstain

/-- The next entry of a component's script. -/
def nextEntry (component : Nat) (script : List ScriptEntry) : Act Event World ScriptEntry := do
  let cell := World.answeredCell component
  let n ← Act.gets cell.get
  Act.modify (cell.set (n + 1))
  return entryAt script n

/-- The outcome of an entry for a credential. -/
def ScriptEntry.outcome (credential : Identity) :
    ScriptEntry → Except AuthError (Option Identity)
  | abstain => .ok none
  | fail error => .error error
  | give v =>
    .ok (some (readIdentity v (Authentication.kind credential) (Authentication.name credential)))

/-- Check the secret of a credential against those of known users; a user without one is locked. -/
def checkUser (users : Json.Members) (authorities : List String) (credential : Identity) :
    Except AuthError (Option Identity) :=
  let name := Authentication.name credential
  match users.lookup name with
  | none => .error (.rejected .badCredentials (name ++ " unknown"))
  | some (.string secret) =>
    if (Authentication.secret? credential).map (·.expose) = some secret then
      .ok (some (.token
        ((AuthenticationToken.verified (Authentication.kind credential) name
          authorities).withCredentials secret)))
    else .error (.rejected .badCredentials ("wrong password for " ++ name))
  | some _ => .error (.accountStatus .locked name)

/-- The strategy that a document describes. -/
def makeStrategy (v : Value) : Making (Strategy Identity World) := do
  let component ← modifyGet World.newComponent
  let kinds := (v.field? "kinds").map fun ks => ks.items.filterMap Value.text?
  let supports (kind : CredentialKind) : Bool :=
    match kinds with
    | some names => names.contains kind.name
    | none => true
  match v.field? "users" with
  | some users =>
    return ⟨v.textAt "name" "", supports, fun credential =>
      pure (checkUser users.members (v.textsAt "authorities") credential)⟩
  | none =>
    let script := (v.itemsAt "script").map readEntry
    return ⟨v.textAt "name" "", supports, fun credential => do
      let entry ← nextEntry component script
      return entry.outcome credential⟩

/-- The manager that a document describes by a script; it never abstains. -/
def makeScriptedManager (v : Value) : Making (Manager Identity World) := do
  let component ← modifyGet World.newComponent
  let script := (v.itemsAt "script").map readEntry
  return ⟨fun credential => do
    Act.emit (.asked (v.textAt "name" ""))
    let entry ← nextEntry component script
    return match entry.outcome credential with
      | .ok (some result) => .ok result
      | .ok none => .error (.providerNotFound (Authentication.kind credential))
      | .error error => .error error⟩

/-- The sink that a document describes, at most `limit` composites deep. -/
def planSink : Nat → Value → Making SinkPlan
  | 0, _ => return .silent
  | limit + 1, v => do
    let id := v.textAt "id" ""
    match v.textAt "type" "" with
    | "recording" =>
      let n ← modifyGet World.newComponent
      let capacity := ((v.intAt? "capacity").map Int.toNat).getD Recording.defaultCapacity
      modify ((World.recordingCell n).set (.withCapacity capacity))
      enter id (.recording n)
    | "metrics" => enter id (.metrics (← modifyGet World.newComponent))
    | "composite" => enter id (.composite (← (v.itemsAt "sinks").mapM (planSink limit)))
    | "same" => return ((← get).sinks.get? id).getD .silent
    | "tracing" => return .tracing
    | "log" => return .noting id
    | _ => return .silent
where
  /-- Give a name to a sink. -/
  enter (id : String) (plan : SinkPlan) : Making SinkPlan := do
    modify fun w => { w with sinks := w.sinks.set id plan }
    return plan

/-- The sink that a document describes. -/
def makeSink (v : Value) : Making (Sink Identity World) := do
  let plan ← planSink v.depth v
  return plan.sink

/-- The settings that a document describes. -/
def makeSettings (v : Value) : Except Error SecuritySettings :=
  match SecuritySettings.ofJson "" v with
  | .ok s => .ok s
  | .error m => .error (.json (.document m))

/-- Apply a flag to the parts of a resolver: a choice about secrets or settings. -/
def applyFlag (parts : ResolverParts Identity World) (flag : Value) :
    Except Error (ResolverParts Identity World) :=
  match flag with
  | .bool b => .ok (parts.retainCredentials b)
  | v => (makeSettings v).map parts.withSettings

mutual

/-- The resolver that a document describes, at most `limit` resolvers deep. -/
def makeResolverWithin : Nat → Value → Making (Resolver Identity World)
  | 0, _ => throw (.config .nothingToAsk)
  | limit + 1, v => do
    let strategies ← (v.itemsAt "strategies").mapM makeStrategy
    let mut parts : ResolverParts Identity World := ResolverParts.empty.withStrategies strategies
    if let some fallback := v.field? "fallback" then
      parts := parts.withFallback (← makeManagerWithin limit fallback)
    if let some sink := v.field? "sink" then
      parts := parts.withSink (← makeSink sink)
    for flag in v.itemsAt "flags" do
      parts ← liftExcept (applyFlag parts flag)
    liftExcept parts.build

/-- The manager that a document describes. -/
def makeManagerWithin : Nat → Value → Making (Manager Identity World)
  | 0, v => makeScriptedManager v
  | limit + 1, v =>
    match v.field? "resolver" with
    | some inner => do return (← makeResolverWithin limit inner).toManager
    | none => makeScriptedManager v

end

/-- The resolver that a document describes. -/
def makeResolver (v : Value) : Making (Resolver Identity World) :=
  makeResolverWithin (2 * v.depth) v

/-- The manager that a document describes. -/
def makeManager (v : Value) : Making (Manager Identity World) :=
  makeManagerWithin (2 * v.depth) v

/-- What can be seen of a resolver. -/
def resolverReport (r : Resolver Identity World) : Value :=
  .ofMembers
    [("strategies", .texts (r.strategies.map (·.name))),
      ("fallback", .bool r.fallback.isSome),
      ("retains", .bool r.retainsCredentials),
      ("debug", .string r.describe)]

end AuthChain.Script
