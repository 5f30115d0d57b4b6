import AuthChain.Act
import AuthChain.Build.Event
import AuthChain.Build.Table

/-!
# Builders

The state of a builder, the operations that callers and callbacks share, and the meaning of a
callback as an action on a builder.
-/

namespace AuthChain.Build

/-- A built object; its number tells it from the objects of other builds. -/
structure Produced (O : Type) where
  serial : Nat
  object : O

/-- The state of a builder. -/
structure Builder (S : Signature) where
  target : S.Target
  table : Table S.Configurer
  /-- The registrations of the initializing state whose `init` is due. -/
  late : List (Registration S.Configurer)
  shared : SharedObjects S.Value
  state : State
  /-- Configurers of the same kind accumulate instead of replacing each other. -/
  accumulates : Bool
  postProcessors : PostProcessors S.Value
  object : Option (Produced S.Object)
  world : S.World
  /-- The number of the next registration. -/
  nextSerial : Nat
  /-- The number of the next object. -/
  nextObject : Nat

namespace Builder

variable {S : Signature} {α : Type}

/-- A builder on which nothing has happened. -/
def create (target : S.Target) (accumulates : Bool) (world : S.World) : Builder S where
  target := target
  table := .empty
  late := []
  shared := .empty
  state := .unbuilt
  accumulates := accumulates
  postProcessors := .empty
  object := none
  world := world
  nextSerial := 0
  nextObject := 0

/-- Replace the post-processors. -/
def withPostProcessors (b : Builder S) (ps : PostProcessors S.Value) : Builder S :=
  { b with postProcessors := ps }

/-- Add a post-processor. -/
def addPostProcessor (b : Builder S) (p : PostProcessor S.Value) : Builder S :=
  { b with postProcessors := b.postProcessors.add p }

/-- Share a value, replacing a former one of its type. -/
def setShared (b : Builder S) (u : S.Code) (v : S.Value u) : Builder S :=
  { b with shared := b.shared.insert u v }

/-- Change the target outside of a build. -/
def withTarget (b : Builder S) (t : S.Target) : Builder S :=
  { b with target := t }

/-- The configurers of a kind, in the order of registration. -/
def configurers (b : Builder S) (kind : ConfigurerKind) : List S.Configurer :=
  (b.table.ofKind kind).map (·.configurer)

/-- The configurer of a kind, or the reason why it is not single. -/
def configurer (b : Builder S) (kind : ConfigurerKind) :
    Except IllegalState (Option S.Configurer) :=
  Callback.single kind (b.configurers kind)

/-- The builder with one more registration; during the initializing state it also waits for its
`init`. -/
def enter (b : Builder S) (c : S.Configurer) : Builder S :=
  let r : Registration S.Configurer := ⟨b.nextSerial, c⟩
  let kind := S.kind c
  { b with
    table := if b.accumulates then b.table.push kind r else b.table.replace kind r
    -- a registration of the hook before the first pass stands in the table and here
    late := if b.state.isInitializing then b.late ++ [r] else b.late
    nextSerial := b.nextSerial + 1 }

/-- Register a configurer; this is refused from the configuring state on. -/
def register (c : S.Configurer) : Act (Event S) (Builder S) (Except IllegalState Unit) := do
  let b ← Act.get
  if b.state.isConfigured then
    return .error (.registrationClosed (S.kind c) b.state)
  else
    Act.emit (.registered b.nextSerial (S.kind c))
    if b.state.isInitializing then Act.emit (.registeredLate (S.kind c))
    Act.modify fun b => b.enter c
    return .ok ()

/-- Register a configurer after it was adjusted. -/
def registerWith (c : S.Configurer) (customize : S.Configurer → S.Configurer) :
    Act (Event S) (Builder S) (Except IllegalState Unit) :=
  register (customize c)

/-- The builder without the configurers of a kind, also among those whose `init` is due. -/
def without (b : Builder S) (kind : ConfigurerKind) : Builder S :=
  { b with
    table := b.table.erase kind
    -- what a late pass already took is out of reach
    late := b.late.filter fun r => S.kind r.configurer != kind }

/-- Remove the configurers of a kind and answer with them. -/
def removeConfigurers (kind : ConfigurerKind) :
    Act (Event S) (Builder S) (List S.Configurer) := do
  let b ← Act.get
  if b.table.contains kind then
    Act.emit (.removed kind)
    Act.modify fun b => b.without kind
    -- the answer is what the kind held before
    return b.configurers kind
  else return []

/-- Remove the only configurer of a kind; nothing is removed when there are several. -/
def removeConfigurer (kind : ConfigurerKind) :
    Act (Event S) (Builder S) (Except IllegalState (Option S.Configurer)) := do
  let b ← Act.get
  match b.configurer kind with
  | .error e => return .error e
  | .ok _ =>
    let removed ← removeConfigurers kind
    return .ok removed.head?

/-- The builder with its state, kinds, shared types and mode. -/
def describe (b : Builder S) : String :=
  Text.recorded "ConfiguredBuilder"
    [("state", b.state.describe),
      ("configurers", Text.listed (b.table.kinds.map ConfigurerKind.describe)),
      ("shared", Text.recorded "SharedObjects"
        [("types", Text.listed ((b.shared.typeNames S.typeName).map Text.quote))]),
      ("allow_same_kind", Text.truth b.accumulates)]

/-- The description of a builder while a build has it locked. -/
def lockedDescription : String :=
  Text.partlyRecorded "ConfiguredBuilder" [("state", Text.quote "<locked>")]

end Builder

/-- Run a callback on a builder. -/
def Callback.run {S : Signature} {α : Type} :
    Callback S α → Act (Event S) (Builder S) (Except Error α)
  | done a => pure (.ok a)
  | fail e => pure (.error e)
  | register c next => do
    let r ← Builder.register c
    (next r).run
  | configurers kind next => do
    let b ← Act.get
    (next (b.configurers kind)).run
  | removeConfigurers kind next => do
    let removed ← Builder.removeConfigurers kind
    (next removed).run
  | setShared u v next => do
    let b ← Act.get
    Act.modify fun b => b.setShared u v
    (next (b.shared.get? u)).run
  | sharedObjects next => do
    let b ← Act.get
    (next b.shared).run
  | state next => do
    let b ← Act.get
    (next b.state).run
  | target next => do
    let b ← Act.get
    (next b.target).run
  | setTarget t next => do
    Act.modify fun b => b.withTarget t
    next.run
  | postProcess u x next => do
    let b ← Act.get
    (next (b.postProcessors.apply u x)).run
  | world next => do
    let b ← Act.get
    (next b.world).run
  | setWorld w next => do
    Act.modify fun b => { b with world := w }
    next.run
  | note n next => do
    Act.emit (.noted n)
    next.run
  | log line next => do
    Act.emit (.logged line)
    next.run

end AuthChain.Build
