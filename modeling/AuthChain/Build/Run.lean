import AuthChain.Build.Builder
import AuthChain.Build.Transition

/-!
# Building

A build runs once: every configurer is initialized, those registered meanwhile as well, then every
configurer is configured, then the object is built. The first error ends the build for good; after
a success the object is given out again.
-/

namespace AuthChain.Build

/-- An action on a builder that may fail. -/
abbrev Attempt (S : Signature) (α : Type) :=
  ExceptT Error (Act (Event S) (Builder S)) α

/-- An action that cannot fail. -/
def Attempt.ofAct {S : Signature} {α : Type} (m : Act (Event S) (Builder S) α) : Attempt S α :=
  ExceptT.lift m

namespace Builder

variable {S : Signature} {α : Type}

/-- The error of an answer, if it is one. -/
def failure? : Except Error α → Option Error
  | .ok _ => none
  | .error e => some e

/-- Make a call and keep a record of it. -/
def call (c : Call) (body : Callback S α) : Attempt S α :=
  ExceptT.mk do
    Act.emit (.started c)
    let r ← body.run
    Act.emit (.finished c (failure? r))
    return r

/-- Move on to the next state. -/
def move (next : State) : Attempt S Unit := do
  let b ← Attempt.ofAct Act.get
  match b.state.transition next with
  | .ok s =>
    Attempt.ofAct (Act.emit (.moved b.state s))
    Attempt.ofAct (Act.modify fun b => { b with state := s })
  | .error cause => throw (.illegalState cause)

/-- Initialize registrations in their order, up to the first error. -/
def initEach (l : Lifecycle S) : List (Registration S.Configurer) → Attempt S Unit
  | [] => pure ()
  | r :: rest => do
    call (.init r.serial) (l.init r.configurer)
    initEach l rest

/-- Configure registrations in their order, up to the first error. -/
def configureEach (l : Lifecycle S) : List (Registration S.Configurer) → Attempt S Unit
  | [] => pure ()
  | r :: rest => do
    call (.configure r.serial) (l.configure r.configurer)
    configureEach l rest

/-- Leave an event in an attempt. -/
def report (e : Event S) : Attempt S Unit :=
  Attempt.ofAct (Act.emit e)

/-- The registrations of the table, kind by kind. -/
def registered : Attempt S (List (Registration S.Configurer)) :=
  Attempt.ofAct (Act.gets fun b => b.table.registrations)

/-- Take the registrations whose `init` is due. -/
def takeLate : Attempt S (List (Registration S.Configurer)) :=
  Attempt.ofAct (Act.update fun b => (b.late, { b with late := [] }))

/-- The registrations whose `init` is due. -/
def dueLate : Attempt S (List (Registration S.Configurer)) :=
  Attempt.ofAct (Act.gets fun b => b.late)

/-- Initialize the registrations of the table, then those made meanwhile, which may not register
further ones. -/
def initConfigurers (l : Lifecycle S) : Attempt S Unit := do
  let first ← registered
  report (.initializing first.length)
  -- the list is fixed: what these calls register waits for the late pass
  initEach l first
  let late ← takeLate
  if !late.isEmpty then report (.initializingLate late.length)
  initEach l late
  match ← dueLate with
  | [] => return ()
  | extra :: _ => throw (.illegalState (.nestedRegistration (S.kind extra.configurer)))

/-- Configure the registrations of the table. -/
def configureConfigurers (l : Lifecycle S) : Attempt S Unit := do
  let all ← registered
  report (.configuring all.length)
  configureEach l all

/-- Keep the object of the build. -/
def keep (o : S.Object) : Attempt S (Produced S.Object) :=
  Attempt.ofAct (Act.update fun b =>
    (⟨b.nextObject, o⟩,
      { b with object := some ⟨b.nextObject, o⟩, nextObject := b.nextObject + 1 }))

/-- The stages of a build, from the first move to the last. -/
def runLifecycle (l : Lifecycle S) : Attempt S (Produced S.Object) := do
  move .initializing
  call .beforeInit l.beforeInit
  initConfigurers l
  move .configuring
  call .beforeConfigure l.beforeConfigure
  configureConfigurers l
  move .building
  let o ← call .performBuild l.performBuild
  let p ← keep o
  move .built
  return p

/-- Build the object, or give out the one that was built. -/
def build (l : Lifecycle S) : Attempt S (Produced S.Object) := do
  let b ← Attempt.ofAct Act.get
  match b.state with
  | .unbuilt => runLifecycle l
  | .built =>
    match b.object with
    | some p => return p
    | none => throw (.illegalState .missingObject)
  -- the build failed in this state, or is running
  | aborted => throw (.illegalState (.failedBefore aborted))

/-- Build the object or give out the one that was built; an error is only logged. -/
def getOrBuild (l : Lifecycle S) :
    Act (Event S) (Builder S) (Option (Produced S.Object)) := do
  let b ← Act.get
  if b.state.isUnbuilt then
    match ← (build l).run with
    | .ok p => return some p
    | .error e =>
      Act.emit (.gaveUp e)
      return none
  else
    if b.object.isNone then Act.emit (.withheld b.state)
    return b.object

end Builder

end AuthChain.Build
