import AuthChain.Act
import AuthChain.Auth.Event
import AuthChain.Auth.Token
import AuthChain.Cell
import AuthChain.Counter

/-!
# Sinks

A resolver publishes the outcome of a resolution to a sink: to the log, to counters, to a bounded
record of the latest outcomes, or to several sinks one after the other.
-/

namespace AuthChain.Auth

/-- The outcome of a resolution as it is published: a result, or an error with the credential. -/
inductive Notice (α : Type) where
  | success (result : α)
  | failure (error : AuthError) (credential : α)

/-- Receives notices; what it remembers is part of the state. -/
structure Sink (α σ : Type) where
  publish : Notice α → Act Event σ Unit

/-! ## Counters -/

/-- Counts of successes and failures, the failures also by their class. -/
structure Metrics where
  successes : Counter
  failures : Counter
  accountStatus : Counter
  internalService : Counter
  rejected : Counter
  providerNotFound : Counter
  deriving DecidableEq

namespace Metrics

/-- All counts at zero. -/
def zero : Metrics :=
  ⟨.zero, .zero, .zero, .zero, .zero, .zero⟩

/-- The count of the failures of a class. -/
def ofClass (m : Metrics) : ErrorClass → Counter
  | .accountStatus => m.accountStatus
  | .internalService => m.internalService
  | .rejected => m.rejected
  | .providerNotFound => m.providerNotFound

/-- The count of the failures with a label; other texts count nothing. -/
def failuresFor (m : Metrics) (label : String) : UInt64 :=
  match ErrorClass.ofLabel? label with
  | some c => (m.ofClass c).value
  | none => 0

/-- Count a success. -/
def countSuccess (m : Metrics) : Metrics :=
  { m with successes := m.successes.increment }

/-- Count a failure of a class. -/
def countFailure (m : Metrics) (c : ErrorClass) : Metrics :=
  let m := { m with failures := m.failures.increment }
  match c with
  | .accountStatus => { m with accountStatus := m.accountStatus.increment }
  | .internalService => { m with internalService := m.internalService.increment }
  | .rejected => { m with rejected := m.rejected.increment }
  | .providerNotFound => { m with providerNotFound := m.providerNotFound.increment }

/-- Count a notice. -/
def count {α : Type} (m : Metrics) : Notice α → Metrics
  | .success _ => m.countSuccess
  | .failure error _ => m.countFailure error.errorClass

end Metrics

/-! ## Records -/

/-- How a resolution ended. -/
inductive Ending where
  | success
  | failure
  deriving DecidableEq, Repr

def Ending.name : Ending → String
  | success => "success"
  | failure => "failure"

/-- One recorded outcome: of whom, and for a failure the text and the label of the error. -/
structure Entry where
  ending : Ending
  principal : String
  kind : CredentialKind
  error : Option String
  category : Option String
  deriving DecidableEq, Repr

namespace Entry

/-- The entry of a notice. -/
def ofNotice {α : Type} [Authentication α] : Notice α → Entry
  | .success result =>
    ⟨.success, Authentication.name result, Authentication.kind result, none, none⟩
  | .failure error credential =>
    ⟨.failure, Authentication.name credential, Authentication.kind credential,
      some error.message, some error.label⟩

/-- The JSON form: what is absent is left out. -/
def toJson (e : Entry) : Json.Value :=
  .ofMembers ([("outcome", .string e.ending.name), ("principal", .string e.principal),
    ("kind", .string e.kind.name)] ++ AuthenticationDetails.optionalMember "error" e.error ++
    AuthenticationDetails.optionalMember "category" e.category)

end Entry

/-- The latest outcomes, oldest first, at most `capacity` of them. -/
structure Recording where
  capacity : Nat
  entries : List Entry
  deriving DecidableEq

namespace Recording

/-- The capacity without a choice. -/
def defaultCapacity : Nat := 1024

/-- An empty record; it holds at least one entry. -/
def withCapacity (capacity : Nat) : Recording :=
  ⟨max capacity 1, []⟩

/-- Add an entry and drop the oldest one when the record is full. -/
def record (r : Recording) (e : Entry) : Recording :=
  if r.capacity ≤ r.entries.length then { r with entries := r.entries.drop 1 ++ [e] }
  else { r with entries := r.entries ++ [e] }

/-- Drop all entries. -/
def clear (r : Recording) : Recording :=
  { r with entries := [] }

/-- The number of entries with an ending. -/
def count (r : Recording) (ending : Ending) : Nat :=
  (r.entries.filter (·.ending == ending)).length

def successes (r : Recording) : Nat := r.count .success

def failures (r : Recording) : Nat := r.count .failure

end Recording

/-! ## The sinks -/

namespace Sink

variable {α σ : Type}

/-- Ignores every notice. -/
def silent : Sink α σ :=
  ⟨fun _ => pure ()⟩

/-- Writes one log line per notice. -/
def tracing [Authentication α] : Sink α σ where
  publish
    | .success result =>
      Act.emit (.succeeded (Authentication.name result) (Authentication.kind result)
        (Authentication.authorities result).length)
    | .failure error credential =>
      Act.emit (.failed (Authentication.name credential) (Authentication.kind credential) error)

/-- Counts every notice in a cell of the state. -/
def metrics (cell : Cell σ Metrics) : Sink α σ :=
  ⟨fun notice => Act.modify (cell.modify (·.count notice))⟩

/-- Records every notice in a cell of the state. -/
def recording [Authentication α] (cell : Cell σ Recording) : Sink α σ :=
  ⟨fun notice => Act.modify (cell.modify (·.record (.ofNotice notice)))⟩

/-- Publish a notice to sinks in their order. -/
def publishAll : List (Sink α σ) → Notice α → Act Event σ Unit
  | [], _ => pure ()
  | sink :: rest, notice => do
    sink.publish notice
    publishAll rest notice

/-- Passes every notice to several sinks in their order. -/
def composite (sinks : List (Sink α σ)) : Sink α σ :=
  ⟨publishAll sinks⟩

end Sink

end AuthChain.Auth
