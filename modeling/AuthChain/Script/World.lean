import AuthChain.Auth.Sink
import AuthChain.Script.Report
import AuthChain.Script.Identity
import AuthChain.Slots

/-!
# The world of described components

What described strategies, managers and sinks remember: how often each has answered, and the records
and counts of the sinks by their names.
-/

namespace AuthChain.Script

open Auth
open Json (Value)

/-- How a described sink is put together; what it remembers is found under a number. -/
inductive SinkPlan where
  | silent
  | tracing
  | recording (n : Nat)
  | metrics (n : Nat)
  | noting (id : String)
  | composite (sinks : List SinkPlan)

/-- What described components remember. A name stands for the sink that was the last to get it. -/
structure World where
  answered : Slots Nat Nat
  components : Nat
  recordings : Slots Nat Recording
  metrics : Slots Nat Metrics
  sinks : Slots String SinkPlan

namespace World

/-- Nothing has been described. -/
def empty : World :=
  ⟨.empty, 0, .empty, .empty, .empty⟩

/-- The number of answers of a component. -/
def answeredCell (component : Nat) : Cell World Nat :=
  (⟨fun w => w.answered, fun a w => { w with answered := a }⟩ : Cell World (Slots Nat Nat)).comp
    (Slots.slot component 0)

/-- The record with a number. -/
def recordingCell (n : Nat) : Cell World Recording :=
  (⟨fun w => w.recordings, fun a w => { w with recordings := a }⟩ :
    Cell World (Slots Nat Recording)).comp
    (Slots.slot n (.withCapacity Recording.defaultCapacity))

/-- The counts with a number. -/
def metricsCell (n : Nat) : Cell World Metrics :=
  (⟨fun w => w.metrics, fun a w => { w with metrics := a }⟩ :
    Cell World (Slots Nat Metrics)).comp (Slots.slot n .zero)

/-- The number of a new component. -/
def newComponent (w : World) : Nat × World :=
  (w.components, { w with components := w.components + 1 })

/-- The report of a sink, if it has one. -/
def sinkReport? (w : World) (brief : Bool) : SinkPlan → Option Value
  | .recording n => some (recordingReport brief ((recordingCell n).get w))
  | .metrics n => some (metricsReport ((metricsCell n).get w))
  | .composite sinks =>
    some (.ofMembers [("len", .nat sinks.length), ("empty", .bool sinks.isEmpty)])
  | _ => none

/-- The reports of all named sinks that have one. -/
def reports (w : World) (brief : Bool) : Value :=
  .ofMembers (w.sinks.entries.filterMap fun (id, plan) =>
    (w.sinkReport? brief plan).map (id, ·))

/-- Empty the record of a name; other sinks have nothing to be emptied. -/
def clearRecording (id : String) (w : World) : World :=
  match w.sinks.get? id with
  | some (.recording n) => (recordingCell n).modify (·.clear) w
  | _ => w

end World

/-- The note of a noting sink about a notice. -/
def noticeNote (id : String) : Notice Identity → String
  | .success result =>
    id ++ " success " ++ Authentication.name result ++
      (if (Authentication.secret? result).isSome then " (secret)" else " (no secret)")
  | .failure error credential =>
    id ++ " failure " ++ Authentication.name credential ++ ": " ++ error.message

mutual

/-- The sink of a plan. -/
def SinkPlan.sink : SinkPlan → Sink Identity World
  | .silent => .silent
  | .tracing => .tracing
  | .recording n => .recording (World.recordingCell n)
  | .metrics n => .metrics (World.metricsCell n)
  | .noting id => ⟨fun notice => Act.emit (.noted (noticeNote id notice))⟩
  | .composite plans => .composite (sinksOf plans)

/-- The sinks of several plans. -/
def sinksOf : List SinkPlan → List (Sink Identity World)
  | [] => []
  | plan :: rest => plan.sink :: sinksOf rest

end

end AuthChain.Script
