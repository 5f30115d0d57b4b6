import AuthChain.Auth.Assembly
import AuthChain.Script.Chain

/-!
# Described contributions and probes

Configurers for the assembly of a resolver that a document describes: the contributions that come
with a resolver, and probes, which carry out a list of actions in each of their two callbacks.
-/

namespace AuthChain.Script

open Auth Build
open Json (Value)

mutual

/-- A configurer that carries out actions. -/
inductive Probe where
  | mk (kind : ConfigurerKind) (name : String) (init configure : List ProbeAction)

/-- An action of a probe. -/
inductive ProbeAction where
  | look
  | needSettings
  | strategy (document : Value)
  | fallback (document : Value)
  | sink (document : Value)
  | retain (b : Bool)
  | register (c : ProbeContribution)
  | removeStrategies
  | fail (error : Error)

/-- A configurer that a document describes. -/
inductive ProbeContribution where
  | strategies (documents : List Value)
  | fallback (document : Value)
  | sink (document : Value)
  | settings (document : Value)
  | probe (p : Probe)

end

def Probe.kind : Probe → ConfigurerKind
  | mk kind .. => kind

/-- The builds of resolvers in which probes take part. -/
abbrev probing : Signature :=
  assembling Identity World Probe Probe.kind

/-- The configurer of a description. -/
def ProbeContribution.make : ProbeContribution → Making probing.Configurer
  | strategies documents => do
    return .inl (.strategies (← documents.mapM makeStrategy))
  | fallback document => do return .inl (.fallback (← makeManager document))
  | sink document => do return .inl (.sink (← makeSink document))
  | settings document => do return .inl (.settings (← liftExcept (makeSettings document)))
  | probe p => return .inr p

/-- Make components within a callback. -/
def making {α : Type} (m : Making α) : Callback probing α :=
  Callback.world fun (w : World) =>
    let (r, after) := m.run.run w
    Callback.setWorld after (Callback.ofExcept r)

/-- Go on with a value or fail with the cause. -/
def orIllegal {α : Type} : Except IllegalState α → Callback probing α
  | .ok a => .done a
  | .error cause => .fail (.illegalState cause)

/-- What a probe sees. -/
def lookNote (name stage : String) (a : Assembly Identity World) (settings : Bool)
    (state : State) : String :=
  name ++ " " ++ stage ++ ": " ++ toString a.strategies.length ++ " strategies, configured " ++
    Text.truth a.isConfigured ++ ", settings " ++ Text.truth settings ++ ", state " ++ state.name

/-- Carry out an action. -/
def ProbeAction.run (name stage : String) : ProbeAction → Callback probing Unit
  | look =>
    .target fun (a : Assembly Identity World) =>
      .sharedObjects fun shared =>
        .state fun state =>
          .note (lookNote name stage a (shared.contains AssemblyValue.settings) state) (.done ())
  | needSettings => do
    let s ← orIllegal (← sharedSettings)
    .note (name ++ " " ++ stage ++ ": principal " ++ s.anonymous.principal) (.done ())
  | strategy document => do
    let s ← making (makeStrategy document)
    Callback.modifyTarget fun (a : Assembly Identity World) => a.addStrategy s
  | fallback document => do
    let m ← making (makeManager document)
    Callback.modifyTarget fun (a : Assembly Identity World) => a.setFallback m
  | sink document => do
    let s ← making (makeSink document)
    Callback.modifyTarget fun (a : Assembly Identity World) => a.setSink s
  | retain b => Callback.modifyTarget fun (a : Assembly Identity World) => a.setRetainCredentials b
  | register c => do
    let made ← making c.make
    .register made fun r => orIllegal r
  | removeStrategies =>
    .removeConfigurers strategiesKind fun removed =>
      .note (name ++ " " ++ stage ++ ": removed " ++ toString removed.length) (.done ())
  | fail error => .fail error

/-- Carry out actions up to the first that fails. -/
def runProbe (name stage : String) : List ProbeAction → Callback probing Unit
  | [] => .done ()
  | action :: rest => do
    action.run name stage
    runProbe name stage rest

def Probe.init : Probe → Callback probing Unit
  | mk _ name init _ => runProbe name "init" init

def Probe.configure : Probe → Callback probing Unit
  | mk _ name _ configure => runProbe name "configure" configure

/-- The lifecycle of resolvers in which probes take part. -/
def probingLifecycle : Lifecycle probing :=
  assemblyLifecycle Probe.init Probe.configure

/-! ## Reading descriptions -/

mutual

/-- The configurer that a document describes, at most `limit` probes deep; probes are of the given
kind. -/
def readContribution (probeKind : ConfigurerKind) : Nat → Value → ProbeContribution
  | 0, _ => .strategies []
  | limit + 1, v =>
    match v.textAt "kind" "" with
    | "Strategy" => .strategies (v.itemsAt "strategies")
    | "Fallback" => .fallback ((v.field? "fallback").getD .null)
    | "EventSink" => .sink ((v.field? "sink").getD .null)
    | "Settings" => .settings ((v.member? "settings").getD .null)
    | _ =>
      .probe (.mk probeKind (v.textAt "name" "")
        ((v.itemsAt "init").map (readProbeAction probeKind limit))
        ((v.itemsAt "configure").map (readProbeAction probeKind limit)))

/-- The action that a document describes. -/
def readProbeAction (probeKind : ConfigurerKind) : Nat → Value → ProbeAction
  | 0, _ => .look
  | limit + 1, v =>
    let inner (name : String) : Value := (v.field? name).getD .null
    match v.textAt "do" "" with
    | "look" => .look
    | "need_settings" => .needSettings
    | "strategy" => .strategy (inner "strategy")
    | "fallback" => .fallback (inner "fallback")
    | "sink" => .sink (inner "sink")
    | "retain" => .retain (v.boolAt "value" false)
    | "register" => .register (readContribution probeKind limit v)
    | "remove_strategies" => .removeStrategies
    | _ => .fail (readError (inner "error"))

end

end AuthChain.Script
