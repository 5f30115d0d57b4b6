import AuthChain.Build.Run
import AuthChain.Json.Depth
import AuthChain.Script.Faults
import AuthChain.Script.Report
import AuthChain.Script.Values

/-!
# Described configurers

Configurers and hooks that carry out lists of actions on the build, leave a note of each call and of
each answer, and fill a list of items from which the object is built.
-/

namespace AuthChain.Script

open Build
open Json (Value)

mutual

/-- A configurer with its two lists of actions; a silent one carries out nothing. -/
inductive Setup where
  | mk (kind : ConfigurerKind) (name : String) (silent : Bool) (init configure : List Action)

/-- An action with its name; a caught error is noted and does not end the callback. -/
inductive Action where
  | mk (name : String) (caught : Bool) (deed : Deed)

/-- What an action does. -/
inductive Deed where
  | push (text : String)
  | clearItems
  | items
  | state
  | register (s : Setup) (label : Option String)
  | registerAgain (label : String)
  | setShared (t : ValueType) (v : t.Values)
  | shared (t : ValueType)
  | requiredShared (t : ValueType)
  | pushShared (t : ValueType) (text : t.Values → String)
  | sharedTypes
  | configurers (kind : ConfigurerKind)
  | removeConfigurers (kind : ConfigurerKind)
  | configurer (kind : ConfigurerKind)
  | postProcess (t : ValueType) (v : t.Values)
  | fail (error : Error)
  | describeOwner

end

namespace Setup

def kind : Setup → ConfigurerKind
  | mk kind .. => kind

def name : Setup → String
  | mk _ name .. => name

/-- The same configurer under another name. -/
def rename (s : Setup) (name : String) : Setup :=
  match s with
  | mk kind _ silent init configure => mk kind name silent init configure

end Setup

/-- Registered configurers by the labels under which they can be registered again. -/
abbrev Labels := List (String × Setup)

/-- The builds of lists of items. -/
abbrev setups : Signature where
  Code := ValueType
  Value := ValueType.Values
  typeName := ValueType.name
  Configurer := Setup
  kind := Setup.kind
  Target := List String
  Object := List String
  World := Labels
  Note := Value

/-- What a deed answers: an error, nothing worth a note, or a document. -/
abbrev Answer := Except Error (Option Value)

/-- An answer that is worth a note. -/
def answered (v : Value) : Callback setups Answer :=
  .done (.ok (some v))

/-- Nothing worth a note. -/
def silently : Callback setups Answer :=
  .done (.ok none)

/-- The names of configurers. -/
def namesReport (cs : List Setup) : Value :=
  .texts (cs.map Setup.name)

/-- The answer of a registration. -/
def registrationAnswer (label : Option String) (s : Setup) :
    Except IllegalState Unit → Callback setups Answer
  | .ok () =>
    match label with
    | some label =>
      .world fun (labels : Labels) =>
        .setWorld ((label, s) :: labels) (answered (.string "registered"))
    | none => answered (.string "registered")
  | .error cause => .done (.error (.illegalState cause))

/-- Do what an action is for. -/
def Deed.run : Deed → Callback setups Answer
  | push text => .target fun (items : List String) => .setTarget (items ++ [text]) silently
  | clearItems => .setTarget ([] : List String) silently
  | items => .target fun (items : List String) => answered (.texts items)
  | state => .state fun s => answered (.string s.name)
  | register s label => .register s (registrationAnswer label s)
  | registerAgain label =>
    .world fun (labels : Labels) =>
      match labels.lookup label with
      | some s => .register s (registrationAnswer none s)
      | none => silently
  | setShared t v =>
    .setShared t v fun (previous : Option t.Values) =>
      answered (.ofMembers [("previous", optionReport t.carrier previous)])
  | shared t =>
    .sharedObjects fun table => answered (.ofMembers [("value", optionReport t.carrier (table.get? t))])
  | requiredShared t => do
    match ← @Callback.requiredShared setups t with
    | .ok v => answered (.ofMembers [("value", valueReport t.carrier v)])
    | .error cause => .done (.error (.illegalState cause))
  | pushShared t text => do
    match ← @Callback.requiredShared setups t with
    | .ok v => .target fun (items : List String) => .setTarget (items ++ [text v]) silently
    | .error cause => .done (.error (.illegalState cause))
  | sharedTypes => .sharedObjects fun table => answered (.texts (table.typeNames ValueType.name))
  | configurers kind => .configurers kind fun cs => answered (namesReport cs)
  | removeConfigurers kind => .removeConfigurers kind fun cs => answered (namesReport cs)
  | configurer kind => do
    match ← (Callback.configurer kind : Callback setups (Except IllegalState (Option Setup))) with
    | .ok found => answered (.ofMembers [("found", .textOrNull (found.map Setup.name))])
    | .error cause => .done (.error (.illegalState cause))
  | postProcess t v =>
    .postProcess t v fun (after : t.Values) => answered (valueReport t.carrier after)
  | fail error => .done (.error error)
  | describeOwner => answered (.string Builder.lockedDescription)

/-- Carry out an action and note its answer. -/
def Action.run : Action → Callback setups Unit
  | mk name caught deed => do
    match ← deed.run with
    | .ok none => .done ()
    | .ok (some v) => .note (.array [.string name, v]) (.done ())
    | .error e =>
      if caught then .note (.array [.string name, errorReport e]) (.done ())
      else .fail e

/-- Carry out actions up to the first that fails. -/
def runActions : List Action → Callback setups Unit
  | [] => .done ()
  | action :: rest => do
    action.run
    runActions rest

/-- Note a call and carry out its actions. -/
def enterCall (call : String) (actions : List Action) : Callback setups Unit :=
  .state fun s => .note (.string (call ++ " @" ++ s.name)) (runActions actions)

def Setup.init : Setup → Callback setups Unit
  | mk _ name silent init _ => if silent then .done () else enterCall ("init " ++ name) init

def Setup.configure : Setup → Callback setups Unit
  | mk _ name silent _ configure =>
    if silent then .done () else enterCall ("configure " ++ name) configure

/-- The actions of the hooks. -/
structure Hooks where
  beforeInit : List Action
  beforeConfigure : List Action
  performBuild : List Action

/-- The object is the post-processed list of items; `items` is its type. -/
def Hooks.lifecycle (h : Hooks) (items : ValueType) (ofItems : List String → items.Values)
    (toItems : items.Values → List String) : Lifecycle setups where
  init := Setup.init
  configure := Setup.configure
  beforeInit := enterCall "hook before_init" h.beforeInit
  beforeConfigure := enterCall "hook before_configure" h.beforeConfigure
  performBuild := do
    enterCall "hook perform_build" h.performBuild
    .target fun (list : List String) =>
      .postProcess items (ofItems list) fun (after : items.Values) =>
        .done (toItems after)

/-! ## Reading descriptions -/

/-- What names in documents stand for. -/
structure Vocabulary where
  kind : String → ConfigurerKind
  silent : String → Bool
  valueType : String → ValueType
  /-- The type of the text that is pushed when shared. -/
  pushed : ValueType
  pushedText : pushed.Values → String

mutual

/-- The configurer that a document describes, at most `limit` configurers deep. -/
def readSetup (vocabulary : Vocabulary) : Nat → Value → Setup
  | 0, v => .mk (vocabulary.kind (v.textAt "kind" "")) (v.textAt "name" "") true [] []
  | limit + 1, v =>
    let kind := v.textAt "kind" ""
    .mk (vocabulary.kind kind) (v.textAt "name" "") (vocabulary.silent kind)
      ((v.itemsAt "init").map (readAction vocabulary limit))
      ((v.itemsAt "configure").map (readAction vocabulary limit))

/-- The action that a document describes. -/
def readAction (vocabulary : Vocabulary) : Nat → Value → Action
  | 0, _ => .mk "" false .clearItems
  | limit + 1, v =>
    let name := v.textAt "do" ""
    let kind := vocabulary.kind (v.textAt "kind" "")
    let type := vocabulary.valueType (v.textAt "type" "")
    let value := readValue type.carrier ((v.member? "value").getD .null)
    let deed : Deed :=
      match name with
      | "push" => .push (v.textAt "text" "")
      | "clear_items" => .clearItems
      | "items" => .items
      | "state" => .state
      | "register" => .register (readSetup vocabulary limit v) (v.textAt? "as")
      | "register_arc" => .registerAgain (v.textAt "handle" "")
      | "set_shared" => .setShared type value
      | "shared" => .shared type
      | "required_shared" => .requiredShared type
      | "push_shared" => .pushShared vocabulary.pushed vocabulary.pushedText
      | "shared_types" => .sharedTypes
      | "configurers" => .configurers kind
      | "remove_configurers" => .removeConfigurers kind
      | "configurer" => .configurer kind
      | "post_process" => .postProcess type value
      | "debug_owner" => .describeOwner
      | _ => .fail (readError ((v.field? "error").getD .null))
    .mk name (v.boolAt "catch" false) deed

end

end AuthChain.Script
