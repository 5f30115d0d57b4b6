import AuthChain.Auth.Resolver
import AuthChain.Build.Run

/-!
# Assembling a resolver

A resolver can be put together by configurers: each contributes strategies, a fallback, a sink or
settings, and the build makes a resolver of what they left on the target. Configurers of other kinds
can take part; what they do is a parameter.
-/

namespace AuthChain.Auth

open Build

/-- What configurers have contributed so far. -/
structure Assembly (α σ : Type) where
  strategies : List (Strategy α σ)
  fallback : Option (Manager α σ)
  sink : Option (Sink α σ)
  retainCredentials : Bool

namespace Assembly

variable {α σ : Type}

/-- Nothing yet. -/
def empty : Assembly α σ :=
  ⟨[], none, none, false⟩

/-- Nothing yet but the settings' choice about secrets. -/
def ofSettings (settings : SecuritySettings) : Assembly α σ :=
  { (empty : Assembly α σ) with retainCredentials := !settings.eraseCredentials }

def addStrategy (a : Assembly α σ) (s : Strategy α σ) : Assembly α σ :=
  { a with strategies := a.strategies ++ [s] }

def setFallback (a : Assembly α σ) (m : Manager α σ) : Assembly α σ :=
  { a with fallback := some m }

def setSink (a : Assembly α σ) (s : Sink α σ) : Assembly α σ :=
  { a with sink := some s }

def setRetainCredentials (a : Assembly α σ) (retain : Bool) : Assembly α σ :=
  { a with retainCredentials := retain }

/-- There is a strategy or a fallback. -/
def isConfigured (a : Assembly α σ) : Bool :=
  !a.strategies.isEmpty || a.fallback.isSome

/-- The parts of the resolver to be made. -/
def parts (a : Assembly α σ) : ResolverParts α σ :=
  let p := (ResolverParts.empty.withStrategies a.strategies).retainCredentials a.retainCredentials
  let p := match a.fallback with
    | some m => p.withFallback m
    | none => p
  match a.sink with
  | some s => p.withSink s
  | none => p

/-- What is left when the parts have been taken. -/
def emptied (a : Assembly α σ) : Assembly α σ :=
  { a with strategies := [], fallback := none, sink := none }

end Assembly

/-- The configurers that come with a resolver. -/
inductive Contribution (α σ : Type) where
  | strategies (list : List (Strategy α σ))
  | fallback (manager : Manager α σ)
  | sink (sink : Sink α σ)
  | settings (settings : SecuritySettings)

def strategiesKind : ConfigurerKind :=
  ⟨"gatekeeper::auth::resolver_builder::StrategyConfigurer"⟩

def fallbackKind : ConfigurerKind :=
  ⟨"gatekeeper::auth::resolver_builder::FallbackConfigurer"⟩

def sinkKind : ConfigurerKind :=
  ⟨"gatekeeper::auth::resolver_builder::EventSinkConfigurer"⟩

def settingsKind : ConfigurerKind :=
  ⟨"gatekeeper::auth::resolver_builder::SettingsConfigurer"⟩

/-- The kind of a contribution. -/
def Contribution.kind {α σ : Type} : Contribution α σ → ConfigurerKind
  | strategies _ => strategiesKind
  | fallback _ => fallbackKind
  | sink _ => sinkKind
  | settings _ => settingsKind

/-- The codes of the values shared or post-processed while a resolver is assembled. -/
inductive AssemblyValue where
  | settings
  | resolver
  deriving DecidableEq, Repr

/-- The name of a value type. -/
def AssemblyValue.typeName : AssemblyValue → String
  | settings => "gatekeeper::config::settings::SecuritySettings"
  | resolver => "gatekeeper::auth::resolver::ChainResolver"

/-- The values of a value type. -/
abbrev AssemblyValue.Value (α σ : Type) : AssemblyValue → Type
  | settings => SecuritySettings
  | resolver => Resolver α σ

/-- The builds of resolvers with further configurers in `X`. -/
abbrev assembling (α σ X : Type) (kind : X → ConfigurerKind) : Signature where
  Code := AssemblyValue
  Value := AssemblyValue.Value α σ
  typeName := AssemblyValue.typeName
  Configurer := Contribution α σ ⊕ X
  kind := Sum.elim Contribution.kind kind
  Target := Assembly α σ
  Object := Resolver α σ
  World := σ
  Note := String

section Lifecycle

variable {α σ X : Type} {kind : X → ConfigurerKind}

/-- The shared settings, or the reason why there are none. -/
def sharedSettings : Callback (assembling α σ X kind) (Except IllegalState SecuritySettings) :=
  @Callback.requiredShared (assembling α σ X kind) AssemblyValue.settings

/-- Settings are shared when they are initialized; the others do nothing yet. -/
def Contribution.init : Contribution α σ → Callback (assembling α σ X kind) Unit
  | .settings s => .setShared .settings s fun _ => .done ()
  | _ => .done ()

/-- Leave the contribution on the target; settings are read from the shared ones. -/
def Contribution.configure : Contribution α σ → Callback (assembling α σ X kind) Unit
  | .strategies list => Callback.modifyTarget fun (a : Assembly α σ) => list.foldl .addStrategy a
  | .fallback m => Callback.modifyTarget fun (a : Assembly α σ) => a.setFallback m
  | .sink s => Callback.modifyTarget fun (a : Assembly α σ) => a.setSink s
  | .settings _ => do
    -- the settings that were shared last count, not those of the configurer
    match ← sharedSettings with
    | .ok s =>
      Callback.modifyTarget fun (a : Assembly α σ) =>
        a.setRetainCredentials (!s.eraseCredentials)
    | .error cause => .fail (.illegalState cause)

/-- The log line for a target with nothing to ask. -/
def nothingToAskLine : LogLine :=
  ⟨.debug, "No authentication strategies and no fallback manager defined", []⟩

/-- Take the parts from the target, make a resolver of them and post-process it. -/
def makeResolver : Callback (assembling α σ X kind) (Resolver α σ) :=
  .target fun (a : Assembly α σ) =>
    let make : Callback (assembling α σ X kind) (Resolver α σ) :=
      -- the parts are taken also when no resolver can be made of them
      .setTarget a.emptied <|
        match a.parts.build with
        | .ok resolver => .postProcess .resolver resolver fun (r : Resolver α σ) => .done r
        | .error e => .fail e
    if a.isConfigured then make else .log nothingToAskLine make

/-- The lifecycle of a resolver, with what further configurers do. -/
def assemblyLifecycle (init configure : X → Callback (assembling α σ X kind) Unit) :
    Lifecycle (assembling α σ X kind) where
  init := Sum.elim Contribution.init init
  configure := Sum.elim Contribution.configure configure
  beforeInit := .done ()
  beforeConfigure := .done ()
  performBuild := makeResolver

end Lifecycle

end AuthChain.Auth
