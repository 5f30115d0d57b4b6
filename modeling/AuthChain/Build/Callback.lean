import AuthChain.Build.Processors
import AuthChain.Build.SharedObjects
import AuthChain.Error
import AuthChain.Log

/-!
# Callbacks

What a configurer or a hook does during a build is a program over the operations that the build
offers it: registering and removing configurers, reading and writing shared objects and the target,
post-processing objects, or failing. Callbacks form a monad.
-/

namespace AuthChain.Build

/-- The types that a build is about: value types with their codes, configurers with their kinds, the
target that they fill, the object that is built, the surroundings that callbacks share with the
caller, and the notes that callbacks leave. -/
structure Signature where
  Code : Type
  [decCode : DecidableEq Code]
  Value : Code → Type
  typeName : Code → String
  Configurer : Type
  kind : Configurer → ConfigurerKind
  Target : Type
  Object : Type
  World : Type
  Note : Type

attribute [instance] Signature.decCode

/-- A program over the operations of a running build. -/
inductive Callback (S : Signature) (α : Type) where
  | done (a : α)
  | fail (e : Error)
  /-- Register a configurer. -/
  | register (c : S.Configurer) (next : Except IllegalState Unit → Callback S α)
  /-- The configurers of a kind. -/
  | configurers (kind : ConfigurerKind) (next : List S.Configurer → Callback S α)
  /-- Remove the configurers of a kind. -/
  | removeConfigurers (kind : ConfigurerKind) (next : List S.Configurer → Callback S α)
  /-- Share a value; the answer is the one it replaces. -/
  | setShared (u : S.Code) (v : S.Value u) (next : Option (S.Value u) → Callback S α)
  /-- The table of shared objects. -/
  | sharedObjects (next : SharedObjects S.Value → Callback S α)
  | state (next : State → Callback S α)
  | target (next : S.Target → Callback S α)
  | setTarget (t : S.Target) (next : Callback S α)
  /-- Pass an object through the processors of its type. -/
  | postProcess (u : S.Code) (x : S.Value u) (next : S.Value u → Callback S α)
  | world (next : S.World → Callback S α)
  | setWorld (w : S.World) (next : Callback S α)
  /-- Leave a note. -/
  | note (n : S.Note) (next : Callback S α)
  /-- Write a log line. -/
  | log (line : LogLine) (next : Callback S α)

namespace Callback

variable {S : Signature} {α β : Type}

/-- Go on with the answer of the first program. -/
protected def bind (f : α → Callback S β) : Callback S α → Callback S β
  | done a => f a
  | fail e => fail e
  | register c next => register c fun x => (next x).bind f
  | configurers kind next => configurers kind fun x => (next x).bind f
  | removeConfigurers kind next => removeConfigurers kind fun x => (next x).bind f
  | setShared u v next => setShared u v fun x => (next x).bind f
  | sharedObjects next => sharedObjects fun x => (next x).bind f
  | state next => state fun x => (next x).bind f
  | target next => target fun x => (next x).bind f
  | setTarget t next => setTarget t (next.bind f)
  | postProcess u x next => postProcess u x fun y => (next y).bind f
  | world next => world fun x => (next x).bind f
  | setWorld w next => setWorld w (next.bind f)
  | note n next => note n (next.bind f)
  | log line next => log line (next.bind f)

instance : Monad (Callback S) where
  pure := done
  bind m f := m.bind f

/-- Go on with a value or fail with an error. -/
def ofExcept : Except Error α → Callback S α
  | .ok a => done a
  | .error e => fail e

/-- Change the target. -/
def modifyTarget (f : S.Target → S.Target) : Callback S Unit :=
  target fun t => setTarget (f t) (done ())

/-- The shared value of a type. -/
def shared (u : S.Code) : Callback S (Option (S.Value u)) :=
  sharedObjects fun t => done (t.get? u)

/-- The shared value of a type, or the reason why there is none. -/
def requiredShared (u : S.Code) : Callback S (Except IllegalState (S.Value u)) :=
  sharedObjects fun t =>
    match t.get? u with
    | some v => done (.ok v)
    | none => done (.error (.missingShared (S.typeName u)))

/-- The only element of a list with at most one. -/
def single (kind : ConfigurerKind) (cs : List S.Configurer) :
    Except IllegalState (Option S.Configurer) :=
  match cs with
  | [] => .ok none
  | [c] => .ok (some c)
  | _ :: _ :: _ => .error (.severalConfigurers kind cs.length)

/-- The configurer of a kind, or the reason why it is not single. -/
def configurer (kind : ConfigurerKind) :
    Callback S (Except IllegalState (Option S.Configurer)) :=
  configurers kind fun cs => done (single kind cs)

end Callback

/-- What runs during a build: the callbacks of the configurers and the hooks of the target. -/
structure Lifecycle (S : Signature) where
  init : S.Configurer → Callback S Unit
  configure : S.Configurer → Callback S Unit
  beforeInit : Callback S Unit
  beforeConfigure : Callback S Unit
  performBuild : Callback S S.Object

end AuthChain.Build
