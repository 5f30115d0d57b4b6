import AuthChain.Build.Callback

/-!
# Events of a build

What happens while a builder is used: the history of a build as a list, in which every call of a
callback and every registration has its own entry, and the log line that some of the events write.
-/

namespace AuthChain.Build

/-- A call that a build makes; callbacks of configurers are named by their registration. -/
inductive Call where
  | beforeInit
  | init (serial : Nat)
  | beforeConfigure
  | configure (serial : Nat)
  | performBuild
  deriving DecidableEq, Repr

/-- What happens while a builder is used. -/
inductive Event (S : Signature) where
  /-- The build moved on to another state. -/
  | moved (before after : State)
  /-- A configurer was registered. -/
  | registered (serial : Nat) (kind : ConfigurerKind)
  /-- The registration was made during the initializing state. -/
  | registeredLate (kind : ConfigurerKind)
  /-- The configurers of a kind were removed. -/
  | removed (kind : ConfigurerKind)
  /-- A pass over a number of configurers begins. -/
  | initializing (count : Nat)
  | initializingLate (count : Nat)
  | configuring (count : Nat)
  /-- A call begins. -/
  | started (call : Call)
  /-- A call ends, with or without an error. -/
  | finished (call : Call) (failure : Option Error)
  /-- There is no object to give. -/
  | withheld (state : State)
  /-- A build failed where errors are not reported. -/
  | gaveUp (error : Error)
  /-- A callback left a note. -/
  | noted (note : S.Note)
  /-- A callback wrote a log line. -/
  | logged (line : LogLine)

namespace Event

variable {S : Signature}

/-- The log line that the event writes, if it writes one. -/
def line? : Event S → Option LogLine
  | moved before after =>
    some ⟨.trace, "Build state transition", [("from", before.name), ("to", after.name)]⟩
  | registered .. => none
  | registeredLate kind =>
    some ⟨.trace, "Configurer registered while initializing", [("kind", kind.shortName)]⟩
  | removed _ => none
  | initializing count =>
    some ⟨.debug, "Initializing configurers", [("count", toString count)]⟩
  | initializingLate count =>
    some ⟨.debug, "Initializing late-registered configurers", [("count", toString count)]⟩
  | configuring count => some ⟨.debug, "Configuring configurers", [("count", toString count)]⟩
  | started _ => none
  | finished .. => none
  | withheld state =>
    some ⟨.debug, "Builder holds no object, returning none", [("state", state.name)]⟩
  | gaveUp error =>
    some ⟨.debug, "Failed to perform build, returning none", [("error", error.message)]⟩
  | noted _ => none
  | logged line => some line

/-- The note of the event, if it is one. -/
def note? : Event S → Option S.Note
  | noted n => some n
  | _ => none

/-- The call that the event begins, if it begins one. -/
def call? : Event S → Option Call
  | started call => some call
  | _ => none

end Event

end AuthChain.Build
