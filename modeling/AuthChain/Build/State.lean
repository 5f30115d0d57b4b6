/-!
# States of a build

A build moves forward through five states, one at a time: unbuilt, initializing, configuring,
building, built. Main statements: a state can follow another exactly when its rank is the next one
(`State.canTransition_iff`), and the configured states are configuring and those that follow it
(`State.isConfigured_iff_successors`).
-/

namespace AuthChain.Build

/-- The state of a build. -/
inductive State where
  | unbuilt
  | initializing
  | configuring
  | building
  | built
  deriving DecidableEq, Repr

namespace State

instance : Inhabited State := ⟨unbuilt⟩

def all : List State :=
  [unbuilt, initializing, configuring, building, built]

def name : State → String
  | unbuilt => "unbuilt"
  | initializing => "initializing"
  | configuring => "configuring"
  | building => "building"
  | built => "built"

/-- The state as a constructor. -/
def describe : State → String
  | unbuilt => "Unbuilt"
  | initializing => "Initializing"
  | configuring => "Configuring"
  | building => "Building"
  | built => "Built"

/-- The place of the state in the order of a build. -/
def rank : State → Nat
  | unbuilt => 0
  | initializing => 1
  | configuring => 2
  | building => 3
  | built => 4

/-- Every pair of a state and the one that may follow it. -/
def transitions : List (State × State) :=
  [(unbuilt, initializing), (initializing, configuring), (configuring, building),
    (building, built)]

/-- The second state may follow the first. -/
def canTransition (s t : State) : Bool :=
  transitions.contains (s, t)

def isUnbuilt (s : State) : Bool := s == unbuilt

def isInitializing (s : State) : Bool := s == initializing

/-- Configuring or any later state; registration is closed from here on. -/
def isConfigured (s : State) : Bool := configuring.rank ≤ s.rank

def isBuilt (s : State) : Bool := s == built

theorem canTransition_iff (s t : State) :
    s.canTransition t = true ↔ t.rank = s.rank + 1 := by
  cases s <;> cases t <;> decide

/-- The state that follows, if there is one. -/
def next? (s : State) : Option State :=
  (transitions.find? (·.1 == s)).map (·.2)

theorem rank_of_next? {s t : State} (h : s.next? = some t) : t.rank = s.rank + 1 := by
  cases s <;> cases t <;> first | rfl | cases h

theorem rank_le (s : State) : s.rank ≤ 4 := by
  cases s <;> decide

/-- The states behind a state, from one to the next. -/
def successors (s : State) : List State :=
  match _h : s.next? with
  | none => []
  | some t => t :: t.successors
termination_by 4 - s.rank
decreasing_by
  have hrank := rank_of_next? ‹s.next? = some t›
  have hle := rank_le t
  omega

theorem successors_of_last {s : State} (h : s.next? = none) : s.successors = [] := by
  rw [successors]
  split
  · rfl
  · next heq =>
    rw [h] at heq
    cases heq

theorem successors_of_next? {s t : State} (h : s.next? = some t) :
    s.successors = t :: t.successors := by
  rw [successors]
  split
  · next heq =>
    rw [h] at heq
    cases heq
  · next heq =>
    rw [h] at heq
    cases heq
    rfl

theorem successors_configuring : configuring.successors = [building, built] := by
  rw [successors_of_next? (t := building) rfl, successors_of_next? (t := built) rfl,
    successors_of_last rfl]

theorem isConfigured_iff_successors (s : State) :
    s.isConfigured = true ↔ s = configuring ∨ s ∈ configuring.successors := by
  rw [successors_configuring]
  cases s <;> decide

theorem isConfigured_eq_false_iff (s : State) :
    s.isConfigured = false ↔ s = unbuilt ∨ s = initializing := by
  rw [Bool.eq_false_iff, ne_eq, isConfigured_iff_successors, successors_configuring]
  cases s <;> decide

end State

end AuthChain.Build
