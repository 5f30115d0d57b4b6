/-!
# Actions

An action reads and changes a state, gives an answer and leaves the events that happened on the
way, in order. Events are only written: no action can look at the events before it, so two actions
that differ in their events alone agree in all their answers and states.

Main statement: actions form a lawful monad, and the events of a sequence of actions are the
concatenation of theirs (`Act.events_bind`).
-/

namespace AuthChain

/-- What an action gives back: its answer, its events in order, and the state it leaves. -/
structure Outcome (ε σ α : Type) where
  answer : α
  events : List ε
  state : σ

/-- An action over states in `σ` that answers in `α` and leaves events in `ε`. -/
def Act (ε σ α : Type) : Type :=
  σ → Outcome ε σ α

namespace Act

variable {ε σ α β : Type}

/-- Answer at once. -/
protected def pure (a : α) : Act ε σ α :=
  fun s => ⟨a, [], s⟩

/-- Go on with the answer and the state of the first action. -/
protected def bind (m : Act ε σ α) (f : α → Act ε σ β) : Act ε σ β := fun s =>
  let first := m s
  let second := f first.answer first.state
  ⟨second.answer, first.events ++ second.events, second.state⟩

instance : Monad (Act ε σ) where
  pure := Act.pure
  bind := Act.bind

/-- Leave one event. -/
def emit (e : ε) : Act ε σ Unit :=
  fun s => ⟨(), [e], s⟩

/-- Answer with the state. -/
def get : Act ε σ σ :=
  fun s => ⟨s, [], s⟩

/-- Answer with a part of the state. -/
def gets (f : σ → α) : Act ε σ α :=
  fun s => ⟨f s, [], s⟩

/-- Change the state. -/
def modify (f : σ → σ) : Act ε σ Unit :=
  fun s => ⟨(), [], f s⟩

/-- Change the state and answer. -/
def update (f : σ → α × σ) : Act ε σ α :=
  fun s => ⟨(f s).1, [], (f s).2⟩

/-! ## The parts of a composed action -/

@[simp] theorem pure_apply (a : α) (s : σ) : (pure a : Act ε σ α) s = ⟨a, [], s⟩ := rfl

@[simp] theorem emit_apply (e : ε) (s : σ) : (emit e : Act ε σ Unit) s = ⟨(), [e], s⟩ := rfl

@[simp] theorem get_apply (s : σ) : (get : Act ε σ σ) s = ⟨s, [], s⟩ := rfl

@[simp] theorem gets_apply (f : σ → α) (s : σ) : (gets f : Act ε σ α) s = ⟨f s, [], s⟩ := rfl

@[simp] theorem modify_apply (f : σ → σ) (s : σ) : (modify f : Act ε σ Unit) s = ⟨(), [], f s⟩ := rfl

theorem bind_apply (m : Act ε σ α) (f : α → Act ε σ β) (s : σ) :
    (m >>= f) s =
      ⟨(f (m s).answer (m s).state).answer,
        (m s).events ++ (f (m s).answer (m s).state).events,
        (f (m s).answer (m s).state).state⟩ := rfl

@[simp] theorem answer_bind (m : Act ε σ α) (f : α → Act ε σ β) (s : σ) :
    ((m >>= f) s).answer = (f (m s).answer (m s).state).answer := rfl

@[simp] theorem events_bind (m : Act ε σ α) (f : α → Act ε σ β) (s : σ) :
    ((m >>= f) s).events = (m s).events ++ (f (m s).answer (m s).state).events := rfl

@[simp] theorem state_bind (m : Act ε σ α) (f : α → Act ε σ β) (s : σ) :
    ((m >>= f) s).state = (f (m s).answer (m s).state).state := rfl

theorem map_apply (f : α → β) (m : Act ε σ α) (s : σ) :
    (f <$> m) s = ⟨f (m s).answer, (m s).events, (m s).state⟩ := by
  show Outcome.mk _ ((m s).events ++ []) _ = _
  rw [List.append_nil]
  rfl

instance : LawfulMonad (Act ε σ) :=
  LawfulMonad.mk' _
    (fun m => funext fun s => by
      show Outcome.mk _ _ _ = _
      simp [Act.pure])
    (fun _ _ => rfl)
    (fun m f g => funext fun s => by simp [bind_apply])

end Act

end AuthChain
