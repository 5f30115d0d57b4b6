import AuthChain.Build.Run

/-!
# Steps of a builder

What one operation can do to a builder, whoever carries it out, with the events that it leaves, and
the paths that are made of such steps. A step is a registration that is not refused, a removal that
finds its kind, a write to the shared objects, to the target or to the surroundings, or an event
that changes nothing (`Step`).

Main statement: every callback follows a path, whatever it does (`Callback.run_path`). A property of
histories and builders that every step keeps is therefore kept by every callback
(`Path.invariant`).
-/

namespace AuthChain.Build

variable {S : Signature} {α : Type}

/-- The event tells of no registration, no removal and no move to another state. -/
def Event.isPlain : Event S → Bool
  | .registered .. => false
  | .registeredLate _ => false
  | .removed _ => false
  | .moved .. => false
  | _ => true

/-- The events that a registration leaves. -/
def registrationEvents (b : Builder S) (c : S.Configurer) : List (Event S) :=
  .registered b.nextSerial (S.kind c) ::
    if b.state.isInitializing then [.registeredLate (S.kind c)] else []

/-- One step of a builder with the events that it leaves. -/
inductive Step : Builder S → List (Event S) → Builder S → Prop
  | register (b : Builder S) (c : S.Configurer) :
      b.state.isConfigured = false → Step b (registrationEvents b c) (b.enter c)
  | remove (b : Builder S) (kind : ConfigurerKind) :
      b.table.contains kind = true → Step b [.removed kind] (b.without kind)
  | share (b : Builder S) (u : S.Code) (v : S.Value u) : Step b [] (b.setShared u v)
  | fill (b : Builder S) (t : S.Target) : Step b [] (b.withTarget t)
  | surround (b : Builder S) (w : S.World) : Step b [] { b with world := w }
  | tell (b : Builder S) (e : Event S) : e.isPlain = true → Step b [e] b

/-- Steps one after the other, with all their events. -/
inductive Path : Builder S → List (Event S) → Builder S → Prop
  | refl (b : Builder S) : Path b [] b
  | head {a b c : Builder S} {e h : List (Event S)} : Step a e b → Path b h c → Path a (e ++ h) c

namespace Path

theorem single {a b : Builder S} {e : List (Event S)} (h : Step a e b) : Path a e b := by
  have path := head h (refl b)
  rwa [List.append_nil] at path

theorem trans {a b c : Builder S} {g h : List (Event S)} (first : Path a g b)
    (second : Path b h c) : Path a (g ++ h) c := by
  induction first with
  | refl => exact second
  | head step _ ih =>
    rw [List.append_assoc]
    exact head step (ih second)

/-- What every step keeps of a history and its builder, a path keeps. -/
theorem invariant {P : List (Event S) → Builder S → Prop}
    (keeps : ∀ {h e : List (Event S)} {b c : Builder S}, P h b → Step b e c → P (h ++ e) c)
    {a b : Builder S} {g : List (Event S)} (path : Path a g b) :
    ∀ {h : List (Event S)}, P h a → P (h ++ g) b := by
  induction path with
  | refl =>
    intro h hp
    rwa [List.append_nil]
  | head step _ ih =>
    intro h hp
    rw [← List.append_assoc]
    exact ih (keeps hp step)

/-- What every step keeps of a builder, a path keeps. -/
theorem preserves {P : Builder S → Prop}
    (keeps : ∀ {e : List (Event S)} {b c : Builder S}, P b → Step b e c → P c)
    {a b : Builder S} {g : List (Event S)} (path : Path a g b) (hp : P a) : P b :=
  path.invariant (P := fun _ b => P b) (fun h step => keeps h step) (h := []) hp

end Path

/-! ## The operations of callbacks -/

namespace Builder

theorem register_apply (c : S.Configurer) (b : Builder S) :
    register c b =
      if b.state.isConfigured then
        ⟨.error (.registrationClosed (S.kind c) b.state), [], b⟩
      else ⟨.ok (), registrationEvents b c, b.enter c⟩ := by
  cases hc : b.state.isConfigured with
  | true => simp [register, Act.bind_apply, hc]
  | false =>
    -- only the initializing state leaves a second event
    cases hi : b.state.isInitializing <;>
      simp [register, registrationEvents, Act.bind_apply, Act.map_apply, hc, hi]

theorem removeConfigurers_apply (kind : ConfigurerKind) (b : Builder S) :
    removeConfigurers kind b =
      if b.table.contains kind then ⟨b.configurers kind, [.removed kind], b.without kind⟩
      else ⟨[], [], b⟩ := by
  cases hk : b.table.contains kind <;> simp [removeConfigurers, Act.bind_apply, Act.map_apply, hk]

theorem register_path (c : S.Configurer) (b : Builder S) :
    Path b (register c b).events (register c b).state := by
  rw [register_apply]
  split
  · exact .refl b
  · next open_ => exact .single (.register b c (by simpa using open_))

theorem removeConfigurers_path (kind : ConfigurerKind) (b : Builder S) :
    Path b (removeConfigurers kind b).events (removeConfigurers kind b).state := by
  rw [removeConfigurers_apply]
  split
  · next present => exact .single (.remove b kind present)
  · exact .refl b

end Builder

/-- Every callback follows a path. -/
theorem Callback.run_path (m : Callback S α) :
    ∀ b : Builder S, Path b (m.run b).events (m.run b).state := by
  -- the induction is on the program: an operation is one step, or none, and the rest follows
  induction m with
  | done a => exact .refl
  | fail e => exact .refl
  | register c next ih => exact fun b => (Builder.register_path c b).trans (ih _ _)
  | configurers kind next ih => exact fun b => ih _ b
  | removeConfigurers kind next ih =>
    exact fun b => (Builder.removeConfigurers_path kind b).trans (ih _ _)
  | setShared u v next ih => exact fun b => .head (.share b u v) (ih _ _)
  | sharedObjects next ih => exact fun b => ih _ b
  | state next ih => exact fun b => ih _ b
  | target next ih => exact fun b => ih _ b
  | setTarget t next ih => exact fun b => .head (.fill b t) (ih _)
  | postProcess u x next ih => exact fun b => ih _ b
  | world next ih => exact fun b => ih _ b
  | setWorld w next ih => exact fun b => .head (.surround b w) (ih _)
  | note n next ih => exact fun b => .head (.tell b (.noted n) rfl) (ih b)
  | log line next ih => exact fun b => .head (.tell b (.logged line) rfl) (ih b)

/-! ## What no step changes -/

/-- The parts of a builder that steps leave alone are equal. -/
structure SameFrame (a b : Builder S) : Prop where
  state : b.state = a.state
  accumulates : b.accumulates = a.accumulates
  object : b.object = a.object
  nextObject : b.nextObject = a.nextObject
  postProcessors : b.postProcessors = a.postProcessors

theorem SameFrame.refl (b : Builder S) : SameFrame b b :=
  ⟨rfl, rfl, rfl, rfl, rfl⟩

theorem SameFrame.trans {a b c : Builder S} (first : SameFrame a b) (second : SameFrame b c) :
    SameFrame a c :=
  ⟨second.state.trans first.state, second.accumulates.trans first.accumulates,
    second.object.trans first.object, second.nextObject.trans first.nextObject,
    second.postProcessors.trans first.postProcessors⟩

theorem Step.sameFrame {a b : Builder S} {e : List (Event S)} (h : Step a e b) : SameFrame a b := by
  cases h <;> exact ⟨rfl, rfl, rfl, rfl, rfl⟩

theorem Path.sameFrame {a b : Builder S} {h : List (Event S)} (path : Path a h b) :
    SameFrame a b := by
  induction path with
  | refl b => exact .refl b
  | head step _ ih => exact step.sameFrame.trans ih

theorem Step.nextSerial_le {a b : Builder S} {e : List (Event S)} (h : Step a e b) :
    a.nextSerial ≤ b.nextSerial := by
  cases h with
  | register c => exact Nat.le_succ _
  | _ => exact Nat.le_refl _

theorem Path.nextSerial_le {a b : Builder S} {h : List (Event S)} (path : Path a h b) :
    a.nextSerial ≤ b.nextSerial := by
  induction path with
  | refl b => exact Nat.le_refl _
  | head step _ ih => exact Nat.le_trans step.nextSerial_le ih

end AuthChain.Build
