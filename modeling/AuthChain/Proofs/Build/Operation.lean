import AuthChain.Proofs.Build.Progress

/-!
# Builders in use

What a caller can do with a builder, in any order and any number (`Operation`), and the builders
that come about in this way. Main statements: such a builder is consistent, and no `init` is due on
it as long as nothing was built (`Builder.Settled.after`); a build on it leaves no events, or runs
its stages on an idle builder (`Builder.Settled.build_history`).
-/

namespace AuthChain.Build

variable {S : Signature} {α β : Type}

/-- What a caller does with a builder. -/
inductive Operation (S : Signature) where
  | register (c : S.Configurer)
  | removeConfigurers (kind : ConfigurerKind)
  | removeConfigurer (kind : ConfigurerKind)
  | setShared (u : S.Code) (v : S.Value u)
  | withTarget (t : S.Target)
  | withPostProcessors (ps : PostProcessors S.Value)
  | addPostProcessor (p : PostProcessor S.Value)
  | surround (w : S.World)
  | build (l : Lifecycle S)
  | getOrBuild (l : Lifecycle S)

namespace Builder

/-- The builder after an operation. -/
def step (b : Builder S) : Operation S → Builder S
  | .register c => (register c b).state
  | .removeConfigurers kind => (removeConfigurers kind b).state
  | .removeConfigurer kind => (removeConfigurer kind b).state
  | .setShared u v => b.setShared u v
  | .withTarget t => b.withTarget t
  | .withPostProcessors ps => b.withPostProcessors ps
  | .addPostProcessor p => b.addPostProcessor p
  | .surround w => { b with world := w }
  | .build l => ((build l).run b).state
  | .getOrBuild l => (getOrBuild l b).state

/-- The builder after operations in their order. -/
def after (b : Builder S) (ops : List (Operation S)) : Builder S :=
  ops.foldl step b

/-- A consistent builder on which no `init` is due while nothing was built. -/
structure Settled (b : Builder S) : Prop where
  consistent : b.Consistent
  late_eq : b.state = .unbuilt → b.late = []

/-- A consistent builder whose build began. -/
structure Underway (b : Builder S) : Prop where
  consistent : b.Consistent
  begun : b.state ≠ .unbuilt

theorem Settled.idle {b : Builder S} (h : b.Settled) (hb : b.state = .unbuilt) : b.Idle :=
  ⟨h.consistent, hb, h.late_eq hb⟩

theorem Underway.settled {b : Builder S} (h : b.Underway) : b.Settled :=
  ⟨h.consistent, fun hb => absurd hb h.begun⟩

/-! ## Attempts on builders that are underway -/

/-- The attempt leaves builders underway that are underway. -/
def Keeps (m : Attempt S α) : Prop :=
  ∀ b : Builder S, b.Underway → (m.run b).state.Underway

theorem Keeps.of_path {m : Attempt S α}
    (path : ∀ b : Builder S, Path b (m.run b).events (m.run b).state) : Keeps m := by
  intro b hb
  refine ⟨(path b).consistent hb.consistent, ?_⟩
  rw [(path b).sameFrame.state]
  exact hb.begun

theorem Keeps.bind {m : Attempt S α} {f : α → Attempt S β} (first : Keeps m)
    (second : ∀ a, Keeps (f a)) : Keeps (m >>= f) := by
  intro b hb
  cases hm : (m.run b).answer with
  | error e =>
    rw [Attempt.run_bind_error hm]
    exact first b hb
  | ok a =>
    rw [Attempt.run_bind_ok hm]
    exact second a _ (first b hb)

theorem keeps_move {s : State} (hs : s ≠ .unbuilt) : Keeps (move s : Attempt S Unit) := by
  intro b hb
  cases ht : b.state.canTransition s with
  | true =>
    rw [move_run ht]
    exact ⟨hb.consistent.congr rfl rfl rfl, hs⟩
  | false =>
    rw [move_run_refused ht]
    exact hb

theorem keeps_keep (o : S.Object) : Keeps (keep o) := by
  intro b hb
  exact ⟨hb.consistent.congr rfl rfl rfl, hb.begun⟩

theorem keeps_firstPass (l : Lifecycle S) : Keeps (firstPass l) :=
  .of_path (firstPass_path l)

theorem keeps_latePass (l : Lifecycle S) : Keeps (latePass l) := by
  intro b hb
  -- taking the due registrations is no step, the rest of the pass is a path
  have path := latePass_path l b
  refine ⟨path.consistent hb.consistent.taken, ?_⟩
  rw [path.sameFrame.state]
  exact hb.begun

theorem keeps_closing (l : Lifecycle S) : Keeps (closing l) := by
  refine .bind ?_ fun _ => .bind (.of_path (configureConfigurers_path l)) fun _ => ?_
  · exact .bind (keeps_move (by decide)) fun _ => .of_path (call_path _ _)
  · refine .bind (keeps_move (by decide)) fun _ => .bind (.of_path (call_path _ _)) fun o => ?_
    exact .bind (keeps_keep o) fun p => .bind (keeps_move (by decide)) fun _ b hb => hb

theorem Idle.underway_runLifecycle {b : Builder S} (h : b.Idle) (l : Lifecycle S) :
    ((runLifecycle l).run b).state.Underway := by
  -- behind the opening the build is underway, whatever follows
  have hopened : (opened l b).Underway := by
    refine ⟨(h.recorded_opened l).consistent, ?_⟩
    rw [h.opened_state l]
    decide
  rw [runLifecycle_eq_stages]
  cases hopening : ((opening l).run b).answer with
  | error e =>
    rw [Attempt.run_bind_error hopening]
    exact hopened
  | ok u =>
    rw [Attempt.run_bind_ok hopening]
    exact Keeps.bind (keeps_firstPass l)
      (fun _ => (keeps_latePass l).bind fun _ => keeps_closing l) _ hopened

/-! ## Builds -/

theorem build_run_unbuilt {b : Builder S} (l : Lifecycle S) (h : b.state = .unbuilt) :
    (build l).run b = (runLifecycle l).run b := by
  have hget : ((Attempt.ofAct Act.get : Attempt S (Builder S)).run b).answer = .ok b := rfl
  rw [build, Attempt.run_bind_ok hget, h]
  rfl

/-- A builder is built once: later builds do nothing to it. -/
theorem build_run_begun {b : Builder S} (l : Lifecycle S) (h : b.state ≠ .unbuilt) :
    ((build l).run b).events = [] ∧ ((build l).run b).state = b := by
  have hget : ((Attempt.ofAct Act.get : Attempt S (Builder S)).run b).answer = .ok b := rfl
  rw [build, Attempt.run_bind_ok hget]
  -- a build that succeeded gives its object out, any other one is refused
  cases hs : b.state with
  | unbuilt => exact absurd hs h
  | built =>
    simp only [Attempt.run_ofAct, Act.get_apply]
    cases b.object <;> exact ⟨rfl, rfl⟩
  | _ => exact ⟨rfl, rfl⟩

theorem Settled.build {b : Builder S} (h : b.Settled) (l : Lifecycle S) :
    ((build l).run b).state.Settled := by
  by_cases hb : b.state = .unbuilt
  · rw [build_run_unbuilt l hb]
    exact ((h.idle hb).underway_runLifecycle l).settled
  · rw [(build_run_begun l hb).2]
    exact h

/-- Building where errors are not reported is building, with an event behind it that tells that
there is no object to give. -/
theorem getOrBuild_apply (l : Lifecycle S) (b : Builder S) :
    (getOrBuild l b).state = ((Builder.build l).run b).state ∧
      ∃ told : List (Event S), (getOrBuild l b).events = ((Builder.build l).run b).events ++ told ∧
        ∀ e ∈ told, (∃ s, e = .withheld s) ∨ ∃ error, e = .gaveUp error := by
  unfold getOrBuild
  rw [Act.bind_apply, Act.get_apply]
  by_cases hb : b.state = .unbuilt
  · simp only [hb, State.isUnbuilt, beq_self_eq_true, if_true]
    rw [Act.bind_apply]
    cases ((Builder.build l).run b).answer with
    | ok p => exact ⟨rfl, [], rfl, fun e he => absurd he List.not_mem_nil⟩
    | error error =>
      exact ⟨rfl, [.gaveUp error], rfl, fun e he => Or.inr ⟨error, List.mem_singleton.1 he⟩⟩
  · have hbegun : b.state.isUnbuilt = false := by simpa [State.isUnbuilt] using hb
    obtain ⟨hevents, hstate⟩ := build_run_begun l hb
    rw [hevents, hstate]
    simp only [hbegun, Bool.false_eq_true, if_false]
    split
    · exact ⟨rfl, [.withheld b.state], rfl, fun e he => Or.inl ⟨_, List.mem_singleton.1 he⟩⟩
    · exact ⟨rfl, [], rfl, fun e he => absurd he List.not_mem_nil⟩

/-! ## Operations -/

theorem removeConfigurer_path (kind : ConfigurerKind) (b : Builder S) :
    Path b (removeConfigurer kind b).events (removeConfigurer kind b).state := by
  have path := removeConfigurers_path kind b
  unfold removeConfigurer
  rw [Act.bind_apply, Act.get_apply]
  cases b.configurer kind with
  | error e => exact .refl b
  | ok c =>
    simp only [Act.bind_apply, Act.pure_apply, List.append_nil, List.nil_append]
    exact path

theorem late_eq_of_path {a b : Builder S} {h : List (Event S)} (path : Path a h b)
    (hstate : a.state = .unbuilt) (hlate : a.late = []) : b.late = [] := by
  induction path with
  | refl => exact hlate
  | head step _ ih =>
    -- outside the initializing state nothing becomes due
    refine ih (step.sameFrame.state.trans hstate) ?_
    cases step with
    | register c => simp [enter, hstate, hlate, State.isInitializing]
    | remove kind => simp [without, hlate]
    | _ => exact hlate

theorem Settled.of_path {a b : Builder S} {h : List (Event S)} (ha : a.Settled)
    (path : Path a h b) : b.Settled := by
  refine ⟨path.consistent ha.consistent, fun hb => ?_⟩
  rw [path.sameFrame.state] at hb
  exact late_eq_of_path path hb (ha.late_eq hb)

theorem Settled.step {b : Builder S} (h : b.Settled) (op : Operation S) : (b.step op).Settled := by
  cases op with
  | register c => exact h.of_path (register_path c b)
  | removeConfigurers kind => exact h.of_path (removeConfigurers_path kind b)
  | removeConfigurer kind => exact h.of_path (removeConfigurer_path kind b)
  | setShared u v => exact h.of_path (.single (.share b u v))
  | withTarget t => exact h.of_path (.single (.fill b t))
  | withPostProcessors ps => exact ⟨h.consistent.congr rfl rfl rfl, h.late_eq⟩
  | addPostProcessor p => exact ⟨h.consistent.congr rfl rfl rfl, h.late_eq⟩
  | surround w => exact h.of_path (.single (.surround b w))
  | build l => exact h.build l
  | getOrBuild l =>
    rw [Builder.step, (getOrBuild_apply l b).1]
    exact h.build l

theorem Settled.after {b : Builder S} (h : b.Settled) (ops : List (Operation S)) :
    (b.after ops).Settled := by
  induction ops generalizing b with
  | nil => exact h
  | cons op rest ih => exact ih (h.step op)

theorem settled_create (t : S.Target) (accumulates : Bool) (w : S.World) :
    (create t accumulates w).Settled where
  consistent :=
    { kinded := fun _ hrow => absurd hrow List.not_mem_nil
      distinct := List.Pairwise.nil
      ordered := List.Pairwise.nil
      issued := fun _ hr => absurd hr (by simp [Holds, create, Table.empty, Table.registrations]) }
  late_eq _ := rfl

/-- A build leaves no events, or comes some way through its stages. -/
theorem Settled.build_history {b : Builder S} (h : b.Settled) (l : Lifecycle S) :
    ((Builder.build l).run b).events = [] ∨
      b.Idle ∧ Progress l b ((Builder.build l).run b).events := by
  by_cases hb : b.state = .unbuilt
  · rw [build_run_unbuilt l hb]
    exact Or.inr ⟨h.idle hb, runLifecycle_progress l b⟩
  · exact Or.inl (build_run_begun l hb).1

end Builder

/-! ## A small signature -/

/-- Configurers of three kinds. -/
inductive Sample where
  | alpha
  | beta
  | gamma

namespace Sample

def kind : Sample → ConfigurerKind
  | alpha => ⟨"Alpha"⟩
  | beta => ⟨"Beta"⟩
  | gamma => ⟨"Gamma"⟩

/-- The signature of these configurers, with nothing else to it. -/
def signature : Signature where
  Code := Empty
  Value := nofun
  typeName := nofun
  Configurer := Sample
  kind := kind
  Target := Unit
  Object := Unit
  World := Unit
  Note := Empty

/-- A lifecycle in which only the hook before all `init` calls and the `init` calls do anything. -/
def lifecycle (beforeInit : Callback signature Unit) (init : Sample → Callback signature Unit) :
    Lifecycle signature where
  init := init
  configure _ := .done ()
  beforeInit := beforeInit
  beforeConfigure := .done ()
  performBuild := .done ()

end Sample

end AuthChain.Build
