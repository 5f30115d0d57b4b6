import AuthChain.Proofs.Build.Stage

/-!
# How far a build comes

The history of a build consists of the events of the stages that it entered (`Builder.Progress`).
What the history tells of the registrations is what the builder holds when the opening, the first
pass and the late pass are over (`Builder.Idle.recorded_opened`, `Builder.Idle.recorded_queued`,
`Builder.Idle.recorded_initialized`).

Main statements: the due registrations of the late pass are the pending ones of the history
(`Builder.Idle.due_queued`), and every registration of the table was initialized by one of the two
passes when the late pass is over (`Builder.Idle.initialized_covered`).
-/

namespace AuthChain.Build

open scoped List

variable {S : Signature}

namespace Builder

/-- Nothing was built yet and no `init` is due. -/
structure Idle (b : Builder S) : Prop where
  consistent : b.Consistent
  unbuilt : b.state = .unbuilt
  late_eq : b.late = []

section Histories

variable (l : Lifecycle S) (b : Builder S)

/-- The events of the opening. -/
def openingEvents : List (Event S) :=
  ((opening l).run b).events

/-- The events of the first pass. -/
def firstEvents : List (Event S) :=
  ((firstPass l).run (opened l b)).events

/-- The events of the late pass. -/
def lateEvents : List (Event S) :=
  ((latePass l).run (queued l b)).events

/-- The events behind the initializing state. -/
def closingEvents : List (Event S) :=
  ((closing l).run (initialized l b)).events

/-- The events of the turning to the configuring state. -/
def turningEvents : List (Event S) :=
  ((turning l).run (initialized l b)).events

/-- The events of the configuring pass. -/
def configuringEvents : List (Event S) :=
  ((configureConfigurers l).run (prepared l b)).events

/-- The events of the production. -/
def productionEvents : List (Event S) :=
  ((production l).run ((configureConfigurers l).run (prepared l b)).state).events

/-- The history of a build that stopped in the opening, in the first pass, or later. -/
inductive Progress : List (Event S) → Prop
  | opening : Progress (openingEvents l b)
  | first : ((opening l).run b).answer = .ok () → Progress (openingEvents l b ++ firstEvents l b)
  | late (tail : List (Event S)) : ((opening l).run b).answer = .ok () →
      ((firstPass l).run (opened l b)).answer = .ok () →
      (tail = [] ∨
        ((latePass l).run (queued l b)).answer = .ok () ∧ tail = closingEvents l b) →
      Progress (openingEvents l b ++ (firstEvents l b ++ (lateEvents l b ++ tail)))

theorem runLifecycle_progress : Progress l b ((runLifecycle l).run b).events := by
  rw [runLifecycle_eq_stages]
  -- each stage is entered when the one before it returned
  cases hopening : ((opening l).run b).answer with
  | error e =>
    rw [Attempt.run_bind_error hopening]
    exact .opening
  | ok u =>
    rw [Attempt.run_bind_ok hopening]
    cases hfirst : ((firstPass l).run (opened l b)).answer with
    | error e =>
      rw [← opened, Attempt.run_bind_error hfirst]
      exact .first hopening
    | ok u =>
      rw [← opened, Attempt.run_bind_ok hfirst]
      cases hlate : ((latePass l).run (queued l b)).answer with
      | error e =>
        have progress := Progress.late [] hopening hfirst (Or.inl rfl)
        rw [List.append_nil] at progress
        rw [← queued, Attempt.run_bind_error hlate]
        exact progress
      | ok u =>
        rw [← queued, Attempt.run_bind_ok hlate]
        exact .late _ hopening hfirst (Or.inr ⟨hlate, rfl⟩)

/-- Behind the initializing state a build stops in the turning, in the configuring pass, or
later. -/
inductive Ending : List (Event S) → Prop
  | turning : Ending (turningEvents l b)
  | configuring (tail : List (Event S)) : ((turning l).run (initialized l b)).answer = .ok () →
      (tail = [] ∨
        ((configureConfigurers l).run (prepared l b)).answer = .ok () ∧
          tail = productionEvents l b) →
      Ending (turningEvents l b ++ (configuringEvents l b ++ tail))

theorem closing_ending : Ending l b (closingEvents l b) := by
  unfold closingEvents closing
  cases hturning : ((turning l).run (initialized l b)).answer with
  | error e =>
    rw [Attempt.run_bind_error hturning]
    exact .turning
  | ok u =>
    rw [Attempt.run_bind_ok hturning, ← prepared]
    cases hconfiguring : ((configureConfigurers l).run (prepared l b)).answer with
    | error e =>
      have ending := Ending.configuring [] hturning (Or.inl rfl)
      rw [List.append_nil] at ending
      rw [Attempt.run_bind_error hconfiguring]
      exact ending
    | ok u =>
      rw [Attempt.run_bind_ok hconfiguring]
      exact .configuring _ hturning (Or.inr ⟨hconfiguring, rfl⟩)

/-- The history of a build that succeeds is that of all its stages, none of which failed. -/
theorem events_of_succeeded {p : Produced S.Object}
    (hp : ((runLifecycle l).run b).answer = .ok p) :
    ((runLifecycle l).run b).events =
        openingEvents l b ++ (firstEvents l b ++ (lateEvents l b ++
          (turningEvents l b ++ (configuringEvents l b ++ productionEvents l b)))) ∧
      ((configureConfigurers l).run (prepared l b)).answer = .ok () := by
  rw [runLifecycle_eq_stages] at hp ⊢
  obtain ⟨_, hopening, hp⟩ := Attempt.run_bind_eq_ok hp
  obtain ⟨_, hfirst, hp⟩ := Attempt.run_bind_eq_ok hp
  obtain ⟨_, hlate, hp⟩ := Attempt.run_bind_eq_ok hp
  obtain ⟨_, hturning, hp⟩ := Attempt.run_bind_eq_ok hp
  obtain ⟨_, hconfiguring, -⟩ := Attempt.run_bind_eq_ok hp
  refine ⟨?_, hconfiguring⟩
  rw [Attempt.run_bind_ok hopening, Attempt.run_bind_ok hfirst, Attempt.run_bind_ok hlate,
    closing, Attempt.run_bind_ok hturning, Attempt.run_bind_ok hconfiguring]
  rfl

/-! ## Courses of the passes -/

theorem firstEvents_course :
    Course ((opened l b).table.registrations.map fun r => .init r.serial)
      (marks (firstEvents l b)) ((firstPass l).run (opened l b)).answer := by
  have course := callEach_course (initCalls l (opened l b).table.registrations) (opened l b)
  rw [initCalls_map_fst] at course
  rw [firstEvents, firstPass_run, marks_cons_of_not_isMark rfl]
  exact course

/-- The late pass can fail in its calls, or after they all returned. -/
theorem lateEvents_course : ∃ answer : Except Error Unit,
    Course ((queued l b).late.map fun r => .init r.serial) (marks (lateEvents l b)) answer ∧
      (((latePass l).run (queued l b)).answer = .ok () → answer = .ok ()) := by
  refine ⟨((callEach (initCalls l (queued l b).late)).run { queued l b with late := [] }).answer,
    ?_, fun hlate => ?_⟩
  · -- the event before the calls is no mark
    have hheader : marks (lateHeader (queued l b).late : List (Event S)) = [] := by
      cases (queued l b).late <;> rfl
    have course := callEach_course (initCalls l (queued l b).late) { queued l b with late := [] }
    rw [initCalls_map_fst] at course
    rw [lateEvents, latePass_run, marks_append, hheader]
    exact course
  · rw [latePass_run] at hlate
    exact (lateAnswer_eq_ok hlate).1

theorem configuringEvents_course :
    Course ((prepared l b).table.registrations.map fun r => .configure r.serial)
      (marks (configuringEvents l b)) ((configureConfigurers l).run (prepared l b)).answer := by
  have course := callEach_course (configureCalls l (prepared l b).table.registrations)
    (prepared l b)
  rw [configureCalls_map_fst] at course
  rw [configuringEvents, configureConfigurers_run, marks_cons_of_not_isMark rfl]
  exact course

end Histories

namespace Idle

variable {b : Builder S} (h : b.Idle) (l : Lifecycle S)

include h

/-! ## States -/

theorem opened_state : (opened l b).state = .initializing :=
  (opening_path l b h.unbuilt).sameFrame.state

theorem queued_state : (queued l b).state = .initializing :=
  (firstPass_path l _).sameFrame.state.trans (h.opened_state l)

theorem initialized_state : (initialized l b).state = .initializing :=
  (latePass_path l _).sameFrame.state.trans (h.queued_state l)

theorem prepared_state : (prepared l b).state = .configuring :=
  (turning_path l _ (h.initialized_state l)).sameFrame.state

/-! ## Events of the stages -/

theorem openingEvents_leaves : ∀ e ∈ openingEvents l b, Stage.opening.leaves e = true :=
  opening_leaves l h.unbuilt

theorem firstEvents_leaves : ∀ e ∈ firstEvents l b, Stage.firstPass.leaves e = true :=
  firstPass_leaves l (h.opened_state l)

theorem lateEvents_leaves : ∀ e ∈ lateEvents l b, Stage.latePass.leaves e = true :=
  latePass_leaves l (h.queued_state l)

theorem turningEvents_leaves : ∀ e ∈ turningEvents l b, Stage.turning.leaves e = true :=
  turning_leaves l (h.initialized_state l)

theorem configuringEvents_leaves :
    ∀ e ∈ configuringEvents l b, Stage.configuringPass.leaves e = true :=
  configureConfigurers_leaves l (h.prepared_state l)

theorem productionEvents_leaves :
    ∀ e ∈ productionEvents l b, Stage.production.leaves e = true := by
  have hstate : ((configureConfigurers l).run (prepared l b)).state.state = .configuring :=
    (configureConfigurers_path l _).sameFrame.state.trans (h.prepared_state l)
  exact production_leaves l hstate

theorem closingEvents_leftBy : LeftBy Stage.isClosing (closingEvents l b) := by
  have hturning := LeftBy.of_stage (P := Stage.isClosing) rfl (h.turningEvents_leaves l)
  have hconfiguring := LeftBy.of_stage (P := Stage.isClosing) rfl (h.configuringEvents_leaves l)
  have hending := closing_ending l b
  -- the events are those of the stages that were entered
  generalize closingEvents l b = tail at hending
  cases hending with
  | turning => exact hturning
  | configuring tail _ htail =>
    refine hturning.append (hconfiguring.append ?_)
    rcases htail with htail | ⟨-, htail⟩
    · rw [htail]
      exact .nil
    · rw [htail]
      exact .of_stage rfl (h.productionEvents_leaves l)

theorem tail_leftBy {tail : List (Event S)}
    (htail : tail = [] ∨
      ((latePass l).run (queued l b)).answer = .ok () ∧ tail = closingEvents l b) :
    LeftBy Stage.isClosing tail := by
  rcases htail with rfl | ⟨-, rfl⟩
  · exact .nil
  · exact h.closingEvents_leftBy l

/-- Behind the initializing state the first callback is the hook before all `configure` calls. -/
theorem closingEvents_eq_cons :
    ∃ rest, closingEvents l b =
      .moved .initializing .configuring :: .started .beforeConfigure :: rest := by
  have hending := closing_ending l b
  have hturning := turning_run l _ (h.initialized_state l)
  generalize closingEvents l b = tail at hending
  cases hending with
  | turning =>
    rw [turningEvents, hturning, call_run]
    exact ⟨_, rfl⟩
  | configuring tail =>
    rw [turningEvents, hturning, call_run]
    exact ⟨_, rfl⟩

/-- A history is cut where the build leaves the initializing state. -/
theorem progress_split {es : List (Event S)} (hes : Progress l b es) :
    ∃ front tail, es = front ++ tail ∧ LeftBy Stage.isInitial front ∧
      (tail = [] ∨
        tail = closingEvents l b ∧
          front = openingEvents l b ++ (firstEvents l b ++ lateEvents l b) ∧
          ((firstPass l).run (opened l b)).answer = .ok () ∧
          ((latePass l).run (queued l b)).answer = .ok ()) := by
  have hopening := LeftBy.of_stage (P := Stage.isInitial) rfl (h.openingEvents_leaves l)
  have hfirst := LeftBy.of_stage (P := Stage.isInitial) rfl (h.firstEvents_leaves l)
  have hlate := LeftBy.of_stage (P := Stage.isInitial) rfl (h.lateEvents_leaves l)
  cases hes with
  | opening => exact ⟨_, [], (List.append_nil _).symm, hopening, Or.inl rfl⟩
  | first => exact ⟨_, [], (List.append_nil _).symm, hopening.append hfirst, Or.inl rfl⟩
  | late tail _ hanswer htail =>
    refine ⟨_, tail, ?_, hopening.append (hfirst.append hlate), ?_⟩
    · rw [List.append_assoc, List.append_assoc]
    · exact htail.imp_right fun ⟨hlate, htail⟩ => ⟨htail, rfl, hanswer, hlate⟩

/-! ## What the history tells of the builder -/

theorem recorded_opened : Recorded (openingEvents l b) (opened l b) := by
  have hconsistent : Consistent { b with state := .initializing } :=
    h.consistent.congr rfl rfl rfl
  -- a move to another state tells of no registration
  have hmoved : Recorded [.moved .unbuilt .initializing] { b with state := .initializing } :=
    (Recorded.nil hconsistent).of_holds hconsistent (Nat.le_refl _) (fun _ hr => hr) (by simp)
      (by simp)
  have recorded := (opening_path l b h.unbuilt).recorded hmoved
  rw [openingEvents, opening_run l b h.unbuilt]
  exact recorded

theorem recorded_queued : Recorded (openingEvents l b ++ firstEvents l b) (queued l b) :=
  (firstPass_path l _).recorded (h.recorded_opened l)

theorem recorded_initialized :
    Recorded (openingEvents l b ++ (firstEvents l b ++ lateEvents l b)) (initialized l b) := by
  have recorded := (latePass_path l _).recorded (h.recorded_queued l).taken
  rwa [List.append_assoc] at recorded

/-- The late pass initializes the pending registrations of the history. -/
theorem due_queued : (queued l b).due = pending (openingEvents l b ++ firstEvents l b) := by
  -- nothing is due before the opening
  have hopened : (opened l b).due = pending (openingEvents l b) := by
    have hdue := (opening_path l b h.unbuilt).due_eq rfl
    rw [openingEvents, opening_run l b h.unbuilt]
    refine hdue.trans ?_
    show pendingFrom (b.late.map _) _ = _
    rw [h.late_eq]
    rfl
  have hqueued := (firstPass_path l _).due_eq (h.opened_state l)
  rw [pending, pendingFrom_append]
  exact hqueued.trans (congrArg (fun due => pendingFrom due _) hopened)

theorem due_initialized : (initialized l b).due = pending (lateEvents l b) :=
  (latePass_path l _).due_eq (h.queued_state l)

/-- When the late pass is over, every registration of the table belongs to one of the passes. -/
theorem initialized_covered (hlate : ((latePass l).run (queued l b)).answer = .ok ()) :
    ∀ r ∈ (initialized l b).table.registrations,
      r ∈ (opened l b).table.registrations ∨ r ∈ (queued l b).late := by
  intro r hr
  have hempty : (initialized l b).late = [] := by
    rw [latePass_run] at hlate
    rw [initialized, latePass_run]
    exact (lateAnswer_eq_ok hlate).2
  have hfirst := (firstPass_path l _).covered (h.recorded_opened l).consistent (h.opened_state l)
    fun r (hr : r ∈ (opened l b).table.registrations) => Or.inl hr
  -- what was due when the late pass began is known to it, and nothing is due at its end
  have hsecond := (latePass_path l _).covered (h.recorded_queued l).consistent.taken
    (h.queued_state l) fun r hr => Or.inl (hfirst r hr)
  rcases hsecond r hr with hknown | hdue
  · exact hknown
  · rw [← initialized, hempty] at hdue
    exact absurd hdue List.not_mem_nil

theorem prepared_sublist :
    (prepared l b).table.registrations <+ (initialized l b).table.registrations :=
  (turning_path l _ (h.initialized_state l)).table_sublist rfl

theorem nodup_prepared : ((prepared l b).table.registrations.map (·.serial)).Nodup :=
  (h.recorded_initialized l).consistent.distinct.sublist ((h.prepared_sublist l).map _)

end Idle

end Builder

end AuthChain.Build
