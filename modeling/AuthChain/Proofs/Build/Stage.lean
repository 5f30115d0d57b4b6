import AuthChain.Proofs.Build.Course
import AuthChain.Proofs.Build.History

/-!
# The stages of a build

A build that runs is cut into its stages: the opening with the hook before all `init` calls, the
first pass over the table, the late pass over the due registrations, the turning to the configuring
state with its hook, the configuring pass, and the production of the object. Main statements: a
build is its stages one after the other (`Builder.runLifecycle_eq_stages`), each stage leaves the
events of its own calls, and registrations are made in the first three alone
(`Builder.opening_leaves` and its siblings).
-/

namespace AuthChain.Build

open scoped List

variable {S : Signature} {α β : Type}

namespace Builder

/-- Enter the initializing state and run the hook before all `init` calls. -/
def opening (l : Lifecycle S) : Attempt S Unit := do
  move .initializing
  call .beforeInit l.beforeInit

/-- Initialize the registrations of the table. -/
def firstPass (l : Lifecycle S) : Attempt S Unit := do
  let first ← registered
  report (.initializing first.length)
  initEach l first

/-- Tell of the due registrations, if there are any. -/
def announceLate (rs : List (Registration S.Configurer)) : Attempt S Unit :=
  if !rs.isEmpty then report (.initializingLate rs.length) else pure ()

/-- Refuse what became due in the late pass. -/
def refuseLate : Attempt S Unit := do
  match ← dueLate with
  | [] => return ()
  | extra :: _ => throw (.illegalState (.nestedRegistration (S.kind extra.configurer)))

/-- Initialize the due registrations, which may not register further ones. -/
def latePass (l : Lifecycle S) : Attempt S Unit := do
  let late ← takeLate
  announceLate late
  initEach l late
  refuseLate

/-- Enter the configuring state and run the hook before all `configure` calls. -/
def turning (l : Lifecycle S) : Attempt S Unit := do
  move .configuring
  call .beforeConfigure l.beforeConfigure

/-- Make the object and keep it. -/
def production (l : Lifecycle S) : Attempt S (Produced S.Object) := do
  move .building
  let o ← call .performBuild l.performBuild
  let p ← keep o
  move .built
  return p

/-- Everything behind the initializing state. -/
def closing (l : Lifecycle S) : Attempt S (Produced S.Object) := do
  turning l
  configureConfigurers l
  production l

theorem initConfigurers_eq_passes (l : Lifecycle S) :
    initConfigurers l = (do
      firstPass l
      latePass l) := by
  simp only [initConfigurers, firstPass, latePass, bind_assoc]
  congr
  funext first
  congr
  funext _
  congr
  funext _
  congr
  funext late
  -- the announcement is joined to what follows in both cases
  unfold announceLate
  split
  · rfl
  · rw [pure_bind]
    rfl

/-- A build is its stages one after the other. -/
theorem runLifecycle_eq_stages (l : Lifecycle S) :
    runLifecycle l = (do
      opening l
      firstPass l
      latePass l
      closing l) := by
  simp only [runLifecycle, closing, production, opening, turning, initConfigurers_eq_passes,
    bind_assoc]

/-! ## Builders between the stages -/

/-- The builder on which the first pass starts. -/
def opened (l : Lifecycle S) (b : Builder S) : Builder S :=
  ((opening l).run b).state

/-- The builder on which the late pass starts. -/
def queued (l : Lifecycle S) (b : Builder S) : Builder S :=
  ((firstPass l).run (opened l b)).state

/-- The builder at the end of the initializing state. -/
def initialized (l : Lifecycle S) (b : Builder S) : Builder S :=
  ((latePass l).run (queued l b)).state

/-- The builder on which the configuring pass starts. -/
def prepared (l : Lifecycle S) (b : Builder S) : Builder S :=
  ((turning l).run (initialized l b)).state

/-- The events at the beginning of a late pass. -/
def lateHeader (rs : List (Registration S.Configurer)) : List (Event S) :=
  if rs.isEmpty then [] else [.initializingLate rs.length]

/-- The answer of a late pass: a registration that became due meanwhile is refused. -/
def lateAnswer (answer : Except Error Unit) (due : List (Registration S.Configurer)) :
    Except Error Unit :=
  match answer, due with
  | .error e, _ => .error e
  | .ok _, [] => .ok ()
  | .ok _, extra :: _ => .error (.illegalState (.nestedRegistration (S.kind extra.configurer)))

theorem lateAnswer_eq_ok {answer : Except Error Unit} {due : List (Registration S.Configurer)}
    (h : lateAnswer answer due = .ok ()) : answer = .ok () ∧ due = [] := by
  cases answer with
  | error e => simp [lateAnswer] at h
  | ok u =>
    cases due with
    | nil => exact ⟨rfl, rfl⟩
    | cons r rest => simp [lateAnswer] at h

section Runs

variable (l : Lifecycle S) (b : Builder S)

theorem opening_run (h : b.state = .unbuilt) :
    (opening l).run b =
      ⟨((call .beforeInit l.beforeInit).run { b with state := .initializing }).answer,
        .moved .unbuilt .initializing ::
          ((call .beforeInit l.beforeInit).run { b with state := .initializing }).events,
        ((call .beforeInit l.beforeInit).run { b with state := .initializing }).state⟩ := by
  rw [opening, move_bind_run (by rw [h]; rfl), h]

theorem firstPass_run :
    (firstPass l).run b =
      ⟨((callEach (initCalls l b.table.registrations)).run b).answer,
        .initializing b.table.registrations.length ::
          ((callEach (initCalls l b.table.registrations)).run b).events,
        ((callEach (initCalls l b.table.registrations)).run b).state⟩ := by
  rw [← initEach_eq]
  rfl

theorem announceLate_run (rs : List (Registration S.Configurer)) :
    (announceLate rs).run b = ⟨.ok (), lateHeader rs, b⟩ := by
  cases rs <;> rfl

theorem refuseLate_run :
    (refuseLate : Attempt S Unit).run b = ⟨lateAnswer (.ok ()) b.late, [], b⟩ := by
  have hdue : ((dueLate : Attempt S _).run b).answer = .ok b.late := rfl
  rw [refuseLate, Attempt.run_bind_ok hdue, dueLate_run]
  cases b.late <;> rfl

theorem latePass_run :
    (latePass l).run b =
      ⟨lateAnswer ((callEach (initCalls l b.late)).run { b with late := [] }).answer
          ((callEach (initCalls l b.late)).run { b with late := [] }).state.late,
        lateHeader b.late ++
          ((callEach (initCalls l b.late)).run { b with late := [] }).events,
        ((callEach (initCalls l b.late)).run { b with late := [] }).state⟩ := by
  -- the calls run on a builder whose due registrations were taken
  have htake : ((takeLate : Attempt S _).run b).answer = .ok b.late := rfl
  have htell : ((announceLate b.late).run { b with late := [] }).answer = .ok () := by
    rw [announceLate_run]
  rw [latePass, Attempt.run_bind_ok htake, takeLate_run, List.nil_append, initEach_eq,
    Attempt.run_bind_ok htell, announceLate_run]
  cases hr : ((callEach (initCalls l b.late)).run { b with late := [] }).answer with
  | error e =>
    rw [Attempt.run_bind_error hr]
    rfl
  | ok u =>
    rw [Attempt.run_bind_ok hr, refuseLate_run, List.append_nil]

theorem turning_run (h : b.state = .initializing) :
    (turning l).run b =
      ⟨((call .beforeConfigure l.beforeConfigure).run { b with state := .configuring }).answer,
        .moved .initializing .configuring ::
          ((call .beforeConfigure l.beforeConfigure).run { b with state := .configuring }).events,
        ((call .beforeConfigure l.beforeConfigure).run
          { b with state := .configuring }).state⟩ := by
  rw [turning, move_bind_run (by rw [h]; rfl), h]

theorem configureConfigurers_run :
    (configureConfigurers l).run b =
      ⟨((callEach (configureCalls l b.table.registrations)).run b).answer,
        .configuring b.table.registrations.length ::
          ((callEach (configureCalls l b.table.registrations)).run b).events,
        ((callEach (configureCalls l b.table.registrations)).run b).state⟩ := by
  rw [← configureEach_eq]
  rfl

theorem lateHeader_path (rs : List (Registration S.Configurer)) : Path b (lateHeader rs) b := by
  cases rs with
  | nil => exact .refl b
  | cons r rest => exact .single (.tell b (.initializingLate _) rfl)

theorem opening_path (h : b.state = .unbuilt) :
    Path { b with state := .initializing }
      ((call .beforeInit l.beforeInit).run { b with state := .initializing }).events
      ((opening l).run b).state := by
  rw [opening_run l b h]
  exact call_path _ _ _

theorem firstPass_path : Path b ((firstPass l).run b).events ((firstPass l).run b).state := by
  rw [firstPass_run]
  exact .head (.tell b (.initializing _) rfl) (callEach_path _ _)

theorem latePass_path :
    Path { b with late := [] } ((latePass l).run b).events ((latePass l).run b).state := by
  rw [latePass_run]
  exact (lateHeader_path _ _).trans (callEach_path _ _)

theorem turning_path (h : b.state = .initializing) :
    Path { b with state := .configuring }
      ((call .beforeConfigure l.beforeConfigure).run { b with state := .configuring }).events
      ((turning l).run b).state := by
  rw [turning_run l b h]
  exact call_path _ _ _

theorem configureConfigurers_path :
    Path b ((configureConfigurers l).run b).events ((configureConfigurers l).run b).state := by
  rw [configureConfigurers_run]
  exact .head (.tell b (.configuring _) rfl) (callEach_path _ _)

end Runs

end Builder

/-! ## What a stage leaves -/

/-- The stages of a build. -/
inductive Stage where
  | opening
  | firstPass
  | latePass
  | turning
  | configuringPass
  | production
  deriving DecidableEq, Repr

namespace Stage

def all : List Stage :=
  [opening, firstPass, latePass, turning, configuringPass, production]

theorem mem_all (s : Stage) : s ∈ all := by
  cases s <;> decide

/-- The state in which the callbacks of a stage run. -/
def state : Stage → State
  | opening => .initializing
  | firstPass => .initializing
  | latePass => .initializing
  | turning => .configuring
  | configuringPass => .configuring
  | production => .building

/-- The stage belongs to the initializing state. -/
def isInitial (s : Stage) : Bool :=
  s.state.isInitializing

/-- The stage lies behind the initializing state. -/
def isClosing (s : Stage) : Bool :=
  s.state.isConfigured

/-- The call is made in the stage. -/
def makes : Stage → Call → Bool
  | opening, .beforeInit => true
  | firstPass, .init _ => true
  | latePass, .init _ => true
  | turning, .beforeConfigure => true
  | configuringPass, .configure _ => true
  | production, .performBuild => true
  | _, _ => false

/-- The stage can leave the event. -/
def leaves (s : Stage) : Event S → Bool
  | .moved .unbuilt _ => s == .opening
  | .moved .initializing _ => s == .turning
  | .moved .. => s == .production
  | .registered .. => !s.state.isConfigured
  | .registeredLate _ => !s.state.isConfigured
  | .removed _ => true
  | .initializing _ => s == .firstPass
  | .initializingLate _ => s == .latePass
  | .configuring _ => s == .configuringPass
  | .started c => s.makes c
  | .finished c _ => s.makes c
  | .withheld _ => false
  | .gaveUp _ => false
  | .noted _ => true
  | .logged _ => true

end Stage

theorem not_mem_of_leaves {s : Stage} {es : List (Event S)}
    (hes : ∀ e ∈ es, s.leaves e = true) {e : Event S} (he : s.leaves e = false) : e ∉ es := by
  intro hmem
  rw [hes e hmem] at he
  exact Bool.noConfusion he

/-- Each event can be left by one of the stages. -/
def LeftBy (P : Stage → Bool) (es : List (Event S)) : Prop :=
  ∀ e ∈ es, ∃ s, P s = true ∧ s.leaves e = true

namespace LeftBy

variable {P : Stage → Bool} {es fs : List (Event S)}

theorem nil : LeftBy P ([] : List (Event S)) :=
  fun _ he => absurd he List.not_mem_nil

theorem of_stage {s : Stage} (hs : P s = true) (hes : ∀ e ∈ es, s.leaves e = true) :
    LeftBy P es :=
  fun e he => ⟨s, hs, hes e he⟩

theorem append (hes : LeftBy P es) (hfs : LeftBy P fs) : LeftBy P (es ++ fs) := by
  intro e he
  rcases List.mem_append.1 he with he | he
  · exact hes e he
  · exact hfs e he

theorem not_mem (hes : LeftBy P es) {e : Event S}
    (he : (Stage.all.all fun s => !(P s && s.leaves e)) = true) : e ∉ es := by
  intro hmem
  obtain ⟨s, hs, hleaves⟩ := hes e hmem
  have hnot := List.all_eq_true.1 he s s.mem_all
  rw [hs, hleaves] at hnot
  exact Bool.noConfusion hnot

end LeftBy

/-- The event tells of a registration. -/
def Event.isRegistration : Event S → Bool
  | .registered .. => true
  | .registeredLate _ => true
  | _ => false

/-- Registrations are made before the configuring state only. -/
theorem Path.isConfigured_eq_false {a b : Builder S} {h : List (Event S)} (path : Path a h b)
    {e : Event S} (he : e ∈ h) (hr : e.isRegistration = true) : a.state.isConfigured = false := by
  induction path with
  | refl => exact absurd he List.not_mem_nil
  | head step _ ih =>
    rcases List.mem_append.1 he with he | he
    · cases step with
      | register c hopen => exact hopen
      | tell x hx =>
        rw [List.mem_singleton] at he
        subst he
        cases e <;> simp [Event.isRegistration, Event.isPlain] at hr hx
      | remove kind =>
        rw [List.mem_singleton] at he
        subst he
        exact absurd hr (by simp [Event.isRegistration])
      | _ => exact absurd he List.not_mem_nil
    · rw [← step.sameFrame.state]
      exact ih he

theorem Callback.run_leaves (m : Callback S α) {b : Builder S} {s : Stage}
    (hb : b.state = s.state) : ∀ e ∈ (m.run b).events, s.leaves e = true := by
  intro e he
  have hop := m.run_isOperation b e he
  -- whether the callback can register depends on the state it runs in
  have hopen : e.isRegistration = true → s.state.isConfigured = false := by
    intro hr
    rw [← hb]
    exact (m.run_path b).isConfigured_eq_false he hr
  cases e <;> simp_all [Event.isOperation, Event.isRegistration, Stage.leaves]

namespace Builder

theorem call_leaves {c : Call} {s : Stage} (hc : s.makes c = true) (body : Callback S α)
    {b : Builder S} (hb : b.state = s.state) :
    ∀ e ∈ ((call c body).run b).events, s.leaves e = true := by
  intro e he
  rw [call_run] at he
  simp only [List.mem_cons, List.mem_append, List.not_mem_nil, or_false] at he
  rcases he with rfl | he | rfl
  · exact hc
  · exact body.run_leaves hb e he
  · exact hc

theorem callEach_leaves {s : Stage} : ∀ {cs : List (Call × Callback S Unit)} {b : Builder S},
    (∀ c ∈ cs, s.makes c.1 = true) → b.state = s.state →
      ∀ e ∈ ((callEach cs).run b).events, s.leaves e = true
  | [], _, _, _ => fun _ he => absurd he List.not_mem_nil
  | c :: rest, b, hcs, hb => by
    have hstate := (call_path c.1 c.2 b).sameFrame.state.trans hb
    exact Attempt.run_bind_events (call_leaves (hcs c List.mem_cons_self) c.2 hb) fun _ _ =>
      callEach_leaves (fun d hd => hcs d (List.mem_cons_of_mem _ hd)) hstate

theorem makes_initCalls {s : Stage} (hs : ∀ n, s.makes (.init n) = true) (l : Lifecycle S)
    (rs : List (Registration S.Configurer)) : ∀ c ∈ initCalls l rs, s.makes c.1 = true := by
  intro c hc
  obtain ⟨r, -, rfl⟩ := List.mem_map.1 hc
  exact hs r.serial

section Leaves

variable (l : Lifecycle S) {b : Builder S}

theorem opening_leaves (h : b.state = .unbuilt) :
    ∀ e ∈ ((opening l).run b).events, Stage.opening.leaves e = true := by
  intro e he
  rw [opening_run l b h] at he
  rcases List.mem_cons.1 he with rfl | he
  · rfl
  · exact call_leaves rfl _ rfl e he

theorem firstPass_leaves (h : b.state = .initializing) :
    ∀ e ∈ ((firstPass l).run b).events, Stage.firstPass.leaves e = true := by
  intro e he
  rw [firstPass_run] at he
  rcases List.mem_cons.1 he with rfl | he
  · rfl
  · exact callEach_leaves (makes_initCalls (fun _ => rfl) l _) h e he

theorem latePass_leaves (h : b.state = .initializing) :
    ∀ e ∈ ((latePass l).run b).events, Stage.latePass.leaves e = true := by
  intro e he
  rw [latePass_run] at he
  rcases List.mem_append.1 he with he | he
  · unfold lateHeader at he
    split at he
    · exact absurd he List.not_mem_nil
    · rw [List.mem_singleton.1 he]
      rfl
  · refine callEach_leaves (makes_initCalls (fun _ => rfl) l _) ?_ e he
    exact h

theorem turning_leaves (h : b.state = .initializing) :
    ∀ e ∈ ((turning l).run b).events, Stage.turning.leaves e = true := by
  intro e he
  rw [turning_run l b h] at he
  rcases List.mem_cons.1 he with rfl | he
  · rfl
  · exact call_leaves rfl _ rfl e he

theorem configureConfigurers_leaves (h : b.state = .configuring) :
    ∀ e ∈ ((configureConfigurers l).run b).events, Stage.configuringPass.leaves e = true := by
  intro e he
  rw [configureConfigurers_run] at he
  rcases List.mem_cons.1 he with rfl | he
  · rfl
  · refine callEach_leaves (fun c hc => ?_) h e he
    obtain ⟨r, -, rfl⟩ := List.mem_map.1 hc
    rfl

theorem conclude_run (o : S.Object) (h : b.state = .building) :
    (do let p ← keep o; move .built; return p : Attempt S (Produced S.Object)).run b =
      ⟨.ok ⟨b.nextObject, o⟩, [.moved .building .built],
        { b with
          state := .built
          object := some ⟨b.nextObject, o⟩
          nextObject := b.nextObject + 1 }⟩ := by
  obtain ⟨_, _, _, _, state, _, _, _, _, _, _⟩ := b
  cases h
  rfl

theorem production_leaves (h : b.state = .configuring) :
    ∀ e ∈ ((production l).run b).events, Stage.production.leaves e = true := by
  intro e he
  rw [production, move_bind_run (by rw [h]; rfl), h] at he
  rcases List.mem_cons.1 he with rfl | he
  · rfl
  · refine Attempt.run_bind_events (call_leaves rfl _ rfl) (fun o _ x hx => ?_) e he
    -- the callback leaves the state alone, so the last move is not refused
    rw [conclude_run o (call_path .performBuild l.performBuild _).sameFrame.state] at hx
    rw [List.mem_singleton.1 hx]
    rfl

end Leaves

end Builder

end AuthChain.Build
