import AuthChain.Proofs.Build.Usage

/-!
# A build is final

A builder runs one lifecycle in its whole use, with its first build, and how that build ended is how
every later one ends. Main statement: all calls that are ever made are those of the first build; if
it gave an object, every later build gives the same object, and if it failed, every later build is
refused with the state of the last call (`Builder.first_build_is_final`).
-/

namespace AuthChain.Build

variable {S : Signature}

namespace Builder

/-- The object that an operation gives out, if it is a build that gives one. -/
def given? (b : Builder S) : Operation S → Option (Produced S.Object)
  | .build l => ((build l).run b).answer.toOption
  | .getOrBuild l => (getOrBuild l b).answer
  | _ => none

/-- Every build gives out the same object. -/
structure Gives (b : Builder S) (p : Produced S.Object) : Prop where
  object_eq : b.object = some p
  build_eq : ∀ l, ((build l).run b).answer = .ok p
  getOrBuild_eq : ∀ l, (getOrBuild l b).answer = some p

/-- Every build is refused, since one failed in this state. -/
structure Refuses (b : Builder S) (s : State) : Prop where
  state_eq : b.state = s
  object_eq : b.object = none
  build_eq : ∀ l, ((build l).run b).answer = .error (.illegalState (.failedBefore s))
  getOrBuild_eq : ∀ l, (getOrBuild l b).answer = none

/-! ## Builds that began before -/

theorem getOrBuild_answer_begun {b : Builder S} (l : Lifecycle S) (hb : b.state ≠ .unbuilt) :
    (getOrBuild l b).answer = b.object := by
  have hbegun : b.state.isUnbuilt = false := by simpa [State.isUnbuilt] using hb
  rw [getOrBuild, Act.bind_apply, Act.get_apply]
  simp only [hbegun, Bool.false_eq_true, if_false]
  split <;> rfl

theorem gives_of_built {b : Builder S} {p : Produced S.Object} (hb : b.state = .built)
    (hp : b.object = some p) : b.Gives p := by
  have hbegun : b.state ≠ .unbuilt := by
    rw [hb]
    exact State.noConfusion
  refine ⟨hp, fun l => ?_, fun l => ?_⟩
  · rw [build_run_of_begun l hbegun, hb, hp]
  · rw [getOrBuild_answer_begun l hbegun, hp]

theorem refuses_of_call {b : Builder S} {c : Call} (hc : c.state = b.state)
    (hobject : b.object = none) : b.Refuses c.state := by
  have hbegun : b.state ≠ .unbuilt := hc ▸ c.state_ne_unbuilt
  refine ⟨hc.symm, hobject, fun l => ?_, fun l => ?_⟩
  · rw [build_run_of_begun l hbegun, hobject, ← hc]
    cases c <;> rfl
  · rw [getOrBuild_answer_begun l hbegun, hobject]

/-! ## Runs of operations -/

/-- Operations one after the other change neither the state nor the object and make no call. -/
structure StaysQuiet (b : Builder S) (ops : List (Operation S)) : Prop where
  state_eq : (b.after ops).state = b.state
  object_eq : (b.after ops).object = b.object
  calls_eq : calls (b.history ops) = []

theorem StaysQuiet.nil (b : Builder S) : b.StaysQuiet [] :=
  ⟨rfl, rfl, rfl⟩

theorem StaysQuiet.cons {b : Builder S} {op : Operation S} {rest : List (Operation S)}
    (first : b.Quiet op) (later : (b.step op).StaysQuiet rest) : b.StaysQuiet (op :: rest) where
  state_eq := later.state_eq.trans first.state_eq
  object_eq := later.object_eq.trans first.object_eq
  calls_eq := by rw [history, calls_append, calls_of_isQuiet first.events, later.calls_eq]; rfl

theorem staysQuiet_of_lifecycle?_eq_none (b : Builder S) {ops : List (Operation S)}
    (hops : ∀ op ∈ ops, op.lifecycle? = none) : b.StaysQuiet ops := by
  induction ops generalizing b with
  | nil => exact .nil b
  | cons op rest ih =>
    refine .cons (quiet_of_lifecycle?_eq_none (hops op List.mem_cons_self) b) (ih _ ?_)
    exact fun x hx => hops x (List.mem_cons_of_mem _ hx)

theorem staysQuiet_of_begun {b : Builder S} (hb : b.state ≠ .unbuilt) (ops : List (Operation S)) :
    b.StaysQuiet ops := by
  induction ops generalizing b with
  | nil => exact .nil b
  | cons op rest ih =>
    have first := quiet_of_begun hb op
    exact .cons first (ih (first.state_eq ▸ hb))

/-! ## The first build -/

theorem given?_of_unbuilt {b : Builder S} (hb : b.state = .unbuilt) {op : Operation S}
    {l : Lifecycle S} (hop : op.lifecycle? = some l) :
    b.given? op = ((runLifecycle l).run b).answer.toOption := by
  cases op with
  | build k =>
    obtain rfl : k = l := Option.some.inj hop
    rw [given?, build_run_unbuilt k hb]
  | getOrBuild k =>
    obtain rfl : k = l := Option.some.inj hop
    have hunbuilt : b.state.isUnbuilt = true := by rw [hb]; rfl
    rw [given?, getOrBuild, Act.bind_apply, Act.get_apply]
    simp only [hunbuilt, if_true, Act.bind_apply, build_run_unbuilt k hb]
    cases ((runLifecycle k).run b).answer <;> rfl
  | _ => exact absurd hop (by simp [Operation.lifecycle?])

/-- The builder that a first build leaves gives its object or refuses, whatever follows. -/
theorem final_of_unbuilt {b : Builder S} (hb : b.state = .unbuilt) (hobject : b.object = none)
    (l : Lifecycle S) {c : Builder S} (hstate : c.state = ((runLifecycle l).run b).state.state)
    (hc : c.object = ((runLifecycle l).run b).state.object) :
    match ((runLifecycle l).run b).answer with
    | .ok p => c.Gives p
    | .error _ => ∃ s, (calls ((runLifecycle l).run b).events).getLast?.map Call.state = some s ∧
        c.Refuses s := by
  obtain ⟨hok, herror⟩ := runLifecycle_contract l [] b ⟨hb, .nil, hobject⟩
  rw [List.nil_append] at hok herror
  cases hanswer : ((runLifecycle l).run b).answer with
  | ok p =>
    have finished := hok p hanswer
    exact gives_of_built (hstate.trans finished.state_eq) (hc.trans finished.object_eq)
  | error e =>
    have aborted := herror e hanswer
    obtain ⟨call, hcall⟩ := aborted.exists_call
    refine ⟨call.state, ?_, ?_⟩
    · rw [aborted.last, hcall]
    · exact refuses_of_call (hcall.trans hstate.symm) (hc.trans aborted.object_eq)

/-- All calls that are ever made on a builder are those of the first build. If this gave an object,
every later build gives the same one; if it failed, every later build is refused with the state of
the last call, and there is no object. -/
theorem first_build_is_final (t : S.Target) (accumulates : Bool) (w : S.World)
    (before : List (Operation S)) (first : Operation S) (l : Lifecycle S)
    (later : List (Operation S)) (hbefore : ∀ op ∈ before, op.lifecycle? = none)
    (hfirst : first.lifecycle? = some l) :
    calls ((create t accumulates w).history (before ++ first :: later)) =
      calls ((runLifecycle l).run ((create t accumulates w).after before)).events ∧
    ((create t accumulates w).after before).given? first =
      ((runLifecycle l).run ((create t accumulates w).after before)).answer.toOption ∧
    match ((runLifecycle l).run ((create t accumulates w).after before)).answer with
    | .ok p => ((create t accumulates w).after (before ++ first :: later)).Gives p
    | .error _ => ∃ s,
        (calls ((runLifecycle l).run ((create t accumulates w).after before)).events).getLast?.map
            Call.state = some s ∧
          ((create t accumulates w).after (before ++ first :: later)).Refuses s := by
  obtain ⟨hunbuilt, hobject, hsilent⟩ :=
    staysQuiet_of_lifecycle?_eq_none (create t accumulates w) hbefore
  have hsettled := (settled_create t accumulates w).after before
  have hunderway := (hsettled.idle hunbuilt).underway_runLifecycle l
  rw [history_append, after_append, calls_append, hsilent, List.nil_append]
  generalize (create t accumulates w).after before = b at hunbuilt hobject hunderway
  obtain ⟨hstep, told, hevents, htold⟩ := step_runs hunbuilt hfirst
  rw [← hstep] at hunderway
  -- the build began, so whatever follows leaves the state and the object as they are
  obtain ⟨hstate, hkept, hcalls⟩ := staysQuiet_of_begun hunderway.begun later
  refine ⟨?_, given?_of_unbuilt hunbuilt hfirst, ?_⟩
  · rw [history, calls_append, hcalls, List.append_nil, hevents, calls_append,
      calls_of_isQuiet htold, List.append_nil]
  · rw [hstep] at hstate hkept
    have hafter : b.after (first :: later) = ((runLifecycle l).run b).state.after later := by
      rw [← hstep]
      rfl
    rw [hafter]
    exact final_of_unbuilt hunbuilt hobject l hstate hkept

/-- The `init` of `beta` fails. -/
def failing : Lifecycle Sample.signature :=
  Sample.lifecycle (.done ()) fun
    | .beta => .fail (.configurer "Beta" "refused")
    | _ => .done ()

/-- No callback does anything. -/
def harmless : Lifecycle Sample.signature :=
  Sample.lifecycle (.done ()) fun _ => .done ()

/-- The configurer that failed is removed, and a lifecycle without failures is tried. -/
theorem failed_build_is_not_retried :
    calls ((create () true ()).history
        ([.register Sample.alpha, .register Sample.beta] ++ .getOrBuild failing ::
          [.removeConfigurer Sample.beta.kind, .build harmless])) =
      [.beforeInit, .init 0, .init 1] ∧
    ((create () true ()).after
        ([.register Sample.alpha, .register Sample.beta] ++ .getOrBuild failing ::
          [.removeConfigurer Sample.beta.kind, .build harmless])).Refuses .initializing := by
  have hbefore : ∀ op ∈ [Operation.register (S := Sample.signature) Sample.alpha,
      .register Sample.beta], op.lifecycle? = none := by
    simp [Operation.lifecycle?]
  obtain ⟨hcalls, -, s, hs, hrefuses⟩ := first_build_is_final () true ()
    [.register Sample.alpha, .register Sample.beta] (.getOrBuild failing) failing
    [.removeConfigurer Sample.beta.kind, .build harmless] hbefore rfl
  obtain rfl : State.initializing = s := Option.some.inj hs
  exact ⟨hcalls, hrefuses⟩

end Builder

end AuthChain.Build
