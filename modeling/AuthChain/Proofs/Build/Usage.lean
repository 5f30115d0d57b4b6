import AuthChain.Proofs.Build.Contract

/-!
# Builders in use and their histories

The events that a caller's operations leave on a builder, one operation after the other
(`Builder.history`). Main statements: an operation that runs no lifecycle changes neither the state
nor the object and makes no call, and so does every operation after the first build
(`Builder.quiet_of_lifecycle?_eq_none`, `Builder.quiet_of_begun`); and whatever was done with a
builder, its history tells of the moves up to its state, and it holds an object exactly when it is
built (`Builder.coherent_after`).
-/

namespace AuthChain.Build

open scoped List

variable {S : Signature}

/-- The lifecycle that the operation is to run, if it is to run one. -/
def Operation.lifecycle? : Operation S → Option (Lifecycle S)
  | .build l => some l
  | .getOrBuild l => some l
  | _ => none

namespace Builder

/-- The events that an operation leaves. -/
def events (b : Builder S) : Operation S → List (Event S)
  | .register c => (register c b).events
  | .removeConfigurers kind => (removeConfigurers kind b).events
  | .removeConfigurer kind => (removeConfigurer kind b).events
  | .build l => ((build l).run b).events
  | .getOrBuild l => (getOrBuild l b).events
  | _ => []

/-- The events that operations leave in their order. -/
def history (b : Builder S) : List (Operation S) → List (Event S)
  | [] => []
  | op :: rest => b.events op ++ (b.step op).history rest

theorem after_append (b : Builder S) (ops more : List (Operation S)) :
    b.after (ops ++ more) = (b.after ops).after more :=
  List.foldl_append ..

theorem history_append (b : Builder S) (ops more : List (Operation S)) :
    b.history (ops ++ more) = b.history ops ++ (b.after ops).history more := by
  induction ops generalizing b with
  | nil => rfl
  | cons op rest ih =>
    rw [List.cons_append, history, history, ih, List.append_assoc]
    rfl

theorem build_run_of_begun {b : Builder S} (l : Lifecycle S) (hb : b.state ≠ .unbuilt) :
    (build l).run b =
      ⟨match b.state, b.object with
        | .built, some p => .ok p
        | .built, none => .error (.illegalState .missingObject)
        | s, _ => .error (.illegalState (.failedBefore s)), [], b⟩ := by
  have hget : ((Attempt.ofAct Act.get : Attempt S (Builder S)).run b).answer = .ok b := rfl
  rw [build, Attempt.run_bind_ok hget]
  simp only [Attempt.run_ofAct, Act.get_apply]
  cases hs : b.state with
  | unbuilt => exact absurd hs hb
  | built => cases b.object <;> rfl
  | _ => rfl

/-! ## Quiet operations -/

/-- What is told where errors are not reported is no call. -/
theorem getOrBuild_told (l : Lifecycle S) (b : Builder S) : ∃ told : List (Event S),
    b.events (.getOrBuild l) = ((build l).run b).events ++ told ∧
      ∀ e ∈ told, e.isQuiet = true := by
  obtain ⟨-, told, hevents, htold⟩ := getOrBuild_apply l b
  refine ⟨told, hevents, fun e he => ?_⟩
  rcases htold e he with ⟨s, rfl⟩ | ⟨error, rfl⟩ <;> rfl

/-- The operation changes neither the state nor the object and makes no call. -/
structure Quiet (b : Builder S) (op : Operation S) : Prop where
  state_eq : (b.step op).state = b.state
  object_eq : (b.step op).object = b.object
  events : ∀ e ∈ b.events op, e.isQuiet = true

theorem register_quiet (c : S.Configurer) (b : Builder S) : b.Quiet (.register c) := by
  have hframe := (register_path c b).sameFrame
  refine ⟨hframe.state, hframe.object, fun e he => ?_⟩
  have hop := (Callback.register c Callback.done).run_isOperation b e (List.mem_append_left _ he)
  exact Event.isQuiet_of_isOperation hop

theorem removeConfigurers_quiet (kind : ConfigurerKind) (b : Builder S) :
    b.Quiet (.removeConfigurers kind) := by
  have hframe := (removeConfigurers_path kind b).sameFrame
  refine ⟨hframe.state, hframe.object, fun e he => ?_⟩
  have hop := (Callback.removeConfigurers kind Callback.done).run_isOperation b e
    (List.mem_append_left _ he)
  exact Event.isQuiet_of_isOperation hop

theorem removeConfigurer_quiet (kind : ConfigurerKind) (b : Builder S) :
    b.Quiet (.removeConfigurer kind) := by
  have hframe := (removeConfigurer_path kind b).sameFrame
  refine ⟨hframe.state, hframe.object, fun e he => ?_⟩
  -- it removes nothing, or all configurers of the kind
  have hmany := (removeConfigurers_quiet kind b).events e
  rw [Builder.events, removeConfigurer, Act.bind_apply, Act.get_apply] at he
  cases hc : b.configurer kind with
  | error cause =>
    simp only [hc] at he
    exact absurd he List.not_mem_nil
  | ok c =>
    simp only [hc, Act.bind_apply, Act.pure_apply, List.append_nil, List.nil_append] at he
    exact hmany he

theorem quiet_of_lifecycle?_eq_none {op : Operation S} (hop : op.lifecycle? = none)
    (b : Builder S) : b.Quiet op := by
  cases op with
  | register c => exact register_quiet c b
  | removeConfigurers kind => exact removeConfigurers_quiet kind b
  | removeConfigurer kind => exact removeConfigurer_quiet kind b
  | build l => exact absurd hop (by simp [Operation.lifecycle?])
  | getOrBuild l => exact absurd hop (by simp [Operation.lifecycle?])
  | _ => exact ⟨rfl, rfl, fun e he => absurd he List.not_mem_nil⟩

/-- Nothing that is done with a builder after its build began changes how it ended. -/
theorem quiet_of_begun {b : Builder S} (hb : b.state ≠ .unbuilt) (op : Operation S) :
    b.Quiet op := by
  cases hop : op.lifecycle? with
  | none => exact quiet_of_lifecycle?_eq_none hop b
  | some l =>
    obtain ⟨hevents, hstate⟩ := build_run_begun l hb
    cases op with
    | build k =>
      obtain rfl : k = l := Option.some.inj hop
      refine ⟨congrArg Builder.state hstate, congrArg Builder.object hstate, fun e he => ?_⟩
      rw [Builder.events, hevents] at he
      exact absurd he List.not_mem_nil
    | getOrBuild k =>
      obtain rfl : k = l := Option.some.inj hop
      obtain ⟨told, heq, htold⟩ := getOrBuild_told k b
      have hstep : b.step (.getOrBuild k) = b := (getOrBuild_apply k b).1.trans hstate
      refine ⟨congrArg Builder.state hstep, congrArg Builder.object hstep, fun e he => ?_⟩
      rw [heq, hevents, List.nil_append] at he
      exact htold e he
    | _ => exact absurd hop (by simp [Operation.lifecycle?])

/-- The first operation that is to run a lifecycle runs it. -/
theorem step_runs {b : Builder S} (hb : b.state = .unbuilt) {op : Operation S} {l : Lifecycle S}
    (hop : op.lifecycle? = some l) :
    b.step op = ((runLifecycle l).run b).state ∧ ∃ told : List (Event S),
      b.events op = ((runLifecycle l).run b).events ++ told ∧ ∀ e ∈ told, e.isQuiet = true := by
  have hrun := build_run_unbuilt l hb
  cases op with
  | build k =>
    obtain rfl : k = l := Option.some.inj hop
    rw [step, Builder.events, hrun]
    exact ⟨rfl, [], (List.append_nil _).symm, fun e he => absurd he List.not_mem_nil⟩
  | getOrBuild k =>
    obtain rfl : k = l := Option.some.inj hop
    rw [← hrun]
    exact ⟨(getOrBuild_apply k b).1, getOrBuild_told k b⟩
  | _ => exact absurd hop (by simp [Operation.lifecycle?])

/-- The history tells of the moves up to the state of the builder, which holds an object exactly
when it is built. -/
structure Coherent (h : List (Event S)) (b : Builder S) : Prop where
  charted : Charted h b.state
  object_iff : b.object.isSome = true ↔ b.state = .built

theorem Coherent.append {h g : List (Event S)} {b : Builder S} (coherent : Coherent h b)
    (hg : ∀ e ∈ g, e.isQuiet = true) : Coherent (h ++ g) b :=
  ⟨coherent.charted.append fun e he => Event.suits_of_isQuiet (hg e he), coherent.object_iff⟩

theorem Coherent.reached {h : List (Event S)} {b : Builder S} (coherent : Coherent h b)
    (hb : b.state = .unbuilt) : Reached .unbuilt h b := by
  refine ⟨hb, hb ▸ coherent.charted, Option.not_isSome_iff_eq_none.1 fun hsome => ?_⟩
  rw [coherent.object_iff.1 hsome] at hb
  exact State.noConfusion hb

theorem coherent_of_aborted {e : Error} {h : List (Event S)} {b : Builder S}
    (aborted : Aborted e h b) : Coherent h b := by
  obtain ⟨c, hc⟩ := aborted.exists_call
  refine ⟨aborted.charted, fun hsome => ?_, fun hb => absurd (hc.trans hb) c.state_ne_built⟩
  rw [aborted.object_eq] at hsome
  exact absurd hsome (by simp)

theorem coherent_of_finished {p : Produced S.Object} {h : List (Event S)} {b : Builder S}
    (finished : Finished p h b) : Coherent h b := by
  obtain ⟨hstate, charted, hobject⟩ := finished
  refine ⟨hstate ▸ charted, fun _ => hstate, fun _ => ?_⟩
  rw [hobject]
  rfl

/-- However a build ends, the builder stays coherent. -/
theorem Coherent.run {h : List (Event S)} {b : Builder S} (coherent : Coherent h b)
    (hb : b.state = .unbuilt) (l : Lifecycle S) :
    Coherent (h ++ ((runLifecycle l).run b).events) ((runLifecycle l).run b).state := by
  obtain ⟨hok, herror⟩ := runLifecycle_contract l h b (coherent.reached hb)
  cases hanswer : ((runLifecycle l).run b).answer with
  | ok p => exact coherent_of_finished (hok p hanswer)
  | error e => exact coherent_of_aborted (herror e hanswer)

theorem Coherent.quiet {h : List (Event S)} {b : Builder S} (coherent : Coherent h b)
    {op : Operation S} (quiet : b.Quiet op) : Coherent (h ++ b.events op) (b.step op) := by
  obtain ⟨hstate, hobject, hevents⟩ := quiet
  refine ⟨?_, ?_⟩
  · rw [hstate]
    exact (coherent.append hevents).charted
  · rw [hstate, hobject]
    exact coherent.object_iff

theorem Coherent.step {h : List (Event S)} {b : Builder S} (coherent : Coherent h b)
    (op : Operation S) : Coherent (h ++ b.events op) (b.step op) := by
  by_cases hb : b.state = .unbuilt
  · cases hop : op.lifecycle? with
    | none => exact coherent.quiet (quiet_of_lifecycle?_eq_none hop b)
    | some l =>
      obtain ⟨hstep, told, hevents, htold⟩ := step_runs hb hop
      rw [hstep, hevents, ← List.append_assoc]
      exact (coherent.run hb l).append htold
  · exact coherent.quiet (quiet_of_begun hb op)

theorem Coherent.after {h : List (Event S)} {b : Builder S} (coherent : Coherent h b)
    (ops : List (Operation S)) : Coherent (h ++ b.history ops) (b.after ops) := by
  induction ops generalizing h b with
  | nil =>
    rw [history, List.append_nil]
    exact coherent
  | cons op rest ih =>
    rw [history, ← List.append_assoc]
    exact ih (coherent.step op)

/-- Whatever is done with a builder, it is coherent with its history. -/
theorem coherent_after (t : S.Target) (accumulates : Bool) (w : S.World)
    (ops : List (Operation S)) :
    Coherent ((create t accumulates w).history ops) ((create t accumulates w).after ops) := by
  have hcreated : Coherent [] (create t accumulates w) :=
    ⟨.nil, fun hsome => absurd hsome (by simp [create]), fun hb => State.noConfusion hb⟩
  exact hcreated.after ops

end Builder

end AuthChain.Build
