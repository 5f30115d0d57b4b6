import AuthChain.Proofs.Build.Usage

/-!
# Builds whose errors are dropped

The lenient way to build gives the object or nothing. Before the first build it runs the lifecycle;
later it gives out what the builder holds, without a look at the state, where the strict way goes by
the state. That the two agree rests on what every use of a builder keeps: there is an object exactly
in the last state (`Builder.Coherent`).

Main statement: on every builder in use the lenient way is the strict one with its error dropped, and
one notice behind its events tells of the error (`Builder.getOrBuild_is_build`).
-/

namespace AuthChain.Build

variable {S : Signature}

/-- The same operation with its errors reported. -/
def Operation.strict : Operation S → Operation S
  | .getOrBuild l => .build l
  | op => op

namespace Builder

/-- What is told of an answer whose error is dropped: why the build failed, or in which state one
failed before. -/
def notice (b : Builder S) : Except Error (Produced S.Object) → List (Event S)
  | .ok _ => []
  | .error e => if b.state.isUnbuilt then [.gaveUp e] else [.withheld b.state]

theorem notice_isQuiet (b : Builder S) (answer : Except Error (Produced S.Object)) :
    ∀ e ∈ b.notice answer, e.isQuiet = true := by
  intro e he
  cases answer with
  | ok p => exact absurd he List.not_mem_nil
  | error error =>
    simp only [notice] at he
    split at he
    · obtain rfl := List.mem_singleton.1 he
      rfl
    · obtain rfl := List.mem_singleton.1 he
      rfl

/-! ## One build -/

/-- The outcome of a build with its error dropped. -/
def dropError (b : Builder S)
    (o : Outcome (Event S) (Builder S) (Except Error (Produced S.Object))) :
    Outcome (Event S) (Builder S) (Option (Produced S.Object)) :=
  ⟨o.answer.toOption, o.events ++ b.notice o.answer, o.state⟩

theorem getOrBuild_of_unbuilt {b : Builder S} (hb : b.state = .unbuilt) (l : Lifecycle S) :
    getOrBuild l b = b.dropError ((build l).run b) := by
  have hunbuilt : b.state.isUnbuilt = true := by rw [hb]; rfl
  rw [getOrBuild, Act.bind_apply, Act.get_apply, dropError]
  simp only [hunbuilt, if_true, List.nil_append, Act.bind_apply]
  cases ((build l).run b).answer with
  | ok p => rfl
  | error e =>
    simp only [notice, hunbuilt, if_true]
    rfl

/-- After a first build the answers agree because there is an object exactly in the last state. -/
theorem getOrBuild_of_begun {b : Builder S} (hb : b.state ≠ .unbuilt)
    (hobject : b.object.isSome = true ↔ b.state = .built) (l : Lifecycle S) :
    getOrBuild l b = b.dropError ((build l).run b) := by
  have hbegun : b.state.isUnbuilt = false := by simpa [State.isUnbuilt] using hb
  rw [getOrBuild, Act.bind_apply, Act.get_apply, build_run_of_begun l hb, dropError]
  simp only [hbegun, Bool.false_eq_true, if_false, List.nil_append]
  cases hp : b.object with
  | some p =>
    have hbuilt : b.state = .built := hobject.1 (by rw [hp]; rfl)
    simp only [hbuilt]
    rfl
  | none =>
    have hnever : b.state ≠ .built := by
      intro hbuilt
      rw [← hobject, hp] at hbuilt
      exact absurd hbuilt (by simp)
    have hwithheld : ∀ e, b.notice (.error e) = [.withheld b.state] := by
      intro e
      simp only [notice, hbegun, Bool.false_eq_true, if_false]
    cases hs : b.state with
    | built => exact absurd hs hnever
    | _ =>
      simp only [hwithheld, hs]
      rfl

theorem Coherent.getOrBuild_eq {h : List (Event S)} {b : Builder S} (coherent : Coherent h b)
    (l : Lifecycle S) : getOrBuild l b = b.dropError ((build l).run b) := by
  by_cases hb : b.state = .unbuilt
  · exact getOrBuild_of_unbuilt hb l
  · exact getOrBuild_of_begun hb coherent.object_iff l

/-! ## Uses of a builder -/

theorem step_strict (b : Builder S) (op : Operation S) : b.step op.strict = b.step op := by
  cases op with
  | getOrBuild l => exact (getOrBuild_apply l b).1.symm
  | _ => rfl

theorem calls_events_strict (b : Builder S) (op : Operation S) :
    calls (b.events op.strict) = calls (b.events op) := by
  cases op with
  | getOrBuild l =>
    obtain ⟨told, hevents, htold⟩ := getOrBuild_told l b
    rw [hevents, calls_append, calls_of_isQuiet htold, List.append_nil]
    rfl
  | _ => rfl

/-- Whichever way to build is taken each time, the builder ends the same. -/
theorem after_strict (b : Builder S) (ops : List (Operation S)) :
    b.after (ops.map Operation.strict) = b.after ops := by
  induction ops generalizing b with
  | nil => rfl
  | cons op rest ih =>
    show (b.step op.strict).after (rest.map Operation.strict) = (b.step op).after rest
    rw [step_strict, ih]

/-- Whichever way to build is taken each time, the same calls are made. -/
theorem calls_history_strict (b : Builder S) (ops : List (Operation S)) :
    calls (b.history (ops.map Operation.strict)) = calls (b.history ops) := by
  induction ops generalizing b with
  | nil => rfl
  | cons op rest ih =>
    rw [List.map_cons, history, history, calls_append, calls_append, calls_events_strict,
      step_strict, ih]

/-- On every builder in use the lenient way to build gives an object exactly when the strict one
gives the same, and none exactly when that one fails. Its events are those of the strict way with a
notice of the error behind them, so the same calls are made in the same order, and it leaves the same
builder. So a use in which every error is reported leaves the same builder after the same calls. -/
theorem getOrBuild_is_build (t : S.Target) (accumulates : Bool) (w : S.World)
    (ops : List (Operation S)) :
    (∀ l,
      let b := (create t accumulates w).after ops
      (∀ p, (getOrBuild l b).answer = some p ↔ ((build l).run b).answer = .ok p) ∧
      ((getOrBuild l b).answer = none ↔ ∃ e, ((build l).run b).answer = .error e) ∧
      (getOrBuild l b).events =
        ((build l).run b).events ++ b.notice ((build l).run b).answer ∧
      calls (getOrBuild l b).events = calls ((build l).run b).events ∧
      (getOrBuild l b).state = ((build l).run b).state) ∧
    (create t accumulates w).after (ops.map Operation.strict) =
      (create t accumulates w).after ops ∧
    calls ((create t accumulates w).history (ops.map Operation.strict)) =
      calls ((create t accumulates w).history ops) := by
  refine ⟨fun l => ?_, after_strict _ ops, calls_history_strict _ ops⟩
  intro b
  have heq : getOrBuild l b = b.dropError ((build l).run b) :=
    (coherent_after t accumulates w ops).getOrBuild_eq l
  rw [heq, dropError]
  refine ⟨fun p => ?_, ?_, rfl, ?_, rfl⟩
  · cases ((build l).run b).answer <;> simp [Except.toOption]
  · cases ((build l).run b).answer <;> simp [Except.toOption]
  · rw [calls_append, calls_of_isQuiet (notice_isQuiet b _), List.append_nil]

end Builder

end AuthChain.Build
