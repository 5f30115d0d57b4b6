import AuthChain.Proofs.Build.Usage

/-!
# The states that a builder goes through

A builder moves forward through its states one at a time, and a callback sees one state, that of its
call, all the time. What a callback sees is told by answering its questions for the state beforehand
(`Callback.seeing`): a build is the same when every callback is told the state of its call
(`Builder.build_seeing`).

Main statement: whatever is done with a builder, its moves are those up to its state, in order and
without a gap, every call is made in its own state, and there is an object exactly in the last
state; so no build refuses a move or misses its object (`Builder.states_move_forward`).
-/

namespace AuthChain.Build

variable {S : Signature} {α β : Type}

/-! ## What callbacks see -/

/-- The callback in which every question for the state is answered with the given one. -/
def Callback.seeing (s : State) : Callback S α → Callback S α
  | done a => done a
  | fail e => fail e
  | register c next => register c fun x => (next x).seeing s
  | configurers kind next => configurers kind fun x => (next x).seeing s
  | removeConfigurers kind next => removeConfigurers kind fun x => (next x).seeing s
  | setShared u v next => setShared u v fun x => (next x).seeing s
  | sharedObjects next => sharedObjects fun x => (next x).seeing s
  | state next => (next s).seeing s
  | target next => target fun x => (next x).seeing s
  | setTarget t next => setTarget t (next.seeing s)
  | postProcess u x next => postProcess u x fun y => (next y).seeing s
  | world next => world fun x => (next x).seeing s
  | setWorld w next => setWorld w (next.seeing s)
  | note n next => note n (next.seeing s)
  | log line next => log line (next.seeing s)

/-- The lifecycle in which every callback is told the state of its call. -/
def Lifecycle.seeing (l : Lifecycle S) : Lifecycle S where
  init c := (l.init c).seeing .initializing
  configure c := (l.configure c).seeing .configuring
  beforeInit := l.beforeInit.seeing .initializing
  beforeConfigure := l.beforeConfigure.seeing .configuring
  performBuild := l.performBuild.seeing .building

theorem bind_congr_at {m : Act (Event S) (Builder S) α} {f g : α → Act (Event S) (Builder S) β}
    {b : Builder S} (h : f (m b).answer (m b).state = g (m b).answer (m b).state) :
    (m >>= f) b = (m >>= g) b := by
  rw [Act.bind_apply, Act.bind_apply, h]

/-- A callback sees the state in which it was called, whatever it does. -/
theorem Callback.run_seeing (m : Callback S α) :
    ∀ {b : Builder S} {s : State}, b.state = s → (m.seeing s).run b = m.run b := by
  -- no operation of a callback changes the state
  induction m with
  | done a => exact fun _ => rfl
  | fail e => exact fun _ => rfl
  | register c next ih =>
    intro b s hb
    exact bind_congr_at (ih _ ((Builder.register_path c b).sameFrame.state.trans hb))
  | configurers kind next ih => exact fun hb => bind_congr_at (ih _ hb)
  | removeConfigurers kind next ih =>
    intro b s hb
    exact bind_congr_at (ih _ ((Builder.removeConfigurers_path kind b).sameFrame.state.trans hb))
  | setShared u v next ih =>
    intro b s hb
    exact bind_congr_at (bind_congr_at (ih _ hb))
  | sharedObjects next ih => exact fun hb => bind_congr_at (ih _ hb)
  | state next ih =>
    intro b s hb
    subst hb
    exact ih _ rfl
  | target next ih => exact fun hb => bind_congr_at (ih _ hb)
  | setTarget t next ih => exact fun hb => bind_congr_at (ih hb)
  | postProcess u x next ih => exact fun hb => bind_congr_at (ih _ hb)
  | world next ih => exact fun hb => bind_congr_at (ih _ hb)
  | setWorld w next ih => exact fun hb => bind_congr_at (ih hb)
  | note n next ih => exact fun hb => bind_congr_at (ih hb)
  | log line next ih => exact fun hb => bind_congr_at (ih hb)

/-! ## Builds whose callbacks are told the state -/

/-- The attempts run alike from a history and a builder with `P`. -/
def Attempt.Alike (P : Claim S) (m n : Attempt S α) : Prop :=
  ∀ h b, P h b → m.run b = n.run b

namespace Attempt.Alike

variable {P : Claim S} {Q : α → Claim S} {m n : Attempt S α} {f g : α → Attempt S β}

theorem refl (m : Attempt S α) : Alike P m m :=
  fun _ _ _ => rfl

theorem bind (first : Alike P m n) (contract : Contract P n Q)
    (second : ∀ a, Alike (Q a) (f a) (g a)) : Alike P (m >>= f) (n >>= g) := by
  intro h b hp
  have hfirst := first h b hp
  cases hn : (n.run b).answer with
  | error e =>
    have hm : (m.run b).answer = .error e := by rw [hfirst, hn]
    rw [run_bind_error hm, run_bind_error hn, hfirst]
  | ok a =>
    have hm : (m.run b).answer = .ok a := by rw [hfirst, hn]
    rw [run_bind_ok hm, run_bind_ok hn, hfirst, second a _ _ ((contract h b hp).1 a hn)]

end Attempt.Alike

namespace Builder

open Attempt (Alike)

theorem call_alike (c : Call) (body : Callback S α) :
    Alike (Reached c.state) (call c (body.seeing c.state)) (call c body) := by
  intro h b reached
  rw [call_run, call_run, body.run_seeing reached.state_eq]

/-- The calls with bodies that are told the state. -/
def tellEach (s : State) (cs : List (Call × Callback S Unit)) : List (Call × Callback S Unit) :=
  cs.map fun c => (c.1, c.2.seeing s)

theorem callEach_alike {s : State} : ∀ {cs : List (Call × Callback S Unit)},
    (∀ c ∈ cs, c.1.state = s) → Alike (Active s) (callEach (tellEach s cs)) (callEach cs)
  | [], _ => .refl _
  | (c, body) :: rest, hcs => by
    have hstate : c.state = s := hcs (c, body) List.mem_cons_self
    subst hstate
    refine .bind (Q := fun _ => Active c.state) ?_ ?_ fun _ => callEach_alike fun d hd => ?_
    · exact fun h b active => call_alike c body h b active.toReached
    · exact fun h b active => call_contract c body h b active.toReached
    · exact hcs d (List.mem_cons_of_mem _ hd)

section Stages

variable (l : Lifecycle S)

theorem initEach_alike (rs : List (Registration S.Configurer)) :
    Alike (Active .initializing) (initEach l.seeing rs) (initEach l rs) := by
  have htell : initCalls l.seeing rs = tellEach .initializing (initCalls l rs) := by
    rw [tellEach, initCalls, initCalls, List.map_map]
    rfl
  rw [initEach_eq, initEach_eq, htell]
  refine callEach_alike fun c hc => ?_
  obtain ⟨r, -, rfl⟩ := List.mem_map.1 hc
  rfl

theorem configureEach_alike (rs : List (Registration S.Configurer)) :
    Alike (Active .configuring) (configureEach l.seeing rs) (configureEach l rs) := by
  have htell : configureCalls l.seeing rs = tellEach .configuring (configureCalls l rs) := by
    rw [tellEach, configureCalls, configureCalls, List.map_map]
    rfl
  rw [configureEach_eq, configureEach_eq, htell]
  refine callEach_alike fun c hc => ?_
  obtain ⟨r, -, rfl⟩ := List.mem_map.1 hc
  rfl

theorem opening_alike : Alike (Reached .unbuilt) (opening l.seeing) (opening l) :=
  .bind (.refl _) (move_contract rfl) fun _ => call_alike .beforeInit l.beforeInit

theorem firstPass_alike : Alike (Active .initializing) (firstPass l.seeing) (firstPass l) := by
  refine .bind (.refl _) (reading_contract (fun b => rfl) (fun _ => rfl) fun _ => rfl) fun rs => ?_
  exact .bind (.refl _) (report_contract rfl) fun _ => initEach_alike l rs

theorem latePass_alike : Alike (Active .initializing) (latePass l.seeing) (latePass l) := by
  refine .bind (.refl _) (reading_contract takeLate_run (fun _ => rfl) fun _ => rfl) fun rs => ?_
  refine .bind (.refl _) (announceLate_contract rs) fun _ => ?_
  exact .bind (initEach_alike l rs) (initEach_contract l rs) fun _ => .refl _

theorem turning_alike : Alike (Active .initializing) (turning l.seeing) (turning l) := by
  refine .bind (Q := fun _ => Reached .configuring) (.refl _) ?_ fun _ => ?_
  · exact fun h b active => move_contract rfl h b active.toReached
  · exact call_alike .beforeConfigure l.beforeConfigure

theorem configureConfigurers_alike :
    Alike (Active .configuring) (configureConfigurers l.seeing) (configureConfigurers l) := by
  refine .bind (.refl _) (reading_contract (fun b => rfl) (fun _ => rfl) fun _ => rfl) fun rs => ?_
  exact .bind (.refl _) (report_contract rfl) fun _ => configureEach_alike l rs

theorem production_alike : Alike (Active .configuring) (production l.seeing) (production l) := by
  refine .bind (Q := fun _ => Reached .building) (.refl _) ?_ fun _ => ?_
  · exact fun h b active => move_contract rfl h b active.toReached
  · exact .bind (call_alike .performBuild l.performBuild) (call_contract .performBuild _) fun _ =>
      .refl _

theorem runLifecycle_alike :
    Alike (Reached .unbuilt) (runLifecycle l.seeing) (runLifecycle l) := by
  rw [runLifecycle_eq_stages, runLifecycle_eq_stages]
  refine .bind (opening_alike l) (opening_contract l) fun _ => ?_
  refine .bind (firstPass_alike l) (firstPass_contract l) fun _ => ?_
  refine .bind (latePass_alike l) (latePass_contract l) fun _ => ?_
  refine .bind (turning_alike l) (turning_contract l) fun _ => ?_
  exact .bind (configureConfigurers_alike l) (configureConfigurers_contract l) fun _ =>
    production_alike l

end Stages

/-- A build is the same when every callback is told the state of its call. -/
theorem Coherent.build_seeing {h : List (Event S)} {b : Builder S} (coherent : Coherent h b)
    (l : Lifecycle S) : (build l.seeing).run b = (build l).run b := by
  by_cases hb : b.state = .unbuilt
  · rw [build_run_unbuilt _ hb, build_run_unbuilt _ hb]
    exact runLifecycle_alike l h b (coherent.reached hb)
  · rw [build_run_of_begun _ hb, build_run_of_begun _ hb]

/-- The same holds where errors are not reported. -/
theorem Coherent.getOrBuild_seeing {h : List (Event S)} {b : Builder S}
    (coherent : Coherent h b) (l : Lifecycle S) : getOrBuild l.seeing b = getOrBuild l b := by
  have hrun := coherent.build_seeing l
  rw [getOrBuild, getOrBuild, Act.bind_apply, Act.bind_apply, Act.get_apply]
  cases hb : b.state.isUnbuilt with
  | true => simp only [if_true, Act.bind_apply, hrun]
  | false => simp only [Bool.false_eq_true, if_false]

/-! ## Where errors come from -/

/-- The error of a build is that of its last call, refuses a nested registration, or tells of a
former failure. -/
theorem Coherent.build_error {h : List (Event S)} {b : Builder S} (coherent : Coherent h b)
    (l : Lifecycle S) {e : Error} (he : ((build l).run b).answer = .error e) :
    (∃ front c, ((build l).run b).events = front ++ [.finished c (some e)]) ∨
      (∃ kind, e = .illegalState (.nestedRegistration kind)) ∨
      e = .illegalState (.failedBefore b.state) := by
  by_cases hb : b.state = .unbuilt
  · have reached := coherent.reached hb
    rw [build_run_unbuilt l hb] at he ⊢
    have aborted := (runLifecycle_contract l [] b ⟨hb, .nil, reached.object_eq⟩).2 e he
    exact aborted.cause.imp_right Or.inl
  · -- a built builder holds an object, so only a former failure is left
    rw [build_run_of_begun l hb] at he
    cases hs : b.state with
    | unbuilt => exact absurd hs hb
    | built =>
      obtain ⟨p, hp⟩ := Option.isSome_iff_exists.1 (coherent.object_iff.2 hs)
      simp [hs, hp] at he
    | _ =>
      simp only [hs, Except.error.injEq] at he
      exact Or.inr (Or.inr he.symm)

/-- A move was refused, or a built builder had no object. -/
def isBreach : IllegalState → Bool
  | .badTransition .. => true
  | .missingObject => true
  | _ => false

/-- Whatever is done with a builder, its moves are those up to its state, in order and without a
gap. Every call is made in its own state, which is the one that the callback sees, and a state is
never left for an earlier one. There is an object exactly in the last state. So no build refuses a
move or misses its object: such an error is one that a callback raised itself. -/
theorem states_move_forward (t : S.Target) (accumulates : Bool) (w : S.World)
    (ops : List (Operation S)) :
    (moves ((create t accumulates w).history ops) =
        State.transitions.take ((create t accumulates w).after ops).state.rank ∧
      ∀ more, ((create t accumulates w).after ops).state.rank ≤
        ((create t accumulates w).after (ops ++ more)).state.rank) ∧
    (∀ pre c post, (create t accumulates w).history ops = pre ++ .started c :: post →
      moves pre = State.transitions.take c.state.rank) ∧
    (∀ l, (build l.seeing).run ((create t accumulates w).after ops) =
          (build l).run ((create t accumulates w).after ops) ∧
        getOrBuild l.seeing ((create t accumulates w).after ops) =
          getOrBuild l ((create t accumulates w).after ops)) ∧
    (((create t accumulates w).after ops).object.isSome = true ↔
      ((create t accumulates w).after ops).state = .built) ∧
    ∀ l cause, ((build l).run ((create t accumulates w).after ops)).answer =
        .error (.illegalState cause) → isBreach cause = true →
      ∃ front c, ((build l).run ((create t accumulates w).after ops)).events =
        front ++ [.finished c (some (.illegalState cause))] := by
  have coherent := coherent_after t accumulates w ops
  refine ⟨⟨coherent.charted.moves_eq, fun more => ?_⟩, coherent.charted.placed, fun l => ?_,
    coherent.object_iff, fun l cause he hbreach => ?_⟩
  · -- the moves of a longer history go on from those of the shorter one
    have hmore := (coherent_after t accumulates w (ops ++ more)).charted.moves_eq
    rw [history_append, moves_append, coherent.charted.moves_eq] at hmore
    have hlength := congrArg List.length hmore
    simp only [List.length_append, List.length_take] at hlength
    have hle : ∀ s : State, min s.rank State.transitions.length = s.rank := by
      intro s
      cases s <;> rfl
    rw [hle, hle] at hlength
    omega
  · exact ⟨coherent.build_seeing l, coherent.getOrBuild_seeing l⟩
  · rcases coherent.build_error l he with hcall | ⟨kind, hkind⟩ | hbefore
    · exact hcall
    · obtain rfl := Error.illegalState.inj hkind
      exact absurd hbreach (by simp [isBreach])
    · obtain rfl := Error.illegalState.inj hbefore
      exact absurd hbreach (by simp [isBreach])

/-- The `init` of `alpha` asks for the state and refuses a move from it. -/
def refusing : Lifecycle Sample.signature :=
  Sample.lifecycle (.done ()) fun
    | .alpha => .state fun s => .fail (.illegalState (.badTransition s .built))
    | _ => .done ()

theorem refused_by_callback :
    (∃ pre post,
      (create () false ()).history [.register Sample.alpha, .build refusing] =
        pre ++ .started (.init 0) :: post ∧
      moves pre = [(.unbuilt, .initializing)]) ∧
    ∃ front c,
      ((build refusing).run ((create () false ()).after [.register Sample.alpha])).events =
        front ++
          [.finished c (some (.illegalState (.badTransition .initializing .built)))] := by
  obtain ⟨-, hplaced, -⟩ :=
    states_move_forward () false () [.register Sample.alpha, .build refusing]
  obtain ⟨-, -, -, -, herror⟩ :=
    states_move_forward (S := Sample.signature) () false () [.register Sample.alpha]
  have hevents : ∃ pre post,
      (create () false ()).history [.register Sample.alpha, .build refusing] =
        pre ++ .started (.init 0) :: post :=
    ⟨[.registered 0 Sample.alpha.kind, .moved .unbuilt .initializing, .started .beforeInit,
      .finished .beforeInit none, .initializing 1], _, rfl⟩
  obtain ⟨pre, post, heq⟩ := hevents
  refine ⟨⟨pre, post, heq, hplaced pre _ post heq⟩, ?_⟩
  exact herror refusing (.badTransition .initializing .built) rfl rfl

end Builder

end AuthChain.Build
