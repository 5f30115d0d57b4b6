import AuthChain.Proofs.Build.Usage

/-!
# Where a failing callback stops a build

The agenda of a build lists its calls with their callbacks, in the order of the lifecycle
(`Builder.agenda`); a callback runs alike whatever is due and whatever object is kept
(`Callback.run_same`), so what a part of the agenda does to a builder can be carried out by itself
(`Builder.carryOut`).

Main statement: the error of the first callback that fails is the answer of the build, unchanged;
the calls made are those of the agenda up to this one; the build stays in the state of this call
without an object, and the builder keeps whatever these callbacks did to it
(`Builder.failing_callback_stops_build`).
-/

namespace AuthChain.Build

variable {S : Signature} {α β : Type}

/-! ## What callbacks cannot tell apart -/

/-- The builder with other due registrations and another object. -/
def Builder.refit (b : Builder S) (late : List (Registration S.Configurer))
    (object : Option (Produced S.Object)) (n : Nat) : Builder S :=
  { b with late := late, object := object, nextObject := n }

/-- Whatever is due and whatever object is kept, a callback answers the same, leaves the same events
and does the same to the rest of the builder. -/
theorem Callback.run_refit (m : Callback S α) :
    ∀ (b : Builder S) late object n, ∃ later,
      m.run (b.refit late object n) =
        ⟨(m.run b).answer, (m.run b).events, (m.run b).state.refit later object n⟩ := by
  -- no operation reads the due registrations or the object
  induction m with
  | done a => exact fun _ late _ _ => ⟨late, rfl⟩
  | fail e => exact fun _ late _ _ => ⟨late, rfl⟩
  | register c next ih =>
    intro b late object n
    have hrun : ∀ x, (register c next).run x = (Builder.register c >>= fun r => (next r).run) x :=
      fun _ => rfl
    have hstate : (b.refit late object n).state = b.state := rfl
    rw [hrun, hrun, Act.bind_apply, Act.bind_apply, Builder.register_apply,
      Builder.register_apply, hstate]
    split
    · obtain ⟨later, heq⟩ := ih (.error (.registrationClosed (S.kind c) b.state)) b late object n
      exact ⟨later, heq⟩
    · obtain ⟨later, heq⟩ := ih (.ok ()) (b.enter c) _ object n
      exact ⟨later, congrArg (fun o => Outcome.mk o.answer (_ ++ o.events) o.state) heq⟩
  | configurers kind next ih => exact fun b => ih (b.configurers kind) b
  | removeConfigurers kind next ih =>
    intro b late object n
    have hrun : ∀ x, (removeConfigurers kind next).run x =
        (Builder.removeConfigurers kind >>= fun r => (next r).run) x := fun _ => rfl
    have htable : (b.refit late object n).table = b.table := rfl
    rw [hrun, hrun, Act.bind_apply, Act.bind_apply, Builder.removeConfigurers_apply,
      Builder.removeConfigurers_apply, htable]
    split
    · obtain ⟨later, heq⟩ := ih (b.configurers kind) (b.without kind) _ object n
      exact ⟨later, congrArg (fun o => Outcome.mk o.answer (_ ++ o.events) o.state) heq⟩
    · obtain ⟨later, heq⟩ := ih [] b late object n
      exact ⟨later, heq⟩
  | setShared u v next ih => exact fun b => ih (b.shared.get? u) (b.setShared u v)
  | sharedObjects next ih => exact fun b => ih b.shared b
  | state next ih => exact fun b => ih b.state b
  | target next ih => exact fun b => ih b.target b
  | setTarget t next ih => exact fun b => ih (b.withTarget t)
  | postProcess u x next ih => exact fun b => ih (b.postProcessors.apply u x) b
  | world next ih => exact fun b => ih b.world b
  | setWorld w next ih => exact fun b => ih { b with world := w }
  | note k next ih =>
    intro b late object n
    obtain ⟨later, heq⟩ := ih b late object n
    exact ⟨later, congrArg (fun o => Outcome.mk o.answer (_ :: o.events) o.state) heq⟩
  | log line next ih =>
    intro b late object n
    obtain ⟨later, heq⟩ := ih b late object n
    exact ⟨later, congrArg (fun o => Outcome.mk o.answer (_ :: o.events) o.state) heq⟩

/-- The builders agree in the target, the table, the shared objects, the surroundings and the
post-processors: they differ in the state, in what is due and in the object at most. -/
def SameWork (a b : Builder S) : Prop :=
  ∃ late state object n, a = { b.refit late object n with state := state }

namespace SameWork

theorem refl (b : Builder S) : SameWork b b :=
  ⟨_, _, _, _, rfl⟩

theorem trans {a b c : Builder S} (first : SameWork a b) (second : SameWork b c) :
    SameWork a c := by
  obtain ⟨late, state, object, n, rfl⟩ := first
  obtain ⟨-, -, -, -, rfl⟩ := second
  exact ⟨late, state, object, n, rfl⟩

/-- Called in one state, a callback does the same work on both builders. -/
theorem run {a b : Builder S} (same : SameWork a b) (m : Callback S α) (s : State) :
    SameWork (m.run { a with state := s }).state (m.run { b with state := s }).state := by
  obtain ⟨late, state, object, n, rfl⟩ := same
  obtain ⟨later, heq⟩ := m.run_refit { b with state := s } late object n
  exact ⟨later, _, object, n, congrArg Outcome.state heq⟩

end SameWork

/-- The callback without its answer. -/
def Callback.forget (m : Callback S α) : Callback S Unit :=
  m.bind fun _ => done ()

theorem Callback.state_run_forget (m : Callback S α) :
    ∀ b : Builder S, (m.forget.run b).state = (m.run b).state := by
  induction m with
  | done a => exact fun _ => rfl
  | fail e => exact fun _ => rfl
  | register c next ih => exact fun b => ih _ (Builder.register c b).state
  | configurers kind next ih => exact fun b => ih (b.configurers kind) b
  | removeConfigurers kind next ih => exact fun b => ih _ (Builder.removeConfigurers kind b).state
  | setShared u v next ih => exact fun b => ih (b.shared.get? u) (b.setShared u v)
  | sharedObjects next ih => exact fun b => ih b.shared b
  | state next ih => exact fun b => ih b.state b
  | target next ih => exact fun b => ih b.target b
  | setTarget t next ih => exact fun b => ih (b.withTarget t)
  | postProcess u x next ih => exact fun b => ih (b.postProcessors.apply u x) b
  | world next ih => exact fun b => ih b.world b
  | setWorld w next ih => exact fun b => ih { b with world := w }
  | note k next ih => exact fun b => ih b
  | log line next ih => exact fun b => ih b

/-! ## Carrying out a plan -/

/-- Calls with their callbacks. -/
abbrev Plan (S : Signature) : Type :=
  List (Call × Callback S Unit)

/-- The builder after the callbacks of a plan, each run in the state of its call. -/
def Builder.carryOut (plan : Plan S) (b : Builder S) : Builder S :=
  plan.foldl (fun b x => (x.2.run { b with state := x.1.state }).state) b

theorem Builder.carryOut_append (p q : Plan S) (b : Builder S) :
    carryOut (p ++ q) b = carryOut q (carryOut p b) :=
  List.foldl_append

theorem SameWork.carryOut {a b : Builder S} (same : SameWork a b) (plan : Plan S) :
    SameWork (a.carryOut plan) (b.carryOut plan) := by
  induction plan generalizing a b with
  | nil => exact same
  | cons x rest ih => exact ih (same.run x.2 x.1.state)

/-- A call of the plan failed with this error: it is the last that was made, behind all those before
it in the plan, the error is the answer, and the work is that of these calls. -/
structure Halted (plan : Plan S) (b : Builder S) (c : Call) (e : Error)
    (o : Outcome (Event S) (Builder S) (Except Error α)) : Prop where
  answer_eq : o.answer = .error e
  last : ∃ front, o.events = front ++ [.finished c (some e)]
  exists_cut : ∃ before body after, plan = before ++ (c, body) :: after ∧
    marks o.events = returned (before.map (·.1)) ++ [.started c, .finished c (some e)] ∧
    SameWork o.state (b.carryOut (before ++ [(c, body)]))

/-- What an attempt makes of a builder follows a plan: when it answers, all calls of the plan were
made and their work was done; when a call fails, it stops there. -/
structure Follows (plan : Plan S) (b : Builder S)
    (o : Outcome (Event S) (Builder S) (Except Error α)) : Prop where
  passed : ∀ a, o.answer = .ok a →
    marks o.events = returned (plan.map (·.1)) ∧ SameWork o.state (b.carryOut plan)
  halted : ∀ c e, .finished c (some e) ∈ o.events → Halted plan b c e o

theorem failure_not_mem_of_marks {h : List (Event S)} {plan : List Call}
    (hmarks : marks h = returned plan) (c : Call) (e : Error) : .finished c (some e) ∉ h := by
  intro hmem
  have hin := finished_mem_marks.2 hmem
  rw [hmarks] at hin
  exact absurd (finished_mem_returned.1 hin).2 (by simp)

namespace Halted

variable {p q : Plan S} {a b : Builder S} {c : Call} {e : Error}
  {o : Outcome (Event S) (Builder S) (Except Error α)}

/-- Nothing of the calls behind the failing one is made. -/
theorem append (halted : Halted p b c e o) (q : Plan S) : Halted (p ++ q) b c e o := by
  obtain ⟨hanswer, hlast, before, body, after, rfl, hmarks, hwork⟩ := halted
  exact ⟨hanswer, hlast, before, body, after ++ q, by simp, hmarks, hwork⟩

/-- The calls before the failing one were made by an attempt before. -/
theorem prepend (halted : Halted q a c e o) {g : List (Event S)}
    (hg : marks g = returned (p.map (·.1))) (hwork : SameWork a (b.carryOut p)) :
    Halted (p ++ q) b c e ⟨o.answer, g ++ o.events, o.state⟩ := by
  obtain ⟨hanswer, ⟨front, hlast⟩, before, body, after, rfl, hmarks, hlater⟩ := halted
  refine ⟨hanswer, ⟨g ++ front, ?_⟩, p ++ before, body, after, by simp, ?_, ?_⟩
  · simp only [hlast, List.append_assoc]
  · rw [marks_append, hg, hmarks, List.map_append, returned_append, List.append_assoc]
  · rw [List.append_assoc, Builder.carryOut_append]
    exact hlater.trans (hwork.carryOut _)

/-- The failing call is the last one. -/
theorem last_call (halted : Halted p b c e o) : (calls o.events).getLast? = some c := by
  obtain ⟨-, -, before, body, after, -, hmarks, -⟩ := halted
  rw [← calls_marks, hmarks, calls_append]
  exact List.getLast?_concat

end Halted

namespace Follows

variable {p q : Plan S} {b : Builder S}

/-- An attempt that makes no call and leaves the work as it is. -/
theorem idle {o : Outcome (Event S) (Builder S) (Except Error α)}
    (hevents : ∀ e ∈ o.events, e.isMark = false) (hwork : SameWork o.state b) :
    Follows [] b o where
  passed _ _ := ⟨List.filter_eq_nil_iff.2 fun e he => by simp [hevents e he], hwork⟩
  halted c e he := absurd (hevents _ he) (by simp [Event.isMark])

theorem bind {m : Attempt S α} {f : α → Attempt S β} (first : Follows p b (m.run b))
    (second : ∀ x, (m.run b).answer = .ok x →
      Follows q (m.run b).state ((f x).run (m.run b).state)) :
    Follows (p ++ q) b ((m >>= f).run b) := by
  cases hm : (m.run b).answer with
  | error x =>
    rw [Attempt.run_bind_error hm]
    refine ⟨fun a ha => absurd ha (by simp), fun c e he => ?_⟩
    obtain ⟨hanswer, hlast, hcut⟩ := (first.halted c e he).append q
    obtain rfl : x = e := Except.error.inj (hm.symm.trans hanswer)
    exact ⟨rfl, hlast, hcut⟩
  | ok x =>
    obtain ⟨hmarks, hwork⟩ := first.passed x hm
    have follows := second x hm
    rw [Attempt.run_bind_ok hm]
    constructor
    · intro a ha
      obtain ⟨hlater, hdone⟩ := follows.passed a ha
      refine ⟨?_, ?_⟩
      · rw [marks_append, hmarks, hlater, List.map_append, returned_append]
      · rw [Builder.carryOut_append]
        exact hdone.trans (hwork.carryOut q)
    · intro c e he
      -- the calls of the first attempt all returned
      have hbehind := (List.mem_append.1 he).resolve_left (failure_not_mem_of_marks hmarks c e)
      exact (follows.halted c e hbehind).prepend hmarks hwork

end Follows

/-! ## The agenda of a build -/

namespace Builder

/-- A call makes itself. -/
theorem call_follows {c : Call} {body : Callback S α} {errand : Callback S Unit}
    (hbody : ∀ b : Builder S, (errand.run b).state = (body.run b).state) {b : Builder S}
    (hb : b.state = c.state) : Follows [(c, errand)] b ((call c body).run b) := by
  have hmarks := marks_call c body b
  -- the builder is in the state of the call already
  have hwork : SameWork ((call c body).run b).state (b.carryOut [(c, errand)]) := by
    have hstate : { b with state := c.state } = b := by rw [← hb]
    have hcarried : b.carryOut [(c, errand)] = (errand.run { b with state := c.state }).state := rfl
    rw [hcarried, hstate, hbody]
    exact .refl _
  constructor
  · intro a ha
    have hanswer : (body.run b).answer = .ok a := ha
    rw [hanswer] at hmarks
    exact ⟨hmarks, hwork⟩
  · intro d e he
    have hin := finished_mem_marks.2 he
    rw [hmarks] at hin
    obtain ⟨rfl, hfailure⟩ : d = c ∧ some e = failure? (body.run b).answer := by simpa using hin
    have hanswer : (body.run b).answer = .error e := by
      cases hr : (body.run b).answer with
      | ok a => simp [hr, failure?] at hfailure
      | error x => simpa [hr, failure?] using hfailure.symm
    rw [hanswer] at hmarks
    refine ⟨hanswer, ⟨.started d :: (body.run b).events, ?_⟩, [], errand, [], rfl, hmarks, hwork⟩
    rw [call_run, hanswer]
    rfl

theorem callEach_follows : ∀ {cs : Plan S} {b : Builder S}, (∀ x ∈ cs, x.1.state = b.state) →
    Follows cs b ((callEach cs).run b)
  | [], b, _ => .idle (fun _ he => absurd he List.not_mem_nil) (.refl b)
  | (c, body) :: rest, b, hcs => by
    have first : Follows [(c, body)] b ((call c body).run b) :=
      call_follows (fun _ => rfl) (hcs _ List.mem_cons_self).symm
    refine first.bind (q := rest) fun _ _ => callEach_follows fun x hx => ?_
    rw [(call_path c body b).sameFrame.state]
    exact hcs x (List.mem_cons_of_mem _ hx)

/-- The calls of a build with their callbacks, in the order of the lifecycle: the hook before all
`init` calls, the `init` calls of the table and of what became due meanwhile, the hook before all
`configure` calls, the `configure` calls of the table, and the construction. -/
def agenda (l : Lifecycle S) (b : Builder S) : Plan S :=
  [(.beforeInit, l.beforeInit)] ++
    (initCalls l (opened l b).table.registrations ++
      (initCalls l (queued l b).late ++
        ([(.beforeConfigure, l.beforeConfigure)] ++
          (configureCalls l (prepared l b).table.registrations ++
            [(.performBuild, l.performBuild.forget)]))))

section Stages

variable (l : Lifecycle S) {b : Builder S}

theorem move_follows {s : State} (hs : b.state.canTransition s = true) :
    Follows [] b ((move s).run b) := by
  rw [move_run hs]
  exact .idle (by simp [Event.isMark]) ⟨_, _, _, _, rfl⟩

theorem opening_follows (hb : b.state = .unbuilt) :
    Follows [(.beforeInit, l.beforeInit)] b ((opening l).run b) := by
  have ht : b.state.canTransition .initializing = true := by rw [hb]; rfl
  refine (move_follows ht).bind fun _ _ => call_follows (fun _ => rfl) ?_
  rw [move_run ht]
  rfl

theorem firstPass_follows (hb : b.state = .initializing) :
    Follows (initCalls l b.table.registrations) b ((firstPass l).run b) := by
  refine .bind (p := []) (.idle (fun _ he => absurd he List.not_mem_nil) (.refl b)) fun rs hrs => ?_
  obtain rfl : b.table.registrations = rs := Except.ok.inj hrs
  refine .bind (p := []) (.idle (fun e he => ?_) (.refl b)) fun _ _ => ?_
  · rw [List.mem_singleton.1 he]
    rfl
  · rw [initEach_eq]
    refine callEach_follows fun x hx => ?_
    obtain ⟨r, -, rfl⟩ := List.mem_map.1 hx
    exact hb.symm

theorem latePass_follows (hb : b.state = .initializing) :
    Follows (initCalls l b.late) b ((latePass l).run b) := by
  rw [← List.append_nil (initCalls l b.late)]
  refine .bind (p := []) (.idle (fun _ he => absurd he List.not_mem_nil) ?_) fun rs hrs => ?_
  · exact ⟨[], b.state, b.object, b.nextObject, rfl⟩
  obtain rfl : b.late = rs := Except.ok.inj hrs
  refine .bind (p := []) ?_ fun _ _ => .bind ?_ fun _ _ => ?_
  · rw [announceLate_run]
    refine .idle (fun e he => ?_) (.refl _)
    unfold lateHeader at he
    split at he
    · exact absurd he List.not_mem_nil
    · rw [List.mem_singleton.1 he]
      rfl
  · rw [initEach_eq, announceLate_run]
    refine callEach_follows fun x hx => ?_
    obtain ⟨r, -, rfl⟩ := List.mem_map.1 hx
    exact hb.symm
  · rw [refuseLate_run]
    exact .idle (fun _ he => absurd he List.not_mem_nil) (.refl _)

theorem turning_follows (hb : b.state = .initializing) :
    Follows [(.beforeConfigure, l.beforeConfigure)] b ((turning l).run b) := by
  have ht : b.state.canTransition .configuring = true := by rw [hb]; rfl
  refine (move_follows ht).bind fun _ _ => call_follows (fun _ => rfl) ?_
  rw [move_run ht]
  rfl

theorem configureConfigurers_follows (hb : b.state = .configuring) :
    Follows (configureCalls l b.table.registrations) b ((configureConfigurers l).run b) := by
  refine .bind (p := []) (.idle (fun _ he => absurd he List.not_mem_nil) (.refl b)) fun rs hrs => ?_
  obtain rfl : b.table.registrations = rs := Except.ok.inj hrs
  refine .bind (p := []) (.idle (fun e he => ?_) (.refl b)) fun _ _ => ?_
  · rw [List.mem_singleton.1 he]
    rfl
  · rw [configureEach_eq]
    refine callEach_follows fun x hx => ?_
    obtain ⟨r, -, rfl⟩ := List.mem_map.1 hx
    exact hb.symm

theorem conclude_follows (o : S.Object) (hb : b.state = .building) :
    Follows [] b
      ((do let p ← keep o; move .built; return p : Attempt S (Produced S.Object)).run b) := by
  rw [conclude_run o hb]
  refine .idle (fun e he => ?_) ⟨b.late, .built, some ⟨b.nextObject, o⟩, b.nextObject + 1, rfl⟩
  rw [List.mem_singleton.1 he]
  rfl

theorem production_follows (hb : b.state = .configuring) :
    Follows [(.performBuild, l.performBuild.forget)] b ((production l).run b) := by
  have ht : b.state.canTransition .building = true := by rw [hb]; rfl
  refine (move_follows ht).bind fun _ _ => ?_
  rw [move_run ht]
  refine .bind (q := []) (call_follows l.performBuild.state_run_forget rfl) fun o _ => ?_
  exact conclude_follows o (call_path .performBuild l.performBuild _).sameFrame.state

end Stages

/-- A build follows its agenda. -/
theorem Idle.runLifecycle_follows {b : Builder S} (h : b.Idle) (l : Lifecycle S) :
    Follows (agenda l b) b ((runLifecycle l).run b) := by
  rw [runLifecycle_eq_stages]
  refine .bind (opening_follows l h.unbuilt) fun _ _ => ?_
  refine .bind (firstPass_follows l (h.opened_state l)) fun _ _ => ?_
  refine .bind (latePass_follows l (h.queued_state l)) fun _ _ => ?_
  refine .bind (turning_follows l (h.initialized_state l)) fun _ _ => ?_
  refine .bind (configureConfigurers_follows l (h.prepared_state l)) fun _ _ => ?_
  refine production_follows l ?_
  exact (configureConfigurers_path l _).sameFrame.state.trans (h.prepared_state l)

/-- When a callback fails, its error is the answer of the build, unchanged. The calls made are those
of the agenda up to this one, which is the last thing that happens; the build stays in the state of
this call without an object, and the builder keeps the work of these calls. -/
theorem failing_callback_stops_build (l : Lifecycle S) (t : S.Target) (accumulates : Bool)
    (w : S.World) (ops : List (Operation S)) (c : Call) (e : Error)
    (hfailed : .finished c (some e) ∈
      ((build l).run ((create t accumulates w).after ops)).events) :
    Halted (agenda l ((create t accumulates w).after ops)) ((create t accumulates w).after ops) c e
      ((build l).run ((create t accumulates w).after ops)) ∧
    ((build l).run ((create t accumulates w).after ops)).state.state = c.state ∧
    ((build l).run ((create t accumulates w).after ops)).state.object = none := by
  have hsettled := (settled_create t accumulates w).after ops
  have coherent := coherent_after t accumulates w ops
  generalize (create t accumulates w).after ops = b at hsettled coherent hfailed
  by_cases hb : b.state = .unbuilt
  · rw [build_run_unbuilt l hb] at hfailed ⊢
    have halted := ((hsettled.idle hb).runLifecycle_follows l).halted c e hfailed
    have aborted := (runLifecycle_contract l [] b ⟨hb, .nil, (coherent.reached hb).object_eq⟩).2 e
      halted.answer_eq
    -- a build that fails stays in the state of its last call
    have hlast := aborted.last
    rw [List.nil_append, halted.last_call] at hlast
    exact ⟨halted, (Option.some.inj hlast).symm, aborted.object_eq⟩
  · rw [(build_run_begun l hb).1] at hfailed
    exact absurd hfailed List.not_mem_nil

/-- The `init` of `alpha` registers `gamma`, and the `init` of `beta` fails. -/
def stopping : Lifecycle Sample.signature :=
  Sample.lifecycle (.done ()) fun
    | .alpha => .register Sample.gamma fun _ => .done ()
    | .beta => .fail (.configurer "Beta" "refused")
    | .gamma => .done ()

/-- The build stops at `beta`; the registration that `alpha` made stays. -/
theorem stopped_at_beta :
    ((build stopping).run ((create () false ()).after
        [.register Sample.alpha, .register Sample.beta])).answer =
      .error (.configurer "Beta" "refused") ∧
    calls ((build stopping).run ((create () false ()).after
        [.register Sample.alpha, .register Sample.beta])).events =
      [.beforeInit, .init 0, .init 1] ∧
    ((build stopping).run ((create () false ()).after
        [.register Sample.alpha, .register Sample.beta])).state.state = .initializing ∧
    ((build stopping).run ((create () false ()).after
        [.register Sample.alpha, .register Sample.beta])).state.object.isNone = true ∧
    ((build stopping).run ((create () false ()).after
        [.register Sample.alpha, .register Sample.beta])).state.table.contains Sample.gamma.kind =
      true := by
  have hevents : ∃ front : List (Event Sample.signature), ((build stopping).run
      ((create () false ()).after [.register Sample.alpha, .register Sample.beta])).events =
        front ++ [.finished (.init 1) (some (.configurer "Beta" "refused"))] :=
    ⟨[.moved .unbuilt .initializing, .started .beforeInit, .finished .beforeInit none,
      .initializing 2, .started (.init 0), .registered 2 Sample.gamma.kind,
      .registeredLate Sample.gamma.kind, .finished (.init 0) none, .started (.init 1)], rfl⟩
  obtain ⟨front, heq⟩ := hevents
  obtain ⟨halted, hstate, hobject⟩ := failing_callback_stops_build stopping () false ()
    [.register Sample.alpha, .register Sample.beta] (.init 1) (.configurer "Beta" "refused")
    (heq ▸ List.mem_append_right _ List.mem_cons_self)
  exact ⟨halted.answer_eq, rfl, hstate, by rw [hobject]; rfl, rfl⟩

end Builder

end AuthChain.Build
