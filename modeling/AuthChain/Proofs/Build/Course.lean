import AuthChain.Proofs.Build.Step

/-!
# Calls made one after the other

A pass makes its calls in order up to the first that fails. The plan of a pass is the list of its
calls; its marks are the events at which a call begins or ends. Main statements: the marks of a pass
are those of the whole plan, or those of an initial part and of the failing call behind it
(`Builder.callEach_course`); and a call of a plan without repetitions is reached exactly when every
call before it returned (`Course.started_iff`).
-/

namespace AuthChain.Build

open scoped List

variable {S : Signature} {α β : Type}

/-! ## Running attempts -/

namespace Attempt

theorem run_ofAct (m : Act (Event S) (Builder S) α) (b : Builder S) :
    (ofAct m).run b = ⟨.ok (m b).answer, (m b).events, (m b).state⟩ :=
  Act.map_apply Except.ok m b

theorem run_bind_ok {m : Attempt S α} {f : α → Attempt S β} {b : Builder S} {a : α}
    (h : (m.run b).answer = .ok a) :
    (m >>= f).run b =
      ⟨((f a).run (m.run b).state).answer,
        (m.run b).events ++ ((f a).run (m.run b).state).events,
        ((f a).run (m.run b).state).state⟩ := by
  rw [ExceptT.run_bind, Act.bind_apply, h]

theorem run_bind_error {m : Attempt S α} {f : α → Attempt S β} {b : Builder S} {e : Error}
    (h : (m.run b).answer = .error e) :
    (m >>= f).run b = ⟨.error e, (m.run b).events, (m.run b).state⟩ := by
  rw [ExceptT.run_bind, Act.bind_apply, h]
  exact congrArg (fun events => Outcome.mk _ events _) (List.append_nil _)

theorem run_bind_eq_ok {m : Attempt S α} {f : α → Attempt S β} {b : Builder S} {x : β}
    (h : ((m >>= f).run b).answer = .ok x) :
    ∃ a, (m.run b).answer = .ok a ∧ ((f a).run (m.run b).state).answer = .ok x := by
  cases hm : (m.run b).answer with
  | error e =>
    rw [run_bind_error hm] at h
    exact absurd h (by simp)
  | ok a =>
    rw [run_bind_ok hm] at h
    exact ⟨a, rfl, h⟩

theorem subset_events_bind (m : Attempt S α) (f : α → Attempt S β) (b : Builder S) :
    (m.run b).events ⊆ ((m >>= f).run b).events := by
  cases hm : (m.run b).answer with
  | error e =>
    rw [run_bind_error hm]
    exact List.Subset.refl _
  | ok a =>
    rw [run_bind_ok hm]
    exact List.subset_append_left _ _

/-- What holds of the events of both attempts holds of those of their sequence. -/
theorem run_bind_events {P : Event S → Prop} {m : Attempt S α} {f : α → Attempt S β}
    {b : Builder S} (first : ∀ e ∈ (m.run b).events, P e)
    (second : ∀ a, (m.run b).answer = .ok a → ∀ e ∈ ((f a).run (m.run b).state).events, P e) :
    ∀ e ∈ ((m >>= f).run b).events, P e := by
  intro e he
  cases hm : (m.run b).answer with
  | error x =>
    rw [run_bind_error hm] at he
    exact first e he
  | ok a =>
    rw [run_bind_ok hm] at he
    rcases List.mem_append.1 he with he | he
    · exact first e he
    · exact second a hm e he

end Attempt

namespace Builder

theorem call_run (c : Call) (body : Callback S α) (b : Builder S) :
    (call c body).run b =
      ⟨(body.run b).answer,
        .started c :: ((body.run b).events ++ [.finished c (failure? (body.run b).answer)]),
        (body.run b).state⟩ := rfl

theorem takeLate_run (b : Builder S) :
    (takeLate : Attempt S _).run b = ⟨.ok b.late, [], { b with late := [] }⟩ := rfl

theorem dueLate_run (b : Builder S) : (dueLate : Attempt S _).run b = ⟨.ok b.late, [], b⟩ := rfl

theorem move_run {b : Builder S} {s : State} (h : b.state.canTransition s = true) :
    (move s : Attempt S Unit).run b = ⟨.ok (), [.moved b.state s], { b with state := s }⟩ := by
  have ht : b.state.transition s = .ok s := (State.transition_eq_ok_iff _ _ _).2 ⟨h, rfl⟩
  have hget : ((Attempt.ofAct Act.get : Attempt S (Builder S)).run b).answer = .ok b := rfl
  rw [move, Attempt.run_bind_ok hget]
  show Outcome.mk _ _ _ = _
  simp only [Attempt.run_ofAct, Act.get_apply, List.nil_append, ht]
  rfl

theorem move_run_refused {b : Builder S} {s : State} (h : b.state.canTransition s = false) :
    (move s : Attempt S Unit).run b =
      ⟨.error (.illegalState (.badTransition b.state s)), [], b⟩ := by
  have ht : b.state.transition s = .error (.badTransition b.state s) := by
    rw [State.transition, h]
    rfl
  have hget : ((Attempt.ofAct Act.get : Attempt S (Builder S)).run b).answer = .ok b := rfl
  rw [move, Attempt.run_bind_ok hget]
  simp only [ht]
  rfl

theorem move_bind_run {b : Builder S} {s : State} (h : b.state.canTransition s = true)
    (m : Attempt S α) :
    (do move s; m : Attempt S α).run b =
      ⟨(m.run { b with state := s }).answer,
        .moved b.state s :: (m.run { b with state := s }).events,
        (m.run { b with state := s }).state⟩ := by
  have hanswer : ((move s : Attempt S Unit).run b).answer = .ok () := by rw [move_run h]
  rw [Attempt.run_bind_ok hanswer, move_run h]
  rfl

/-- Make calls in their order, up to the first that fails. -/
def callEach : List (Call × Callback S Unit) → Attempt S Unit
  | [] => pure ()
  | (c, body) :: rest => do
    call c body
    callEach rest

/-- The calls by which registrations are initialized. -/
def initCalls (l : Lifecycle S) (rs : List (Registration S.Configurer)) :
    List (Call × Callback S Unit) :=
  rs.map fun r => (.init r.serial, l.init r.configurer)

/-- The calls by which registrations are configured. -/
def configureCalls (l : Lifecycle S) (rs : List (Registration S.Configurer)) :
    List (Call × Callback S Unit) :=
  rs.map fun r => (.configure r.serial, l.configure r.configurer)

theorem initCalls_map_fst (l : Lifecycle S) (rs : List (Registration S.Configurer)) :
    (initCalls l rs).map (·.1) = rs.map fun r => .init r.serial :=
  List.map_map

theorem configureCalls_map_fst (l : Lifecycle S) (rs : List (Registration S.Configurer)) :
    (configureCalls l rs).map (·.1) = rs.map fun r => .configure r.serial :=
  List.map_map

theorem initEach_eq (l : Lifecycle S) :
    ∀ rs : List (Registration S.Configurer), initEach l rs = callEach (initCalls l rs)
  | [] => rfl
  | r :: rest => by
    rw [initEach, initEach_eq l rest]
    rfl

theorem configureEach_eq (l : Lifecycle S) :
    ∀ rs : List (Registration S.Configurer), configureEach l rs = callEach (configureCalls l rs)
  | [] => rfl
  | r :: rest => by
    rw [configureEach, configureEach_eq l rest]
    rfl

section Plans

variable {C : Type} {f : Nat → Call} (hf : ∀ m n, f m = f n → m = n) {rs : List (Registration C)}

include hf

theorem nodup_map_call (hrs : (rs.map (·.serial)).Nodup) : (rs.map fun r => f r.serial).Nodup := by
  rw [List.Nodup, List.pairwise_map] at hrs ⊢
  exact hrs.imp fun hne heq => hne (hf _ _ heq)

theorem mem_map_call {n : Nat} :
    f n ∈ rs.map (fun r => f r.serial) ↔ n ∈ rs.map (·.serial) := by
  rw [List.mem_map, List.mem_map]
  constructor
  · rintro ⟨r, hr, heq⟩
    exact ⟨r, hr, hf _ _ heq⟩
  · rintro ⟨r, hr, rfl⟩
    exact ⟨r, hr, rfl⟩

end Plans

/-! ## Paths of attempts -/

theorem call_path (c : Call) (body : Callback S α) (b : Builder S) :
    Path b ((call c body).run b).events ((call c body).run b).state := by
  rw [call_run]
  exact .head (.tell b (.started c) rfl)
    ((body.run_path b).trans (.single (.tell _ (.finished c _) rfl)))

theorem callEach_path : ∀ (calls : List (Call × Callback S Unit)) (b : Builder S),
    Path b ((callEach calls).run b).events ((callEach calls).run b).state
  | [], b => .refl b
  | (c, body) :: rest, b => by
    have first := call_path c body b
    rw [callEach]
    cases hr : ((call c body).run b).answer with
    | error e =>
      rw [Attempt.run_bind_error hr]
      exact first
    | ok u =>
      rw [Attempt.run_bind_ok hr]
      exact first.trans (callEach_path rest _)

end Builder

/-! ## Marks -/

/-- The event can be left by an operation of a callback. -/
def Event.isOperation : Event S → Bool
  | .registered .. => true
  | .registeredLate _ => true
  | .removed _ => true
  | .noted _ => true
  | .logged _ => true
  | _ => false

/-- A call begins or ends. -/
def Event.isMark : Event S → Bool
  | .started _ => true
  | .finished .. => true
  | _ => false

/-- The events of a history at which a call begins or ends. -/
def marks (h : List (Event S)) : List (Event S) :=
  h.filter Event.isMark

/-- The calls of a history. -/
def calls (h : List (Event S)) : List Call :=
  h.filterMap Event.call?

/-- The marks of calls that all return. -/
def returned (plan : List Call) : List (Event S) :=
  plan.flatMap fun c => [.started c, .finished c none]

@[simp] theorem marks_cons (e : Event S) (h : List (Event S)) :
    marks (e :: h) = if e.isMark then e :: marks h else marks h :=
  List.filter_cons

theorem marks_cons_of_not_isMark {e : Event S} (he : e.isMark = false) (h : List (Event S)) :
    marks (e :: h) = marks h :=
  List.filter_cons_of_neg (by simpa using he)

@[simp] theorem calls_nil : calls ([] : List (Event S)) = [] := rfl

@[simp] theorem calls_cons_started (c : Call) (h : List (Event S)) :
    calls (.started c :: h) = c :: calls h := rfl

@[simp] theorem calls_cons_finished (c : Call) (f : Option Error) (h : List (Event S)) :
    calls (.finished c f :: h) = calls h := rfl

@[simp] theorem marks_append (g h : List (Event S)) : marks (g ++ h) = marks g ++ marks h :=
  List.filter_append ..

@[simp] theorem calls_append (g h : List (Event S)) : calls (g ++ h) = calls g ++ calls h :=
  List.filterMap_append ..

theorem marks_sublist (h : List (Event S)) : marks h <+ h :=
  List.filter_sublist

theorem mem_marks {h : List (Event S)} {e : Event S} : e ∈ marks h ↔ e ∈ h ∧ e.isMark = true :=
  List.mem_filter

theorem started_mem_marks {h : List (Event S)} {c : Call} :
    .started c ∈ marks h ↔ .started c ∈ h := by
  simp [mem_marks, Event.isMark]

theorem finished_mem_marks {h : List (Event S)} {c : Call} {f : Option Error} :
    .finished c f ∈ marks h ↔ .finished c f ∈ h := by
  simp [mem_marks, Event.isMark]

theorem mem_calls {h : List (Event S)} {c : Call} : c ∈ calls h ↔ .started c ∈ h := by
  unfold calls
  rw [List.mem_filterMap]
  constructor
  · rintro ⟨e, he, hc⟩
    cases e <;> simp [Event.call?] at hc
    subst hc
    exact he
  · exact fun h => ⟨_, h, rfl⟩

theorem count_calls_eq_zero {h : List (Event S)} {c : Call} (hc : .started c ∉ h) :
    (calls h).count c = 0 :=
  List.count_eq_zero.2 fun hmem => hc (mem_calls.1 hmem)

theorem calls_marks (h : List (Event S)) : calls (marks h) = calls h := by
  induction h with
  | nil => rfl
  | cons e rest ih =>
    rw [marks_cons]
    cases e <;> first | exact ih | exact congrArg (List.cons _) ih

@[simp] theorem returned_cons (c : Call) (plan : List Call) :
    (returned (c :: plan) : List (Event S)) = .started c :: .finished c none :: returned plan := rfl

theorem calls_returned (plan : List Call) : calls (returned plan : List (Event S)) = plan := by
  induction plan with
  | nil => rfl
  | cons c rest ih => rw [returned_cons, calls_cons_started, calls_cons_finished, ih]

theorem started_mem_returned {plan : List Call} {c : Call} :
    (.started c : Event S) ∈ returned plan ↔ c ∈ plan := by
  simp [returned]

theorem finished_mem_returned {plan : List Call} {c : Call} {f : Option Error} :
    (.finished c f : Event S) ∈ returned plan ↔ c ∈ plan ∧ f = none := by
  simp only [returned, List.mem_flatMap, List.mem_cons, List.not_mem_nil, or_false, reduceCtorEq,
    false_or, Event.finished.injEq]
  constructor
  · rintro ⟨d, hd, rfl, rfl⟩
    exact ⟨hd, rfl⟩
  · rintro ⟨hc, rfl⟩
    exact ⟨c, hc, rfl, rfl⟩

theorem returned_append (p q : List Call) :
    (returned (p ++ q) : List (Event S)) = returned p ++ returned q :=
  List.flatMap_append ..

theorem Callback.run_isOperation (m : Callback S α) :
    ∀ b : Builder S, ∀ e ∈ (m.run b).events, e.isOperation = true := by
  induction m with
  | done a => exact fun b e he => absurd he List.not_mem_nil
  | fail a => exact fun b e he => absurd he List.not_mem_nil
  | register c next ih =>
    intro b e he
    rcases List.mem_append.1 he with he | he
    · rw [Builder.register_apply] at he
      split at he
      · exact absurd he List.not_mem_nil
      · unfold registrationEvents at he
        split at he <;> simp at he <;> rcases he with rfl | rfl <;> rfl
    · exact ih _ _ e he
  | configurers kind next ih => exact fun b => ih _ b
  | removeConfigurers kind next ih =>
    intro b e he
    rcases List.mem_append.1 he with he | he
    · rw [Builder.removeConfigurers_apply] at he
      split at he
      · rw [List.mem_singleton.1 he]
        rfl
      · exact absurd he List.not_mem_nil
    · exact ih _ _ e he
  | setShared u v next ih => exact fun b => ih _ _
  | sharedObjects next ih => exact fun b => ih _ b
  | state next ih => exact fun b => ih _ b
  | target next ih => exact fun b => ih _ b
  | setTarget t next ih => exact fun b => ih _
  | postProcess u x next ih => exact fun b => ih _ b
  | world next ih => exact fun b => ih _ b
  | setWorld w next ih => exact fun b => ih _
  | note n next ih =>
    intro b e he
    rcases List.mem_cons.1 he with rfl | he
    · rfl
    · exact ih b e he
  | log line next ih =>
    intro b e he
    rcases List.mem_cons.1 he with rfl | he
    · rfl
    · exact ih b e he

theorem marks_callback (m : Callback S α) (b : Builder S) : marks (m.run b).events = [] := by
  unfold marks
  rw [List.filter_eq_nil_iff]
  intro e he hm
  -- no operation begins or ends a call
  have hop := m.run_isOperation b e he
  cases e <;> simp [Event.isOperation, Event.isMark] at hop hm

theorem Builder.marks_call (c : Call) (body : Callback S α) (b : Builder S) :
    marks ((call c body).run b).events =
      [.started c, .finished c (failure? (body.run b).answer)] := by
  rw [call_run, marks_cons, marks_append, marks_callback body b]
  rfl

theorem Builder.call_events (c : Call) (body : Callback S α) (b : Builder S) :
    ∀ e ∈ ((call c body).run b).events, e.isOperation = true ∨ e.isMark = true := by
  intro e he
  rw [call_run] at he
  simp only [List.mem_cons, List.mem_append, List.not_mem_nil, or_false] at he
  rcases he with rfl | he | rfl
  · exact Or.inr rfl
  · exact Or.inl (body.run_isOperation b e he)
  · exact Or.inr rfl

theorem Builder.callEach_events : ∀ (cs : List (Call × Callback S Unit)) (b : Builder S),
    ∀ e ∈ ((callEach cs).run b).events, e.isOperation = true ∨ e.isMark = true
  | [], _ => fun _ he => absurd he List.not_mem_nil
  | (c, body) :: rest, b =>
    Attempt.run_bind_events (call_events c body b) fun _ _ => callEach_events rest _

/-! ## Courses -/

/-- The marks and the answer of calls made in order: all of them return, or one fails and its error
is the answer. -/
inductive Course (plan : List Call) : List (Event S) → Except Error α → Prop
  | completed (a : α) : Course plan (returned plan) (.ok a)
  | broken (made : List Call) (c : Call) (rest : List Call) (e : Error) :
      plan = made ++ c :: rest →
        Course plan (returned made ++ [.started c, .finished c (some e)]) (.error e)

theorem Course.cons {c : Call} {plan : List Call} {ms : List (Event S)} {r : Except Error α}
    (h : Course plan ms r) : Course (c :: plan) (.started c :: .finished c none :: ms) r := by
  cases h with
  | completed a => exact .completed a
  | broken made d rest e heq => exact .broken (c :: made) d rest e (heq ▸ rfl)

theorem Builder.callEach_course : ∀ (cs : List (Call × Callback S Unit)) (b : Builder S),
    Course (cs.map (·.1)) (marks ((callEach cs).run b).events) ((callEach cs).run b).answer
  | [], _ => .completed ()
  | (c, body) :: rest, b => by
    -- the first call fails and is the last mark, or returns and the others follow it
    have hmarks := marks_call c body b
    have hanswer : ((call c body).run b).answer = (body.run b).answer := rfl
    rw [callEach]
    cases hr : (body.run b).answer with
    | error e =>
      rw [Attempt.run_bind_error (hanswer.trans hr), hmarks, hr]
      exact .broken [] c _ e rfl
    | ok u =>
      rw [Attempt.run_bind_ok (hanswer.trans hr), marks_append, hmarks, hr]
      exact (callEach_course rest _).cons

section Course

variable {plan : List Call} {ms : List (Event S)} {r : Except Error α}

theorem Course.calls_prefix (h : Course plan ms r) : calls ms <+: plan := by
  cases h with
  | completed a =>
    refine ⟨[], ?_⟩
    rw [calls_returned, List.append_nil]
  | broken made c rest e heq =>
    rw [calls_append, calls_returned, heq]
    exact ⟨rest, by simp⟩

/-- Without repetitions, each call is made at most once. -/
theorem Course.count_eq (h : Course plan ms r) (hnodup : plan.Nodup) (c : Call) :
    (calls ms).count c = if c ∈ calls ms then 1 else 0 :=
  (hnodup.sublist h.calls_prefix.sublist).count

theorem Course.calls_eq {a : α} (h : Course plan ms (.ok a)) : calls ms = plan := by
  cases h with
  | completed => exact calls_returned plan

theorem Course.mem_of_started (h : Course plan ms r) {c : Call} (hc : .started c ∈ ms) :
    c ∈ plan :=
  h.calls_prefix.subset (mem_calls.2 hc)

/-- A call that returned was made before. -/
theorem Course.returned_sublist {a : α} (h : Course plan ms (.ok a)) {c : Call} (hc : c ∈ plan) :
    [.started c, .finished c none] <+ ms := by
  cases h with
  | completed =>
    obtain ⟨before, after, rfl⟩ := List.append_of_mem hc
    rw [returned_append]
    exact (List.sublist_append_left _ _).trans (List.sublist_append_right _ _)

/-- Without repetitions, a call of the plan is made exactly when all before it returned. -/
theorem Course.started_iff (h : Course plan ms r) (hnodup : plan.Nodup) {before after : List Call}
    {c : Call} (hplan : plan = before ++ c :: after) :
    .started c ∈ ms ↔ ∀ d ∈ before, .finished d none ∈ ms := by
  cases h with
  | completed a =>
    subst hplan
    have hc : c ∈ before ++ c :: after := List.mem_append_right _ List.mem_cons_self
    have hbefore : ∀ d ∈ before, (.finished d none : Event S) ∈ returned (before ++ c :: after) :=
      fun d hd => finished_mem_returned.2 ⟨List.mem_append_left _ hd, rfl⟩
    exact ⟨fun _ => hbefore, fun _ => started_mem_returned.2 hc⟩
  | broken made d rest e heq =>
    have hstarted : (.started c : Event S) ∈ returned made ++ [.started d, .finished d (some e)] ↔
        c ∈ made ∨ c = d := by
      simp [started_mem_returned]
    have hfinished : ∀ x : Call, (.finished x none : Event S) ∈
        returned made ++ [.started d, .finished d (some e)] ↔ x ∈ made := by
      simp [finished_mem_returned]
    simp only [hstarted, hfinished]
    -- the failing call stands before, at or behind `c`
    rcases List.append_eq_append_iff.1 (hplan.symm.trans heq) with
      ⟨between, rfl, hsplit⟩ | ⟨between, rfl, hsplit⟩
    · -- all calls before `c` are among those made
      cases between with
      | nil =>
        obtain ⟨rfl, -⟩ : c = d ∧ after = rest := by simpa using hsplit
        simp
      | cons x between =>
        obtain ⟨rfl, -⟩ : c = x ∧ after = between ++ d :: rest := by simpa using hsplit
        simp +contextual
    · cases between with
      | nil =>
        obtain ⟨rfl, -⟩ : d = c ∧ rest = after := by simpa using hsplit
        simp
      | cons x between =>
        obtain ⟨rfl, -⟩ : d = x ∧ rest = between ++ c :: after := by simpa using hsplit
        -- the failing call comes before `c`, and without repetitions it never returned
        subst hplan
        have hc : c ∉ made ∧ c ≠ d := by
          simp [List.nodup_append] at hnodup
          grind
        have hd : d ∉ made := by
          simp [List.nodup_append] at hnodup
          grind
        constructor
        · rintro (hmem | rfl)
          · exact absurd hmem hc.1
          · exact absurd rfl hc.2
        · intro hall
          exact absurd (hall d (List.mem_append_right _ List.mem_cons_self)) hd

end Course

end AuthChain.Build
