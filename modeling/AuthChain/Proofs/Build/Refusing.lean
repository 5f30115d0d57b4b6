import AuthChain.Proofs.Build.Finality
import AuthChain.Proofs.Build.Initializing
import Mathlib.Data.List.TakeWhile

/-!
# Registrations that the late pass refuses

The late pass initializes what was registered meanwhile, and what its own calls register must be
gone again when it ends. A registration of the pass lasts when its kind is not removed behind it in
the same pass (`lasting`); it does not matter who removes it, nor what is registered in between.

Main statement: when no callback of the initializing state fails, a build is refused with the kind
of the first registration of the late pass that lasts, and stays in the initializing state for good;
when there is none, it goes on to the configuring state (`Builder.refused_for_first_lasting`).
-/

namespace AuthChain.Build

open scoped List

variable {S : Signature} {α : Type}

/-! ## Registrations that last -/

/-- The event tells of a removal of the kind. -/
def Event.removes (kind : ConfigurerKind) : Event S → Bool
  | .removed k => k == kind
  | _ => false

/-- The registrations of a history whose kind is not removed behind them, in their order. -/
def lasting : List (Event S) → List (Nat × ConfigurerKind)
  | [] => []
  | .registered n kind :: rest =>
    if rest.any (Event.removes kind) then lasting rest else (n, kind) :: lasting rest
  | _ :: rest => lasting rest

theorem lasting_cons_of_isPlain {e : Event S} (he : e.isPlain = true) (h : List (Event S)) :
    lasting (e :: h) = lasting h := by
  cases e <;> first | rfl | simp [Event.isPlain] at he

/-- What is due at the end of a history was due before and is not removed, or it lasts. -/
theorem pendingFrom_eq_lasting (h : List (Event S)) :
    ∀ due : List (Nat × ConfigurerKind),
      pendingFrom due h = due.filter (fun r => !h.any (Event.removes r.2)) ++ lasting h := by
  induction h with
  | nil =>
    intro due
    have hall : due.filter (fun r => !([] : List (Event S)).any (Event.removes r.2)) = due :=
      List.filter_eq_self.2 fun _ _ => rfl
    rw [hall]
    exact (List.append_nil due).symm
  | cons e rest ih =>
    intro due
    show pendingFrom (pendingStep due e) rest = _
    rw [ih]
    cases e with
    | registered n kind =>
      show (due ++ [(n, kind)]).filter _ ++ _ = due.filter _ ++ _
      rw [List.filter_append, List.append_assoc, lasting]
      congr 1
      -- the new registration lasts unless its kind is removed in the rest
      cases hremoved : rest.any (Event.removes kind) with
      | true => simp [hremoved]
      | false => simp [hremoved]
    | removed kind =>
      show (due.filter (·.2 != kind)).filter _ ++ lasting rest = due.filter _ ++ lasting rest
      rw [List.filter_filter]
      congr 1
      apply List.filter_congr
      intro r _
      by_cases hr : r.2 = kind
      · simp [Event.removes, hr]
      · have hne : (kind == r.2) = false := by simpa using fun heq => hr heq.symm
        simp [Event.removes, hr, hne]
    | _ => rfl

theorem pending_eq_lasting (h : List (Event S)) : pending h = lasting h :=
  pendingFrom_eq_lasting h []

/-! ## The late pass in a history -/

/-- A late pass begins. -/
def Event.beginsLate : Event S → Bool
  | .initializingLate _ => true
  | _ => false

/-- The events of the late pass: those behind its beginning, up to the next move. -/
def latePart (h : List (Event S)) : List (Event S) :=
  ((h.dropWhile fun e => !e.beginsLate).drop 1).takeWhile fun e => e.move?.isNone

theorem beginsLate_eq_false {h : List (Event S)} (hnot : ∀ m, .initializingLate m ∉ h) :
    ∀ e ∈ h, (!e.beginsLate) = true := by
  intro e he
  cases e with
  | initializingLate m => exact absurd he (hnot m)
  | _ => rfl

theorem latePart_eq_nil {h : List (Event S)} (hnot : ∀ m, .initializingLate m ∉ h) :
    latePart h = [] := by
  rw [latePart, List.dropWhile_eq_nil_iff.2 (beginsLate_eq_false hnot)]
  rfl

/-- The late pass is cut out between its beginning and the end of the stage. -/
theorem latePart_append {front pass tail : List (Event S)} {count : Nat}
    (hfront : ∀ m, .initializingLate m ∉ front) (hpass : ∀ e ∈ pass, e.move?.isNone = true)
    (htail : tail = [] ∨ ∃ s t rest, tail = .moved s t :: rest) :
    latePart (front ++ .initializingLate count :: (pass ++ tail)) = pass := by
  unfold latePart
  rw [List.dropWhile_append_of_pos (beginsLate_eq_false hfront),
    List.dropWhile_cons_of_neg (by simp [Event.beginsLate])]
  show (pass ++ tail).takeWhile _ = pass
  rw [List.takeWhile_append_of_pos hpass]
  rcases htail with rfl | ⟨s, t, rest, rfl⟩
  · exact List.append_nil pass
  · rw [List.takeWhile_cons_of_neg (by simp [Event.move?]), List.append_nil]

/-! ## A build whose initializing callbacks return -/

theorem Stage.state_of_makes {s : Stage} {c : Call} (h : s.makes c = true) : c.state = s.state := by
  cases s <;> cases c <;> first | rfl | exact Bool.noConfusion h

theorem Course.exists_ok {plan : List Call} {ms : List (Event S)} {r : Except Error α}
    (course : Course plan ms r) (hreturned : ∀ c ∈ plan, ∀ e, .finished c (some e) ∉ ms) :
    ∃ a, r = .ok a := by
  cases course with
  | completed a => exact ⟨a, rfl⟩
  | broken made c rest e hplan =>
    refine absurd ?_ (hreturned c ?_ e)
    · simp
    · rw [hplan]
      exact List.mem_append_right _ List.mem_cons_self

/-- The event tells of no failure in the initializing state. -/
def Event.spares : Event S → Bool
  | .finished c (some _) => c.state != .initializing
  | _ => true

namespace Builder

/-- No callback that was called in the initializing state failed. -/
def Unfailing (h : List (Event S)) : Prop :=
  ∀ c : Call, c.state = .initializing → ∀ e, .finished c (some e) ∉ h

theorem unfailing_iff (h : List (Event S)) : Unfailing h ↔ h.all Event.spares = true := by
  rw [List.all_eq_true]
  constructor
  · intro unfailing e he
    cases e with
    | finished c failure =>
      cases failure with
      | none => rfl
      | some e => exact bne_iff_ne.2 fun hc => unfailing c hc e he
    | _ => rfl
  · intro hspares c hc e hmem
    exact bne_iff_ne.1 (hspares _ hmem) hc

instance (h : List (Event S)) : Decidable (Unfailing h) :=
  decidable_of_iff _ (unfailing_iff h).symm

theorem Unfailing.of_subset {g h : List (Event S)} (unfailing : Unfailing h) (hsub : g ⊆ h) :
    Unfailing g :=
  fun c hc e hmem => unfailing c hc e (hsub hmem)

theorem callEach_initCalls_ok (l : Lifecycle S) (rs : List (Registration S.Configurer))
    (b : Builder S) (unfailing : Unfailing ((callEach (initCalls l rs)).run b).events) :
    ((callEach (initCalls l rs)).run b).answer = .ok () := by
  obtain ⟨a, ha⟩ := (callEach_course (initCalls l rs) b).exists_ok fun c hc e hmem => by
    rw [initCalls_map_fst] at hc
    obtain ⟨r, -, rfl⟩ := List.mem_map.1 hc
    exact unfailing _ rfl e (finished_mem_marks.1 hmem)
  exact ha

namespace Idle

variable {b : Builder S} (h : b.Idle) (l : Lifecycle S)

include h

theorem opening_ok (unfailing : Unfailing (openingEvents l b)) :
    ((opening l).run b).answer = .ok () := by
  unfold openingEvents at unfailing
  rw [opening_run l b h.unbuilt, call_run] at unfailing ⊢
  cases hanswer : (l.beforeInit.run { b with state := .initializing }).answer with
  | ok u => rfl
  | error e =>
    rw [hanswer] at unfailing
    exact absurd (by simp [failure?]) (unfailing .beforeInit rfl e)

omit h in
theorem firstPass_ok (unfailing : Unfailing (firstEvents l b)) :
    ((firstPass l).run (opened l b)).answer = .ok () := by
  unfold firstEvents at unfailing
  rw [firstPass_run] at unfailing ⊢
  exact callEach_initCalls_ok l _ _ (unfailing.of_subset (List.subset_cons_self _ _))

omit h in
theorem latePass_answer (unfailing : Unfailing (lateEvents l b)) :
    ((latePass l).run (queued l b)).answer = lateAnswer (.ok ()) (initialized l b).late := by
  unfold lateEvents at unfailing
  rw [initialized]
  rw [latePass_run] at unfailing ⊢
  rw [callEach_initCalls_ok l _ _ (unfailing.of_subset (List.subset_append_right _ _))]

/-- A build whose initializing callbacks return is refused for what the late pass left due, or goes
on behind it. -/
theorem run_of_unfailing (unfailing : Unfailing ((runLifecycle l).run b).events) :
    (∃ r rest, (initialized l b).late = r :: rest ∧
      (runLifecycle l).run b =
        ⟨.error (.illegalState (.nestedRegistration (S.kind r.configurer))),
          openingEvents l b ++ (firstEvents l b ++ lateEvents l b), initialized l b⟩) ∨
    (initialized l b).late = [] ∧
      ((runLifecycle l).run b).events =
        openingEvents l b ++ (firstEvents l b ++ (lateEvents l b ++ closingEvents l b)) := by
  rw [runLifecycle_eq_stages] at unfailing ⊢
  have hopening := h.opening_ok l (unfailing.of_subset (Attempt.subset_events_bind _ _ b))
  rw [Attempt.run_bind_ok hopening] at unfailing ⊢
  replace unfailing := unfailing.of_subset (List.subset_append_right _ _)
  have hfirst := firstPass_ok l (unfailing.of_subset (Attempt.subset_events_bind _ _ _))
  rw [← opened, Attempt.run_bind_ok hfirst] at unfailing ⊢
  replace unfailing := unfailing.of_subset (List.subset_append_right _ _)
  have hlate := latePass_answer l (unfailing.of_subset (Attempt.subset_events_bind _ _ _))
  rw [← queued] at unfailing ⊢
  cases hdue : (initialized l b).late with
  | nil =>
    rw [hdue] at hlate
    rw [Attempt.run_bind_ok hlate]
    exact .inr ⟨rfl, rfl⟩
  | cons r rest =>
    rw [hdue] at hlate
    rw [Attempt.run_bind_error hlate]
    exact .inl ⟨r, rest, rfl, rfl⟩

/-- What is due at the end of the late pass lasted in it. -/
theorem lasting_latePart {tail : List (Event S)} (htail : tail = [] ∨ tail = closingEvents l b) :
    lasting (latePart (openingEvents l b ++ (firstEvents l b ++ (lateEvents l b ++ tail)))) =
      (initialized l b).due := by
  rw [h.due_initialized l, pending_eq_lasting]
  have hfront := h.initializingLate_not_mem_front l
  have hmoved : tail = [] ∨ ∃ s t rest, tail = (.moved s t :: rest : List (Event S)) := by
    rcases htail with rfl | rfl
    · exact .inl rfl
    · obtain ⟨rest, hrest⟩ := h.closingEvents_eq_cons l
      exact .inr ⟨_, _, _, hrest⟩
  by_cases hdue : (queued l b).due = []
  · -- nothing was due, so there was no late pass
    have hlate : lateEvents l b = [] := by
      rw [lateEvents, latePass_run, List.map_eq_nil_iff.1 hdue]
      rfl
    have htail : ∀ m, .initializingLate m ∉ tail := by
      intro m hmem
      rcases htail with rfl | rfl
      · exact absurd hmem List.not_mem_nil
      · exact (h.closingEvents_leftBy l).not_mem rfl hmem
    rw [hlate, List.nil_append, ← List.append_assoc, latePart_eq_nil]
    intro m hmem
    rcases List.mem_append.1 hmem with hmem | hmem
    · exact hfront m hmem
    · exact htail m hmem
  · obtain ⟨count, rest, hlate, -⟩ := lateEvents_eq_cons l hdue
    have hpass : ∀ e ∈ rest, e.move?.isNone = true := by
      intro e he
      have hleaves := h.lateEvents_leaves l e (hlate ▸ List.mem_cons_of_mem _ he)
      cases e with
      | moved s t => cases s <;> exact Bool.noConfusion hleaves
      | _ => rfl
    rw [hlate, List.cons_append, ← List.append_assoc, latePart_append hfront hpass hmoved]
    exact (lasting_cons_of_isPlain rfl rest).symm

/-- Before the end of the late pass only callbacks of the initializing state are called. -/
theorem state_of_started {c : Call}
    (hc : .started c ∈ openingEvents l b ++ (firstEvents l b ++ lateEvents l b)) :
    c.state = .initializing := by
  rcases List.mem_append.1 hc with hc | hc
  · exact Stage.state_of_makes (h.openingEvents_leaves l _ hc)
  · rcases List.mem_append.1 hc with hc | hc
    · exact Stage.state_of_makes (h.firstEvents_leaves l _ hc)
    · exact Stage.state_of_makes (h.lateEvents_leaves l _ hc)

end Idle

/-- When the hook and all `init` calls that a build makes return, the build is refused with the kind
of the first registration of its late pass that lasts, if there is one: it stays in the initializing
state, whatever follows, and no other callback is ever called. Else it goes on to the configuring
state. -/
theorem refused_for_first_lasting (l : Lifecycle S) (t : S.Target) (accumulates : Bool)
    (w : S.World) (ops : List (Operation S))
    (hunbuilt : ((create t accumulates w).after ops).state = .unbuilt)
    (unfailing : Unfailing ((build l).run ((create t accumulates w).after ops)).events) :
    match lasting (latePart ((build l).run ((create t accumulates w).after ops)).events) with
    | (_, kind) :: _ =>
      ((build l).run ((create t accumulates w).after ops)).answer =
          .error (.illegalState (.nestedRegistration kind)) ∧
        ∀ later, ((create t accumulates w).after (ops ++ .build l :: later)).state =
            .initializing ∧
          ∀ c ∈ calls (((create t accumulates w).after ops).history (.build l :: later)),
            c.state = .initializing
    | [] =>
      [.moved .initializing .configuring, .started .beforeConfigure] <+
        ((build l).run ((create t accumulates w).after ops)).events := by
  have hidle := ((settled_create t accumulates w).after ops).idle hunbuilt
  rw [build_run_unbuilt l hunbuilt] at unfailing ⊢
  simp only [after_append]
  generalize (create t accumulates w).after ops = b at hunbuilt unfailing hidle
  rcases hidle.run_of_unfailing l unfailing with ⟨r, rest, hlate, hrun⟩ | ⟨hlate, hevents⟩
  · have hlasting : lasting (latePart ((runLifecycle l).run b).events) =
        (r.serial, S.kind r.configurer) :: rest.map fun r => (r.serial, S.kind r.configurer) := by
      have hpart := hidle.lasting_latePart l (.inl rfl)
      rw [List.append_nil, due, hlate] at hpart
      rw [hrun]
      exact hpart
    rw [hlasting]
    refine ⟨congrArg Outcome.answer hrun, fun later => ?_⟩
    have hstep : b.step (.build l) = initialized l b := by
      rw [step, build_run_unbuilt l hunbuilt, hrun]
    have hbegun : (initialized l b).state ≠ .unbuilt := by
      rw [hidle.initialized_state l]
      exact State.noConfusion
    obtain ⟨hstate, -, hcalls⟩ := staysQuiet_of_begun hbegun later
    constructor
    · rw [← hstep] at hstate
      exact hstate.trans ((congrArg Builder.state hstep).trans (hidle.initialized_state l))
    · intro c hc
      rw [history, hstep, calls_append, hcalls, List.append_nil, mem_calls, events,
        build_run_unbuilt l hunbuilt, hrun] at hc
      exact hidle.state_of_started l hc
  · have hlasting : lasting (latePart ((runLifecycle l).run b).events) = [] := by
      have hpart := hidle.lasting_latePart l (.inr rfl)
      rwa [due, hlate, ← hevents] at hpart
    obtain ⟨rest, hrest⟩ := hidle.closingEvents_eq_cons l
    rw [hlasting, hevents, hrest]
    have hbegin : ([.moved .initializing .configuring, .started .beforeConfigure] :
        List (Event S)) <+ .moved .initializing .configuring :: .started .beforeConfigure :: rest :=
      .cons_cons _ (.cons_cons _ (List.nil_sublist rest))
    exact ((hbegin.trans (List.sublist_append_right _ _)).trans
      (List.sublist_append_right _ _)).trans (List.sublist_append_right _ _)

/-- The `init` of `alpha` registers `beta`, whose `init` registers `gamma` and does something
more. -/
def nesting (more : Callback Sample.signature Unit) : Lifecycle Sample.signature :=
  Sample.lifecycle (.done ()) fun
    | .alpha => .register Sample.beta fun _ => .done ()
    | .beta => .register Sample.gamma fun _ => more
    | .gamma => .done ()

/-- Registers `alpha` again and removes `gamma`. -/
def exchanging : Callback Sample.signature Unit :=
  .register Sample.alpha fun _ => .removeConfigurers Sample.gamma.kind fun _ => .done ()

/-- Removes `gamma`. -/
def undoing : Callback Sample.signature Unit :=
  .removeConfigurers Sample.gamma.kind fun _ => .done ()

/-- Of two registrations of the late pass the first is removed, and the build is refused for the
second; without the second it goes on. -/
theorem refused_for_alpha :
    ((build (nesting exchanging)).run ((create () false ()).after
        [.register Sample.alpha])).answer =
      .error (.illegalState (.nestedRegistration Sample.alpha.kind)) ∧
    [.moved .initializing .configuring, .started .beforeConfigure] <+
      ((build (nesting undoing)).run ((create () false ()).after
        [.register Sample.alpha])).events := by
  have hrefused := refused_for_first_lasting (nesting exchanging) () false ()
    [.register Sample.alpha] rfl (by decide)
  have hpassed := refused_for_first_lasting (nesting undoing) () false ()
    [.register Sample.alpha] rfl (by decide)
  exact ⟨hrefused.1, hpassed⟩

end Builder

end AuthChain.Build
