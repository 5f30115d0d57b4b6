import AuthChain.Proofs.Build.Operation

/-!
# Initialized before configured

The order of the calls of a build and the registrations that they reach. Main statement: a
registration is configured only when its own `init` was called before and returned, every `init`
call precedes the hook before all `configure` calls and this hook precedes them, and a build that
succeeds configures each registration of the table once and no other
(`Builder.initialized_before_configured`).
-/

namespace AuthChain.Build

open scoped List

variable {S : Signature}

namespace Builder

namespace Idle

variable {b : Builder S} (h : b.Idle) (l : Lifecycle S)

include h

/-- What the configuring pass finds in the table was initialized by one of the two passes. -/
theorem returned_of_prepared (hfirst : ((firstPass l).run (opened l b)).answer = .ok ())
    (hlate : ((latePass l).run (queued l b)).answer = .ok ())
    {r : Registration S.Configurer} (hr : r ∈ (prepared l b).table.registrations) :
    [.started (.init r.serial), .finished (.init r.serial) none] <+
      firstEvents l b ++ lateEvents l b := by
  -- the configuring state takes no registrations, so the table is one of the initializing state
  rcases h.initialized_covered l hlate r ((h.prepared_sublist l).subset hr) with hr | hr
  · have course := firstEvents_course l b
    rw [hfirst] at course
    have hsub := course.returned_sublist (List.mem_map.2 ⟨r, hr, rfl⟩)
    exact (hsub.trans (marks_sublist _)).trans (List.sublist_append_left _ _)
  · obtain ⟨answer, course, hanswer⟩ := lateEvents_course l b
    rw [hanswer hlate] at course
    have hsub := course.returned_sublist (List.mem_map.2 ⟨r, hr, rfl⟩)
    exact (hsub.trans (marks_sublist _)).trans (List.sublist_append_right _ _)

/-- Behind the initializing state, a `configure` call has the hook before it and is made for a
registration of the table. -/
theorem configure_in_ending {es pre post : List (Event S)} (hes : Ending l b es) {n : Nat}
    (heq : es = pre ++ .started (.configure n) :: post) :
    .started .beforeConfigure ∈ pre ∧
      ∃ r ∈ (prepared l b).table.registrations, r.serial = n := by
  have hturning : .started (.configure n) ∉ turningEvents l b :=
    not_mem_of_leaves (h.turningEvents_leaves l) rfl
  cases hes with
  | turning =>
    rw [heq] at hturning
    exact absurd (List.mem_append_right _ List.mem_cons_self) hturning
  | configuring tail hanswer htail =>
    obtain ⟨rest, rfl, hrest⟩ := exists_of_append_eq hturning heq
    constructor
    · refine List.mem_append_left _ ?_
      rw [turningEvents, turning_run l _ (h.initialized_state l), call_run]
      exact List.mem_cons_of_mem _ List.mem_cons_self
    · -- the production makes no `configure` call
      have hmem : .started (.configure n) ∈ configuringEvents l b ++ tail := by
        rw [hrest]
        exact List.mem_append_right _ List.mem_cons_self
      have hpass : .started (.configure n) ∈ configuringEvents l b := by
        refine (List.mem_append.1 hmem).resolve_right fun hmem => ?_
        rcases htail with htail | ⟨-, htail⟩
        · rw [htail] at hmem
          exact absurd hmem List.not_mem_nil
        · rw [htail] at hmem
          exact not_mem_of_leaves (h.productionEvents_leaves l) rfl hmem
      have hplan := (configuringEvents_course l b).mem_of_started (started_mem_marks.2 hpass)
      obtain ⟨r, hr, hserial⟩ := List.mem_map.1 hplan
      exact ⟨r, hr, by simpa using hserial⟩

/-- Whenever a registration is configured, its `init` was called before and returned, and the hook
was called as well. -/
theorem configure_preceded {es pre post : List (Event S)} (hes : Progress l b es) {n : Nat}
    (heq : es = pre ++ .started (.configure n) :: post) :
    [.started (.init n), .finished (.init n) none] <+ pre ∧ .started .beforeConfigure ∈ pre := by
  obtain ⟨front, tail, rfl, hfront, htail⟩ := h.progress_split l hes
  -- a `configure` call lies behind the initializing state
  have hnot : .started (.configure n) ∉ front := hfront.not_mem rfl
  obtain ⟨rest, rfl, hrest⟩ := exists_of_append_eq hnot heq
  rcases htail with rfl | ⟨rfl, rfl, hfirst, hlate⟩
  · exact absurd hrest (by simp)
  · obtain ⟨hhook, r, hr, rfl⟩ := h.configure_in_ending l (closing_ending l b) hrest
    have hreturned := h.returned_of_prepared l hfirst hlate hr
    have hsub := hreturned.trans (List.sublist_append_right (openingEvents l b) _)
    exact ⟨hsub.trans (List.sublist_append_left _ _), List.mem_append_right _ hhook⟩

/-- No `init` call is behind the hook before all `configure` calls. -/
theorem no_init_behind {es : List (Event S)} (hes : Progress l b es) (n : Nat) :
    ¬ [.started .beforeConfigure, .started (.init n)] <+ es := by
  obtain ⟨front, tail, rfl, hfront, htail⟩ := h.progress_split l hes
  refine not_pair_sublist_append (hfront.not_mem rfl) ?_
  rcases htail with rfl | ⟨rfl, -⟩
  · exact List.not_mem_nil
  · exact (h.closingEvents_leftBy l).not_mem rfl

/-- A build that succeeds configures what the configuring pass finds in the table, each once. -/
theorem count_configure {p : Produced S.Object} (hp : ((runLifecycle l).run b).answer = .ok p)
    (n : Nat) :
    (calls ((runLifecycle l).run b).events).count (.configure n) =
      if n ∈ (prepared l b).table.registrations.map (·.serial) then 1 else 0 := by
  obtain ⟨hevents, hanswer⟩ := events_of_succeeded l b hp
  have hopening := count_calls_eq_zero (c := .configure n)
    (not_mem_of_leaves (h.openingEvents_leaves l) rfl)
  have hfirst := count_calls_eq_zero (c := .configure n)
    (not_mem_of_leaves (h.firstEvents_leaves l) rfl)
  have hlate := count_calls_eq_zero (c := .configure n)
    (not_mem_of_leaves (h.lateEvents_leaves l) rfl)
  have hturning := count_calls_eq_zero (c := .configure n)
    (not_mem_of_leaves (h.turningEvents_leaves l) rfl)
  have hproduction := count_calls_eq_zero (c := .configure n)
    (not_mem_of_leaves (h.productionEvents_leaves l) rfl)
  -- only the configuring pass counts, and its calls are those of the table
  have hcalls : calls (configuringEvents l b) =
      (prepared l b).table.registrations.map fun r => .configure r.serial := by
    have course := configuringEvents_course l b
    rw [hanswer] at course
    rw [← calls_marks]
    exact course.calls_eq
  have hinj : ∀ m n, Call.configure m = Call.configure n → m = n := fun _ _ => Call.configure.inj
  have hnodup := nodup_map_call hinj (h.nodup_prepared l)
  rw [hevents]
  simp only [calls_append, List.count_append, hopening, hfirst, hlate, hturning, hproduction,
    hcalls, hnodup.count, mem_map_call hinj, Nat.zero_add, Nat.add_zero]

end Idle

/-- A registration is configured only when its `init` was called before and returned; every `init`
call precedes the hook before all `configure` calls, and the hook precedes them; and a build that
succeeds configures each registration that its configuring pass finds in the table once, and no
other. -/
theorem initialized_before_configured (l : Lifecycle S) (t : S.Target) (accumulates : Bool)
    (w : S.World) (ops : List (Operation S)) :
    (∀ n pre post, ((build l).run ((create t accumulates w).after ops)).events =
        pre ++ .started (.configure n) :: post →
      [.started (.init n), .finished (.init n) none] <+ pre ∧ .started .beforeConfigure ∈ pre) ∧
    (∀ n, ¬ [.started .beforeConfigure, .started (.init n)] <+
      ((build l).run ((create t accumulates w).after ops)).events) ∧
    (∀ p, ((create t accumulates w).after ops).state = .unbuilt →
      ((build l).run ((create t accumulates w).after ops)).answer = .ok p →
      ∀ n, (calls ((build l).run ((create t accumulates w).after ops)).events).count
          (.configure n) =
        if n ∈ (prepared l ((create t accumulates w).after ops)).table.registrations.map (·.serial)
          then 1 else 0) := by
  have hsettled := (settled_create t accumulates w).after ops
  generalize (create t accumulates w).after ops = b at hsettled
  refine ⟨fun n pre post heq => ?_, fun n hsub => ?_, fun p hunbuilt hp n => ?_⟩
  · rcases hsettled.build_history l with hnil | ⟨hidle, hprogress⟩
    · rw [hnil] at heq
      exact absurd heq (by simp)
    · exact hidle.configure_preceded l hprogress heq
  · rcases hsettled.build_history l with hnil | ⟨hidle, hprogress⟩
    · rw [hnil] at hsub
      exact absurd hsub (by simp)
    · exact hidle.no_init_behind l hprogress n hsub
  · rw [build_run_unbuilt l hunbuilt] at hp ⊢
    exact (hsettled.idle hunbuilt).count_configure l hp n

/-- The `init` of `alpha` registers `beta`. -/
def introducing : Lifecycle Sample.signature :=
  Sample.lifecycle (.done ()) fun
    | .alpha => .register Sample.beta fun _ => .done ()
    | _ => .done ()

theorem introduced_is_configured_once :
    ∃ pre post p,
      ((build introducing).run ((create () false ()).after [.register Sample.alpha])).events =
        pre ++ .started (.configure 1) :: post ∧
      [.started (.init 1), .finished (.init 1) none] <+ pre ∧
      .started .beforeConfigure ∈ pre ∧
      ((build introducing).run ((create () false ()).after [.register Sample.alpha])).answer =
        .ok p ∧
      (calls ((build introducing).run
        ((create () false ()).after [.register Sample.alpha])).events).count (.configure 1) =
          1 := by
  obtain ⟨hbefore, -, hcount⟩ := initialized_before_configured introducing () false ()
    [.register Sample.alpha]
  have hevents : ∃ pre post,
      ((build introducing).run ((create () false ()).after [.register Sample.alpha])).events =
        pre ++ .started (.configure 1) :: post :=
    ⟨[.moved .unbuilt .initializing, .started .beforeInit, .finished .beforeInit none,
      .initializing 1, .started (.init 0), .registered 1 Sample.beta.kind,
      .registeredLate Sample.beta.kind, .finished (.init 0) none, .initializingLate 1,
      .started (.init 1), .finished (.init 1) none, .moved .initializing .configuring,
      .started .beforeConfigure, .finished .beforeConfigure none, .configuring 2,
      .started (.configure 0), .finished (.configure 0) none], _, rfl⟩
  obtain ⟨pre, post, heq⟩ := hevents
  obtain ⟨hinit, hhook⟩ := hbefore 1 pre post heq
  exact ⟨pre, post, ⟨0, ()⟩, heq, hinit, hhook, rfl, hcount ⟨0, ()⟩ rfl rfl 1⟩

end Builder

end AuthChain.Build
