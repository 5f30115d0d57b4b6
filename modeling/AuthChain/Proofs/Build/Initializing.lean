import AuthChain.Proofs.Build.Operation
import Mathlib.Data.List.Basic

/-!
# The calls by which registrations are initialized

Which registrations the late pass comes to (`ReachedLate`) and how often a registration is
initialized. Main statement: a build initializes a registration at most twice, and twice exactly
when the hook before all `init` calls made the registration, the first pass came to it, and the late
pass comes to it as well (`Builder.initialized_twice_iff`).
-/

namespace AuthChain.Build

open scoped List

variable {S : Signature}

/-- The late pass of a history comes to a registration: the registration is pending when the pass
begins, and every `init` of the pass before it returns. -/
def ReachedLate (h : List (Event S)) (n : Nat) (kind : ConfigurerKind) : Prop :=
  ∃ pre post count ahead behind,
    h = pre ++ .initializingLate count :: post ∧
    pending pre = ahead ++ (n, kind) :: behind ∧
    ∀ r ∈ ahead, .finished (.init r.1) none ∈ post

theorem ReachedLate.mem {h : List (Event S)} {n : Nat} {kind : ConfigurerKind}
    (hreached : ReachedLate h n kind) : ∃ count, .initializingLate count ∈ h := by
  obtain ⟨pre, post, count, -, -, rfl, -⟩ := hreached
  exact ⟨count, List.mem_append_right _ List.mem_cons_self⟩

/-- A pass over registrations calls the `init` of one of them exactly when those of all before it
returned. -/
theorem Course.started_init_iff {rs : List (Registration S.Configurer)} {es : List (Event S)}
    {α : Type} {answer : Except Error α}
    (course : Course (rs.map fun r => Call.init r.serial) (marks es) answer)
    (hdistinct : (rs.map (·.serial)).Nodup) {ahead behind : List Nat} {n : Nat}
    (hserials : rs.map (·.serial) = ahead ++ n :: behind) :
    .started (.init n) ∈ es ↔ ∀ m ∈ ahead, .finished (.init m) none ∈ es := by
  have hnodup := Builder.nodup_map_call (fun _ _ => Call.init.inj) hdistinct
  have hplan : (rs.map fun r => Call.init r.serial) =
      ahead.map Call.init ++ .init n :: behind.map Call.init := by
    have hmap := congrArg (List.map Call.init) hserials
    rw [List.map_map, List.map_append, List.map_cons] at hmap
    exact hmap
  -- the pass reaches a call of its plan when all calls before it returned
  rw [← started_mem_marks, course.started_iff hnodup hplan, List.forall_mem_map]
  simp only [finished_mem_marks]

namespace Builder

namespace Idle

variable {b : Builder S} (h : b.Idle) (l : Lifecycle S)

include h

theorem nodup_late : ((queued l b).late.map (·.serial)).Nodup := by
  rw [List.Nodup, List.pairwise_map]
  exact (h.recorded_queued l).consistent.ordered.imp fun hlt => Nat.ne_of_lt hlt

/-- The late pass calls the `init` of a due registration exactly when those of all due registrations
before it returned. -/
theorem started_late_iff {ahead behind : List (Nat × ConfigurerKind)} {n : Nat}
    {kind : ConfigurerKind} (hdue : (queued l b).due = ahead ++ (n, kind) :: behind) :
    .started (.init n) ∈ lateEvents l b ↔
      ∀ r ∈ ahead, .finished (.init r.1) none ∈ lateEvents l b := by
  obtain ⟨answer, course, -⟩ := lateEvents_course l b
  have hserials : (queued l b).late.map (·.serial) =
      ahead.map (·.1) ++ n :: behind.map (·.1) := by
    have hmap := congrArg (List.map (·.1)) hdue
    rw [due, List.map_map, List.map_append, List.map_cons] at hmap
    exact hmap
  rw [course.started_init_iff (h.nodup_late l) hserials, List.forall_mem_map]

omit h in
/-- The events of a late pass that finds something due. -/
theorem lateEvents_eq_cons (hdue : (queued l b).due ≠ []) :
    ∃ count rest, lateEvents l b = .initializingLate count :: rest ∧
      ∀ m, .initializingLate m ∉ rest := by
  have hlate : (queued l b).late ≠ [] := fun hlate => hdue (by rw [due, hlate]; rfl)
  refine ⟨(queued l b).late.length,
    ((callEach (initCalls l (queued l b).late)).run { queued l b with late := [] }).events, ?_, ?_⟩
  · rw [lateEvents, latePass_run, lateHeader, if_neg (by simpa using hlate)]
    rfl
  · intro m hmem
    rcases callEach_events _ _ _ hmem with hop | hmark
    · exact Bool.noConfusion hop
    · exact Bool.noConfusion hmark

omit h in
theorem not_mem_lateEvents (hdue : (queued l b).due = []) (m : Nat) :
    .initializingLate m ∉ lateEvents l b := by
  have hlate : (queued l b).late = [] := List.map_eq_nil_iff.1 hdue
  rw [lateEvents, latePass_run, hlate]
  simp [lateHeader, initCalls, callEach]

theorem initializingLate_not_mem_front (m : Nat) :
    .initializingLate m ∉ openingEvents l b ++ firstEvents l b := by
  intro hmem
  rcases List.mem_append.1 hmem with hmem | hmem
  · exact not_mem_of_leaves (h.openingEvents_leaves l) rfl hmem
  · exact not_mem_of_leaves (h.firstEvents_leaves l) rfl hmem

/-- The late pass begins behind the first pass, and only there. -/
theorem late_begins {tail : List (Event S)} (htail : LeftBy Stage.isClosing tail) {count : Nat}
    {pre post : List (Event S)}
    (heq : openingEvents l b ++ (firstEvents l b ++ (lateEvents l b ++ tail)) =
      pre ++ .initializingLate count :: post) :
    pre = openingEvents l b ++ firstEvents l b ∧
      lateEvents l b ++ tail = .initializingLate count :: post := by
  have hfront := h.initializingLate_not_mem_front l count
  have hmem : .initializingLate count ∈
      openingEvents l b ++ (firstEvents l b ++ (lateEvents l b ++ tail)) := by
    rw [heq]
    exact List.mem_append_right _ List.mem_cons_self
  rw [← List.append_assoc] at heq hmem
  have hlate : .initializingLate count ∈ lateEvents l b :=
    (List.mem_append.1 ((List.mem_append.1 hmem).resolve_left hfront)).resolve_right
      (htail.not_mem rfl)
  have hdue : (queued l b).due ≠ [] := fun hnil => not_mem_lateEvents l hnil count hlate
  obtain ⟨m, others, hevents, hothers⟩ := lateEvents_eq_cons l hdue
  -- the pass begins once
  have hrest : .initializingLate count ∉ others ++ tail := by
    intro hmem
    rcases List.mem_append.1 hmem with hmem | hmem
    · exact hothers count hmem
    · exact htail.not_mem rfl hmem
  rw [hevents, List.cons_append] at heq ⊢
  obtain ⟨hpre, hbegin, hpost⟩ := (List.append_cons_inj_of_notMem hfront hrest).1 heq
  exact ⟨hpre.symm, by rw [hbegin, hpost]⟩

/-- In a history that comes to the late pass, the pass comes to the due registrations whose `init`
it calls. -/
theorem reachedLate_iff {tail : List (Event S)} (htail : LeftBy Stage.isClosing tail) {n : Nat}
    {kind : ConfigurerKind} :
    ReachedLate (openingEvents l b ++ (firstEvents l b ++ (lateEvents l b ++ tail))) n kind ↔
      (n, kind) ∈ (queued l b).due ∧ .started (.init n) ∈ lateEvents l b := by
  constructor
  · rintro ⟨pre, post, count, ahead, behind, heq, hpending, hreturned⟩
    obtain ⟨rfl, hbegin⟩ := h.late_begins l htail heq
    rw [← h.due_queued l] at hpending
    refine ⟨by simp [hpending], (h.started_late_iff l hpending).2 fun r hr => ?_⟩
    have hmem : .finished (.init r.1) none ∈ lateEvents l b ++ tail := by
      rw [hbegin]
      exact List.mem_cons_of_mem _ (hreturned r hr)
    exact (List.mem_append.1 hmem).resolve_right (htail.not_mem rfl)
  · rintro ⟨hdue, hstarted⟩
    obtain ⟨ahead, behind, hsplit⟩ := List.append_of_mem hdue
    obtain ⟨count, rest, hlate, -⟩ := lateEvents_eq_cons l (List.ne_nil_of_mem hdue)
    refine ⟨openingEvents l b ++ firstEvents l b, rest ++ tail, count, ahead, behind, ?_, ?_, ?_⟩
    · rw [hlate, List.append_assoc, List.cons_append]
    · rw [← h.due_queued l, hsplit]
    · intro r hr
      have hmem := (h.started_late_iff l hsplit).1 hstarted r hr
      rw [hlate] at hmem
      exact List.mem_append_left _ ((List.mem_cons.1 hmem).resolve_left (by simp))

/-! ## The number of `init` calls -/

theorem count_first (n : Nat) :
    (calls (firstEvents l b)).count (.init n) =
      if .init n ∈ calls (firstEvents l b) then 1 else 0 := by
  have hnodup := nodup_map_call (fun _ _ => Call.init.inj) (h.recorded_opened l).consistent.distinct
  have hcount := (firstEvents_course l b).count_eq hnodup (.init n)
  rwa [calls_marks] at hcount

theorem count_late (n : Nat) :
    (calls (lateEvents l b)).count (.init n) =
      if .init n ∈ calls (lateEvents l b) then 1 else 0 := by
  obtain ⟨answer, course, -⟩ := lateEvents_course l b
  have hnodup := nodup_map_call (fun _ _ => Call.init.inj) (h.nodup_late l)
  have hcount := course.count_eq hnodup (.init n)
  rwa [calls_marks] at hcount

theorem count_opening (n : Nat) : (calls (openingEvents l b)).count (.init n) = 0 :=
  count_calls_eq_zero (not_mem_of_leaves (h.openingEvents_leaves l) rfl)

/-- What both passes initialize was registered by the hook before them. -/
theorem registered_by_hook (hanswer : ((opening l).run b).answer = .ok ()) {n : Nat}
    {kind : ConfigurerKind} (hfirst : .started (.init n) ∈ firstEvents l b)
    (hdue : (n, kind) ∈ (queued l b).due) :
    [.started .beforeInit, .registered n kind, .finished .beforeInit none] <+
      openingEvents l b := by
  -- the number was issued before the first pass
  have hissued : n < (opened l b).nextSerial := by
    have hplan := (firstEvents_course l b).mem_of_started (started_mem_marks.2 hfirst)
    obtain ⟨r, hr, hserial⟩ := List.mem_map.1 hplan
    rw [← Call.init.inj hserial]
    exact (h.recorded_opened l).consistent.issued r (Or.inl hr)
  have hregistered : .registered n kind ∈ openingEvents l b := by
    rw [h.due_queued l] at hdue
    -- what the first pass registers has a later number
    refine (List.mem_append.1 (mem_pending hdue)).resolve_right fun hmem => ?_
    exact absurd hissued (Nat.not_lt.2 ((firstPass_path l _).serial_le hmem))
  have hrun := opening_run l b h.unbuilt
  have hbody : (l.beforeInit.run { b with state := .initializing }).answer = .ok () := by
    rw [hrun] at hanswer
    exact hanswer
  rw [openingEvents, hrun, call_run, hbody] at hregistered ⊢
  have hmem : .registered n kind ∈ (l.beforeInit.run { b with state := .initializing }).events := by
    simpa [failure?] using hregistered
  exact .cons _ (.cons_cons _ ((List.singleton_sublist.2 hmem).append (List.Sublist.refl _)))

/-- An `init` call before the late pass is one of the first pass. -/
theorem started_first {tail : List (Event S)} (htail : LeftBy Stage.isClosing tail) {n count : Nat}
    (hsub : [.started (.init n), .initializingLate count] <+
      openingEvents l b ++ (firstEvents l b ++ (lateEvents l b ++ tail))) :
    .started (.init n) ∈ firstEvents l b := by
  have hopening : .started (.init n) ∉ openingEvents l b :=
    not_mem_of_leaves (h.openingEvents_leaves l) rfl
  obtain ⟨pre, post, heq, hmem⟩ := exists_of_pair_sublist hsub
  obtain ⟨rfl, -⟩ := h.late_begins l htail heq
  exact (List.mem_append.1 hmem).resolve_left hopening

/-- Both passes come to a registration exactly when the hook made it, the first pass came to it, and
the late pass comes to it. -/
theorem both_passes_iff {tail : List (Event S)} (htail : LeftBy Stage.isClosing tail)
    (hanswer : ((opening l).run b).answer = .ok ()) {n : Nat} :
    .started (.init n) ∈ firstEvents l b ∧ .started (.init n) ∈ lateEvents l b ↔
      ∃ kind count,
        [.started .beforeInit, .registered n kind, .finished .beforeInit none, .started (.init n),
          .initializingLate count] <+
            openingEvents l b ++ (firstEvents l b ++ (lateEvents l b ++ tail)) ∧
        ReachedLate (openingEvents l b ++ (firstEvents l b ++ (lateEvents l b ++ tail))) n
          kind := by
  constructor
  · rintro ⟨hfirst, hlate⟩
    -- what the late pass initializes was due, and has a kind
    obtain ⟨answer, course, -⟩ := lateEvents_course l b
    obtain ⟨r, hr, hserial⟩ := List.mem_map.1 (course.mem_of_started (started_mem_marks.2 hlate))
    obtain rfl := Call.init.inj hserial
    have hdue : (r.serial, S.kind r.configurer) ∈ (queued l b).due :=
      List.mem_map.2 ⟨r, hr, rfl⟩
    obtain ⟨count, rest, hlateEvents, -⟩ := lateEvents_eq_cons l (List.ne_nil_of_mem hdue)
    have hhook := h.registered_by_hook l hanswer hfirst hdue
    have hbegin : [.initializingLate count] <+ lateEvents l b ++ tail := by
      rw [hlateEvents, List.singleton_sublist]
      exact List.mem_cons_self
    refine ⟨_, count, ?_, (h.reachedLate_iff l htail).2 ⟨hdue, hlate⟩⟩
    exact hhook.append ((List.singleton_sublist.2 hfirst).append hbegin)
  · rintro ⟨kind, count, hsub, hreached⟩
    obtain ⟨-, hlate⟩ := (h.reachedLate_iff l htail).1 hreached
    have hpair : [.started (.init n), .initializingLate count] <+
        openingEvents l b ++ (firstEvents l b ++ (lateEvents l b ++ tail)) :=
      (List.sublist_append_right [_, _, _] _).trans hsub
    exact ⟨h.started_first l htail hpair, hlate⟩

theorem initialized_twice {es : List (Event S)} (hes : Progress l b es) (n : Nat) :
    (calls es).count (.init n) ≤ 2 ∧
      ((calls es).count (.init n) = 2 ↔ ∃ kind count,
        [.started .beforeInit, .registered n kind, .finished .beforeInit none, .started (.init n),
          .initializingLate count] <+ es ∧ ReachedLate es n kind) := by
  have hopening := h.count_opening l n
  have hfirst := h.count_first l n
  have hlate := h.count_late l n
  have hnot := h.initializingLate_not_mem_front l
  cases hes with
  | opening =>
    rw [hopening]
    refine ⟨by decide, by simp, ?_⟩
    rintro ⟨kind, count, -, hreached⟩
    obtain ⟨m, hmem⟩ := hreached.mem
    exact absurd (List.mem_append_left _ hmem) (hnot m)
  | first =>
    -- one pass alone makes one call at most
    rw [calls_append, List.count_append, hopening, hfirst]
    refine ⟨by split <;> decide, by split <;> simp, ?_⟩
    rintro ⟨kind, count, -, hreached⟩
    obtain ⟨m, hmem⟩ := hreached.mem
    exact absurd hmem (hnot m)
  | late tail hanswer _ htail =>
    have hclosing := h.tail_leftBy l htail
    have hcount := count_calls_eq_zero (c := .init n) (hclosing.not_mem rfl)
    -- only the two passes call `init`, each at most once
    rw [← h.both_passes_iff l hclosing hanswer, ← mem_calls, ← mem_calls]
    simp only [calls_append, List.count_append, hopening, hfirst, hlate, hcount]
    split <;> split <;> simp_all

end Idle

/-- A build initializes a registration at most twice, and twice exactly when the hook before all
`init` calls made the registration, the first pass came to it, and the late pass comes to it. -/
theorem initialized_twice_iff (l : Lifecycle S) (t : S.Target) (accumulates : Bool)
    (w : S.World) (ops : List (Operation S)) (n : Nat) :
    (calls ((build l).run ((create t accumulates w).after ops)).events).count (.init n) ≤ 2 ∧
    ((calls ((build l).run ((create t accumulates w).after ops)).events).count (.init n) = 2 ↔
      ∃ kind count,
        [.started .beforeInit, .registered n kind, .finished .beforeInit none, .started (.init n),
          .initializingLate count] <+ ((build l).run ((create t accumulates w).after ops)).events ∧
        ReachedLate ((build l).run ((create t accumulates w).after ops)).events n kind) := by
  have hsettled := (settled_create t accumulates w).after ops
  generalize (create t accumulates w).after ops = b at hsettled
  rcases hsettled.build_history l with hnil | ⟨hidle, hprogress⟩
  · rw [hnil]
    simp
  · exact hidle.initialized_twice l hprogress n

/-- The hook before all `init` calls registers `alpha`. -/
def hooking : Lifecycle Sample.signature :=
  Sample.lifecycle (.register Sample.alpha fun _ => .done ()) fun _ => .done ()

theorem hooked_is_initialized_twice :
    (calls ((build hooking).run ((create () false ()).after [])).events).count (.init 0) = 2 := by
  let front : List (Event Sample.signature) :=
    [.moved .unbuilt .initializing, .started .beforeInit, .registered 0 Sample.alpha.kind,
      .registeredLate Sample.alpha.kind, .finished .beforeInit none, .initializing 1,
      .started (.init 0), .finished (.init 0) none]
  have hevents : ∃ post, ((build hooking).run ((create () false ()).after [])).events =
      front ++ .initializingLate 1 :: post := ⟨_, rfl⟩
  obtain ⟨post, heq⟩ := hevents
  have hreached : ReachedLate ((build hooking).run ((create () false ()).after [])).events 0
      Sample.alpha.kind :=
    ⟨front, post, 1, [], [], heq, rfl, fun r hr => absurd hr List.not_mem_nil⟩
  refine (initialized_twice_iff hooking () false () [] 0).2.2 ⟨Sample.alpha.kind, 1, ?_, hreached⟩
  rw [heq]
  exact .cons _ (.cons_cons _ (.cons_cons _ (.cons _ (.cons_cons _ (.cons _ (.cons_cons _
    (.cons _ (.cons_cons _ (List.nil_sublist _)))))))))

end Builder

end AuthChain.Build
