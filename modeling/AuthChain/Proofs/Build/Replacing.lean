import AuthChain.Proofs.Build.Enrolment
import AuthChain.Proofs.Build.Removing

/-!
# Replacing what was registered

Where configurers replace each other, a registration is current until its kind is registered again
or removed (`Current`), and the table holds the current registrations (`Enrolled.mem_table_iff`). A
replaced registration leaves the table, but not what the passes of a build already took or what is
due to the late pass.

Main statement: a registration is initialized exactly when one of the two passes comes to it,
whether it was replaced or not, and it is configured exactly when it was neither replaced nor
removed (`Builder.replaced_still_initialized`).
-/

namespace AuthChain.Build

open scoped List

variable {S : Signature}

/-! ## Current registrations -/

/-- The event registers or removes the kind. -/
def Event.concerns (kind : ConfigurerKind) : Event S → Bool
  | .registered _ k => k == kind
  | .removed k => k == kind
  | _ => false

/-- The registration was made, and its kind was neither registered again nor removed since. -/
def Current (h : List (Event S)) (n : Nat) (kind : ConfigurerKind) : Prop :=
  ∃ pre post, h = pre ++ .registered n kind :: post ∧ ∀ e ∈ post, e.concerns kind = false

theorem not_current_nil (n : Nat) (kind : ConfigurerKind) :
    ¬ Current ([] : List (Event S)) n kind := by
  rintro ⟨pre, post, heq, -⟩
  exact absurd heq (by simp)

theorem current_concat_iff {h : List (Event S)} {e : Event S} {n : Nat} {kind : ConfigurerKind} :
    Current (h ++ [e]) n kind ↔
      e = .registered n kind ∨ Current h n kind ∧ e.concerns kind = false := by
  constructor
  · rintro ⟨pre, post, heq, hpost⟩
    rcases List.eq_nil_or_concat post with rfl | ⟨mid, last, rfl⟩
    · exact .inl (List.singleton_inj.1 (List.append_inj_right' heq rfl))
    · rw [List.concat_eq_append, ← List.cons_append, ← List.append_assoc] at heq
      obtain ⟨rfl, hlast⟩ := List.append_inj' heq rfl
      obtain rfl := List.singleton_inj.1 hlast
      refine .inr ⟨⟨pre, mid, rfl, fun x hx => hpost x (by simp [hx])⟩, hpost e (by simp)⟩
  · rintro (rfl | ⟨⟨pre, post, rfl, hpost⟩, he⟩)
    · exact ⟨h, [], rfl, fun _ hx => absurd hx List.not_mem_nil⟩
    · refine ⟨pre, post ++ [e], by simp, fun x hx => ?_⟩
      rcases List.mem_append.1 hx with hx | hx
      · exact hpost x hx
      · rw [List.mem_singleton.1 hx]
        exact he

/-- Where configurers replace each other, the row of a kind holds its current registration. -/
theorem mem_ofKind_tableOf_iff {h : List (Event S)} {n : Nat} {kind : ConfigurerKind} :
    ⟨n, ()⟩ ∈ (tableOf false h).ofKind kind ↔ Current h n kind := by
  induction h using List.reverseRecOn with
  | nil =>
    constructor
    · intro hmem
      exact absurd hmem List.not_mem_nil
    · intro hcurrent
      exact absurd hcurrent (not_current_nil n kind)
  | append_singleton h e ih =>
    rw [current_concat_iff, tableOf_concat, ← ih]
    cases e with
    | registered m k =>
      show ⟨n, ()⟩ ∈ ((tableOf false h).replace k ⟨m, ()⟩).ofKind kind ↔ _
      rw [Table.ofKind_replace]
      by_cases hk : kind = k
      · simp [Event.concerns, hk, eq_comm]
      · have hne : ¬ k = kind := fun heq => hk heq.symm
        simp [Event.concerns, hk, hne]
    | removed k =>
      show ⟨n, ()⟩ ∈ ((tableOf false h).erase k).ofKind kind ↔ _
      rw [Table.ofKind_erase]
      by_cases hk : kind = k
      · simp [Event.concerns, hk]
      · have hne : ¬ k = kind := fun heq => hk heq.symm
        simp [Event.concerns, hk, hne]
    | _ => simp [tableStep, Event.concerns]

namespace Enrolled

variable {h : List (Event S)} {b : Builder S}

/-- The table holds the current registrations. -/
theorem mem_table_iff (enrolled : Enrolled false h b) (hb : b.Consistent) {n : Nat} :
    n ∈ b.table.registrations.map (·.serial) ↔ ∃ kind, Current h n kind := by
  have horderly := enrolled.orderly hb
  have hrow : ∀ kind, (b.table.ofKind kind).map Registration.bare =
      (tableOf false h).ofKind kind := by
    intro kind
    rw [← enrolled.table_eq, Table.ofKind_bare]
  constructor
  · intro hmem
    obtain ⟨r, hr, rfl⟩ := List.mem_map.1 hmem
    refine ⟨S.kind r.configurer, mem_ofKind_tableOf_iff.1 ?_⟩
    rw [← hrow, ← horderly.filter_registrations]
    exact List.mem_map.2 ⟨r, List.mem_filter.2 ⟨hr, beq_self_eq_true _⟩, rfl⟩
  · rintro ⟨kind, hcurrent⟩
    have hmem := mem_ofKind_tableOf_iff.2 hcurrent
    rw [← hrow, ← horderly.filter_registrations] at hmem
    obtain ⟨r, hr, heq⟩ := List.mem_map.1 hmem
    exact List.mem_map.2 ⟨r, (List.mem_filter.1 hr).1, congrArg Registration.serial heq⟩

/-- A number stands for one kind. -/
theorem kind_unique {accumulates : Bool} (enrolled : Enrolled accumulates h b) {n : Nat}
    {kind other : ConfigurerKind} (hkind : .registered n kind ∈ h)
    (hother : .registered n other ∈ h) : other = kind := by
  obtain ⟨pre, post, heq⟩ := List.append_of_mem hkind
  obtain ⟨hpre, hpost⟩ := enrolled.not_registered_twice heq other
  rw [heq] at hother
  rcases List.mem_append.1 hother with hmem | hmem
  · exact absurd hmem hpre
  · rcases List.mem_cons.1 hmem with hmem | hmem
    · simpa using hmem
    · exact absurd hmem hpost

/-- What comes behind a registration is told by the pairs of events that begin with it. -/
theorem pair_sublist_iff {accumulates : Bool} (enrolled : Enrolled accumulates h b)
    {pre post : List (Event S)} {n : Nat} {kind : ConfigurerKind}
    (heq : h = pre ++ .registered n kind :: post) {e : Event S} :
    [.registered n kind, e] <+ h ↔ e ∈ post := by
  obtain ⟨hpre, -⟩ := enrolled.not_registered_twice heq kind
  rw [heq, pair_sublist_append_right hpre, List.cons_sublist_cons, List.singleton_sublist]

/-- A registration is current when it was neither replaced nor removed. -/
theorem current_iff {accumulates : Bool} (enrolled : Enrolled accumulates h b) {n : Nat}
    {kind : ConfigurerKind} (hmade : .registered n kind ∈ h) :
    Current h n kind ↔ (∀ m, ¬ [.registered n kind, .registered m kind] <+ h) ∧
      ¬ [.registered n kind, .removed kind] <+ h := by
  constructor
  · rintro ⟨pre, post, heq, hpost⟩
    constructor
    · intro m hsub
      have hfalse := hpost _ ((enrolled.pair_sublist_iff heq).1 hsub)
      simp [Event.concerns] at hfalse
    · intro hsub
      have hfalse := hpost _ ((enrolled.pair_sublist_iff heq).1 hsub)
      simp [Event.concerns] at hfalse
  · rintro ⟨hreplaced, hremoved⟩
    obtain ⟨pre, post, heq⟩ := List.append_of_mem hmade
    refine ⟨pre, post, heq, fun e he => ?_⟩
    have hsub := (enrolled.pair_sublist_iff heq).2 he
    cases e with
    | registered m k =>
      by_cases hk : k = kind
      · rw [hk] at hsub
        exact absurd hsub (hreplaced m)
      · simpa [Event.concerns] using hk
    | removed k =>
      by_cases hk : k = kind
      · rw [hk] at hsub
        exact absurd hsub hremoved
      · simpa [Event.concerns] using hk
    | _ => rfl

/-- The table holds a registration until it is replaced or removed. -/
theorem mem_table_iff_of_made (enrolled : Enrolled false h b) (hb : b.Consistent) {n : Nat}
    {kind : ConfigurerKind} (hmade : .registered n kind ∈ h) :
    n ∈ b.table.registrations.map (·.serial) ↔
      (∀ m, ¬ [.registered n kind, .registered m kind] <+ h) ∧
        ¬ [.registered n kind, .removed kind] <+ h := by
  rw [enrolled.mem_table_iff hb, ← enrolled.current_iff hmade]
  constructor
  · rintro ⟨other, hcurrent⟩
    obtain ⟨pre, post, heq, -⟩ := id hcurrent
    have hother : .registered n other ∈ h := by
      rw [heq]
      exact List.mem_append_right _ List.mem_cons_self
    rwa [enrolled.kind_unique hmade hother] at hcurrent
  · intro hcurrent
    exact ⟨kind, hcurrent⟩

end Enrolled

/-! ## What the passes come to -/

/-- The first pass of a build comes to a registration: the registration stands in the table when the
pass begins, and every `init` of the pass before it returns. The first history is the one before the
build. -/
def ReachedFirst (accumulates : Bool) (h g : List (Event S)) (n : Nat) : Prop :=
  ∃ pre post count ahead behind,
    g = pre ++ .initializing count :: post ∧
    (tableOf accumulates (h ++ pre)).registrations.map (·.serial) = ahead ++ n :: behind ∧
    ∀ m ∈ ahead, .finished (.init m) none ∈ post

namespace Builder

theorem firstEvents_eq_cons (l : Lifecycle S) (b : Builder S) :
    ∃ count rest, firstEvents l b = .initializing count :: rest ∧ ∀ m, .initializing m ∉ rest := by
  refine ⟨(opened l b).table.registrations.length,
    ((callEach (initCalls l (opened l b).table.registrations)).run (opened l b)).events, ?_, ?_⟩
  · rw [firstEvents, firstPass_run]
  · intro m hmem
    rcases callEach_events _ _ _ hmem with hop | hmark
    · exact Bool.noConfusion hop
    · exact Bool.noConfusion hmark

namespace Idle

variable {b : Builder S} (hidle : b.Idle) (l : Lifecycle S)

include hidle

/-- The first pass calls the `init` of a registration of the table exactly when those of all before
it returned. -/
theorem started_first_iff {ahead behind : List Nat} {n : Nat}
    (htable : (opened l b).table.registrations.map (·.serial) = ahead ++ n :: behind) :
    .started (.init n) ∈ firstEvents l b ↔
      ∀ m ∈ ahead, .finished (.init m) none ∈ firstEvents l b :=
  (firstEvents_course l b).started_init_iff (hidle.recorded_opened l).consistent.distinct
    htable

/-- The first pass begins behind the opening, and only there. -/
theorem first_begins {rest : List (Event S)} (hrest : ∀ m, .initializing m ∉ rest) {count : Nat}
    {pre post : List (Event S)}
    (heq : openingEvents l b ++ (firstEvents l b ++ rest) = pre ++ .initializing count :: post) :
    pre = openingEvents l b ∧ firstEvents l b ++ rest = .initializing count :: post := by
  have hopening : .initializing count ∉ openingEvents l b :=
    not_mem_of_leaves (hidle.openingEvents_leaves l) rfl
  obtain ⟨m, others, hfirst, hothers⟩ := firstEvents_eq_cons l b
  have hbehind : .initializing count ∉ others ++ rest := by
    intro hmem
    rcases List.mem_append.1 hmem with hmem | hmem
    · exact hothers count hmem
    · exact hrest count hmem
  rw [hfirst, List.cons_append] at heq ⊢
  obtain ⟨hpre, hbegin, hpost⟩ := (List.append_cons_inj_of_notMem hopening hbehind).1 heq
  exact ⟨hpre.symm, by rw [hbegin, hpost]⟩

/-- The first pass comes to the registrations whose `init` it calls. -/
theorem reachedFirst_iff {accumulates : Bool} {h : List (Event S)}
    (enrolled : Enrolled accumulates h b) {rest : List (Event S)}
    (hrest : ∀ m, .initializing m ∉ rest)
    (hanswer : rest = [] ∨ ((firstPass l).run (opened l b)).answer = .ok ()) {n : Nat} :
    ReachedFirst accumulates h (openingEvents l b ++ (firstEvents l b ++ rest)) n ↔
      .started (.init n) ∈ firstEvents l b := by
  have htable : (tableOf accumulates (h ++ openingEvents l b)).registrations.map (·.serial) =
      (opened l b).table.registrations.map (·.serial) := by
    rw [← (enrolled_opened enrolled l).table_eq, Table.serials_bare]
  constructor
  · rintro ⟨pre, post, count, ahead, behind, heq, hserials, hreturned⟩
    obtain ⟨rfl, hbegin⟩ := hidle.first_begins l hrest heq
    rw [htable] at hserials
    refine (hidle.started_first_iff l hserials).2 fun m hm => ?_
    rcases hanswer with rfl | hok
    · have hmem := List.mem_cons_of_mem (.initializing count) (hreturned m hm)
      rwa [← hbegin, List.append_nil] at hmem
    · -- a pass that ended made all its calls, and they returned
      have course := firstEvents_course l b
      rw [hok] at course
      have hplan : .init m ∈ (opened l b).table.registrations.map fun r => Call.init r.serial := by
        rw [mem_map_call fun _ _ => Call.init.inj, hserials]
        exact List.mem_append_left _ hm
      exact finished_mem_marks.1 ((course.returned_sublist hplan).subset
        (List.mem_cons_of_mem _ List.mem_cons_self))
  · intro hstarted
    have hplan := (firstEvents_course l b).mem_of_started (started_mem_marks.2 hstarted)
    rw [mem_map_call fun _ _ => Call.init.inj] at hplan
    obtain ⟨ahead, behind, hserials⟩ := List.append_of_mem hplan
    obtain ⟨count, others, hfirst, -⟩ := firstEvents_eq_cons l b
    refine ⟨openingEvents l b, others ++ rest, count, ahead, behind, ?_, ?_, ?_⟩
    · rw [hfirst, List.cons_append]
    · rw [htable, hserials]
    · intro m hm
      have hmem := (hidle.started_first_iff l hserials).1 hstarted m hm
      rw [hfirst] at hmem
      exact List.mem_append_left _ ((List.mem_cons.1 hmem).resolve_left (by simp))

/-- A due registration whose `init` the late pass calls is due under the kind that the history tells
of. -/
theorem mem_due_of_started {accumulates : Bool} {h es : List (Event S)} {c : Builder S}
    (enrolled : Enrolled accumulates (h ++ es) c)
    (hes : openingEvents l b ++ firstEvents l b <+ es) {n : Nat} {kind : ConfigurerKind}
    (hmade : .registered n kind ∈ h ++ es) (hstarted : .started (.init n) ∈ lateEvents l b) :
    (n, kind) ∈ (queued l b).due := by
  obtain ⟨answer, course, -⟩ := lateEvents_course l b
  obtain ⟨r, hr, hserial⟩ := List.mem_map.1 (course.mem_of_started (started_mem_marks.2 hstarted))
  obtain rfl := Call.init.inj hserial
  have hdue : (r.serial, S.kind r.configurer) ∈ (queued l b).due := List.mem_map.2 ⟨r, hr, rfl⟩
  have hown := hdue
  rw [hidle.due_queued l] at hown
  have hmem := List.mem_append_right h (hes.subset (mem_pending hown))
  rwa [enrolled.kind_unique hmade hmem] at hdue

/-- A build calls the `init` of a registration exactly when one of the passes comes to it. -/
theorem started_init_iff {accumulates : Bool} {h es : List (Event S)} {c : Builder S}
    (enrolled : Enrolled accumulates h b) (hes : Progress l b es)
    (hlater : Enrolled accumulates (h ++ es) c) {n : Nat} {kind : ConfigurerKind}
    (hmade : .registered n kind ∈ h ++ es) :
    .started (.init n) ∈ es ↔ ReachedFirst accumulates h es n ∨ ReachedLate es n kind := by
  have hopening : .started (.init n) ∉ openingEvents l b :=
    not_mem_of_leaves (hidle.openingEvents_leaves l) rfl
  have hnotLate := hidle.initializingLate_not_mem_front l
  cases hes with
  | opening =>
    constructor
    · intro hstarted
      exact absurd hstarted hopening
    · rintro (⟨pre, post, count, -, -, heq, -⟩ | hreached)
      · have hmem : .initializing count ∈ openingEvents l b := by
          rw [heq]
          exact List.mem_append_right _ List.mem_cons_self
        exact absurd hmem (not_mem_of_leaves (hidle.openingEvents_leaves l) rfl)
      · obtain ⟨count, hmem⟩ := hreached.mem
        exact absurd (List.mem_append_left _ hmem) (hnotLate count)
  | first =>
    have hfirst : ReachedFirst accumulates h (openingEvents l b ++ (firstEvents l b ++ [])) n ↔
        .started (.init n) ∈ firstEvents l b :=
      hidle.reachedFirst_iff l enrolled (by simp) (.inl rfl)
    rw [List.append_nil] at hfirst
    rw [hfirst]
    constructor
    · intro hstarted
      exact .inl ((List.mem_append.1 hstarted).resolve_left hopening)
    · rintro (hstarted | hreached)
      · exact List.mem_append_right _ hstarted
      · obtain ⟨count, hmem⟩ := hreached.mem
        exact absurd hmem (hnotLate count)
  | late tail _ hanswer htail =>
    have hclosing := hidle.tail_leftBy l htail
    have hrest : ∀ m, .initializing m ∉ lateEvents l b ++ tail := by
      intro m hmem
      rcases List.mem_append.1 hmem with hmem | hmem
      · exact not_mem_of_leaves (hidle.lateEvents_leaves l) rfl hmem
      · exact hclosing.not_mem rfl hmem
    rw [hidle.reachedFirst_iff l enrolled hrest (.inr hanswer), hidle.reachedLate_iff l hclosing]
    have hfront : openingEvents l b ++ firstEvents l b <+
        openingEvents l b ++ (firstEvents l b ++ (lateEvents l b ++ tail)) :=
      (List.Sublist.refl _).append (List.sublist_append_left _ _)
    constructor
    · intro hstarted
      have hbehind := (List.mem_append.1 hstarted).resolve_left hopening
      rcases List.mem_append.1 hbehind with hfirst | hbehind
      · exact .inl hfirst
      · have hlate := (List.mem_append.1 hbehind).resolve_right (hclosing.not_mem rfl)
        exact .inr ⟨hidle.mem_due_of_started l hlater hfront hmade hlate, hlate⟩
    · rintro (hfirst | ⟨-, hlate⟩)
      · exact List.mem_append_right _ (List.mem_append_left _ hfirst)
      · exact List.mem_append_right _ (List.mem_append_right _ (List.mem_append_left _ hlate))

/-! ## What is configured -/

/-- A replaced registration is not configured. -/
theorem not_configured_of_replaced {h es : List (Event S)} (enrolled : Enrolled false h b)
    (hes : Progress l b es) {n m : Nat} {kind : ConfigurerKind}
    (hreplaced : [.registered n kind, .registered m kind] <+ h ++ es) :
    .started (.configure n) ∉ es := by
  intro hmem
  obtain ⟨front, tail, rfl, hfront, htail⟩ := hidle.progress_split l hes
  have hclosing := (List.mem_append.1 hmem).resolve_left (hfront.not_mem rfl)
  rcases htail with rfl | ⟨rfl, rfl, -, -⟩
  · exact absurd hclosing List.not_mem_nil
  obtain ⟨before, after, hsplit⟩ := List.append_of_mem hclosing
  obtain ⟨-, r, hr, rfl⟩ := hidle.configure_in_ending l (closing_ending l b) hsplit
  -- what is configured stood in the table at the end of the initializing state
  have hserial : r.serial ∈ (initialized l b).table.registrations.map (·.serial) :=
    List.mem_map.2 ⟨r, (hidle.prepared_sublist l).subset hr, rfl⟩
  have hnot : .registered m kind ∉ closingEvents l b :=
    (hidle.closingEvents_leftBy l).not_mem rfl
  rw [← List.append_assoc, pair_sublist_append_left hnot] at hreplaced
  have hlater := enrolled_initialized enrolled l
  have hmade := hreplaced.subset List.mem_cons_self
  have hconsistent := (hidle.recorded_initialized l).consistent
  exact ((hlater.mem_table_iff_of_made hconsistent hmade).1 hserial).1 m hreplaced

/-- A build that succeeds calls `configure` for what its configuring pass finds in the table. -/
theorem configured_iff {p : Produced S.Object} (hp : ((runLifecycle l).run b).answer = .ok p)
    (n : Nat) :
    .started (.configure n) ∈ ((runLifecycle l).run b).events ↔
      n ∈ (prepared l b).table.registrations.map (·.serial) := by
  rw [← mem_calls, ← List.count_pos_iff, hidle.count_configure l hp n]
  split
  · next hmem => simp [hmem]
  · next hmem => simp [hmem]

/-- Without removals of its own, a build that succeeds configures what was neither replaced nor
removed. -/
theorem configured_iff_of_made {h : List (Event S)} (enrolled : Enrolled false h b)
    {p : Produced S.Object} (hp : ((runLifecycle l).run b).answer = .ok p)
    (hremoved : ∀ k, .removed k ∉ ((runLifecycle l).run b).events) {n : Nat}
    {kind : ConfigurerKind} (hmade : .registered n kind ∈ h ++ ((runLifecycle l).run b).events) :
    .started (.configure n) ∈ ((runLifecycle l).run b).events ↔
      (∀ m, ¬ [.registered n kind, .registered m kind] <+ h ++ ((runLifecycle l).run b).events) ∧
        ¬ [.registered n kind, .removed kind] <+ h := by
  rw [hidle.configured_iff l hp]
  -- the table is that of the beginning of the configuring pass
  have hsplit : ((runLifecycle l).run b).events =
      (openingEvents l b ++ (firstEvents l b ++ (lateEvents l b ++ turningEvents l b))) ++
        (configuringEvents l b ++ productionEvents l b) := by
    rw [(events_of_succeeded l b hp).1]
    simp only [List.append_assoc]
  have hbehind : ∀ m, .registered m kind ∉ configuringEvents l b ++ productionEvents l b := by
    intro m hmem
    rcases List.mem_append.1 hmem with hmem | hmem
    · exact not_mem_of_leaves (hidle.configuringEvents_leaves l) rfl hmem
    · exact not_mem_of_leaves (hidle.productionEvents_leaves l) rfl hmem
  rw [hsplit, ← List.append_assoc] at hmade ⊢
  rw [hsplit] at hremoved
  have hunremoved : .removed kind ∉
      openingEvents l b ++ (firstEvents l b ++ (lateEvents l b ++ turningEvents l b)) :=
    fun hmem => hremoved kind (List.mem_append_left _ hmem)
  have hconsistent : (prepared l b).Consistent :=
    (turning_path l _ (hidle.initialized_state l)).consistent
      ((hidle.recorded_initialized l).consistent.congr rfl rfl rfl)
  have htable := (enrolled_prepared enrolled l).mem_table_iff_of_made hconsistent
    ((List.mem_append.1 hmade).resolve_right (hbehind n))
  rw [pair_sublist_append_left hunremoved] at htable
  simp only [htable, pair_sublist_append_left (hbehind _)]

end Idle

/-- Where configurers replace each other, a build calls the `init` of a registration exactly when
one of its passes comes to it, also when the registration was replaced before. A replaced
registration is not configured; and a build that succeeds without removals of its own configures
every registration that was neither replaced nor removed. The first history is the one before the
build. -/
theorem replaced_still_initialized (l : Lifecycle S) (t : S.Target) (w : S.World)
    (ops : List (Operation S)) (n : Nat) (kind : ConfigurerKind)
    (hmade : .registered n kind ∈
      (create t false w).history ops ++ ((build l).run ((create t false w).after ops)).events) :
    (.started (.init n) ∈ ((build l).run ((create t false w).after ops)).events ↔
      ReachedFirst false ((create t false w).history ops)
          ((build l).run ((create t false w).after ops)).events n ∨
        ReachedLate ((build l).run ((create t false w).after ops)).events n kind) ∧
    (∀ m, [.registered n kind, .registered m kind] <+
        (create t false w).history ops ++ ((build l).run ((create t false w).after ops)).events →
      .started (.configure n) ∉ ((build l).run ((create t false w).after ops)).events) ∧
    (∀ p, ((create t false w).after ops).state = .unbuilt →
      ((build l).run ((create t false w).after ops)).answer = .ok p →
      (∀ k, .removed k ∉ ((build l).run ((create t false w).after ops)).events) →
      (.started (.configure n) ∈ ((build l).run ((create t false w).after ops)).events ↔
        (∀ m, ¬ [.registered n kind, .registered m kind] <+
          (create t false w).history ops ++
            ((build l).run ((create t false w).after ops)).events) ∧
        ¬ [.registered n kind, .removed kind] <+ (create t false w).history ops)) := by
  have hsettled := (settled_create t false w).after ops
  have enrolled := enrolled_after t false w ops
  generalize (create t false w).history ops = h at enrolled hmade
  generalize (create t false w).after ops = b at hsettled enrolled hmade
  by_cases hb : b.state = .unbuilt
  · have hidle := hsettled.idle hb
    have hprogress := runLifecycle_progress l b
    rw [build_run_unbuilt l hb] at hmade ⊢
    refine ⟨?_, ?_, ?_⟩
    · have hlater := (travels_runLifecycle l b).enrolled enrolled
      exact hidle.started_init_iff l enrolled hprogress hlater hmade
    · intro m hreplaced
      exact hidle.not_configured_of_replaced l enrolled hprogress hreplaced
    · intro p _ hp hremoved
      exact hidle.configured_iff_of_made l enrolled hp hremoved hmade
  · -- a build that began before does nothing
    rw [(build_run_begun l hb).1]
    refine ⟨⟨fun hmem => absurd hmem List.not_mem_nil, ?_⟩, fun _ _ => List.not_mem_nil, ?_⟩
    · rintro (⟨pre, post, count, -, -, heq, -⟩ | hreached)
      · exact absurd heq (by simp)
      · obtain ⟨count, hmem⟩ := hreached.mem
        exact absurd hmem List.not_mem_nil
    · intro p hunbuilt
      exact absurd hunbuilt hb

/-- The `init` of `alpha` registers `beta` twice. -/
def doubling : Lifecycle Sample.signature :=
  Sample.lifecycle (.done ()) fun
    | .alpha => .register Sample.beta fun _ => .register Sample.beta fun _ => .done ()
    | _ => .done ()

/-- The first of the two is replaced before its turn and initialized all the same; the second is
configured. -/
theorem replaced_before_its_turn :
    .started (.init 1) ∈
      ((build doubling).run ((create () false ()).after [.register Sample.alpha])).events ∧
    .started (.configure 1) ∉
      ((build doubling).run ((create () false ()).after [.register Sample.alpha])).events ∧
    .started (.configure 2) ∈
      ((build doubling).run ((create () false ()).after [.register Sample.alpha])).events := by
  let front : List (Event Sample.signature) :=
    [.moved .unbuilt .initializing, .started .beforeInit, .finished .beforeInit none,
      .initializing 1, .started (.init 0), .registered 1 Sample.beta.kind,
      .registeredLate Sample.beta.kind]
  let behind : List (Event Sample.signature) :=
    [.started (.init 1), .finished (.init 1) none, .started (.init 2), .finished (.init 2) none,
      .moved .initializing .configuring, .started .beforeConfigure,
      .finished .beforeConfigure none, .configuring 2, .started (.configure 0),
      .finished (.configure 0) none, .started (.configure 2), .finished (.configure 2) none,
      .moved .configuring .building, .started .performBuild, .finished .performBuild none,
      .moved .building .built]
  have hbuild :
      ((build doubling).run ((create () false ()).after [.register Sample.alpha])).events =
        front ++ .registered 2 Sample.beta.kind :: .registeredLate Sample.beta.kind ::
          .finished (.init 0) none :: .initializingLate 2 :: behind := rfl
  have hall : (create () false ()).history [.register Sample.alpha] ++
      ((build doubling).run ((create () false ()).after [.register Sample.alpha])).events =
        (.registered 0 Sample.alpha.kind :: front) ++ .registered 2 Sample.beta.kind ::
          .registeredLate Sample.beta.kind :: .finished (.init 0) none :: .initializingLate 2 ::
          behind := rfl
  have enrolled := (build_passage doubling _).enrolled
    (enrolled_after () false () [.register Sample.alpha])
  -- the first of the two
  have hfirst : (create () false ()).history [.register Sample.alpha] ++
      ((build doubling).run ((create () false ()).after [.register Sample.alpha])).events =
        (.registered 0 Sample.alpha.kind :: front.take 5) ++ .registered 1 Sample.beta.kind ::
          .registeredLate Sample.beta.kind :: .registered 2 Sample.beta.kind ::
          .registeredLate Sample.beta.kind :: .finished (.init 0) none :: .initializingLate 2 ::
          behind := rfl
  have hreached : ReachedLate
      ((build doubling).run ((create () false ()).after [.register Sample.alpha])).events 1
      Sample.beta.kind :=
    ⟨front ++ [.registered 2 Sample.beta.kind, .registeredLate Sample.beta.kind,
      .finished (.init 0) none], behind, 2, [], [(2, Sample.beta.kind)], hbuild, rfl,
      fun r hr => absurd hr List.not_mem_nil⟩
  obtain ⟨hinit, hconfigure, -⟩ := replaced_still_initialized doubling () ()
    [.register Sample.alpha] 1 Sample.beta.kind (by rw [hfirst]; simp)
  have hreplaced := (enrolled.pair_sublist_iff hfirst).2
    (List.mem_cons_of_mem _ List.mem_cons_self)
  -- the second of the two
  obtain ⟨-, -, hkept⟩ := replaced_still_initialized doubling () ()
    [.register Sample.alpha] 2 Sample.beta.kind (by rw [hall]; simp)
  have hremoved : ∀ k, .removed k ∉
      ((build doubling).run ((create () false ()).after [.register Sample.alpha])).events := by
    rw [hbuild]
    simp [front, behind]
  refine ⟨hinit.2 (.inr hreached), hconfigure 2 hreplaced, ?_⟩
  refine (hkept ⟨0, ()⟩ rfl rfl hremoved).2 ⟨fun m hsub => ?_, fun hsub => ?_⟩
  · have hmem := (enrolled.pair_sublist_iff hall).1 hsub
    simp [behind] at hmem
  · exact absurd hsub.length_le (by decide)

end Builder

end AuthChain.Build
