import AuthChain.Proofs.Build.Enrolment
import AuthChain.Proofs.Build.Finality
import AuthChain.Proofs.Build.Halting

/-!
# The order in which configurers are called

Where configurers of the same kind accumulate, the table keeps the registrations of a kind together:
a build goes over them kind by kind (`byKind`). This is the order of registration exactly when no
kind is taken up again behind another one (`byKind_eq_self_iff`).

Main statement: a build without registrations and removals of its own calls the `init` of all
registrations that were made before, and then their `configure`, both kind by kind
(`Builder.called_kind_by_kind`).
-/

namespace AuthChain.Build

open scoped List

variable {S : Signature}

/-! ## Kind by kind -/

/-- Registrations kind by kind, the kinds in the order in which they first occur. -/
def byKind (rs : List (Nat × ConfigurerKind)) : List (Nat × ConfigurerKind) :=
  (rs.map (·.2)).eraseDups.flatMap fun kind => rs.filter (·.2 == kind)

/-- No kind is taken up again behind another one. -/
def Grouped (rs : List (Nat × ConfigurerKind)) : Prop :=
  ∀ x y z, [x, y, z] <+ rs → x.2 = z.2 → y.2 = x.2

theorem Grouped.sublist {rs qs : List (Nat × ConfigurerKind)} (grouped : Grouped rs)
    (hsub : qs <+ rs) : Grouped qs :=
  fun x y z h => grouped x y z (h.trans hsub)

theorem byKind_cons (x : Nat × ConfigurerKind) (rest : List (Nat × ConfigurerKind)) :
    byKind (x :: rest) =
      (x :: rest.filter (·.2 == x.2)) ++ byKind (rest.filter (·.2 != x.2)) := by
  have hkinds : (rest.map (·.2)).filter (fun k => !k == x.2) =
      (rest.filter (·.2 != x.2)).map (·.2) := by
    rw [List.filter_map]
    rfl
  have hfirst : (x :: rest).filter (·.2 == x.2) = x :: rest.filter (·.2 == x.2) :=
    List.filter_cons_of_pos (beq_self_eq_true x.2)
  unfold byKind
  rw [List.map_cons, List.eraseDups_cons, List.flatMap_cons, hkinds, hfirst]
  congr 1
  -- the kinds that are left are other kinds than that of `x`
  apply List.flatMap_congr
  intro kind hkind
  obtain ⟨y, hy, rfl⟩ := List.mem_map.1 (List.mem_eraseDups.1 hkind)
  have hne : y.2 ≠ x.2 := by simpa using (List.mem_filter.1 hy).2
  rw [List.filter_cons_of_neg (by simpa using fun h => hne h.symm), List.filter_filter]
  apply List.filter_congr
  intro z _
  by_cases hz : z.2 = y.2
  · simp [hz, hne]
  · simp [hz]

theorem mem_byKind {x : Nat × ConfigurerKind} {rs : List (Nat × ConfigurerKind)}
    (h : x ∈ byKind rs) : x ∈ rs := by
  obtain ⟨kind, -, hx⟩ := List.mem_flatMap.1 h
  exact (List.mem_filter.1 hx).1

/-- The first kind stands in front and does not come back. -/
theorem grouped_append {kind : ConfigurerKind} {front behind : List (Nat × ConfigurerKind)}
    (hfront : ∀ x ∈ front, x.2 = kind) (hbehind : ∀ x ∈ behind, x.2 ≠ kind)
    (grouped : Grouped behind) : Grouped (front ++ behind) := by
  intro x y z hsub hxz
  obtain ⟨l₁, l₂, heq, h₁, h₂⟩ := List.sublist_append_iff.1 hsub
  rcases l₁ with _ | ⟨a, l₁⟩
  · rw [List.nil_append] at heq
    exact grouped x y z (heq ▸ h₂) hxz
  rw [List.cons_append] at heq
  obtain ⟨rfl, htail⟩ := List.cons.inj heq
  have hx : x.2 = kind := hfront x (h₁.subset List.mem_cons_self)
  rcases List.eq_nil_or_concat l₂ with rfl | ⟨l, c, rfl⟩
  · rw [List.append_nil] at htail
    have hy : y ∈ x :: l₁ := by
      rw [← htail]
      simp
    exact (hfront y (h₁.subset hy)).trans hx.symm
  · -- the last of the three stands behind, so it is of another kind
    have hlast : z = c := by
      have hgetLast := congrArg List.getLast? htail
      simpa using hgetLast
    have hz : z ∈ behind := h₂.subset (by simp [hlast])
    exact absurd (hxz.symm.trans hx) (hbehind z hz)

theorem length_filter_lt (x : Nat × ConfigurerKind) (rest : List (Nat × ConfigurerKind)) :
    (rest.filter (·.2 != x.2)).length < (x :: rest).length :=
  Nat.lt_succ_of_le (List.length_filter_le _ rest)

theorem grouped_byKind : ∀ rs : List (Nat × ConfigurerKind), Grouped (byKind rs)
  | [] => fun _ _ _ hsub => absurd hsub.length_le (by simp [byKind])
  | x :: rest => by
    have hrest := grouped_byKind (rest.filter (·.2 != x.2))
    rw [byKind_cons]
    refine @grouped_append x.2 _ _ ?_ ?_ hrest
    · intro y hy
      rcases List.mem_cons.1 hy with rfl | hy
      · rfl
      · simpa using (List.mem_filter.1 hy).2
    · intro y hy
      simpa using (List.mem_filter.1 (mem_byKind hy)).2
termination_by rs => rs.length
decreasing_by exact length_filter_lt x rest

theorem Grouped.filter_append {x : Nat × ConfigurerKind} {rest : List (Nat × ConfigurerKind)}
    (grouped : Grouped (x :: rest)) :
    rest.filter (·.2 == x.2) ++ rest.filter (·.2 != x.2) = rest := by
  induction rest with
  | nil => rfl
  | cons y rest ih =>
    by_cases hy : y.2 = x.2
    · have hrest := ih (grouped.sublist (.cons_cons x (List.sublist_cons_self y rest)))
      rw [List.filter_cons_of_pos (by simpa using hy), List.filter_cons_of_neg (by simpa using hy),
        List.cons_append, hrest]
    · -- another kind follows, so that of `x` is over
      have hother : ∀ z ∈ y :: rest, z.2 ≠ x.2 := by
        intro z hz hzx
        rcases List.mem_cons.1 hz with rfl | hz
        · exact hy hzx
        · have hsub : [x, y, z] <+ x :: y :: rest :=
            .cons_cons x (.cons_cons y (List.singleton_sublist.2 hz))
          exact hy (grouped x y z hsub hzx.symm)
      rw [List.filter_eq_nil_iff.2 fun z hz => by simpa using hother z hz,
        List.filter_eq_self.2 fun z hz => by simpa using hother z hz, List.nil_append]

theorem Grouped.byKind_eq : ∀ {rs : List (Nat × ConfigurerKind)}, Grouped rs → byKind rs = rs
  | [], _ => rfl
  | x :: rest, grouped => by
    have hsub : rest.filter (·.2 != x.2) <+ x :: rest :=
      List.filter_sublist.trans (List.sublist_cons_self x rest)
    rw [byKind_cons, (grouped.sublist hsub).byKind_eq, List.cons_append, grouped.filter_append]
termination_by rs => rs.length
decreasing_by exact length_filter_lt x rest

/-- The order kind by kind is the given one exactly when no kind is taken up again. -/
theorem byKind_eq_self_iff (rs : List (Nat × ConfigurerKind)) : byKind rs = rs ↔ Grouped rs := by
  constructor
  · intro h
    rw [← h]
    exact grouped_byKind rs
  · exact Grouped.byKind_eq

/-! ## The table where configurers accumulate -/

theorem Table.registrations_eq_flatMap {C : Type} {t : Table C} (h : t.kinds.Nodup) :
    t.registrations = t.kinds.flatMap t.ofKind := by
  obtain ⟨rows⟩ := t
  induction rows with
  | nil => rfl
  | cons row rest ih =>
    obtain ⟨kind, rs⟩ := row
    obtain ⟨hkind, hrest⟩ := List.nodup_cons.1 h
    have hhead : ofKind ⟨(kind, rs) :: rest⟩ kind = rs := by
      rw [ofKind, lookup_row, if_pos rfl]
      rfl
    have hbehind : ∀ k ∈ kinds ⟨rest⟩, ofKind ⟨(kind, rs) :: rest⟩ k = ofKind ⟨rest⟩ k := by
      intro k hk
      have hne : k ≠ kind := fun heq => hkind (heq ▸ hk)
      rw [ofKind, lookup_row, if_neg hne]
      rfl
    show rs ++ registrations ⟨rest⟩ =
      ofKind ⟨(kind, rs) :: rest⟩ kind ++ (kinds ⟨rest⟩).flatMap _
    rw [hhead, ih hrest, List.flatMap_congr hbehind]

variable {h : List (Event S)}

theorem ofKind_tableOf (hremoved : ∀ kind, .removed kind ∉ h) (kind : ConfigurerKind) :
    (tableOf true h).ofKind kind = ((made h).filter (·.2 == kind)).map fun x => ⟨x.1, ()⟩ := by
  induction h using List.reverseRecOn with
  | nil => rfl
  | append_singleton h e ih =>
    have hbefore := ih fun k hk => hremoved k (List.mem_append_left _ hk)
    rw [tableOf_concat, made_append, List.filter_append, List.map_append, ← hbefore]
    cases e with
    | registered n k =>
      show ((tableOf true h).push k ⟨n, ()⟩).ofKind kind = _
      rw [Table.ofKind_push]
      by_cases hk : kind = k
      · simp [made, Event.registration?, hk]
      · have hne : ¬ k = kind := fun heq => hk heq.symm
        simp [made, Event.registration?, hk, hne]
    | removed k => exact absurd (List.mem_append_right _ List.mem_cons_self) (hremoved k)
    | _ => exact (List.append_nil _).symm

theorem kinds_tableOf (hremoved : ∀ kind, .removed kind ∉ h) :
    (tableOf true h).kinds = ((made h).map (·.2)).eraseDups := by
  induction h using List.reverseRecOn with
  | nil => rfl
  | append_singleton h e ih =>
    have hbefore := ih fun k hk => hremoved k (List.mem_append_left _ hk)
    rw [tableOf_concat, made_append, List.map_append]
    cases e with
    | registered n k =>
      show (Table.upsertRow k _ (tableOf true h).rows).map (·.1) = _
      have hmade : (made [(.registered n k : Event S)]).map (·.2) = [k] := rfl
      have hmem : k ∈ (tableOf true h).kinds ↔ k ∈ (made h).map (·.2) := by
        rw [hbefore, List.mem_eraseDups]
      -- the kind is new exactly when no registration of it was made before
      rw [Table.map_fst_upsertRow, hmade, eraseDups_concat, ← hbefore]
      exact if_congr hmem rfl rfl
    | removed k => exact absurd (List.mem_append_right _ List.mem_cons_self) (hremoved k)
    | _ =>
      show (tableOf true h).kinds = (_ ++ []).eraseDups
      rw [List.append_nil, hbefore]

/-- Where nothing was removed, the table lists the registrations kind by kind. -/
theorem serials_tableOf (hremoved : ∀ kind, .removed kind ∉ h) :
    (tableOf true h).registrations.map (·.serial) = (byKind (made h)).map (·.1) := by
  rw [Table.registrations_eq_flatMap (nodup_kinds_tableOf true h), kinds_tableOf hremoved, byKind,
    List.map_flatMap, List.map_flatMap]
  apply List.flatMap_congr
  intro kind _
  rw [ofKind_tableOf hremoved, List.map_map]
  rfl

theorem made_eq_nil {g : List (Event S)} (hg : ∀ n kind, .registered n kind ∉ g) : made g = [] := by
  refine List.filterMap_eq_nil_iff.2 fun e he => ?_
  cases e with
  | registered n kind => exact absurd he (hg n kind)
  | _ => rfl

/-- A builder on which nothing was removed, and nothing registered since. -/
theorem Enrolled.serials {g : List (Event S)} {b : Builder S} (enrolled : Enrolled true (h ++ g) b)
    (hremoved : ∀ kind, .removed kind ∉ h ++ g) (hregistered : ∀ n kind, .registered n kind ∉ g) :
    b.table.registrations.map (·.serial) = (byKind (made h)).map (·.1) := by
  rw [← Table.serials_bare, enrolled.table_eq, serials_tableOf hremoved, made_append,
    made_eq_nil hregistered, List.append_nil]

namespace Builder

/-! ## Builds without registrations of their own -/

theorem Idle.late_queued {b : Builder S} (hidle : b.Idle) (l : Lifecycle S)
    (hregistered : ∀ n kind, .registered n kind ∉ openingEvents l b ++ firstEvents l b) :
    (queued l b).late = [] := by
  have hdue := hidle.due_queued l
  have hpending : pending (openingEvents l b ++ firstEvents l b) = [] := by
    rw [List.eq_nil_iff_forall_not_mem]
    intro x hx
    exact hregistered x.1 x.2 (mem_pending hx)
  rw [hpending] at hdue
  exact List.map_eq_nil_iff.1 hdue

/-- The calls of the agenda when both passes find the same in the table and nothing becomes due. -/
theorem agenda_map_fst (l : Lifecycle S) (b : Builder S) {ns : List Nat}
    (hopened : (opened l b).table.registrations.map (·.serial) = ns)
    (hlate : (queued l b).late = [])
    (hprepared : (prepared l b).table.registrations.map (·.serial) = ns) :
    (agenda l b).map (·.1) =
      .beforeInit :: ns.map Call.init ++ .beforeConfigure :: ns.map Call.configure ++
        [.performBuild] := by
  have hinit : (initCalls l (opened l b).table.registrations).map (·.1) = ns.map Call.init := by
    rw [initCalls_map_fst, ← hopened, List.map_map]
    rfl
  have hconfigure : (configureCalls l (prepared l b).table.registrations).map (·.1) =
      ns.map Call.configure := by
    rw [configureCalls_map_fst, ← hprepared, List.map_map]
    rfl
  simp only [agenda, hlate, List.map_append, hinit, hconfigure]
  simp [initCalls]

theorem Idle.calls_of_enrolled {b : Builder S} (hidle : b.Idle) (l : Lifecycle S)
    {h : List (Event S)} (enrolled : Enrolled true h b) {p : Produced S.Object}
    (hp : ((runLifecycle l).run b).answer = .ok p)
    (hremoved : ∀ kind, .removed kind ∉ h ++ ((runLifecycle l).run b).events)
    (hregistered : ∀ n kind, .registered n kind ∉ ((runLifecycle l).run b).events) :
    calls ((runLifecycle l).run b).events =
      .beforeInit :: ((byKind (made h)).map (·.1)).map Call.init ++
        .beforeConfigure :: ((byKind (made h)).map (·.1)).map Call.configure ++
        [.performBuild] := by
  obtain ⟨hevents, -⟩ := events_of_succeeded l b hp
  have hmarks := ((hidle.runLifecycle_follows l).passed p hp).1
  rw [← calls_marks, hmarks, calls_returned]
  have hwithin : ∀ {g : List (Event S)}, g <+ ((runLifecycle l).run b).events →
      ∀ kind, .removed kind ∉ h ++ g := fun hsub kind hmem =>
    hremoved kind (((List.Sublist.refl h).append hsub).subset hmem)
  have hopening : openingEvents l b <+ ((runLifecycle l).run b).events := by
    rw [hevents]
    exact List.sublist_append_left _ _
  have hfirst : openingEvents l b ++ firstEvents l b <+ ((runLifecycle l).run b).events := by
    rw [hevents, ← List.append_assoc]
    exact List.sublist_append_left _ _
  have hturning : openingEvents l b ++ (firstEvents l b ++ (lateEvents l b ++ turningEvents l b)) <+
      ((runLifecycle l).run b).events := by
    rw [hevents]
    simp only [← List.append_assoc]
    exact (List.sublist_append_left _ _).trans (List.sublist_append_left _ _)
  -- both passes find what the history before the build tells of
  refine agenda_map_fst l b ?_ ?_ ?_
  · exact (enrolled_opened enrolled l).serials (hwithin hopening) fun n kind hmem =>
      hregistered n kind (hopening.subset hmem)
  · exact hidle.late_queued l fun n kind hmem => hregistered n kind (hfirst.subset hmem)
  · exact (enrolled_prepared enrolled l).serials (hwithin hturning) fun n kind hmem =>
      hregistered n kind (hturning.subset hmem)

/-- Where configurers accumulate, a build that succeeds without registrations and removals of its
own calls the `init` of all registrations that were made before, kind by kind, and then their
`configure` in the same order. That is the order of registration exactly when no kind is taken up
again behind another one. -/
theorem called_kind_by_kind (l : Lifecycle S) (t : S.Target) (w : S.World)
    (ops : List (Operation S)) (p : Produced S.Object)
    (hunbuilt : ((create t true w).after ops).state = .unbuilt)
    (hsucceeded : ((build l).run ((create t true w).after ops)).answer = .ok p)
    (hremoved : ∀ kind, .removed kind ∉
      (create t true w).history ops ++ ((build l).run ((create t true w).after ops)).events)
    (hregistered : ∀ n kind,
      .registered n kind ∉ ((build l).run ((create t true w).after ops)).events) :
    calls ((build l).run ((create t true w).after ops)).events =
      .beforeInit :: ((byKind (made ((create t true w).history ops))).map (·.1)).map Call.init ++
        .beforeConfigure ::
          ((byKind (made ((create t true w).history ops))).map (·.1)).map Call.configure ++
        [.performBuild] ∧
    (byKind (made ((create t true w).history ops)) = made ((create t true w).history ops) ↔
      Grouped (made ((create t true w).history ops))) := by
  have hidle := ((settled_create t true w).after ops).idle hunbuilt
  have enrolled := enrolled_after t true w ops
  rw [build_run_unbuilt l hunbuilt] at hsucceeded hremoved hregistered ⊢
  exact ⟨hidle.calls_of_enrolled l enrolled hsucceeded hremoved hregistered, byKind_eq_self_iff _⟩

/-- The kind of `alpha` is taken up again behind `beta`: the third registration is called before the
second. -/
theorem third_is_called_before_second :
    calls ((build harmless).run ((create () true ()).after
        [.register Sample.alpha, .register Sample.beta, .register Sample.alpha])).events =
      [.beforeInit, .init 0, .init 2, .init 1, .beforeConfigure, .configure 0, .configure 2,
        .configure 1, .performBuild] ∧
    ¬ Grouped (made ((create (S := Sample.signature) () true ()).history
      [.register Sample.alpha, .register Sample.beta, .register Sample.alpha])) := by
  let front : List (Event Sample.signature) :=
    [.registered 0 Sample.alpha.kind, .registered 1 Sample.beta.kind,
      .registered 2 Sample.alpha.kind]
  let built : List (Event Sample.signature) :=
    [.moved .unbuilt .initializing, .started .beforeInit, .finished .beforeInit none,
      .initializing 3, .started (.init 0), .finished (.init 0) none, .started (.init 2),
      .finished (.init 2) none, .started (.init 1), .finished (.init 1) none,
      .moved .initializing .configuring, .started .beforeConfigure,
      .finished .beforeConfigure none, .configuring 3, .started (.configure 0),
      .finished (.configure 0) none, .started (.configure 2), .finished (.configure 2) none,
      .started (.configure 1), .finished (.configure 1) none, .moved .configuring .building,
      .started .performBuild, .finished .performBuild none, .moved .building .built]
  have hfront : (create () true ()).history
      [.register Sample.alpha, .register Sample.beta, .register Sample.alpha] = front := rfl
  have hbuilt : ((build harmless).run ((create () true ()).after
      [.register Sample.alpha, .register Sample.beta, .register Sample.alpha])).events = built :=
    rfl
  obtain ⟨hcalls, hgrouped⟩ := called_kind_by_kind harmless () ()
    [.register Sample.alpha, .register Sample.beta, .register Sample.alpha] ⟨0, ()⟩ rfl rfl
    (by rw [hfront, hbuilt]; simp [front, built]) (by rw [hbuilt]; simp [built])
  refine ⟨hcalls, fun grouped => absurd (hgrouped.2 grouped) ?_⟩
  rw [hfront]
  decide

end Builder

end AuthChain.Build
