import AuthChain.Proofs.Build.Configuring
import AuthChain.Proofs.Build.Initializing

/-!
# Removing what was registered during a build

A registration that some `init` call makes and whose kind is removed while the build initializes.
Main statement: the registration is never configured, and it is initialized exactly when its kind is
removed during the late pass, too late to be taken out of what the pass initializes, and the pass
comes to it (`Builder.removed_while_initializing`).
-/

namespace AuthChain.Build

open scoped List

variable {S : Signature}

namespace Builder

namespace Idle

variable {b : Builder S} (h : b.Idle) (l : Lifecycle S)

include h

theorem registered_behind_opening {es : List (Event S)} {n count : Nat} {kind : ConfigurerKind}
    (hsub : [.initializing count, .registered n kind] <+ openingEvents l b ++ es) :
    .registered n kind ∈ es := by
  have hopening : .initializing count ∉ openingEvents l b :=
    not_mem_of_leaves (h.openingEvents_leaves l) rfl
  have hbehind := (pair_sublist_append_right hopening).1 hsub
  exact hbehind.subset (List.mem_cons_of_mem _ List.mem_cons_self)

omit h in
/-- The numbers of registrations that `init` calls make are issued behind the opening. -/
theorem serial_of_registered {tail : List (Event S)}
    (htail : LeftBy Stage.isClosing tail) {n : Nat}
    {kind : ConfigurerKind}
    (hmem : .registered n kind ∈ firstEvents l b ++ (lateEvents l b ++ tail)) :
    (.registered n kind ∈ firstEvents l b ∧ (opened l b).nextSerial ≤ n) ∨
      (queued l b).nextSerial ≤ n := by
  have hclosing : .registered n kind ∉ tail := htail.not_mem rfl
  rcases List.mem_append.1 hmem with hmem | hmem
  · exact Or.inl ⟨hmem, (firstPass_path l _).serial_le hmem⟩
  · rcases List.mem_append.1 hmem with hmem | hmem
    · exact Or.inr ((latePass_path l _).serial_le hmem)
    · exact absurd hmem hclosing

/-- The first pass does not come to a registration that an `init` call makes. -/
theorem started_not_mem_first {n : Nat} (hn : (opened l b).nextSerial ≤ n) :
    .started (.init n) ∉ firstEvents l b := by
  intro hmem
  -- the first pass goes over the table as the opening left it
  have hplan := (firstEvents_course l b).mem_of_started (started_mem_marks.2 hmem)
  obtain ⟨r, hr, hserial⟩ := List.mem_map.1 hplan
  have hissued := (h.recorded_opened l).consistent.issued r (Or.inl hr)
  rw [Call.init.inj hserial] at hissued
  omega

/-- What the late pass initializes was registered by the first pass, and its kind was not removed
since. -/
theorem due_of_started {n : Nat} {kind : ConfigurerKind}
    (hregistered : (.registered n kind ∈ firstEvents l b ∧ (opened l b).nextSerial ≤ n) ∨
      (queued l b).nextSerial ≤ n)
    (hstarted : .started (.init n) ∈ lateEvents l b) :
    (n, kind) ∈ (queued l b).due ∧
      ¬ [.registered n kind, .removed kind] <+ openingEvents l b ++ firstEvents l b := by
  obtain ⟨answer, course, -⟩ := lateEvents_course l b
  obtain ⟨r, hr, hserial⟩ := List.mem_map.1 (course.mem_of_started (started_mem_marks.2 hstarted))
  obtain rfl := Call.init.inj hserial
  have recorded := h.recorded_queued l
  have hissued := recorded.consistent.issued r (Or.inr hr)
  -- a number that was due when the late pass began was not issued by it
  have hfirst : .registered r.serial kind ∈ firstEvents l b := by
    rcases hregistered with ⟨hmem, -⟩ | hle
    · exact hmem
    · omega
  have hkind := recorded.kind r.serial kind (List.mem_append_right _ hfirst) r (Or.inr hr) rfl
  refine ⟨List.mem_map.2 ⟨r, hr, by rw [hkind]⟩, fun hsub => ?_⟩
  exact recorded.gone r.serial kind hsub r (Or.inr hr) rfl

/-- A registration whose kind is removed while the build initializes is not configured. -/
theorem not_configured_of_removed {es pre post : List (Event S)} (hes : Progress l b es) {n : Nat}
    {kind : ConfigurerKind} (heq : es = pre ++ .removed kind :: post)
    (hregistered : .registered n kind ∈ pre)
    (hstage : .moved .initializing .configuring ∉ pre) : .started (.configure n) ∉ es := by
  intro hmem
  obtain ⟨front, tail, rfl, hfront, htail⟩ := h.progress_split l hes
  have hnot : .started (.configure n) ∉ front := hfront.not_mem rfl
  have hclosing := (List.mem_append.1 hmem).resolve_left hnot
  rcases htail with rfl | ⟨rfl, rfl, -, -⟩
  · exact absurd hclosing List.not_mem_nil
  obtain ⟨before, after, hsplit⟩ := List.append_of_mem hclosing
  obtain ⟨-, r, hr, rfl⟩ := h.configure_in_ending l (closing_ending l b) hsplit
  -- the removal lies before the move to the configuring state
  obtain ⟨rest, hrest⟩ := h.closingEvents_eq_cons l
  rw [hrest] at heq
  obtain ⟨mid, hmid⟩ := exists_of_append_cons_eq (by simp) hstage heq
  have recorded := h.recorded_initialized l
  rw [hmid] at recorded
  refine recorded.gone r.serial kind ?_ r (Or.inl ((h.prepared_sublist l).subset hr)) rfl
  exact (List.singleton_sublist.2 hregistered).append
    (List.singleton_sublist.2 List.mem_cons_self)

/-- When the late pass initializes a registration of an `init` call, a removal of its kind comes
behind the beginning of the pass. -/
theorem late_begun_of_removed {tail pre post : List (Event S)} (htail : LeftBy Stage.isClosing tail)
    {n count : Nat} {kind : ConfigurerKind}
    (heq : openingEvents l b ++ (firstEvents l b ++ (lateEvents l b ++ tail)) =
      pre ++ .removed kind :: post)
    (hsub : [.initializing count, .registered n kind] <+ pre)
    (hstarted : .started (.init n) ∈ lateEvents l b) :
    (∃ m, .initializingLate m ∈ pre) ∧ (n, kind) ∈ (queued l b).due := by
  have hpair : [.initializing count, .registered n kind] <+
      openingEvents l b ++ (firstEvents l b ++ (lateEvents l b ++ tail)) := by
    rw [heq]
    exact hsub.trans (List.sublist_append_left _ _)
  have hserial := serial_of_registered l htail (h.registered_behind_opening l hpair)
  obtain ⟨hdue, hgone⟩ := h.due_of_started l hserial hstarted
  obtain ⟨m, rest, hlate, -⟩ := lateEvents_eq_cons l (List.ne_nil_of_mem hdue)
  refine ⟨⟨m, Classical.byContradiction fun hpre => ?_⟩, hdue⟩
  -- a removal before the late pass takes the registration out of what is due
  rw [hlate, List.cons_append, ← List.append_assoc] at heq
  obtain ⟨mid, hmid⟩ := exists_of_append_cons_eq (by simp) hpre heq
  have hregistered : .registered n kind ∈ pre :=
    hsub.subset (List.mem_cons_of_mem _ List.mem_cons_self)
  apply hgone
  rw [hmid]
  exact (List.singleton_sublist.2 hregistered).append (List.singleton_sublist.2 List.mem_cons_self)

/-- A registration of an `init` call whose kind is removed is initialized exactly when the removal
is made in the late pass and this pass comes to the registration. -/
theorem started_iff_of_removed {es pre post : List (Event S)} (hes : Progress l b es)
    {n count : Nat} {kind : ConfigurerKind} (heq : es = pre ++ .removed kind :: post)
    (hsub : [.initializing count, .registered n kind] <+ pre) :
    .started (.init n) ∈ es ↔ (∃ m, .initializingLate m ∈ pre) ∧ ReachedLate es n kind := by
  have hopening : .started (.init n) ∉ openingEvents l b :=
    not_mem_of_leaves (h.openingEvents_leaves l) rfl
  have hpair : [.initializing count, .registered n kind] <+ es := by
    rw [heq]
    exact hsub.trans (List.sublist_append_left _ _)
  cases hes with
  | opening =>
    -- no `init` call is made in the opening, so none registers there
    have hmem := h.registered_behind_opening l (by rwa [List.append_nil])
    exact absurd hmem List.not_mem_nil
  | first =>
    -- there is no late pass, and the first one does not come to it
    have hmem := h.registered_behind_opening l hpair
    have hfirst := h.started_not_mem_first l ((firstPass_path l _).serial_le hmem)
    constructor
    · intro hstarted
      rcases List.mem_append.1 hstarted with hstarted | hstarted
      · exact absurd hstarted hopening
      · exact absurd hstarted hfirst
    · rintro ⟨-, hreached⟩
      obtain ⟨m, hlate⟩ := hreached.mem
      exact absurd hlate (h.initializingLate_not_mem_front l m)
  | late tail _ _ htail =>
    have hclosing := h.tail_leftBy l htail
    have hserial := serial_of_registered l hclosing (h.registered_behind_opening l hpair)
    have hissued : (opened l b).nextSerial ≤ n := by
      rcases hserial with ⟨-, hle⟩ | hle
      · exact hle
      · exact Nat.le_trans (firstPass_path l _).nextSerial_le hle
    have hfirst := h.started_not_mem_first l hissued
    rw [h.reachedLate_iff l hclosing]
    constructor
    · intro hstarted
      have hlate : .started (.init n) ∈ lateEvents l b := by
        have hbehind := (List.mem_append.1 hstarted).resolve_left hopening
        have hlate := (List.mem_append.1 hbehind).resolve_left hfirst
        exact (List.mem_append.1 hlate).resolve_right (hclosing.not_mem rfl)
      obtain ⟨hbegun, hdue⟩ := h.late_begun_of_removed l hclosing heq hsub hlate
      exact ⟨hbegun, hdue, hlate⟩
    · rintro ⟨-, -, hlate⟩
      exact List.mem_append_right _ (List.mem_append_right _ (List.mem_append_left _ hlate))

end Idle

/-- A registration that an `init` call makes and whose kind is removed while the build initializes
is never configured, and it is initialized exactly when the removal is made in the late pass and
this pass comes to the registration. -/
theorem removed_while_initializing (l : Lifecycle S) (t : S.Target) (accumulates : Bool)
    (w : S.World) (ops : List (Operation S)) (n count : Nat) (kind : ConfigurerKind)
    (pre post : List (Event S))
    (heq : ((build l).run ((create t accumulates w).after ops)).events =
      pre ++ .removed kind :: post)
    (hregistered : [.initializing count, .registered n kind] <+ pre)
    (hstage : .moved .initializing .configuring ∉ pre) :
    .started (.configure n) ∉ ((build l).run ((create t accumulates w).after ops)).events ∧
    (.started (.init n) ∈ ((build l).run ((create t accumulates w).after ops)).events ↔
      (∃ m, .initializingLate m ∈ pre) ∧
        ReachedLate ((build l).run ((create t accumulates w).after ops)).events n kind) := by
  have hsettled := (settled_create t accumulates w).after ops
  generalize (create t accumulates w).after ops = b at hsettled heq
  rcases hsettled.build_history l with hnil | ⟨hidle, hprogress⟩
  · rw [hnil] at heq
    exact absurd heq (by simp)
  · have hmem : .registered n kind ∈ pre :=
      hregistered.subset (List.mem_cons_of_mem _ List.mem_cons_self)
    exact ⟨hidle.not_configured_of_removed l hprogress heq hmem hstage,
      hidle.started_iff_of_removed l hprogress heq hregistered⟩

/-- The `init` of `alpha` registers `beta` and `gamma`, and the `init` of `beta` removes `gamma`. -/
def removing : Lifecycle Sample.signature :=
  Sample.lifecycle (.done ()) fun
    | .alpha => .register Sample.beta fun _ => .register Sample.gamma fun _ => .done ()
    | .beta => .removeConfigurers Sample.gamma.kind fun _ => .done ()
    | .gamma => .done ()

theorem removed_in_late_pass :
    ∃ pre post,
      ((build removing).run ((create () false ()).after [.register Sample.alpha])).events =
        pre ++ .removed Sample.gamma.kind :: post ∧
      [.initializing 1, .registered 2 Sample.gamma.kind] <+ pre ∧
      .moved .initializing .configuring ∉ pre ∧
      .started (.configure 2) ∉
        ((build removing).run ((create () false ()).after [.register Sample.alpha])).events ∧
      .started (.init 2) ∈
        ((build removing).run ((create () false ()).after [.register Sample.alpha])).events := by
  let front : List (Event Sample.signature) :=
    [.moved .unbuilt .initializing, .started .beforeInit, .finished .beforeInit none,
      .initializing 1, .started (.init 0), .registered 1 Sample.beta.kind,
      .registeredLate Sample.beta.kind, .registered 2 Sample.gamma.kind,
      .registeredLate Sample.gamma.kind, .finished (.init 0) none]
  have hevents : ∃ post,
      ((build removing).run ((create () false ()).after [.register Sample.alpha])).events =
        (front ++ [.initializingLate 2, .started (.init 1)]) ++
          .removed Sample.gamma.kind :: .finished (.init 1) none :: post := ⟨_, rfl⟩
  obtain ⟨post, heq⟩ := hevents
  have hregistered : [.initializing 1, .registered 2 Sample.gamma.kind] <+
      front ++ [.initializingLate 2, .started (.init 1)] :=
    .cons _ (.cons _ (.cons _ (.cons_cons _ (.cons _ (.cons _ (.cons _ (.cons_cons _
      (List.nil_sublist _))))))))
  have hstage : .moved .initializing .configuring ∉
      front ++ [.initializingLate 2, .started (.init 1)] := by
    simp [front]
  have hreached : ReachedLate
      ((build removing).run ((create () false ()).after [.register Sample.alpha])).events 2
      Sample.gamma.kind :=
    ⟨front, _, 2, [(1, Sample.beta.kind)], [], heq, rfl, by simp⟩
  obtain ⟨hconfigure, hinit⟩ :=
    removed_while_initializing removing () false () [.register Sample.alpha] 2 1
      Sample.gamma.kind _ _ heq hregistered hstage
  exact ⟨_, _, heq, hregistered, hstage, hconfigure, hinit.2 ⟨⟨2, by simp⟩, hreached⟩⟩

end Builder

end AuthChain.Build
