import AuthChain.Proofs.Build.Multimap
import AuthChain.Proofs.Build.Replacing

/-!
# Due registrations in the table

A registration of the initializing state is entered twice, into the table and among those whose
`init` is due, and the two are kept by different means: a later registration of its kind may replace
it in the table alone, a removal takes it out of both or does nothing, and the late pass takes what
is due and leaves the table.

Main statement: at every moment of its use a builder has a row for the kind of each due
registration; where configurers accumulate, the row holds the due registrations of the kind, in
their order, and they are its end (`Builder.due_registrations_are_tabled`). A removal that finds no
row has therefore nothing to take out from among the due registrations either.
-/

namespace AuthChain.Build

open scoped List

variable {S : Signature} {C : Type}

/-! ## Rows and kinds -/

theorem Table.contains_iff_mem_kinds {t : Table C} {kind : ConfigurerKind} :
    t.contains kind = true ↔ kind ∈ t.kinds := by
  simp [contains, kinds, List.any_eq_true]

theorem Table.mem_kinds_of_ofKind {t : Table C} {kind : ConfigurerKind} (h : t.ofKind kind ≠ []) :
    kind ∈ t.kinds := by
  unfold ofKind at h
  cases hrow : t.rows.lookup kind with
  | none => exact absurd (by rw [hrow]; rfl) h
  | some rs =>
    obtain ⟨front, back, hrows, -⟩ := List.lookup_eq_some_iff.1 hrow
    refine List.mem_map.2 ⟨(kind, rs), ?_, rfl⟩
    rw [hrows]
    exact List.mem_append_right _ List.mem_cons_self

theorem newest_concat (accumulates : Bool) (cs : List C) (c : C) :
    newest accumulates (cs ++ [c]) =
      (if accumulates then newest accumulates cs else []) ++ [c] := by
  cases accumulates with
  | true => rfl
  | false => simp [newest]

namespace Builder

/-! ## The due registrations of a kind -/

/-- The registrations of a kind whose `init` is due. -/
def dueOf (b : Builder S) (kind : ConfigurerKind) : List (Registration S.Configurer) :=
  b.late.filter fun r => S.kind r.configurer == kind

variable {b c : Builder S} {kind : ConfigurerKind}

theorem mem_dueOf {r : Registration S.Configurer} :
    r ∈ b.dueOf kind ↔ r ∈ b.late ∧ S.kind r.configurer = kind := by
  simp [dueOf]

theorem dueOf_of_late_eq_nil (h : b.late = []) (kind : ConfigurerKind) : b.dueOf kind = [] := by
  rw [dueOf, h, List.filter_nil]

/-- While the builder initializes, a registration is due behind the others of its kind. -/
theorem dueOf_enter (hb : b.state = .initializing) (c : S.Configurer) (kind : ConfigurerKind) :
    (b.enter c).dueOf kind =
      if kind = S.kind c then b.dueOf kind ++ [⟨b.nextSerial, c⟩] else b.dueOf kind := by
  have hlate : (b.enter c).late = b.late ++ [⟨b.nextSerial, c⟩] := by
    simp [enter, hb, State.isInitializing]
  rw [dueOf, hlate, List.filter_append]
  split
  · next hkind => rw [List.filter_cons_of_pos (by simp [hkind]), List.filter_nil, dueOf]
  · next hkind =>
    have hother : (S.kind c == kind) = false := by simpa using Ne.symm hkind
    rw [List.filter_cons_of_neg (by simp [hother]), List.filter_nil, List.append_nil, dueOf]

theorem dueOf_without (b : Builder S) (kind other : ConfigurerKind) :
    (b.without kind).dueOf other = if other = kind then [] else b.dueOf other := by
  unfold dueOf without
  rw [List.filter_filter]
  split
  · next h =>
    rw [List.filter_eq_nil_iff]
    intro r _
    simp [h]
  · next h =>
    apply List.filter_congr
    intro r _
    by_cases hr : S.kind r.configurer = other
    · simp [hr, h]
    · simp [hr]

/-! ## What every turn keeps -/

/-- Nothing is due before a build, and the row of a kind ends with the due registrations of the
kind or, where configurers replace each other, with the last of them. -/
structure Tabled (accumulates : Bool) (b : Builder S) : Prop where
  mode : b.accumulates = accumulates
  idle : b.state = .unbuilt → b.late = []
  latest : ∀ kind, newest accumulates (b.dueOf kind) <:+ b.table.ofKind kind

namespace Tabled

variable {accumulates : Bool}

theorem create (t : S.Target) (accumulates : Bool) (w : S.World) :
    Tabled accumulates (create t accumulates w) where
  mode := rfl
  idle _ := rfl
  latest kind := by cases accumulates <;> exact List.nil_suffix

theorem congr (h : Tabled accumulates b) (hmode : c.accumulates = b.accumulates)
    (hstate : c.state = b.state) (htable : c.table = b.table) (hlate : c.late = b.late) :
    Tabled accumulates c where
  mode := hmode.trans h.mode
  idle hc := hlate.trans (h.idle (hstate ▸ hc))
  latest kind := by
    rw [dueOf, hlate, htable]
    exact h.latest kind

/-- With nothing due the rows may be any. -/
theorem of_late_eq_nil (hmode : b.accumulates = accumulates) (hlate : b.late = []) :
    Tabled accumulates b where
  mode := hmode
  idle _ := hlate
  latest kind := by
    rw [dueOf_of_late_eq_nil hlate]
    cases accumulates <;> exact List.nil_suffix

theorem enter (h : Tabled accumulates b) (hopen : b.state.isConfigured = false)
    (c : S.Configurer) : Tabled accumulates (b.enter c) := by
  rcases (State.isConfigured_eq_false_iff _).1 hopen with hb | hb
  · -- before a build the registration enters the table only
    refine .of_late_eq_nil h.mode ?_
    rw [Builder.enter, hb]
    exact h.idle hb
  · refine ⟨h.mode, fun hunbuilt => absurd (hb.symm.trans hunbuilt) (by decide), fun kind => ?_⟩
    rw [dueOf_enter hb, ofKind_enter, h.mode]
    by_cases hkind : kind = S.kind c
    · rw [if_pos hkind, if_pos hkind, newest_concat, List.suffix_append_self_iff]
      split
      · exact h.latest kind
      · exact List.nil_suffix
    · rw [if_neg hkind, if_neg hkind]
      exact h.latest kind

theorem without (h : Tabled accumulates b) (kind : ConfigurerKind) :
    Tabled accumulates (b.without kind) := by
  refine ⟨h.mode, fun hb => ?_, fun other => ?_⟩
  · rw [Builder.without, h.idle hb]
    rfl
  · have hrow : (b.without kind).table.ofKind other = _ := Table.ofKind_erase b.table kind other
    rw [dueOf_without, hrow]
    by_cases hother : other = kind
    · rw [if_pos hother, if_pos hother]
      cases accumulates <;> exact List.nil_suffix
    · rw [if_neg hother, if_neg hother]
      exact h.latest other

theorem step (h : Tabled accumulates b) {e : List (Event S)} (step : Step b e c) :
    Tabled accumulates c := by
  cases step with
  | register c hopen => exact h.enter hopen c
  | remove kind => exact h.without kind
  | tell => exact h
  | _ => exact h.congr rfl rfl rfl rfl

theorem turn (h : Tabled accumulates b) {e : List (Event S)} (turn : Turn b e c) :
    Tabled accumulates c := by
  cases turn with
  | step step => exact h.step step
  | move s hs =>
    -- no state comes before the unbuilt one
    refine ⟨h.mode, fun hunbuilt => ?_, h.latest⟩
    have hrank := (State.canTransition_iff _ _).1 hs
    rw [show s = .unbuilt from hunbuilt] at hrank
    exact absurd hrank (Nat.succ_ne_zero _).symm
  | take => exact .of_late_eq_nil h.mode rfl
  | _ => exact h.congr rfl rfl rfl rfl

/-- Where something of a kind is due, the kind has a row. -/
theorem mem_kinds (h : Tabled accumulates b) {r : Registration S.Configurer} (hr : r ∈ b.late) :
    S.kind r.configurer ∈ b.table.kinds := by
  have hdue : b.dueOf (S.kind r.configurer) ≠ [] := List.ne_nil_of_mem (mem_dueOf.2 ⟨hr, rfl⟩)
  have hnewest : newest accumulates (b.dueOf (S.kind r.configurer)) ≠ [] := newest_ne_nil hdue
  exact Table.mem_kinds_of_ofKind fun hnil => hnewest (List.suffix_nil.1 (hnil ▸ h.latest _))

theorem dueOf_of_not_contains (h : Tabled accumulates b)
    (hkind : b.table.contains kind = false) : b.dueOf kind = [] := by
  rw [List.eq_nil_iff_forall_not_mem]
  intro r hr
  obtain ⟨hlate, rfl⟩ := mem_dueOf.1 hr
  rw [Table.contains_iff_mem_kinds.2 (h.mem_kinds hlate)] at hkind
  exact Bool.noConfusion hkind

end Tabled

/-! ## Every moment of every use -/

/-- How the due registrations of a builder stand in its table. -/
structure Covered (accumulates : Bool) (b : Builder S) : Prop where
  /-- The kind of every due registration is a kind of the table. -/
  listed : ∀ r ∈ b.late, S.kind r.configurer ∈ b.table.kinds
  /-- Where configurers accumulate, what is due of a kind stands in its row, in the same order. -/
  ordered : accumulates = true → ∀ kind, b.dueOf kind <+ b.table.ofKind kind
  /-- It is the end of the row; where configurers replace each other, only the last of it is. -/
  latest : ∀ kind, newest accumulates (b.dueOf kind) <:+ b.table.ofKind kind
  /-- A removal that finds no row changes nothing, and nothing of the kind is due. -/
  vacant : ∀ kind, b.table.contains kind = false →
    removeConfigurers kind b = ⟨[], [], b⟩ ∧ b.dueOf kind = []
  /-- A removal, whether it finds a row or not, leaves nothing of the kind, neither in the table nor
  due, and the rest as it is. -/
  removal : ∀ kind, (removeConfigurers kind b).state = b.without kind

theorem Tabled.covered {accumulates : Bool} (h : Tabled accumulates b) : Covered accumulates b where
  listed _ hr := h.mem_kinds hr
  ordered hmode kind := by
    subst hmode
    exact (h.latest kind).sublist
  latest := h.latest
  vacant kind hkind := by
    rw [removeConfigurers_apply, hkind]
    exact ⟨rfl, h.dueOf_of_not_contains hkind⟩
  removal kind := by
    refine removeConfigurers_state_of_due kind fun hkind r hr heq => ?_
    exact List.ne_nil_of_mem (mem_dueOf.2 ⟨hr, heq⟩) (h.dueOf_of_not_contains hkind)

/-- Whatever is done with a builder, by its owner or by the callbacks of its builds, its table
covers the due registrations at every moment: between two requests of a callback, between the
passes, and after builds that ended early. -/
theorem due_registrations_are_tabled (t : S.Target) (accumulates : Bool) (w : S.World) :
    (∀ (h : List (Event S)) (b : Builder S), Passage (create t accumulates w) h b →
      Covered accumulates b) ∧
    ∀ ops : List (Operation S), Covered accumulates ((create t accumulates w).after ops) := by
  have hmoments : ∀ (h : List (Event S)) (b : Builder S),
      Passage (create t accumulates w) h b → Covered accumulates b := by
    intro h b passage
    have htabled : Tabled accumulates b :=
      passage.invariant (P := fun _ b => Tabled accumulates b)
        (fun tabled turn => tabled.turn turn) (h := []) (.create t accumulates w)
    exact htabled.covered
  exact ⟨hmoments, fun ops => hmoments _ _ (after_passage _ ops)⟩

/-- Between the passes two registrations of one kind are due and stand in its row; a removal of a
kind without a row leaves them, and one of their kind leaves nothing due. -/
theorem two_due_registrations_share_a_row :
    let b := queued doubling ((create () true ()).after [.register Sample.alpha])
    b.dueOf Sample.beta.kind = [⟨1, Sample.beta⟩, ⟨2, Sample.beta⟩] ∧
      b.dueOf Sample.beta.kind <+ b.table.ofKind Sample.beta.kind ∧
      (removeConfigurers Sample.gamma.kind b).state = b ∧
      (removeConfigurers Sample.beta.kind b).state.late = [] := by
  intro b
  have passage := (after_passage (create () true ()) [.register Sample.alpha]).trans
    ((travels_opening doubling _).trans (travels_firstPass doubling _))
  obtain ⟨hmoments, -⟩ := due_registrations_are_tabled (S := Sample.signature) () true ()
  have covered : Covered true b := hmoments _ _ passage
  have hlate : b.late = [⟨1, Sample.beta⟩, ⟨2, Sample.beta⟩] := rfl
  have hrows : b.table.rows = [(Sample.alpha.kind, [⟨0, Sample.alpha⟩]),
      (Sample.beta.kind, [⟨1, Sample.beta⟩, ⟨2, Sample.beta⟩])] := rfl
  refine ⟨?_, covered.ordered rfl _, ?_, ?_⟩
  · rw [dueOf, hlate]
    rfl
  · have hgamma : b.table.contains Sample.gamma.kind = false := by
      rw [Table.contains, hrows]
      decide
    rw [(covered.vacant _ hgamma).1]
  · rw [covered.removal, Builder.without, hlate]
    rfl

end Builder

end AuthChain.Build
