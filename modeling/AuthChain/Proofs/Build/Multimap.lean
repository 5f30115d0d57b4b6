import AuthChain.Proofs.Build.Lockout

/-!
# The table as an ordered multimap

At every moment of its use a builder has behind it a list of registrations that were accepted and of
removals (`Moment`). A registration stands while no removal of its kind follows it; where
configurers replace each other, a later one of its kind hides it without taking its place.

Main statement: the table lists the kinds in the order of their first standing registration, and for
each kind the standing registrations or, where configurers replace each other, the latest of them;
a removal answers with just these and leaves the other rows as they are
(`Builder.table_is_multimap`).
-/

namespace AuthChain.Build

variable {S : Signature} {α C K : Type}

/-! ## Registrations that stand -/

theorem eraseDups_filter [DecidableEq K] (p : K → Bool) (ks : List K) :
    (ks.filter p).eraseDups = ks.eraseDups.filter p := by
  induction ks using List.reverseRecOn with
  | nil => rfl
  | append_singleton ks k ih =>
    rw [List.filter_append, eraseDups_concat]
    cases hk : p k with
    | false =>
      rw [List.filter_cons_of_neg (by simp [hk]), List.filter_nil, List.append_nil, ih]
      split
      · rfl
      · rw [List.filter_append, List.filter_cons_of_neg (by simp [hk]), List.filter_nil,
          List.append_nil]
    | true =>
      rw [List.filter_cons_of_pos hk, List.filter_nil, eraseDups_concat, ih]
      by_cases hmem : k ∈ ks
      · rw [if_pos hmem, if_pos (List.mem_filter.2 ⟨hmem, hk⟩)]
      · rw [if_neg hmem, if_neg fun h => hmem (List.mem_filter.1 h).1, List.filter_append,
          List.filter_cons_of_pos hk, List.filter_nil]

/-- The configurers whose registration no later removal of their kind undoes, in the order of
registration. -/
def standing (ds : List (Preparation S.Configurer)) : List S.Configurer :=
  Preparation.surviving S.kind true ds

/-- All of them where configurers accumulate, and else the last one. -/
def newest (accumulates : Bool) (cs : List C) : List C :=
  if accumulates then cs else cs.getLast?.toList

theorem standing_register (ds : List (Preparation S.Configurer)) (c : S.Configurer) :
    standing (ds ++ [.register c]) = standing ds ++ [c] := by
  have hall : (Preparation.surviving S.kind true ds).filter
      (fun d => !(Preparation.register c).undoes S.kind true (S.kind d)) =
        Preparation.surviving S.kind true ds :=
    List.filter_eq_self.2 fun _ _ => rfl
  rw [standing, Preparation.surviving_concat, hall]
  rfl

theorem standing_removeConfigurers (ds : List (Preparation S.Configurer)) (kind : ConfigurerKind) :
    standing (ds ++ [.removeConfigurers kind]) =
      (standing ds).filter fun c => S.kind c != kind := by
  rw [standing, Preparation.surviving_concat]
  show _ ++ [] = _
  rw [List.append_nil]
  apply List.filter_congr
  intro c _
  show (!(kind == S.kind c)) = !(S.kind c == kind)
  rw [Bool.beq_comm]

/-! ## What registrations and removals do to the table -/

namespace Table

variable {kindOf : C → ConfigurerKind} {t : Table C}

/-- The row of a kind is the only one of its kind. -/
theorem ofKind_of_mem_rows (hnodup : t.kinds.Nodup) {row : ConfigurerKind × List (Registration C)}
    (hrow : row ∈ t.rows) : t.ofKind row.1 = row.2 := by
  obtain ⟨rows⟩ := t
  induction rows with
  | nil => exact absurd hrow List.not_mem_nil
  | cons first rest ih =>
    obtain ⟨hfirst, hrest⟩ := List.nodup_cons.1 hnodup
    unfold ofKind at ih ⊢
    rw [lookup_row]
    -- a later row has another kind than the first, as the kinds are distinct
    rcases List.mem_cons.1 hrow with rfl | hrow
    · rw [if_pos rfl]
      rfl
    · have hne : row.1 ≠ first.1 := fun heq => hfirst (List.mem_map.2 ⟨row, hrow, heq⟩)
      rw [if_neg hne]
      exact ih hrest hrow

end Table

namespace Builder

/-- The table holds what stands of the registrations. -/
structure Filed (accumulates : Bool) (ds : List (Preparation S.Configurer)) (b : Builder S) :
    Prop where
  mode : b.accumulates = accumulates
  orderly : b.table.Orderly S.kind
  kinds : b.table.kinds = ((standing ds).map S.kind).eraseDups
  configurers : ∀ kind,
    b.configurers kind = newest accumulates ((standing ds).filter (S.kind · == kind))

namespace Filed

variable {accumulates : Bool} {ds : List (Preparation S.Configurer)} {b b' : Builder S}

theorem create (t : S.Target) (accumulates : Bool) (w : S.World) :
    Filed accumulates [] (create t accumulates w) := by
  refine ⟨rfl, .empty, rfl, fun kind => ?_⟩
  cases accumulates <;> rfl

theorem congr (filed : Filed accumulates ds b) (htable : b'.table = b.table)
    (hmode : b'.accumulates = b.accumulates) : Filed accumulates ds b' := by
  refine ⟨hmode.trans filed.mode, ?_, ?_, fun kind => ?_⟩
  · rw [htable]
    exact filed.orderly
  · rw [htable]
    exact filed.kinds
  · rw [← filed.configurers kind, Builder.configurers, htable]
    rfl

theorem enter (filed : Filed accumulates ds b) (c : S.Configurer) :
    Filed accumulates (ds ++ [.register c]) (b.enter c) := by
  refine ⟨filed.mode, ?_, ?_, fun kind => ?_⟩
  · rw [enter_table]
    split
    · exact filed.orderly.push ⟨b.nextSerial, c⟩
    · exact filed.orderly.replace ⟨b.nextSerial, c⟩
  · have hmem : S.kind c ∈ b.table.kinds ↔ S.kind c ∈ (standing ds).map S.kind := by
      rw [filed.kinds, List.mem_eraseDups]
    have hkinds : (b.enter c).table.kinds =
        if S.kind c ∈ b.table.kinds then b.table.kinds else b.table.kinds ++ [S.kind c] := by
      rw [enter_table]
      split
      · exact Table.map_fst_upsertRow _ _ _
      · exact Table.map_fst_upsertRow _ _ _
    rw [hkinds, standing_register, List.map_append, List.map_singleton, eraseDups_concat,
      if_congr hmem rfl rfl, filed.kinds]
  · rw [configurers_enter, filed.mode, filed.configurers kind, standing_register,
      List.filter_append]
    by_cases hkind : kind = S.kind c
    · -- the newest of the kind is the one that enters
      subst hkind
      cases accumulates with
      | true => simp [newest]
      | false => simp [newest]
    · have hc : (S.kind c == kind) = false := by simpa using fun heq => hkind heq.symm
      rw [if_neg hkind, List.filter_cons_of_neg (by simp [hc]), List.filter_nil, List.append_nil]

theorem erase (filed : Filed accumulates ds b) {kind : ConfigurerKind}
    (htable : b'.table = b.table.erase kind) (hmode : b'.accumulates = b.accumulates) :
    Filed accumulates (ds ++ [.removeConfigurers kind]) b' := by
  refine ⟨hmode.trans filed.mode, ?_, ?_, fun other => ?_⟩
  · rw [htable]
    exact filed.orderly.erase kind
  · have hkinds : (b.table.erase kind).kinds = b.table.kinds.filter (· != kind) := by
      unfold Table.kinds Table.erase
      rw [List.filter_map]
      rfl
    rw [htable, hkinds, filed.kinds, standing_removeConfigurers, ← eraseDups_filter,
      List.filter_map]
    rfl
  · have hconfigurers : b'.configurers other = (b.without kind).configurers other := by
      unfold Builder.configurers
      rw [htable]
      rfl
    rw [hconfigurers, configurers_without, filed.configurers other, standing_removeConfigurers,
      List.filter_filter]
    by_cases hother : other = kind
    · -- of the kind that is removed nothing stands
      subst hother
      have hnil : (standing ds).filter (fun c => S.kind c == other && S.kind c != other) = [] := by
        rw [List.filter_eq_nil_iff]
        intro c _
        simp
      rw [if_pos rfl, hnil]
      cases accumulates <;> rfl
    · rw [if_neg hother]
      congr 1
      apply List.filter_congr
      intro c _
      by_cases hc : S.kind c = other
      · simp [hc, hother]
      · simp [hc]

end Filed

/-! ## Moments of a builder -/

/-- What an accepted request did. -/
def accepted (answer : Except IllegalState α) (d : Preparation C) : List (Preparation C) :=
  if answer.isOk then [d] else []

/-- A builder at some moment, with the registrations and removals behind it. Between them anything
may happen to the other parts of the builder: a move to another state, a pass over the late
registrations, a value that is shared. -/
inductive Moment (accumulates : Bool) : List (Preparation S.Configurer) → Builder S → Prop
  | create (t : S.Target) (w : S.World) : Moment accumulates [] (create t accumulates w)
  | register {ds : List (Preparation S.Configurer)} {b : Builder S} (c : S.Configurer) :
      Moment accumulates ds b →
      Moment accumulates (ds ++ accepted (register c b).answer (.register c)) (register c b).state
  | removeConfigurers {ds : List (Preparation S.Configurer)} {b : Builder S}
      (kind : ConfigurerKind) : Moment accumulates ds b →
      Moment accumulates (ds ++ [.removeConfigurers kind]) (removeConfigurers kind b).state
  | removeConfigurer {ds : List (Preparation S.Configurer)} {b : Builder S}
      (kind : ConfigurerKind) : Moment accumulates ds b →
      Moment accumulates
        (ds ++ accepted (removeConfigurer kind b).answer (.removeConfigurers kind))
        (removeConfigurer kind b).state
  | other {ds : List (Preparation S.Configurer)} {b c : Builder S} :
      Moment accumulates ds b → c.table = b.table → c.accumulates = b.accumulates →
      Moment accumulates ds c

theorem removeConfigurers_accumulates (kind : ConfigurerKind) (b : Builder S) :
    (removeConfigurers kind b).state.accumulates = b.accumulates :=
  (removeConfigurers_path kind b).sameFrame.accumulates

theorem removeConfigurer_of_not_hasSeveral {b : Builder S} {kind : ConfigurerKind}
    (h : ¬ b.HasSeveral kind) :
    removeConfigurer kind b =
      ⟨.ok (removeConfigurers kind b).answer.head?, (removeConfigurers kind b).events,
        (removeConfigurers kind b).state⟩ := by
  rw [removeConfigurer, Act.bind_apply, Act.get_apply]
  simp only [configurer_of_not_hasSeveral h, Act.bind_apply, Act.pure_apply, List.append_nil,
    List.nil_append]

theorem Moment.filed {accumulates : Bool} {ds : List (Preparation S.Configurer)} {b : Builder S}
    (moment : Moment accumulates ds b) : Filed accumulates ds b := by
  induction moment with
  | create t w => exact .create t accumulates w
  | @register ds b c _ ih =>
    rw [register_apply]
    split
    · exact (List.append_nil ds).symm ▸ ih
    · exact ih.enter c
  | @removeConfigurers ds b kind _ ih =>
    exact ih.erase (removeConfigurers_table kind b) (removeConfigurers_accumulates kind b)
  | @removeConfigurer ds b kind _ ih =>
    by_cases hseveral : b.HasSeveral kind
    · rw [(removeConfigurer_guarded kind).refuses b (not_not_intro hseveral)]
      exact (List.append_nil ds).symm ▸ ih
    · rw [removeConfigurer_of_not_hasSeveral hseveral]
      exact ih.erase (removeConfigurers_table kind b) (removeConfigurers_accumulates kind b)
  | other _ htable hmode ih => exact ih.congr htable hmode

/-- The table of a builder as an ordered multimap of the registrations that stand. -/
structure Multimap (accumulates : Bool) (ds : List (Preparation S.Configurer)) (b : Builder S) :
    Prop where
  distinct : b.table.kinds.Nodup
  rows : ∀ row ∈ b.table.rows, row.2 ≠ [] ∧ (∀ r ∈ row.2, S.kind r.configurer = row.1) ∧
    (accumulates = false → row.2.length = 1)
  /-- The kinds stand in the order of their first standing registration. -/
  kinds : b.table.kinds = ((standing ds).map S.kind).eraseDups
  /-- A kind has its standing registrations in their order, or the latest of them. -/
  configurers : ∀ kind,
    b.configurers kind = newest accumulates ((standing ds).filter (S.kind · == kind))
  /-- A removal answers with the configurers of its kind and takes out their row. -/
  removal : ∀ kind, (removeConfigurers kind b).answer = b.configurers kind ∧
    (removeConfigurers kind b).state.table.rows = b.table.rows.filter (·.1 != kind)
  /-- The removal of an only configurer is a removal where there are not several. -/
  single : ∀ kind, ¬ b.HasSeveral kind → removeConfigurer kind b =
    ⟨.ok (b.configurers kind).head?, (removeConfigurers kind b).events,
      (removeConfigurers kind b).state⟩
  several : ∀ kind, b.HasSeveral kind → removeConfigurer kind b =
    ⟨.error (.severalConfigurers kind (b.configurers kind).length), [], b⟩

theorem newest_ne_nil {accumulates : Bool} {cs : List C} (h : cs ≠ []) :
    newest accumulates cs ≠ [] := by
  cases accumulates with
  | true => exact h
  | false =>
    obtain ⟨front, c, rfl⟩ := (List.eq_nil_or_concat cs).resolve_left h
    simp [newest]

theorem length_newest_le (cs : List C) : (newest false cs).length ≤ 1 := by
  unfold newest
  cases cs.getLast? with
  | none => exact Nat.zero_le 1
  | some c => exact Nat.le_refl 1

theorem removeConfigurers_answer (kind : ConfigurerKind) (b : Builder S) :
    (removeConfigurers kind b).answer = b.configurers kind := by
  rw [removeConfigurers_apply]
  cases hkind : b.table.contains kind with
  | true => rfl
  | false =>
    have hofKind : (b.table.erase kind).ofKind kind = [] := by
      rw [Table.ofKind_erase, if_pos rfl]
    rw [Table.erase_of_not_contains hkind] at hofKind
    rw [Builder.configurers, hofKind]
    rfl

namespace Filed

variable {accumulates : Bool} {ds : List (Preparation S.Configurer)} {b : Builder S}

/-- A row is there because a registration of its kind stands. -/
theorem configurers_of_mem_rows (filed : Filed accumulates ds b)
    {row : ConfigurerKind × List (Registration S.Configurer)} (hrow : row ∈ b.table.rows) :
    b.configurers row.1 = row.2.map (·.configurer) ∧ b.configurers row.1 ≠ [] := by
  have hkind : row.1 ∈ b.table.kinds := List.mem_map.2 ⟨row, hrow, rfl⟩
  rw [filed.kinds, List.mem_eraseDups] at hkind
  obtain ⟨c, hc, heq⟩ := List.mem_map.1 hkind
  constructor
  · rw [Builder.configurers, Table.ofKind_of_mem_rows filed.orderly.nodup hrow]
  · rw [filed.configurers]
    have hmem : c ∈ (standing ds).filter (S.kind · == row.1) :=
      List.mem_filter.2 ⟨hc, by simpa using heq⟩
    exact newest_ne_nil (List.ne_nil_of_mem hmem)

theorem multimap (filed : Filed accumulates ds b) : Multimap accumulates ds b where
  distinct := filed.orderly.nodup
  rows row hrow := by
    obtain ⟨hconfigurers, hne⟩ := filed.configurers_of_mem_rows hrow
    have hlength : row.2.length = (b.configurers row.1).length := by
      rw [hconfigurers, List.length_map]
    refine ⟨?_, filed.orderly.kinded row hrow, fun hmode => ?_⟩
    · intro hnil
      rw [hconfigurers, hnil] at hne
      exact hne rfl
    · subst hmode
      have hle := length_newest_le ((standing ds).filter (S.kind · == row.1))
      have hpos := List.length_pos_iff.2 hne
      rw [← filed.configurers] at hle
      omega
  kinds := filed.kinds
  configurers := filed.configurers
  removal kind := ⟨removeConfigurers_answer kind b,
    congrArg Table.rows (removeConfigurers_table kind b)⟩
  single kind hsingle := by
    rw [removeConfigurer_of_not_hasSeveral hsingle, removeConfigurers_answer]
  several kind hseveral :=
    (removeConfigurer_guarded kind).refuses b (not_not_intro hseveral)

end Filed

end Builder

/-! ## Every moment of every use -/

/-- The registration or removal that the event tells of. -/
def Event.deed? : Event S → Option (Preparation ConfigurerKind)
  | .registered _ kind => some (.register kind)
  | .removed kind => some (.removeConfigurers kind)
  | _ => none

/-- The registrations and removals of a history. -/
def deeds (h : List (Event S)) : List (Preparation ConfigurerKind) :=
  h.filterMap Event.deed?

namespace Builder

/-- The builder is at a moment, and the history tells of what is behind it. -/
def Reaches (accumulates : Bool) (h : List (Event S)) (b : Builder S) : Prop :=
  ∃ ds, Moment accumulates ds b ∧ ds.map (Preparation.map S.kind) = deeds h

namespace Reaches

variable {accumulates : Bool} {h : List (Event S)} {b c : Builder S}

theorem silent (reaches : Reaches accumulates h b) {e : List (Event S)} (he : deeds e = [])
    (htable : c.table = b.table) (hmode : c.accumulates = b.accumulates) :
    Reaches accumulates (h ++ e) c := by
  obtain ⟨ds, moment, hds⟩ := reaches
  refine ⟨ds, .other moment htable hmode, ?_⟩
  unfold deeds at he hds ⊢
  rw [List.filterMap_append, he, List.append_nil, hds]

theorem step (reaches : Reaches accumulates h b) {e : List (Event S)} (step : Step b e c) :
    Reaches accumulates (h ++ e) c := by
  cases step with
  | register c hopen =>
    obtain ⟨ds, moment, hds⟩ := reaches
    have hdeeds : deeds (registrationEvents b c) = [.register (S.kind c)] := by
      unfold registrationEvents
      split <;> rfl
    have hregister := moment.register c
    rw [register_apply, hopen] at hregister
    refine ⟨ds ++ [.register c], hregister, ?_⟩
    unfold deeds at hds hdeeds ⊢
    rw [List.map_append, hds, List.filterMap_append, hdeeds]
    rfl
  | remove kind hkind =>
    obtain ⟨ds, moment, hds⟩ := reaches
    have hremove := moment.removeConfigurers kind
    rw [removeConfigurers_apply, hkind] at hremove
    refine ⟨ds ++ [.removeConfigurers kind], hremove, ?_⟩
    unfold deeds at hds ⊢
    rw [List.map_append, hds, List.filterMap_append]
    rfl
  | tell e he =>
    refine reaches.silent ?_ rfl rfl
    cases e <;> first | rfl | simp [Event.isPlain] at he
  | _ => exact reaches.silent rfl rfl rfl

theorem turn (reaches : Reaches accumulates h b) {e : List (Event S)} (turn : Turn b e c) :
    Reaches accumulates (h ++ e) c := by
  cases turn with
  | step step => exact reaches.step step
  | _ => exact reaches.silent rfl rfl rfl

end Reaches

/-- At every moment the table is the ordered multimap of the registrations that stand; and whatever
is done with a builder, by its owner or by the callbacks of its builds, keeps it at such moments,
with the registrations and removals that its history tells of. -/
theorem table_is_multimap (accumulates : Bool) :
    (∀ (ds : List (Preparation S.Configurer)) (b : Builder S), Moment accumulates ds b →
      Multimap accumulates ds b) ∧
    ∀ (t : S.Target) (w : S.World) (h : List (Event S)) (b : Builder S),
      Passage (create t accumulates w) h b → Reaches accumulates h b := by
  refine ⟨fun ds b moment => moment.filed.multimap, fun t w h b passage => ?_⟩
  have hcreated : Reaches accumulates [] (create t accumulates w) :=
    ⟨[], .create t w, rfl⟩
  exact passage.invariant (fun reaches turn => reaches.turn turn) hcreated

/-- Before a build every registration is accepted. -/
theorem moment_after (t : S.Target) (accumulates : Bool) (w : S.World)
    (ps : List (Preparation S.Configurer)) :
    Moment accumulates ps ((create t accumulates w).after (ps.map Preparation.operation)) := by
  induction ps using List.reverseRecOn with
  | nil => exact .create t w
  | append_singleton ps p ih =>
    have hstate := (prepared_after t accumulates w ps).state
    rw [List.map_append, after_append]
    cases p with
    | register c =>
      have hregister := ih.register c
      rw [register_apply, hstate] at hregister
      show Moment accumulates _ (register c _).state
      rw [register_apply, hstate]
      exact hregister
    | removeConfigurers kind => exact ih.removeConfigurers kind

/-- A kind that was removed and registered again stands behind the others, and a kind that was
registered twice keeps its place. -/
theorem removed_kind_moves_back :
    let ps : List (Preparation Sample.signature.Configurer) :=
      [.register Sample.alpha, .register Sample.beta, .register Sample.gamma,
        .removeConfigurers Sample.beta.kind, .register Sample.beta, .register Sample.alpha]
    let b := (create () true ()).after (ps.map Preparation.operation)
    b.table.kinds = [Sample.alpha.kind, Sample.gamma.kind, Sample.beta.kind] ∧
      (removeConfigurers Sample.alpha.kind b).answer = [Sample.alpha, Sample.alpha] ∧
      Reaches true ((create () true ()).history (ps.map Preparation.operation)) b := by
  intro ps b
  obtain ⟨hmoments, hpassages⟩ := table_is_multimap (S := Sample.signature) true
  have multimap := hmoments ps b (moment_after (S := Sample.signature) () true () ps)
  have hkinds : ((standing ps).map Sample.signature.kind).eraseDups =
      [Sample.alpha.kind, Sample.gamma.kind, Sample.beta.kind] := rfl
  have halpha : newest true ((standing ps).filter (Sample.signature.kind · == Sample.alpha.kind)) =
      [Sample.alpha, Sample.alpha] := rfl
  refine ⟨multimap.kinds.trans hkinds, ?_, hpassages () () _ _ (after_passage _ _)⟩
  rw [(multimap.removal _).1, multimap.configurers, halpha]

end Builder

end AuthChain.Build
