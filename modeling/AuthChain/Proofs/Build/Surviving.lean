import AuthChain.Proofs.Build.Operation
import Mathlib.Data.List.Induction

/-!
# Surviving registrations

What registrations and removals leave in the table of a builder before a build. A registration
survives when neither a removal of its kind nor, where configurers replace each other, a
registration of its kind comes later.

Main statement: the table of a builder that a caller prepared lists, for each kind, the surviving
registrations in the order in which they were made, and nothing else of the builder has changed
(`Builder.prepared_after`).
-/

namespace AuthChain.Build

variable {S : Signature}

/-! ## Rows by their kind -/

theorem eraseDups_concat {K : Type} [BEq K] [LawfulBEq K] (ks : List K) (k : K)
    [Decidable (k ∈ ks)] :
    (ks ++ [k]).eraseDups = if k ∈ ks then ks.eraseDups else ks.eraseDups ++ [k] := by
  rw [List.eraseDups_append]
  split
  · next hk => simp [List.removeAll, hk]
  · next hk =>
    have hone : [k].removeAll ks = [k] := by simp [List.removeAll, hk]
    rw [hone]
    rfl

namespace Table

variable {C : Type} {kindOf : C → ConfigurerKind}

theorem lookup_row (kind other : ConfigurerKind) (rs : List (Registration C))
    (rest : List (ConfigurerKind × List (Registration C))) :
    ((kind, rs) :: rest).lookup other = if other = kind then some rs else rest.lookup other := by
  rw [List.lookup_cons]
  by_cases h : other = kind
  · simp [h]
  · have hbeq : (other == kind) = false := by simpa using h
    simp [h, hbeq]

theorem lookup_upsertRow (kind other : ConfigurerKind)
    (f : List (Registration C) → List (Registration C))
    (rows : List (ConfigurerKind × List (Registration C))) :
    (upsertRow kind f rows).lookup other =
      if other = kind then some (f ((rows.lookup kind).getD [])) else rows.lookup other := by
  induction rows with
  | nil => exact lookup_row kind other (f []) []
  | cons row rest ih =>
    obtain ⟨k, rs⟩ := row
    unfold upsertRow
    by_cases hk : k = kind
    · subst hk
      rw [if_pos rfl, lookup_row, lookup_row, lookup_row, if_pos rfl, Option.getD_some]
      split
      · rfl
      · rfl
    · have hkind : ¬ kind = k := fun h => hk h.symm
      rw [if_neg hk, lookup_row, lookup_row, lookup_row, ih, if_neg hkind]
      -- the row in front is of another kind than the changed one
      by_cases h : other = k
      · subst h
        rw [if_pos rfl, if_pos rfl, if_neg hk]
      · rw [if_neg h, if_neg h]

theorem lookup_filter_ne (kind other : ConfigurerKind)
    (rows : List (ConfigurerKind × List (Registration C))) :
    (rows.filter (·.1 != kind)).lookup other =
      if other = kind then none else rows.lookup other := by
  rw [Slots.lookup_filter_ne]
  simp only [beq_iff_eq]

theorem ofKind_push (t : Table C) (kind other : ConfigurerKind) (r : Registration C) :
    (t.push kind r).ofKind other =
      if other = kind then t.ofKind other ++ [r] else t.ofKind other := by
  unfold ofKind push
  rw [lookup_upsertRow]
  split
  · next h => rw [h, Option.getD_some]
  · rfl

theorem ofKind_replace (t : Table C) (kind other : ConfigurerKind) (r : Registration C) :
    (t.replace kind r).ofKind other = if other = kind then [r] else t.ofKind other := by
  unfold ofKind replace
  rw [lookup_upsertRow]
  split
  · rfl
  · rfl

theorem ofKind_erase (t : Table C) (kind other : ConfigurerKind) :
    (t.erase kind).ofKind other = if other = kind then [] else t.ofKind other := by
  unfold ofKind erase
  rw [lookup_filter_ne]
  split
  · rfl
  · rfl

theorem erase_of_not_contains {t : Table C} {kind : ConfigurerKind} (h : t.contains kind = false) :
    t.erase kind = t := by
  have hrows : t.rows.filter (·.1 != kind) = t.rows := by
    rw [List.filter_eq_self]
    intro row hrow
    unfold contains at h
    rw [List.any_eq_false] at h
    simpa using h row hrow
  rw [erase, hrows]

theorem map_fst_upsertRow (kind : ConfigurerKind)
    (f : List (Registration C) → List (Registration C))
    (rows : List (ConfigurerKind × List (Registration C))) :
    (upsertRow kind f rows).map (·.1) =
      if kind ∈ rows.map (·.1) then rows.map (·.1) else rows.map (·.1) ++ [kind] := by
  induction rows with
  | nil => rfl
  | cons row rest ih =>
    obtain ⟨k, rs⟩ := row
    unfold upsertRow
    by_cases hk : k = kind
    · simp [hk]
    · rw [if_neg hk, List.map_cons, ih]
      have hkind : ¬ kind = k := fun h => hk h.symm
      by_cases hmem : kind ∈ rest.map (·.1)
      · rw [if_pos hmem, List.map_cons, if_pos (List.mem_cons_of_mem _ hmem)]
      · rw [if_neg hmem, List.map_cons, if_neg (by simp [hkind, hmem])]
        rfl

/-- Every kind has one row at most, which holds registrations of that kind only. -/
structure Orderly (kindOf : C → ConfigurerKind) (t : Table C) : Prop where
  kinded : Kinded kindOf t.rows
  nodup : t.kinds.Nodup

theorem nodup_upsertRow {kind : ConfigurerKind}
    {f : List (Registration C) → List (Registration C)}
    {rows : List (ConfigurerKind × List (Registration C))} (h : (rows.map (·.1)).Nodup) :
    ((upsertRow kind f rows).map (·.1)).Nodup := by
  rw [map_fst_upsertRow]
  split
  · exact h
  · next hkind =>
    rw [List.nodup_append]
    refine ⟨h, List.pairwise_singleton _ _, fun k hk other hother heq => ?_⟩
    rw [heq, List.mem_singleton.1 hother] at hk
    exact hkind hk

namespace Orderly

variable {t : Table C}

theorem empty : Orderly kindOf (Table.empty : Table C) where
  kinded _ hrow := absurd hrow List.not_mem_nil
  nodup := List.nodup_nil

theorem push (h : t.Orderly kindOf) (r : Registration C) :
    (t.push (kindOf r.configurer) r).Orderly kindOf :=
  ⟨h.kinded.push r, nodup_upsertRow h.nodup⟩

theorem replace (h : t.Orderly kindOf) (r : Registration C) :
    (t.replace (kindOf r.configurer) r).Orderly kindOf :=
  ⟨h.kinded.replace r, nodup_upsertRow h.nodup⟩

theorem erase (h : t.Orderly kindOf) (kind : ConfigurerKind) : (t.erase kind).Orderly kindOf where
  kinded row hrow := h.kinded row (List.mem_filter.1 hrow).1
  nodup := h.nodup.sublist (List.filter_sublist.map _)

end Orderly

theorem filter_flatMap_rows {kind : ConfigurerKind} :
    ∀ {rows : List (ConfigurerKind × List (Registration C))}, Kinded kindOf rows →
      (rows.map (·.1)).Nodup →
        (rows.flatMap (·.2)).filter (fun r => kindOf r.configurer == kind) =
          (rows.lookup kind).getD []
  | [], _, _ => rfl
  | (k, rs) :: rest, hkinded, hnodup => by
    obtain ⟨hk, hrest⟩ := List.nodup_cons.1 hnodup
    have hbehind : (rest.flatMap (·.2)).filter (fun r => kindOf r.configurer == kind) =
        (rest.lookup kind).getD [] :=
      filter_flatMap_rows (fun row hrow => hkinded row (List.mem_cons_of_mem _ hrow)) hrest
    have hrow : ∀ r ∈ rs, kindOf r.configurer = k := hkinded _ List.mem_cons_self
    rw [List.flatMap_cons, List.filter_append, hbehind, lookup_row]
    by_cases h : kind = k
    · -- the row is the only one of its kind
      subst h
      have hall : rs.filter (fun r => kindOf r.configurer == kind) = rs :=
        List.filter_eq_self.2 fun r hr => by simpa using hrow r hr
      have hnone : rest.lookup kind = none := by
        rw [List.lookup_eq_none_iff]
        intro row hmem
        have hne : row.1 ≠ kind := fun heq => hk (List.mem_map.2 ⟨row, hmem, heq⟩)
        simpa using hne.symm
      rw [hall, hnone, if_pos rfl, Option.getD_none, List.append_nil, Option.getD_some]
    · have hnil : rs.filter (fun r => kindOf r.configurer == kind) = [] := by
        rw [List.filter_eq_nil_iff]
        intro r hr
        simpa [hrow r hr] using fun heq => h heq.symm
      rw [hnil, if_neg h, List.nil_append]

/-- The registrations of a kind are its row. -/
theorem Orderly.filter_registrations {t : Table C} (h : t.Orderly kindOf) (kind : ConfigurerKind) :
    t.registrations.filter (fun r => kindOf r.configurer == kind) = t.ofKind kind :=
  filter_flatMap_rows h.kinded h.nodup

end Table

/-! ## Registrations and removals of a caller -/

/-- What a caller does with the table before a build. -/
inductive Preparation (C : Type) where
  | register (c : C)
  | removeConfigurers (kind : ConfigurerKind)

namespace Preparation

variable {C : Type} (kindOf : C → ConfigurerKind) (accumulates : Bool)

/-- The registrations of a kind that were made before do not survive this. -/
def undoes (kind : ConfigurerKind) : Preparation C → Bool
  | register c => !accumulates && kindOf c == kind
  | removeConfigurers k => k == kind

/-- The configurer that this registers. -/
def registered : Preparation C → List C
  | register c => [c]
  | removeConfigurers _ => []

/-- The configurers whose registrations survive, in the order in which they were made. -/
def surviving : List (Preparation C) → List C
  | [] => []
  | register c :: rest =>
    if rest.any (undoes kindOf accumulates (kindOf c)) then surviving rest else c :: surviving rest
  | removeConfigurers _ :: rest => surviving rest

theorem surviving_concat (ps : List (Preparation C)) (p : Preparation C) :
    surviving kindOf accumulates (ps ++ [p]) =
      (surviving kindOf accumulates ps).filter (fun c => !p.undoes kindOf accumulates (kindOf c)) ++
        p.registered := by
  induction ps with
  | nil => cases p <;> rfl
  | cons q rest ih =>
    cases q with
    | removeConfigurers kind => exact ih
    | register c =>
      rw [List.cons_append, surviving, surviving, List.any_append, ih]
      -- the registration is undone by what follows it already, by the last step, or by neither
      cases rest.any (undoes kindOf accumulates (kindOf c)) with
      | true => simp
      | false =>
        cases hp : p.undoes kindOf accumulates (kindOf c) <;> simp [hp]

variable {D : Type}

/-- The same with configurers made of others. -/
def map (f : C → D) : Preparation C → Preparation D
  | register c => register (f c)
  | removeConfigurers kind => removeConfigurers kind

theorem undoes_map {kindOf' : D → ConfigurerKind} {f : C → D}
    (hf : ∀ c, kindOf' (f c) = kindOf c) (kind : ConfigurerKind) (p : Preparation C) :
    (p.map f).undoes kindOf' accumulates kind = p.undoes kindOf accumulates kind := by
  cases p with
  | register c =>
    show (!accumulates && kindOf' (f c) == kind) = _
    rw [hf]
    rfl
  | removeConfigurers k => rfl

theorem surviving_map {kindOf' : D → ConfigurerKind} (f : C → D)
    (hf : ∀ c, kindOf' (f c) = kindOf c) (ps : List (Preparation C)) :
    surviving kindOf' accumulates (ps.map (map f)) = (surviving kindOf accumulates ps).map f := by
  induction ps with
  | nil => rfl
  | cons p rest ih =>
    cases p with
    | removeConfigurers kind => exact ih
    | register c =>
      have hany : (rest.map (map f)).any (undoes kindOf' accumulates (kindOf' (f c))) =
          rest.any (undoes kindOf accumulates (kindOf c)) := by
        rw [List.any_map, hf]
        exact congrArg rest.any (funext fun p => undoes_map kindOf accumulates hf _ p)
      rw [List.map_cons, map, surviving, surviving, hany, ih]
      split
      · rfl
      · rfl

end Preparation

/-- The operation of a caller. -/
def Preparation.operation : Preparation S.Configurer → Operation S
  | register c => .register c
  | removeConfigurers kind => .removeConfigurers kind

namespace Builder

theorem removeConfigurers_table (kind : ConfigurerKind) (b : Builder S) :
    (removeConfigurers kind b).state.table = b.table.erase kind := by
  rw [removeConfigurers_apply]
  cases hkind : b.table.contains kind with
  | true => rfl
  | false => exact (Table.erase_of_not_contains hkind).symm

/-- A removal that finds no row has nothing to take out, as long as nothing of the kind is due. -/
theorem removeConfigurers_state_of_due (kind : ConfigurerKind) {b : Builder S}
    (h : b.table.contains kind = false → ∀ r ∈ b.late, S.kind r.configurer ≠ kind) :
    (removeConfigurers kind b).state = b.without kind := by
  rw [removeConfigurers_apply]
  cases hkind : b.table.contains kind with
  | true => rfl
  | false =>
    have hlate : b.late.filter (fun r => S.kind r.configurer != kind) = b.late :=
      List.filter_eq_self.2 fun r hr => by simpa using h hkind r hr
    show b = b.without kind
    rw [Builder.without, Table.erase_of_not_contains hkind, hlate]

theorem ofKind_enter (b : Builder S) (c : S.Configurer) (kind : ConfigurerKind) :
    (b.enter c).table.ofKind kind =
      if kind = S.kind c then
        (if b.accumulates then b.table.ofKind kind else []) ++ [⟨b.nextSerial, c⟩]
      else b.table.ofKind kind := by
  rw [enter_table]
  cases b.accumulates with
  | true => rw [if_pos rfl, if_pos rfl, Table.ofKind_push]
  | false =>
    rw [if_neg Bool.false_ne_true, if_neg Bool.false_ne_true, Table.ofKind_replace,
      List.nil_append]

theorem configurers_enter (b : Builder S) (c : S.Configurer) (kind : ConfigurerKind) :
    (b.enter c).configurers kind =
      if kind = S.kind c then (if b.accumulates then b.configurers kind else []) ++ [c]
      else b.configurers kind := by
  rw [configurers, ofKind_enter]
  split
  · rw [List.map_append]
    cases b.accumulates <;> rfl
  · rfl

theorem configurers_without (b : Builder S) (kind other : ConfigurerKind) :
    (b.without kind).configurers other = if other = kind then [] else b.configurers other := by
  show ((b.table.erase kind).ofKind other).map _ = _
  rw [Table.ofKind_erase]
  split
  · rfl
  · rfl

/-- Nothing happened on a builder but registrations and removals, which left these configurers. -/
structure Prepared (t : S.Target) (accumulates : Bool) (w : S.World) (left : List S.Configurer)
    (b : Builder S) : Prop where
  eq_create : b = { create t accumulates w with table := b.table, nextSerial := b.nextSerial }
  orderly : b.table.Orderly S.kind
  configurers : ∀ kind, b.configurers kind = left.filter (S.kind · == kind)

namespace Prepared

variable {t : S.Target} {accumulates : Bool} {w : S.World} {left : List S.Configurer}
  {b : Builder S}

theorem state (h : Prepared t accumulates w left b) : b.state = .unbuilt :=
  congrArg Builder.state h.eq_create

theorem late (h : Prepared t accumulates w left b) : b.late = [] :=
  congrArg Builder.late h.eq_create

theorem create (t : S.Target) (accumulates : Bool) (w : S.World) :
    Prepared t accumulates w [] (create t accumulates w) :=
  ⟨rfl, .empty, fun _ => rfl⟩

theorem enter (h : Prepared t accumulates w left b) (c : S.Configurer) :
    Prepared t accumulates w
      (left.filter (fun d => !(!accumulates && S.kind c == S.kind d)) ++ [c]) (b.enter c) := by
  obtain ⟨table, n, rfl⟩ : ∃ table n,
      b = { Builder.create t accumulates w with table := table, nextSerial := n } :=
    ⟨_, _, h.eq_create⟩
  refine ⟨rfl, ?_, fun kind => ?_⟩
  · rw [enter_table]
    split
    · exact h.orderly.push ⟨n, c⟩
    · exact h.orderly.replace ⟨n, c⟩
  · have haccumulates : Builder.accumulates
        { Builder.create t accumulates w with table := table, nextSerial := n } = accumulates := rfl
    rw [configurers_enter, haccumulates, h.configurers kind, List.filter_append, List.filter_filter]
    by_cases hk : kind = S.kind c
    · -- where configurers replace each other, the new one is the only one of its kind
      subst hk
      cases accumulates with
      | true => simp
      | false =>
        have hnil :
            left.filter (fun d => S.kind d == S.kind c && !(S.kind c == S.kind d)) = [] := by
          rw [List.filter_eq_nil_iff]
          intro d _
          simpa using fun hd : S.kind d = S.kind c => hd.symm
        simp [hnil]
    · have hc : (S.kind c == kind) = false := by simpa using fun heq => hk heq.symm
      rw [if_neg hk, List.filter_cons_of_neg (by simp [hc]), List.filter_nil, List.append_nil]
      apply List.filter_congr
      intro d _
      by_cases hd : S.kind d = kind
      · simp [hd, hc]
      · simp [hd]

theorem without (h : Prepared t accumulates w left b) (kind : ConfigurerKind) :
    Prepared t accumulates w (left.filter (fun d => !(kind == S.kind d))) (b.without kind) := by
  obtain ⟨table, n, rfl⟩ : ∃ table n,
      b = { Builder.create t accumulates w with table := table, nextSerial := n } :=
    ⟨_, _, h.eq_create⟩
  refine ⟨rfl, h.orderly.erase kind, fun other => ?_⟩
  rw [configurers_without, h.configurers other, List.filter_filter]
  by_cases ho : other = kind
  · subst ho
    rw [if_pos rfl, eq_comm, List.filter_eq_nil_iff]
    intro d _
    simpa using fun hd : S.kind d = other => hd.symm
  · rw [if_neg ho]
    apply List.filter_congr
    intro d _
    by_cases hd : S.kind d = other
    · have hkind : (kind == other) = false := by simpa using fun heq => ho heq.symm
      simp [hd, hkind]
    · simp [hd]

theorem removeConfigurers_state (h : Prepared t accumulates w left b) (kind : ConfigurerKind) :
    (removeConfigurers kind b).state = b.without kind :=
  removeConfigurers_state_of_due kind fun _ _ hr => absurd (h.late ▸ hr) List.not_mem_nil

/-- What a step leaves is what it does not undo, and what it registers. -/
theorem step (h : Prepared t accumulates w left b) (p : Preparation S.Configurer) :
    Prepared t accumulates w
      (left.filter (fun c => !p.undoes S.kind accumulates (S.kind c)) ++ p.registered)
      (b.step p.operation) := by
  cases p with
  | register c =>
    have hstep : b.step (.register c) = b.enter c := by
      rw [Builder.step, register_apply, h.state]
      rfl
    show Prepared t accumulates w _ (b.step (.register c))
    rw [hstep]
    exact h.enter c
  | removeConfigurers kind =>
    show Prepared t accumulates w (_ ++ []) (removeConfigurers kind b).state
    rw [h.removeConfigurers_state, List.append_nil]
    exact h.without kind

theorem filter_registrations (h : Prepared t accumulates w left b) (kind : ConfigurerKind) :
    (b.table.registrations.map (·.configurer)).filter (S.kind · == kind) =
      left.filter (S.kind · == kind) := by
  rw [List.filter_map, ← h.configurers kind, Builder.configurers,
    ← h.orderly.filter_registrations kind]
  rfl

end Prepared

/-- Registrations and removals leave, in the table of a builder and nowhere else, the surviving
registrations. -/
theorem prepared_after (t : S.Target) (accumulates : Bool) (w : S.World)
    (ps : List (Preparation S.Configurer)) :
    Prepared t accumulates w (Preparation.surviving S.kind accumulates ps)
      ((create t accumulates w).after (ps.map Preparation.operation)) := by
  induction ps using List.reverseRecOn with
  | nil => exact .create t accumulates w
  | append_singleton ps p ih =>
    rw [List.map_append, after, List.foldl_append, Preparation.surviving_concat]
    exact ih.step p

end Builder

end AuthChain.Build
