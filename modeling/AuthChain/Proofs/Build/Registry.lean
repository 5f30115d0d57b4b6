import AuthChain.Proofs.Build.Step

/-!
# Registrations along a path

Which registrations a builder holds, in its table or among those whose `init` is due, after the
steps of a path. Serial numbers are issued once, every row of the table keeps to its kind, and the
due registrations stand in the order of their numbers (`Builder.Consistent`).

Main statements: a registration puts one entry into the table and at most takes others out
(`Builder.enter_perm`), a removal leaves nothing of its kind (`Builder.holds_without`), and steps
keep a builder consistent (`Path.consistent`).
-/

namespace AuthChain.Build

open scoped List

variable {S : Signature}

/-! ## Rows of the table -/

namespace Table

variable {C : Type}

/-- Every row holds registrations of its kind only. -/
def Kinded (kindOf : C → ConfigurerKind) (rows : List (ConfigurerKind × List (Registration C))) :
    Prop :=
  ∀ row ∈ rows, ∀ r ∈ row.2, kindOf r.configurer = row.1

theorem Kinded.upsertRow {kindOf : C → ConfigurerKind} {r : Registration C}
    {f : List (Registration C) → List (Registration C)} (hf : ∀ rs, ∀ x ∈ f rs, x = r ∨ x ∈ rs) :
    ∀ {rows : List (ConfigurerKind × List (Registration C))}, Kinded kindOf rows →
      Kinded kindOf (upsertRow (kindOf r.configurer) f rows)
  | [], _ => by
    intro row hrow x hx
    rw [Table.upsertRow, List.mem_singleton] at hrow
    subst hrow
    rcases hf [] x hx with rfl | hx
    · rfl
    · exact absurd hx List.not_mem_nil
  | (k, rs) :: rest, h => by
    have hrest : Kinded kindOf rest := fun row hrow => h row (List.mem_cons_of_mem _ hrow)
    intro row hrow x hx
    unfold Table.upsertRow at hrow
    -- the row of the kind is this one, or one of those behind it
    split at hrow
    · next hk =>
      rcases List.mem_cons.1 hrow with rfl | hrow
      · rcases hf rs x hx with rfl | hx
        · exact hk.symm
        · exact h _ List.mem_cons_self x hx
      · exact hrest row hrow x hx
    · rcases List.mem_cons.1 hrow with rfl | hrow
      · exact h _ List.mem_cons_self x hx
      · exact Kinded.upsertRow hf hrest row hrow x hx

theorem Kinded.push {kindOf : C → ConfigurerKind} {t : Table C} (h : Kinded kindOf t.rows)
    (r : Registration C) : Kinded kindOf (t.push (kindOf r.configurer) r).rows := by
  refine h.upsertRow fun rs x hx => ?_
  rcases List.mem_append.1 hx with hx | hx
  · exact Or.inr hx
  · exact Or.inl (List.mem_singleton.1 hx)

theorem Kinded.replace {kindOf : C → ConfigurerKind} {t : Table C} (h : Kinded kindOf t.rows)
    (r : Registration C) : Kinded kindOf (t.replace (kindOf r.configurer) r).rows :=
  h.upsertRow fun _ _ hx => Or.inl (List.mem_singleton.1 hx)

/-- A row that receives a registration and otherwise at most loses some makes the table receive
that registration and otherwise at most lose some. -/
theorem upsertRow_perm {kind : ConfigurerKind} {r : Registration C}
    {f : List (Registration C) → List (Registration C)}
    (hf : ∀ rs, ∃ kept : List (Registration C), kept <+ rs ∧ (f rs).Perm (r :: kept)) :
    ∀ rows : List (ConfigurerKind × List (Registration C)),
      ∃ kept : List (Registration C), kept <+ rows.flatMap (·.2) ∧
        ((upsertRow kind f rows).flatMap (·.2)).Perm (r :: kept)
  | [] => by
    obtain ⟨kept, hsub, hperm⟩ := hf []
    refine ⟨kept, hsub, ?_⟩
    simpa [upsertRow] using hperm
  | (k, rs) :: rest => by
    unfold upsertRow
    split
    · -- the row of the kind is this one, the others stay
      obtain ⟨kept, hsub, hperm⟩ := hf rs
      refine ⟨kept ++ rest.flatMap (·.2), ?_, ?_⟩
      · rw [List.flatMap_cons]
        exact hsub.append (List.Sublist.refl _)
      · rw [List.flatMap_cons]
        exact hperm.append_right _
    · -- the row of the kind is further behind
      obtain ⟨kept, hsub, hperm⟩ := upsertRow_perm hf rest
      refine ⟨rs ++ kept, ?_, ?_⟩
      · rw [List.flatMap_cons]
        exact (List.Sublist.refl _).append hsub
      · rw [List.flatMap_cons]
        exact (hperm.append_left rs).trans List.perm_middle

theorem push_perm (t : Table C) (kind : ConfigurerKind) (r : Registration C) :
    ∃ kept : List (Registration C), kept <+ t.registrations ∧
      (t.push kind r).registrations.Perm (r :: kept) :=
  upsertRow_perm (fun rs => ⟨rs, List.Sublist.refl rs, List.perm_append_comm⟩) t.rows

theorem replace_perm (t : Table C) (kind : ConfigurerKind) (r : Registration C) :
    ∃ kept : List (Registration C), kept <+ t.registrations ∧
      (t.replace kind r).registrations.Perm (r :: kept) :=
  upsertRow_perm (fun rs => ⟨[], List.nil_sublist rs, List.Perm.refl _⟩) t.rows

theorem erase_sublist (t : Table C) (kind : ConfigurerKind) :
    (t.erase kind).registrations <+ t.registrations := by
  obtain ⟨rows⟩ := t
  induction rows with
  | nil => exact List.nil_sublist _
  | cons row rest ih =>
    simp only [erase, registrations] at ih ⊢
    -- a row stays or goes as a whole
    rw [List.filter_cons]
    split
    · rw [List.flatMap_cons, List.flatMap_cons]
      exact (List.Sublist.refl _).append ih
    · rw [List.flatMap_cons]
      exact ih.trans (List.sublist_append_right _ _)

end Table

/-! ## Consistent builders -/

namespace Builder

/-- The table holds the registration or its `init` is due. -/
def Holds (b : Builder S) (r : Registration S.Configurer) : Prop :=
  r ∈ b.table.registrations ∨ r ∈ b.late

/-- Rows keep to their kind, and serial numbers tell registrations from each other. -/
structure Consistent (b : Builder S) : Prop where
  kinded : Table.Kinded S.kind b.table.rows
  distinct : (b.table.registrations.map (·.serial)).Nodup
  ordered : b.late.Pairwise fun r s => r.serial < s.serial
  issued : ∀ r, b.Holds r → r.serial < b.nextSerial

/-- Consistency is about the table, the due registrations and the next number alone. -/
theorem Consistent.congr {a b : Builder S} (h : a.Consistent) (table : b.table = a.table)
    (late : b.late = a.late) (serial : b.nextSerial = a.nextSerial) : b.Consistent where
  kinded := by
    rw [table]
    exact h.kinded
  distinct := by
    rw [table]
    exact h.distinct
  ordered := by
    rw [late]
    exact h.ordered
  issued r hr := by
    rw [serial]
    exact h.issued r (by rwa [Holds, table, late] at hr)

/-- Taking the due registrations keeps a builder consistent. -/
theorem Consistent.taken {b : Builder S} (h : b.Consistent) :
    Consistent { b with late := [] } where
  kinded := h.kinded
  distinct := h.distinct
  ordered := List.Pairwise.nil
  issued r hr := h.issued r (hr.imp_right fun hr => absurd hr List.not_mem_nil)

theorem enter_table (b : Builder S) (c : S.Configurer) :
    (b.enter c).table =
      if b.accumulates then b.table.push (S.kind c) ⟨b.nextSerial, c⟩
      else b.table.replace (S.kind c) ⟨b.nextSerial, c⟩ := rfl

theorem enter_perm (b : Builder S) (c : S.Configurer) :
    ∃ kept : List (Registration S.Configurer), kept <+ b.table.registrations ∧
      (b.enter c).table.registrations.Perm (⟨b.nextSerial, c⟩ :: kept) := by
  rw [enter_table]
  split
  · exact b.table.push_perm _ _
  · exact b.table.replace_perm _ _

theorem mem_enter_table {b : Builder S} {c : S.Configurer} {r : Registration S.Configurer}
    (h : r ∈ (b.enter c).table.registrations) :
    r = ⟨b.nextSerial, c⟩ ∨ r ∈ b.table.registrations := by
  obtain ⟨kept, hsub, hperm⟩ := b.enter_perm c
  rcases List.mem_cons.1 (hperm.mem_iff.1 h) with h | h
  · exact Or.inl h
  · exact Or.inr (hsub.subset h)

theorem mem_enter_late {b : Builder S} {c : S.Configurer} {r : Registration S.Configurer}
    (h : r ∈ (b.enter c).late) : r = ⟨b.nextSerial, c⟩ ∨ r ∈ b.late := by
  simp only [enter] at h
  split at h
  · rcases List.mem_append.1 h with h | h
    · exact Or.inr h
    · exact Or.inl (List.mem_singleton.1 h)
  · exact Or.inr h

theorem holds_enter {b : Builder S} {c : S.Configurer} {r : Registration S.Configurer}
    (h : (b.enter c).Holds r) : r = ⟨b.nextSerial, c⟩ ∨ b.Holds r := by
  rcases h with h | h
  · exact (mem_enter_table h).imp_right Or.inl
  · exact (mem_enter_late h).imp_right Or.inr

theorem Consistent.enter {b : Builder S} (h : b.Consistent) (c : S.Configurer) :
    (b.enter c).Consistent := by
  have hissued : ∀ r, (b.enter c).Holds r → r.serial < b.nextSerial + 1 := by
    intro r hr
    rcases holds_enter hr with rfl | hr
    · exact Nat.lt_succ_self _
    · exact Nat.lt_succ_of_lt (h.issued r hr)
  refine ⟨?_, ?_, ?_, hissued⟩
  · rw [enter_table]
    split
    · exact h.kinded.push ⟨b.nextSerial, c⟩
    · exact h.kinded.replace ⟨b.nextSerial, c⟩
  · -- the new number is above all that were issued
    obtain ⟨kept, hsub, hperm⟩ := b.enter_perm c
    rw [(hperm.map _).nodup_iff, List.map_cons, List.nodup_cons]
    refine ⟨fun hmem => ?_, h.distinct.sublist (hsub.map _)⟩
    obtain ⟨r, hr, hserial⟩ := List.mem_map.1 hmem
    exact Nat.ne_of_lt (h.issued r (Or.inl (hsub.subset hr))) hserial
  · simp only [Builder.enter]
    split
    · rw [List.pairwise_append]
      refine ⟨h.ordered, List.pairwise_singleton _ _, fun r hr s hs => ?_⟩
      rw [List.mem_singleton.1 hs]
      exact h.issued r (Or.inr hr)
    · exact h.ordered

theorem mem_without_table {b : Builder S} (h : b.Consistent) {kind : ConfigurerKind}
    {r : Registration S.Configurer} (hr : r ∈ (b.without kind).table.registrations) :
    r ∈ b.table.registrations ∧ S.kind r.configurer ≠ kind := by
  refine ⟨(b.table.erase_sublist kind).subset hr, ?_⟩
  -- the rows that stay are of other kinds, and hold those kinds only
  obtain ⟨row, hrow, hin⟩ := List.mem_flatMap.1 hr
  obtain ⟨hmem, hne⟩ := List.mem_filter.1 hrow
  rw [h.kinded row hmem r hin]
  simpa using hne

theorem mem_without_late {b : Builder S} {kind : ConfigurerKind} {r : Registration S.Configurer} :
    r ∈ (b.without kind).late ↔ r ∈ b.late ∧ S.kind r.configurer ≠ kind := by
  simp [without]

theorem holds_without {b : Builder S} (h : b.Consistent) {kind : ConfigurerKind}
    {r : Registration S.Configurer} (hr : (b.without kind).Holds r) :
    b.Holds r ∧ S.kind r.configurer ≠ kind := by
  rcases hr with hr | hr
  · exact (mem_without_table h hr).imp_left Or.inl
  · exact (mem_without_late.1 hr).imp_left Or.inr

theorem Consistent.without {b : Builder S} (h : b.Consistent) (kind : ConfigurerKind) :
    (b.without kind).Consistent where
  kinded row hrow := h.kinded row (List.mem_filter.1 hrow).1
  distinct := h.distinct.sublist ((b.table.erase_sublist kind).map _)
  ordered := h.ordered.sublist List.filter_sublist
  issued r hr := h.issued r (holds_without h hr).1

end Builder

theorem Step.consistent {a b : Builder S} {e : List (Event S)} (h : a.Consistent)
    (step : Step a e b) : b.Consistent := by
  cases step with
  | register c => exact h.enter c
  | remove kind => exact h.without kind
  | share => exact h.congr rfl rfl rfl
  | fill => exact h.congr rfl rfl rfl
  | surround => exact h.congr rfl rfl rfl
  | tell => exact h

theorem Path.consistent {a b : Builder S} {h : List (Event S)} (path : Path a h b)
    (ha : a.Consistent) : b.Consistent :=
  path.preserves (fun hb step => step.consistent hb) ha

end AuthChain.Build
