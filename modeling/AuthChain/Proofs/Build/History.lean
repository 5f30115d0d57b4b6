import AuthChain.Proofs.Build.Registry

/-!
# What a history says about the registrations

A builder is compared with the events that led to it. Main statements: while a build initializes,
the due registrations are those of the history whose kind was not removed since (`Path.due_eq`);
every registration of the table was there before or is due (`Path.covered`); and a registration
whose kind was removed is held no more (`Recorded.gone`, kept by `Path.recorded`).
-/

namespace AuthChain.Build

open scoped List

variable {S : Signature}

/-! ## Two events in their order -/

theorem pair_sublist_append_iff {ε : Type} {x y : ε} {g h : List ε} :
    [x, y] <+ g ++ h ↔ [x, y] <+ g ∨ (x ∈ g ∧ y ∈ h) ∨ [x, y] <+ h := by
  constructor
  · intro hsub
    obtain ⟨l₁, l₂, heq, h₁, h₂⟩ := List.sublist_append_iff.1 hsub
    -- the pair is cut before, between or behind its two events
    match l₁, l₂, heq with
    | [], _, heq => exact Or.inr (Or.inr (heq ▸ h₂))
    | [_], [_], heq =>
      obtain ⟨rfl, rfl⟩ : x = _ ∧ y = _ := by simpa using heq
      exact Or.inr (Or.inl ⟨List.singleton_sublist.1 h₁, List.singleton_sublist.1 h₂⟩)
    | [_, _], [], heq =>
      obtain ⟨rfl, rfl⟩ : x = _ ∧ y = _ := by simpa using heq
      exact Or.inl h₁
    | _ :: _ :: _ :: _, _, heq => simp at heq
    | [_, _], _ :: _, heq => simp at heq
    | [_], _ :: _ :: _, heq => simp at heq
    | [_], [], heq => simp at heq
  · rintro (hsub | ⟨hx, hy⟩ | hsub)
    · exact hsub.trans (List.sublist_append_left _ _)
    · exact (List.singleton_sublist.2 hx).append (List.singleton_sublist.2 hy)
    · exact hsub.trans (List.sublist_append_right _ _)

/-- A pair whose second event is not among the last ones lies before them. -/
theorem pair_sublist_append_left {ε : Type} {x y : ε} {g h : List ε} (hy : y ∉ h) :
    [x, y] <+ g ++ h ↔ [x, y] <+ g := by
  constructor
  · intro hsub
    rcases pair_sublist_append_iff.1 hsub with hsub | ⟨-, hmem⟩ | hsub
    · exact hsub
    · exact absurd hmem hy
    · exact absurd (hsub.subset (List.mem_cons_of_mem _ List.mem_cons_self)) hy
  · intro hsub
    exact hsub.trans (List.sublist_append_left g h)

/-- A pair whose first event is not among the first ones lies behind them. -/
theorem pair_sublist_append_right {ε : Type} {x y : ε} {g h : List ε} (hx : x ∉ g) :
    [x, y] <+ g ++ h ↔ [x, y] <+ h := by
  constructor
  · intro hsub
    rcases pair_sublist_append_iff.1 hsub with hsub | ⟨hmem, -⟩ | hsub
    · exact absurd (hsub.subset List.mem_cons_self) hx
    · exact absurd hmem hx
    · exact hsub
  · intro hsub
    exact hsub.trans (List.sublist_append_right g h)

/-- What is met before an event lies in front of one of its places. -/
theorem exists_of_pair_sublist {ε : Type} {x y : ε} {h : List ε} (hsub : [x, y] <+ h) :
    ∃ pre post, h = pre ++ y :: post ∧ x ∈ pre := by
  obtain ⟨g₁, g₂, rfl, hx, hy⟩ := List.append_sublist_iff.1 (show [x] ++ [y] <+ h from hsub)
  obtain ⟨before, after, rfl⟩ := List.append_of_mem (List.singleton_sublist.1 hy)
  refine ⟨g₁ ++ before, after, ?_, List.mem_append_left _ (List.singleton_sublist.1 hx)⟩
  rw [List.append_assoc]

theorem not_pair_sublist_append {ε : Type} {x y : ε} {g h : List ε} (hx : x ∉ g) (hy : y ∉ h) :
    ¬ [x, y] <+ g ++ h := by
  rw [pair_sublist_append_right hx]
  intro hsub
  exact hy (hsub.subset (List.mem_cons_of_mem _ List.mem_cons_self))

/-- An event of a grown history was there before or is among the new ones. -/
theorem exists_cut_of_append_eq {ε : Type} {x : ε} {g h pre post : List ε}
    (heq : h ++ g = pre ++ x :: post) :
    (∃ rest, h = pre ++ x :: rest) ∨ ∃ mid, pre = h ++ mid ∧ g = mid ++ x :: post := by
  rcases List.append_eq_append_iff.1 heq with ⟨mid, hpre, hg⟩ | ⟨mid, rfl, hg⟩
  · exact .inr ⟨mid, hpre, hg⟩
  · cases mid with
    | nil => exact .inr ⟨[], by simp, hg.symm⟩
    | cons y rest =>
      obtain ⟨rfl, -⟩ := List.cons.inj hg
      exact .inl ⟨rest, rfl⟩

/-- An event that is not in the first part of a history is met behind it. -/
theorem exists_of_append_eq {ε : Type} {x : ε} {g h pre post : List ε} (hx : x ∉ g)
    (heq : g ++ h = pre ++ x :: post) : ∃ rest, pre = g ++ rest ∧ h = rest ++ x :: post := by
  rcases exists_cut_of_append_eq heq with ⟨rest, rfl⟩ | hbehind
  · exact absurd (List.mem_append_right _ List.mem_cons_self) hx
  · exact hbehind

/-- An event that is met before another one is in the part before that one. -/
theorem exists_of_append_cons_eq {ε : Type} {x y : ε} {g h pre post : List ε} (hne : x ≠ y)
    (hy : y ∉ pre) (heq : g ++ y :: h = pre ++ x :: post) : ∃ rest, g = pre ++ x :: rest := by
  rcases exists_cut_of_append_eq heq with hfront | ⟨mid, rfl, hmid⟩
  · exact hfront
  · cases mid with
    | nil => exact absurd (List.cons.inj hmid).1.symm hne
    | cons z rest =>
      obtain ⟨rfl, -⟩ := List.cons.inj hmid
      exact absurd (List.mem_append_right _ List.mem_cons_self) hy

/-! ## The due registrations -/

/-- The registrations that are due after an event, by number and kind. -/
def pendingStep (due : List (Nat × ConfigurerKind)) : Event S → List (Nat × ConfigurerKind)
  | .registered n kind => due ++ [(n, kind)]
  | .removed kind => due.filter (·.2 != kind)
  | _ => due

/-- The registrations of a history whose kind was not removed since, behind those that were due
before. -/
def pendingFrom (due : List (Nat × ConfigurerKind)) (h : List (Event S)) :
    List (Nat × ConfigurerKind) :=
  h.foldl pendingStep due

/-- The registrations of a history whose kind was not removed since. -/
def pending (h : List (Event S)) : List (Nat × ConfigurerKind) :=
  pendingFrom [] h

/-- The due registrations of a builder, by number and kind. -/
def Builder.due (b : Builder S) : List (Nat × ConfigurerKind) :=
  b.late.map fun r => (r.serial, S.kind r.configurer)

theorem pendingFrom_append (due : List (Nat × ConfigurerKind)) (g h : List (Event S)) :
    pendingFrom due (g ++ h) = pendingFrom (pendingFrom due g) h :=
  List.foldl_append

theorem mem_pendingFrom {x : Nat × ConfigurerKind} {h : List (Event S)} :
    ∀ {due : List (Nat × ConfigurerKind)}, x ∈ pendingFrom due h →
      x ∈ due ∨ .registered x.1 x.2 ∈ h := by
  induction h with
  | nil => exact Or.inl
  | cons e rest ih =>
    intro due hx
    rcases ih hx with hdue | hrest
    · cases e with
      | registered n kind =>
        rcases List.mem_append.1 hdue with hdue | hnew
        · exact Or.inl hdue
        · rw [List.mem_singleton.1 hnew]
          exact Or.inr List.mem_cons_self
      | removed kind => exact Or.inl (List.mem_filter.1 hdue).1
      | _ => exact Or.inl hdue
    · exact Or.inr (List.mem_cons_of_mem _ hrest)

theorem mem_pending {n : Nat} {kind : ConfigurerKind} {h : List (Event S)}
    (hmem : (n, kind) ∈ pending h) : .registered n kind ∈ h :=
  (mem_pendingFrom hmem).resolve_left List.not_mem_nil

theorem pendingStep_of_isPlain {e : Event S} (h : e.isPlain = true)
    (due : List (Nat × ConfigurerKind)) : pendingStep due e = due := by
  cases e <;> first | rfl | simp [Event.isPlain] at h

theorem Builder.due_enter {b : Builder S} (h : b.state = .initializing) (c : S.Configurer) :
    (b.enter c).due = b.due ++ [(b.nextSerial, S.kind c)] := by
  simp [due, enter, h, State.isInitializing]

theorem Builder.due_without (b : Builder S) (kind : ConfigurerKind) :
    (b.without kind).due = b.due.filter (·.2 != kind) := by
  simp only [due, without, List.filter_map]
  rfl

theorem Step.due_eq {a b : Builder S} {e : List (Event S)} (step : Step a e b)
    (ha : a.state = .initializing) : b.due = pendingFrom a.due e := by
  cases step with
  | register c =>
    rw [Builder.due_enter ha]
    simp [registrationEvents, ha, State.isInitializing, pendingFrom, pendingStep]
  | remove kind => exact Builder.due_without a kind
  | share => rfl
  | fill => rfl
  | surround => rfl
  | tell e he => exact (pendingStep_of_isPlain he _).symm

/-- While a build initializes, the due registrations are the pending ones of the history. -/
theorem Path.due_eq {a b : Builder S} {h : List (Event S)} (path : Path a h b)
    (ha : a.state = .initializing) : b.due = pendingFrom a.due h := by
  induction path with
  | refl => rfl
  | head step _ ih =>
    rw [ih (step.sameFrame.state.trans ha), step.due_eq ha, pendingFrom_append]

/-! ## The table -/

theorem Step.covered {a b : Builder S} {e : List (Event S)} (step : Step a e b)
    (hc : a.Consistent) (ha : a.state = .initializing)
    {known : Registration S.Configurer → Prop}
    (hk : ∀ r ∈ a.table.registrations, known r ∨ r ∈ a.late) :
    ∀ r ∈ b.table.registrations, known r ∨ r ∈ b.late := by
  cases step with
  | register c =>
    intro r hr
    have hlate : (a.enter c).late = a.late ++ [⟨a.nextSerial, c⟩] := by
      simp [Builder.enter, ha, State.isInitializing]
    rw [hlate]
    -- the new registration is due, whatever it replaced
    rcases Builder.mem_enter_table hr with rfl | hr
    · exact Or.inr (List.mem_append_right _ (List.mem_singleton.2 rfl))
    · exact (hk r hr).imp_right (List.mem_append_left _)
  | remove kind =>
    intro r hr
    obtain ⟨hr, hne⟩ := Builder.mem_without_table hc hr
    exact (hk r hr).imp_right fun hlate => Builder.mem_without_late.2 ⟨hlate, hne⟩
  | share => exact hk
  | fill => exact hk
  | surround => exact hk
  | tell => exact hk

/-- While a build initializes, every registration of the table was known before or is due. -/
theorem Path.covered {a b : Builder S} {h : List (Event S)} (path : Path a h b)
    (hc : a.Consistent) (ha : a.state = .initializing)
    {known : Registration S.Configurer → Prop}
    (hk : ∀ r ∈ a.table.registrations, known r ∨ r ∈ a.late) :
    ∀ r ∈ b.table.registrations, known r ∨ r ∈ b.late := by
  induction path with
  | refl => exact hk
  | head step _ ih =>
    exact ih (step.consistent hc) (step.sameFrame.state.trans ha) (step.covered hc ha hk)

theorem Step.table_sublist {a b : Builder S} {e : List (Event S)} (step : Step a e b)
    (ha : a.state.isConfigured = true) : b.table.registrations <+ a.table.registrations := by
  cases step with
  | register c open_ =>
    rw [ha] at open_
    exact Bool.noConfusion open_
  | remove kind => exact a.table.erase_sublist kind
  | _ => exact List.Sublist.refl _

/-- From the configuring state on, a table can only lose registrations. -/
theorem Path.table_sublist {a b : Builder S} {h : List (Event S)} (path : Path a h b)
    (ha : a.state.isConfigured = true) : b.table.registrations <+ a.table.registrations := by
  induction path with
  | refl => exact List.Sublist.refl _
  | head step _ ih =>
    exact (ih (by rwa [step.sameFrame.state])).trans (step.table_sublist ha)

/-! ## Recorded registrations -/

/-- The history and the builder agree on the registrations that the history tells of. -/
structure Recorded (h : List (Event S)) (b : Builder S) : Prop where
  consistent : b.Consistent
  issued : ∀ n kind, .registered n kind ∈ h → n < b.nextSerial
  kind : ∀ n kind, .registered n kind ∈ h → ∀ r, b.Holds r → r.serial = n →
    S.kind r.configurer = kind
  gone : ∀ n kind, [.registered n kind, .removed kind] <+ h → ∀ r, b.Holds r → r.serial ≠ n

theorem Recorded.nil {b : Builder S} (h : b.Consistent) : Recorded [] b where
  consistent := h
  issued _ _ hmem := absurd hmem List.not_mem_nil
  kind _ _ hmem := absurd hmem List.not_mem_nil
  gone _ _ hsub := absurd (List.sublist_nil.1 hsub) (List.cons_ne_nil _ _)

/-- Events without registrations and removals, and a builder that holds no more than before. -/
theorem Recorded.of_holds {h e : List (Event S)} {b c : Builder S} (rec : Recorded h b)
    (hc : c.Consistent) (hserial : b.nextSerial ≤ c.nextSerial)
    (hholds : ∀ r, c.Holds r → b.Holds r)
    (hreg : ∀ n kind, (.registered n kind : Event S) ∉ e)
    (hrem : ∀ kind, (.removed kind : Event S) ∉ e) : Recorded (h ++ e) c where
  consistent := hc
  issued n kind hmem :=
    Nat.lt_of_lt_of_le
      (rec.issued n kind ((List.mem_append.1 hmem).resolve_right (hreg n kind))) hserial
  kind n kind hmem r hr :=
    rec.kind n kind ((List.mem_append.1 hmem).resolve_right (hreg n kind)) r (hholds r hr)
  gone n kind hsub r hr :=
    rec.gone n kind ((pair_sublist_append_left (hrem kind)).1 hsub) r (hholds r hr)

/-- Taking the due registrations only makes a builder hold less. -/
theorem Recorded.taken {h : List (Event S)} {b : Builder S} (rec : Recorded h b) :
    Recorded h { b with late := [] } := by
  have hholds : ∀ r, Builder.Holds { b with late := [] } r → b.Holds r :=
    fun _ hr => hr.imp_right fun hr => absurd hr List.not_mem_nil
  have taken := rec.of_holds (e := []) rec.consistent.taken (Nat.le_refl _) hholds (by simp)
    (by simp)
  rwa [List.append_nil] at taken

theorem mem_registrationEvents {b : Builder S} {c : S.Configurer} {n : Nat}
    {kind : ConfigurerKind} :
    (.registered n kind : Event S) ∈ registrationEvents b c ↔
      n = b.nextSerial ∧ kind = S.kind c := by
  unfold registrationEvents
  split <;> simp

theorem removed_not_mem_registrationEvents (b : Builder S) (c : S.Configurer)
    (kind : ConfigurerKind) : (.removed kind : Event S) ∉ registrationEvents b c := by
  unfold registrationEvents
  split <;> simp

theorem moved_not_mem_registrationEvents (b : Builder S) (c : S.Configurer) (s t : State) :
    (.moved s t : Event S) ∉ registrationEvents b c := by
  unfold registrationEvents
  split <;> simp

theorem Recorded.enter {h : List (Event S)} {b : Builder S} (rec : Recorded h b)
    (c : S.Configurer) : Recorded (h ++ registrationEvents b c) (b.enter c) where
  consistent := rec.consistent.enter c
  issued n kind hmem := by
    rcases List.mem_append.1 hmem with hmem | hmem
    · exact Nat.lt_succ_of_lt (rec.issued n kind hmem)
    · rw [(mem_registrationEvents.1 hmem).1]
      exact Nat.lt_succ_self _
  kind n kind hmem r hr hn := by
    rcases List.mem_append.1 hmem with hmem | hmem
    · rcases Builder.holds_enter hr with rfl | hr
      · -- the numbers of the history are below that of the new registration
        exact absurd hn (Nat.ne_of_gt (rec.issued n kind hmem))
      · exact rec.kind n kind hmem r hr hn
    · obtain ⟨hserial, hkind⟩ := mem_registrationEvents.1 hmem
      rcases Builder.holds_enter hr with rfl | hr
      · exact hkind.symm
      · exact absurd (hn.trans hserial) (Nat.ne_of_lt (rec.consistent.issued r hr))
  gone n kind hsub r hr := by
    -- the registration itself removes nothing, so the removal lies before it
    have hbefore : [.registered n kind, .removed kind] <+ h :=
      (pair_sublist_append_left (removed_not_mem_registrationEvents b c kind)).1 hsub
    rcases Builder.holds_enter hr with rfl | hr
    · exact Nat.ne_of_gt (rec.issued n kind (hbefore.subset List.mem_cons_self))
    · exact rec.gone n kind hbefore r hr

theorem Recorded.without {h : List (Event S)} {b : Builder S} (rec : Recorded h b)
    (kind : ConfigurerKind) : Recorded (h ++ [.removed kind]) (b.without kind) where
  consistent := rec.consistent.without kind
  issued n k hmem := by
    rcases List.mem_append.1 hmem with hmem | hmem
    · exact rec.issued n k hmem
    · simp at hmem
  kind n k hmem r hr := by
    rcases List.mem_append.1 hmem with hmem | hmem
    · exact rec.kind n k hmem r (Builder.holds_without rec.consistent hr).1
    · simp at hmem
  gone n k hsub r hr := by
    -- either the history already removed the kind, or this removal is of the kind itself
    obtain ⟨hr, hne⟩ := Builder.holds_without rec.consistent hr
    rcases pair_sublist_append_iff.1 hsub with hsub | ⟨hmem, hk⟩ | hsub
    · exact rec.gone n k hsub r hr
    · intro hn
      have hkind : k = kind := by simpa using hk
      exact hne ((rec.kind n k hmem r hr hn).trans hkind)
    · exact absurd hsub.length_le (by simp)

theorem Recorded.step {h e : List (Event S)} {b c : Builder S} (rec : Recorded h b)
    (step : Step b e c) : Recorded (h ++ e) c := by
  have hc := step.consistent rec.consistent
  cases step with
  | register c => exact rec.enter c
  | remove kind => exact rec.without kind
  | share => exact rec.of_holds hc (Nat.le_refl _) (fun _ hr => hr) (by simp) (by simp)
  | fill => exact rec.of_holds hc (Nat.le_refl _) (fun _ hr => hr) (by simp) (by simp)
  | surround => exact rec.of_holds hc (Nat.le_refl _) (fun _ hr => hr) (by simp) (by simp)
  | tell e he =>
    refine rec.of_holds hc (Nat.le_refl _) (fun _ hr => hr) ?_ ?_
    · intro n kind hmem
      rw [List.mem_singleton] at hmem
      subst hmem
      simp [Event.isPlain] at he
    · intro kind hmem
      rw [List.mem_singleton] at hmem
      subst hmem
      simp [Event.isPlain] at he

theorem Path.recorded {a b : Builder S} {g h : List (Event S)} (path : Path a g b)
    (rec : Recorded h a) : Recorded (h ++ g) b :=
  path.invariant (fun rec step => rec.step step) rec

theorem Path.serial_le {a b : Builder S} {h : List (Event S)} (path : Path a h b) {n : Nat}
    {kind : ConfigurerKind} (hmem : .registered n kind ∈ h) : a.nextSerial ≤ n := by
  induction path with
  | refl => exact absurd hmem List.not_mem_nil
  | head step _ ih =>
    rcases List.mem_append.1 hmem with hmem | hmem
    · cases step with
      | register c => exact Nat.le_of_eq (mem_registrationEvents.1 hmem).1.symm
      | tell e he =>
        rw [List.mem_singleton] at hmem
        subst hmem
        simp [Event.isPlain] at he
      | _ => simp at hmem
    · exact Nat.le_trans step.nextSerial_le (ih hmem)

end AuthChain.Build
