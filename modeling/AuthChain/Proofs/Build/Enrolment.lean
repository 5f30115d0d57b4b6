import AuthChain.Proofs.Build.Passage
import AuthChain.Proofs.Build.Surviving
import Mathlib.Data.List.Nodup

/-!
# The table as the history tells it

The registrations and removals of a history say which numbers stand in the table, kind by kind
(`tableOf`), and which registrations were made, in their order (`made`).

Main statements: at each moment of its use the table of a builder is the one that its history tells
of, and the registrations of the history are numbered from zero on without a gap
(`Builder.enrolled_after`, kept by `Passage.enrolled`); so an event tells of a registration in one
place at most (`Enrolled.not_registered_twice`).
-/

namespace AuthChain.Build

variable {S : Signature}

/-! ## Tables of numbers -/

/-- The registration without its configurer. -/
def Registration.bare {C : Type} (r : Registration C) : Registration Unit :=
  ⟨r.serial, ()⟩

namespace Table

variable {C : Type}

/-- The table without its configurers. -/
def bare (t : Table C) : Table Unit :=
  ⟨t.rows.map fun row => (row.1, row.2.map Registration.bare)⟩

theorem upsertRow_map {kind : ConfigurerKind} {f : List (Registration C) → List (Registration C)}
    {g : List (Registration Unit) → List (Registration Unit)}
    (hf : ∀ rs, (f rs).map Registration.bare = g (rs.map Registration.bare))
    (rows : List (ConfigurerKind × List (Registration C))) :
    (upsertRow kind f rows).map (fun row => (row.1, row.2.map Registration.bare)) =
      upsertRow kind g (rows.map fun row => (row.1, row.2.map Registration.bare)) := by
  induction rows with
  | nil => simp [upsertRow, hf]
  | cons row rest ih =>
    obtain ⟨k, rs⟩ := row
    simp only [upsertRow, List.map_cons]
    split
    · simp [hf]
    · simp [ih]

theorem bare_push (t : Table C) (kind : ConfigurerKind) (r : Registration C) :
    (t.push kind r).bare = t.bare.push kind r.bare :=
  congrArg Table.mk (upsertRow_map (by simp) t.rows)

theorem bare_replace (t : Table C) (kind : ConfigurerKind) (r : Registration C) :
    (t.replace kind r).bare = t.bare.replace kind r.bare :=
  congrArg Table.mk (upsertRow_map (by simp) t.rows)

theorem bare_erase (t : Table C) (kind : ConfigurerKind) :
    (t.erase kind).bare = t.bare.erase kind := by
  simp only [bare, erase, List.filter_map]
  rfl

theorem kinds_bare (t : Table C) : t.bare.kinds = t.kinds := by
  simp [bare, kinds]

theorem ofKind_bare (t : Table C) (kind : ConfigurerKind) :
    t.bare.ofKind kind = (t.ofKind kind).map Registration.bare := by
  obtain ⟨rows⟩ := t
  induction rows with
  | nil => rfl
  | cons row rest ih =>
    obtain ⟨k, rs⟩ := row
    simp only [ofKind, bare, List.map_cons, lookup_row] at ih ⊢
    split
    · rfl
    · exact ih

theorem serials_bare (t : Table C) :
    t.bare.registrations.map (·.serial) = t.registrations.map (·.serial) := by
  simp [bare, registrations, List.flatMap_map, List.map_flatMap]
  rfl

end Table

/-! ## What a history tells of registrations -/

/-- The registration that the event tells of, if it tells of one, by number and kind. -/
def Event.registration? : Event S → Option (Nat × ConfigurerKind)
  | .registered n kind => some (n, kind)
  | _ => none

/-- The registrations of a history in their order. -/
def made (h : List (Event S)) : List (Nat × ConfigurerKind) :=
  h.filterMap Event.registration?

/-- The table after an event. -/
def tableStep (accumulates : Bool) (t : Table Unit) : Event S → Table Unit
  | .registered n kind => if accumulates then t.push kind ⟨n, ()⟩ else t.replace kind ⟨n, ()⟩
  | .removed kind => t.erase kind
  | _ => t

/-- The table that a history tells of. -/
def tableOf (accumulates : Bool) (h : List (Event S)) : Table Unit :=
  h.foldl (tableStep accumulates) .empty

@[simp] theorem made_append (g h : List (Event S)) : made (g ++ h) = made g ++ made h :=
  List.filterMap_append ..

theorem mem_made {h : List (Event S)} {n : Nat} {kind : ConfigurerKind} :
    (n, kind) ∈ made h ↔ .registered n kind ∈ h := by
  unfold made
  rw [List.mem_filterMap]
  constructor
  · rintro ⟨e, he, hr⟩
    cases e <;> simp [Event.registration?] at hr
    obtain ⟨rfl, rfl⟩ := hr
    exact he
  · intro h
    exact ⟨_, h, rfl⟩

theorem tableOf_append (accumulates : Bool) (g h : List (Event S)) :
    tableOf accumulates (g ++ h) = h.foldl (tableStep accumulates) (tableOf accumulates g) :=
  List.foldl_append

theorem tableOf_concat (accumulates : Bool) (h : List (Event S)) (e : Event S) :
    tableOf accumulates (h ++ [e]) = tableStep accumulates (tableOf accumulates h) e :=
  tableOf_append accumulates h [e]

theorem nodup_kinds_tableOf (accumulates : Bool) (h : List (Event S)) :
    (tableOf accumulates h).kinds.Nodup := by
  induction h using List.reverseRecOn with
  | nil => exact List.nodup_nil
  | append_singleton h e ih =>
    rw [tableOf_concat]
    cases e with
    | registered n kind =>
      cases accumulates with
      | true => exact Table.nodup_upsertRow ih
      | false => exact Table.nodup_upsertRow ih
    | removed kind => exact ih.sublist (List.filter_sublist.map _)
    | _ => exact ih

/-! ## Enrolled builders -/

/-- The table of the builder is the one of the history, whose registrations carry the numbers that
the builder issued. -/
structure Enrolled (accumulates : Bool) (h : List (Event S)) (b : Builder S) : Prop where
  mode : b.accumulates = accumulates
  table_eq : b.table.bare = tableOf accumulates h
  numbers : (made h).map (·.1) = List.range b.nextSerial

namespace Enrolled

variable {accumulates : Bool} {h : List (Event S)} {b c : Builder S}

theorem create (t : S.Target) (accumulates : Bool) (w : S.World) :
    Enrolled accumulates [] (Builder.create t accumulates w) :=
  ⟨rfl, rfl, rfl⟩

/-- Events that tell of no registration and no removal, and a builder with the same table. -/
theorem silent (enrolled : Enrolled accumulates h b) {e : List (Event S)}
    (htable : ∀ t, e.foldl (tableStep accumulates) t = t) (hmade : made e = [])
    (hmode : c.accumulates = b.accumulates) (heq : c.table = b.table)
    (hserial : c.nextSerial = b.nextSerial) : Enrolled accumulates (h ++ e) c where
  mode := hmode.trans enrolled.mode
  table_eq := by rw [heq, enrolled.table_eq, tableOf_append, htable]
  numbers := by rw [made_append, hmade, List.append_nil, hserial, enrolled.numbers]

theorem enter (enrolled : Enrolled accumulates h b) (c : S.Configurer) :
    Enrolled accumulates (h ++ registrationEvents b c) (b.enter c) := by
  -- the second event of a late registration changes neither the table nor the numbers
  have htable : ∀ t, (registrationEvents b c).foldl (tableStep accumulates) t =
      tableStep accumulates t (.registered (S := S) b.nextSerial (S.kind c)) := by
    intro t
    unfold registrationEvents
    split <;> rfl
  have hmade : made (registrationEvents b c) = [(b.nextSerial, S.kind c)] := by
    unfold registrationEvents
    split <;> rfl
  refine ⟨enrolled.mode, ?_, ?_⟩
  · rw [tableOf_append, htable, ← enrolled.table_eq, Builder.enter_table, enrolled.mode]
    cases accumulates with
    | true => exact b.table.bare_push _ _
    | false => exact b.table.bare_replace _ _
  · rw [made_append, hmade, List.map_append, enrolled.numbers]
    exact List.range_succ.symm

theorem without (enrolled : Enrolled accumulates h b) (kind : ConfigurerKind) :
    Enrolled accumulates (h ++ [.removed kind]) (b.without kind) := by
  refine ⟨enrolled.mode, ?_, ?_⟩
  · rw [tableOf_concat, ← enrolled.table_eq]
    exact b.table.bare_erase kind
  · rw [made_append, List.map_append, enrolled.numbers]
    exact List.append_nil _

theorem step {e : List (Event S)} (enrolled : Enrolled accumulates h b) (step : Step b e c) :
    Enrolled accumulates (h ++ e) c := by
  cases step with
  | register c => exact enrolled.enter c
  | remove kind => exact enrolled.without kind
  | tell e he =>
    refine enrolled.silent ?_ ?_ rfl rfl rfl
    · intro t
      cases e <;> first | rfl | simp [Event.isPlain] at he
    · cases e <;> first | rfl | simp [Event.isPlain] at he
  | _ => exact enrolled.silent (fun _ => rfl) rfl rfl rfl rfl

theorem turn {e : List (Event S)} (enrolled : Enrolled accumulates h b) (turn : Turn b e c) :
    Enrolled accumulates (h ++ e) c := by
  cases turn with
  | step step => exact enrolled.step step
  | _ => exact enrolled.silent (fun _ => rfl) rfl rfl rfl rfl

theorem nodup_made (enrolled : Enrolled accumulates h b) : ((made h).map (·.1)).Nodup := by
  rw [enrolled.numbers]
  exact List.nodup_range

/-- The number of a registration is not issued again. -/
theorem not_registered_twice (enrolled : Enrolled accumulates h b) {pre post : List (Event S)}
    {n : Nat} {kind : ConfigurerKind} (heq : h = pre ++ .registered n kind :: post)
    (other : ConfigurerKind) : .registered n other ∉ pre ∧ .registered n other ∉ post := by
  have hmade : made h = made pre ++ (n, kind) :: made post := by
    rw [heq, made_append]
    rfl
  have hnodup := enrolled.nodup_made
  rw [hmade, List.map_append, List.map_cons, List.nodup_middle, List.nodup_cons,
    ← List.map_append] at hnodup
  have hnot : (n, other) ∉ made pre ++ made post := fun hmem =>
    hnodup.1 (List.mem_map.2 ⟨_, hmem, rfl⟩)
  constructor
  · intro hmem
    exact hnot (List.mem_append_left _ (mem_made.2 hmem))
  · intro hmem
    exact hnot (List.mem_append_right _ (mem_made.2 hmem))

/-- The kinds of the table are pairwise different. -/
theorem orderly (enrolled : Enrolled accumulates h b) (hb : b.Consistent) :
    b.table.Orderly S.kind := by
  refine ⟨hb.kinded, ?_⟩
  rw [← Table.kinds_bare, enrolled.table_eq]
  exact nodup_kinds_tableOf accumulates h

end Enrolled

theorem Passage.enrolled {accumulates : Bool} {g h : List (Event S)} {a b : Builder S}
    (passage : Passage a g b) (enrolled : Enrolled accumulates h a) :
    Enrolled accumulates (h ++ g) b :=
  passage.invariant (fun enrolled turn => enrolled.turn turn) enrolled

namespace Builder

/-- Whatever is done with a builder, its table is the one that its history tells of. -/
theorem enrolled_after (t : S.Target) (accumulates : Bool) (w : S.World)
    (ops : List (Operation S)) :
    Enrolled accumulates ((create t accumulates w).history ops)
      ((create t accumulates w).after ops) :=
  (after_passage _ ops).enrolled (.create t accumulates w)

section Stages

variable {accumulates : Bool} {h : List (Event S)} {b : Builder S}
  (enrolled : Enrolled accumulates h b) (l : Lifecycle S)

include enrolled

theorem enrolled_opened : Enrolled accumulates (h ++ openingEvents l b) (opened l b) :=
  (travels_opening l b).enrolled enrolled

theorem enrolled_initialized :
    Enrolled accumulates (h ++ (openingEvents l b ++ (firstEvents l b ++ lateEvents l b)))
      (initialized l b) :=
  ((travels_opening l b).trans
    ((travels_firstPass l _).trans (travels_latePass l _))).enrolled enrolled

theorem enrolled_prepared :
    Enrolled accumulates
      (h ++ (openingEvents l b ++ (firstEvents l b ++ (lateEvents l b ++ turningEvents l b))))
      (prepared l b) :=
  ((travels_opening l b).trans ((travels_firstPass l _).trans
    ((travels_latePass l _).trans (travels_turning l _)))).enrolled enrolled

end Stages

end Builder

end AuthChain.Build
