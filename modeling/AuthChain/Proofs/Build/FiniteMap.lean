import AuthChain.Build.SharedObjects
import Mathlib.Data.Finmap
import Mathlib.Data.Multiset.Sort
import Mathlib.Data.String.Basic

/-!
# Shared objects as a finite map

Tables of shared objects and finite maps from types to values offer the same operations. A sound
table stores every value under the code of its own type, and shows that type for it. All operations
keep tables sound, and on sound tables they are those of the finite map.

Main statement: whatever is asked of a table and of its clones, they reply as finite maps do, no
stored value is ever found to be of another type, and no table changes with another
(`SharedObjects.replies_as_finite_map`).
-/

namespace AuthChain.Build

variable {U : Type} {V : U → Type}

/-! ## Operations -/

/-- What is asked of a table. -/
inductive SharedRequest (V : U → Type) where
  /-- Store a value, handed over itself or by a pointer; the one that it replaces is the reply. -/
  | insert (u : U) (v : V u)
  | get (u : U)
  | contains (u : U)
  | remove (u : U)
  | size
  | typeNames
  /-- Make a copy, which becomes the last of the tables. -/
  | clone

/-- What is replied. -/
inductive SharedReply (V : U → Type) where
  | value (u : U) (v : Option (V u))
  | truth (b : Bool)
  | number (n : Nat)
  | names (ns : List String)
  | copied (n : Nat)
  | noTable

/-- The operations of a kind of tables. -/
structure TableKind (V : U → Type) (T : Type) where
  empty : T
  get? : T → (u : U) → Option (V u)
  contains : T → U → Bool
  insert : T → (u : U) → V u → Option (V u) × T
  remove : T → (u : U) → Option (V u) × T
  size : T → Nat
  typeNames : T → List String

namespace TableKind

variable {T : Type}

/-- Put a request to the table with a number. -/
def perform (kind : TableKind V T) (tables : List T) (k : Nat) (request : SharedRequest V) :
    SharedReply V × List T :=
  match tables[k]? with
  | none => (.noTable, tables)
  | some t =>
    match request with
    | .insert u v => (.value u (kind.insert t u v).1, tables.set k (kind.insert t u v).2)
    | .get u => (.value u (kind.get? t u), tables)
    | .contains u => (.truth (kind.contains t u), tables)
    | .remove u => (.value u (kind.remove t u).1, tables.set k (kind.remove t u).2)
    | .size => (.number (kind.size t), tables)
    | .typeNames => (.names (kind.typeNames t), tables)
    | .clone => (.copied tables.length, tables ++ [t])

/-- Put requests one after the other, each to the table with its number. -/
def run (kind : TableKind V T) :
    List (Nat × SharedRequest V) → List T → List (SharedReply V) × List T
  | [], tables => ([], tables)
  | (k, request) :: rest, tables =>
    let first := kind.perform tables k request
    let later := kind.run rest first.2
    (first.1 :: later.1, later.2)

/-- A request changes the table that it is put to and adds tables at most. -/
theorem perform_other (kind : TableKind V T) {tables : List T} {k j : Nat} (hne : k ≠ j)
    (hj : j < tables.length) (request : SharedRequest V) :
    (kind.perform tables k request).2[j]? = tables[j]? := by
  unfold perform
  cases tables[k]? with
  | none => rfl
  | some t =>
    cases request with
    | insert u v => exact List.getElem?_set_ne hne
    | remove u => exact List.getElem?_set_ne hne
    | clone => exact List.getElem?_append_left hj
    | get u => rfl
    | contains u => rfl
    | size => rfl
    | typeNames => rfl

theorem length_perform (kind : TableKind V T) (tables : List T) (k : Nat)
    (request : SharedRequest V) : tables.length ≤ (kind.perform tables k request).2.length := by
  unfold perform
  cases tables[k]? with
  | none => exact Nat.le_refl _
  | some t =>
    cases request <;> simp

/-- Requests to other tables change nothing about a table. -/
theorem run_other (kind : TableKind V T) {j : Nat} (requests : List (Nat × SharedRequest V)) :
    ∀ tables : List T, j < tables.length → (∀ r ∈ requests, r.1 ≠ j) →
      (kind.run requests tables).2[j]? = tables[j]? := by
  induction requests with
  | nil =>
    intro tables _ _
    rfl
  | cons r rest ih =>
    obtain ⟨k, request⟩ := r
    intro tables hj hothers
    have hlength := kind.length_perform tables k request
    have hfirst := kind.perform_other (hothers _ List.mem_cons_self) hj request
    rw [← hfirst]
    exact ih _ (by omega) fun r hr => hothers r (List.mem_cons_of_mem _ hr)

/-! ## Refinement -/

section Refinement

variable {T' : Type}

/-- On sound tables, the operations of a kind are those of another one, and keep tables sound. -/
structure Refines (kind : TableKind V T) (other : TableKind V T') (Sound : T → Prop)
    (view : T → T') : Prop where
  sound_empty : Sound kind.empty
  sound_insert : ∀ {t}, Sound t → ∀ u v, Sound (kind.insert t u v).2
  sound_remove : ∀ {t}, Sound t → ∀ u, Sound (kind.remove t u).2
  empty : view kind.empty = other.empty
  get? : ∀ {t}, Sound t → ∀ u, kind.get? t u = other.get? (view t) u
  contains : ∀ {t}, Sound t → ∀ u, kind.contains t u = other.contains (view t) u
  insert : ∀ {t}, Sound t → ∀ u v,
    other.insert (view t) u v = ((kind.insert t u v).1, view (kind.insert t u v).2)
  remove : ∀ {t}, Sound t → ∀ u,
    other.remove (view t) u = ((kind.remove t u).1, view (kind.remove t u).2)
  size : ∀ {t}, Sound t → kind.size t = other.size (view t)
  typeNames : ∀ {t}, Sound t → kind.typeNames t = other.typeNames (view t)

namespace Refines

variable {kind : TableKind V T} {other : TableKind V T'} {Sound : T → Prop} {view : T → T'}

theorem perform (h : kind.Refines other Sound view) {tables : List T}
    (hsound : ∀ t ∈ tables, Sound t) (k : Nat) (request : SharedRequest V) :
    (∀ t ∈ (kind.perform tables k request).2, Sound t) ∧
      other.perform (tables.map view) k request =
        ((kind.perform tables k request).1, (kind.perform tables k request).2.map view) := by
  unfold TableKind.perform
  rw [List.getElem?_map]
  cases htable : tables[k]? with
  | none => exact ⟨hsound, rfl⟩
  | some t =>
    have ht : Sound t := hsound t (List.mem_of_getElem? htable)
    have hset : ∀ t', Sound t' → ∀ x ∈ tables.set k t', Sound x := by
      intro t' ht' x hx
      rcases List.mem_or_eq_of_mem_set hx with hx | rfl
      · exact hsound x hx
      · exact ht'
    cases request with
    | insert u v =>
      refine ⟨hset _ (h.sound_insert ht u v), ?_⟩
      simp only [Option.map_some, List.map_set, h.insert ht]
    | remove u =>
      refine ⟨hset _ (h.sound_remove ht u), ?_⟩
      simp only [Option.map_some, List.map_set, h.remove ht]
    | get u => exact ⟨hsound, by simp only [Option.map_some, h.get? ht]⟩
    | contains u => exact ⟨hsound, by simp only [Option.map_some, h.contains ht]⟩
    | size => exact ⟨hsound, by simp only [Option.map_some, h.size ht]⟩
    | typeNames => exact ⟨hsound, by simp only [Option.map_some, h.typeNames ht]⟩
    | clone =>
      refine ⟨fun x hx => ?_, ?_⟩
      · rcases List.mem_append.1 hx with hx | hx
        · exact hsound x hx
        · exact List.mem_singleton.1 hx ▸ ht
      · simp only [Option.map_some, List.length_map, List.map_append, List.map_singleton]

theorem run (h : kind.Refines other Sound view) (requests : List (Nat × SharedRequest V)) :
    ∀ tables : List T, (∀ t ∈ tables, Sound t) →
      (∀ t ∈ (kind.run requests tables).2, Sound t) ∧
        other.run requests (tables.map view) =
          ((kind.run requests tables).1, (kind.run requests tables).2.map view) := by
  induction requests with
  | nil =>
    intro tables hsound
    exact ⟨hsound, rfl⟩
  | cons r rest ih =>
    obtain ⟨k, request⟩ := r
    intro tables hsound
    obtain ⟨hfirst, hperform⟩ := h.perform hsound k request
    obtain ⟨hlater, hrun⟩ := ih _ hfirst
    refine ⟨hlater, ?_⟩
    rw [TableKind.run, hperform, hrun]
    rfl

end Refines

end Refinement

end TableKind

/-! ## Finite maps -/

/-- Finite maps from types to values. The names are those of the types that have a value. -/
def finiteMaps [DecidableEq U] (name : U → String) : TableKind V (Finmap V) where
  empty := ∅
  get? m u := m.lookup u
  contains m u := decide (u ∈ m)
  insert m u v := (m.lookup u, m.insert u v)
  remove m u := (m.lookup u, m.erase u)
  size m := m.keys.card
  typeNames m := (m.keys.val.map name).sort (· ≤ ·)

namespace SharedObjects

/-- Tables of shared objects. -/
def tables [DecidableEq U] (name : U → String) : TableKind V (SharedObjects V) where
  empty := .empty
  get? := get?
  contains := contains
  insert := replace
  remove := take
  size := size
  typeNames t := t.typeNames name

/-- Every value is stored once, under the code of its own type, which is shown for it. -/
structure Sound (t : SharedObjects V) : Prop where
  nodup : (t.entries.map Prod.fst).Nodup
  shown : ∀ e ∈ t.entries, e.2.shown = e.1
  typed : ∀ e ∈ t.entries, e.2.value.1 = e.1

/-- The values by their types. -/
def toMap [DecidableEq U] (t : SharedObjects V) : Finmap V :=
  (t.entries.map fun e => e.2.value).toFinmap

namespace Sound

theorem empty : Sound (.empty : SharedObjects V) where
  nodup := List.nodup_nil
  shown _ he := absurd he List.not_mem_nil
  typed _ he := absurd he List.not_mem_nil

variable [DecidableEq U] {t : SharedObjects V}

theorem insert (h : t.Sound) (u : U) (v : V u) : (t.insert u v).Sound where
  nodup := by
    have hkeys : (t.insert u v).entries.map Prod.fst =
        if u ∈ t.entries.map Prod.fst then t.entries.map Prod.fst
        else t.entries.map Prod.fst ++ [u] := Slots.map_fst_put u _ _
    rw [hkeys]
    split
    · exact h.nodup
    · next hu =>
      rw [← List.concat_eq_append]
      exact h.nodup.concat hu
  shown e he := by
    rcases Slots.mem_put he with rfl | he
    · rfl
    · exact h.shown e he
  typed e he := by
    rcases Slots.mem_put he with rfl | he
    · rfl
    · exact h.typed e he

theorem erase (h : t.Sound) (u : U) : (t.erase u).Sound where
  nodup := h.nodup.sublist (List.filter_sublist.map _)
  shown e he := h.shown e (List.mem_of_mem_filter he)
  typed e he := h.typed e (List.mem_of_mem_filter he)

/-- What is stored in a sound table never turns out to be of another type. -/
theorem downcast? (h : t.Sound) {e : U × Stored V} (he : e ∈ t.entries) :
    ∃ v, e.2.downcast? e.1 = some v :=
  ⟨_, dif_pos (h.typed e he)⟩

theorem get?_eq_dlookup (h : ∀ e ∈ t.entries, e.2.value.1 = e.1) (u : U) :
    t.get? u = (t.entries.map fun e => e.2.value).dlookup u := by
  obtain ⟨entries⟩ := t
  unfold get?
  induction entries with
  | nil => rfl
  | cons head rest ih =>
    obtain ⟨k, shown, w, v⟩ := head
    obtain rfl : w = k := h _ List.mem_cons_self
    have hrest := ih fun e he => h e (List.mem_cons_of_mem _ he)
    by_cases hu : w = u
    · subst hu
      simp [Stored.downcast?]
    · have hne : u ≠ w := Ne.symm hu
      rw [List.map_cons, List.lookup_cons, beq_false_of_ne hne, List.dlookup_cons_ne _ _ hne]
      exact hrest

theorem lookup_toMap (h : t.Sound) (u : U) : t.toMap.lookup u = t.get? u := by
  rw [toMap, Finmap.dlookup_list_toFinmap, get?_eq_dlookup h.typed]

theorem mem_toMap_iff (h : t.Sound) (u : U) : u ∈ t.toMap ↔ u ∈ t.entries.map Prod.fst := by
  have hkeys : t.entries.map Prod.fst = (t.entries.map fun e => e.2.value).keys := by
    rw [List.keys, List.map_map]
    exact List.map_congr_left fun e he => (h.typed e he).symm
  rw [← Finmap.lookup_isSome, toMap, Finmap.dlookup_list_toFinmap, List.dlookup_isSome, hkeys]

/-- The keys of the finite map are the codes under which something is stored. -/
theorem keys_toMap (h : t.Sound) :
    t.toMap.keys.val = (t.entries.map Prod.fst : List U) := by
  have hkeys : t.toMap.keys = (t.entries.map Prod.fst).toFinset := by
    ext u
    rw [Finmap.mem_keys, h.mem_toMap_iff, List.mem_toFinset]
  rw [hkeys, List.toFinset_val, h.nodup.dedup]

theorem contains_eq (h : t.Sound) (u : U) : t.contains u = decide (u ∈ t.toMap) := by
  rw [Bool.eq_iff_iff, decide_eq_true_iff, h.mem_toMap_iff]
  simp [contains]

theorem toMap_insert (h : t.Sound) (u : U) (v : V u) :
    (t.insert u v).toMap = t.toMap.insert u v := by
  apply Finmap.ext_lookup
  intro w
  rw [(h.insert u v).lookup_toMap]
  by_cases hw : u = w
  · subst hw
    rw [t.get?_insert_self, Finmap.lookup_insert]
  · rw [t.get?_insert_of_ne hw, Finmap.lookup_insert_of_ne _ (Ne.symm hw), h.lookup_toMap]

theorem toMap_erase (h : t.Sound) (u : U) : (t.erase u).toMap = t.toMap.erase u := by
  apply Finmap.ext_lookup
  intro w
  have hget : (t.erase u).get? w = if w = u then none else t.get? w := by
    unfold get? SharedObjects.erase
    rw [Slots.lookup_filter_ne]
    by_cases hw : w = u <;> simp [hw]
  rw [(h.erase u).lookup_toMap, hget]
  split
  · next hw => rw [hw, Finmap.lookup_erase]
  · next hw => rw [Finmap.lookup_erase_ne hw, h.lookup_toMap]

theorem size_eq (h : t.Sound) : t.size = t.toMap.keys.card := by
  rw [Finset.card_def, h.keys_toMap, Multiset.coe_card, List.length_map, size]

theorem typeNames_eq (h : t.Sound) (name : U → String) :
    t.typeNames name = (t.toMap.keys.val.map name).sort (· ≤ ·) := by
  have hnames : (t.entries.map fun e => name e.2.shown) =
      (t.entries.map Prod.fst).map name := by
    rw [List.map_map]
    exact List.map_congr_left fun e he => congrArg name (h.shown e he)
  rw [h.keys_toMap, Multiset.map_coe, Multiset.coe_sort, typeNames, hnames]

end Sound

theorem tables_refine [DecidableEq U] (name : U → String) :
    (tables (V := V) name).Refines (finiteMaps name) Sound toMap where
  sound_empty := .empty
  sound_insert h := h.insert
  sound_remove h := h.erase
  empty := rfl
  get? h u := (h.lookup_toMap u).symm
  contains h := h.contains_eq
  insert h u v := congrArg₂ Prod.mk (h.lookup_toMap u) (h.toMap_insert u v).symm
  remove h u := congrArg₂ Prod.mk (h.lookup_toMap u) (h.toMap_erase u).symm
  size h := h.size_eq
  typeNames h := h.typeNames_eq name

/-- Whatever requests are put to a table that is empty at first and to the copies that are made of
it and of each other, the replies are those of finite maps from types to values. There is a value to
be got exactly where a table contains something, and nothing that is stored fails to be of its type.
Later requests to other tables leave a table, also a copy or what it was copied from, as it is. -/
theorem replies_as_finite_map [DecidableEq U] (name : U → String)
    (requests : List (Nat × SharedRequest V)) :
    let reached := (tables name).run requests [.empty]
    reached.1 = ((finiteMaps name).run requests [∅]).1 ∧
      (∀ t ∈ reached.2, (∀ u, t.contains u = (t.get? u).isSome) ∧
        ∀ e ∈ t.entries, ∃ v, e.2.downcast? e.1 = some v) ∧
      ∀ k t, reached.2[k]? = some t → ∀ later : List (Nat × SharedRequest V),
        (∀ r ∈ later, r.1 ≠ k) → ((tables name).run later reached.2).2[k]? = some t := by
  intro reached
  have hstart : ∀ t ∈ [(.empty : SharedObjects V)], t.Sound := by
    intro t ht
    obtain rfl := List.mem_singleton.1 ht
    exact .empty
  obtain ⟨hsound, hrun⟩ := (tables_refine name).run requests _ hstart
  refine ⟨(congrArg Prod.fst hrun).symm, fun t ht => ⟨fun u => ?_, fun e => ?_⟩, ?_⟩
  · have h := hsound t ht
    rw [h.contains_eq, ← h.lookup_toMap, Bool.eq_iff_iff, decide_eq_true_iff, Finmap.lookup_isSome]
  · exact (hsound t ht).downcast?
  · intro k t hk later hothers
    rw [(tables name).run_other later _ (List.getElem?_eq_some_iff.1 hk).1 hothers, hk]

/-- Two value types with different carriers. -/
def Specimen : Bool → Type
  | true => String
  | false => Nat

/-- A copy keeps the value that is replaced and removed in the table it was copied from. -/
theorem copy_keeps_value :
    let name : Bool → String := fun u => if u then "String" else "Nat"
    let before : List (Nat × SharedRequest Specimen) :=
      [(0, .insert true "first"), (0, .insert false (7 : Nat)), (0, .remove false), (0, .clone)]
    let later : List (Nat × SharedRequest Specimen) :=
      [(0, .insert true "second"), (0, .get true), (0, .remove true)]
    let reached := (tables name).run before [.empty]
    let copy : SharedObjects Specimen := ⟨[(true, .ofValue true "first")]⟩
    reached.2[1]? = some copy ∧ (∀ r ∈ later, r.1 ≠ 1) ∧
      ((tables name).run later reached.2).2[1]? = some copy ∧ copy.get? true = some "first" ∧
      ((tables name).run later reached.2).1 =
        [.value true (some "first"), .value true (some "second"), .value true (some "second")] := by
  intro name before later reached copy
  have hothers : ∀ r ∈ later, r.1 ≠ 1 := by
    intro r hr
    simp only [later, List.mem_cons, List.not_mem_nil, or_false] at hr
    rcases hr with rfl | rfl | rfl <;> decide
  have hkept := (replies_as_finite_map name before).2.2 1 copy rfl later hothers
  exact ⟨rfl, hothers, hkept, rfl, rfl⟩

end SharedObjects

end AuthChain.Build
