import AuthChain.Cell

/-!
# Slots

A family of parts of a state addressed by keys, with a default for the keys that were never written.
-/

namespace AuthChain

/-- Parts by their keys. -/
structure Slots (κ α : Type) where
  entries : List (κ × α)

namespace Slots

variable {κ α : Type} [BEq κ]

/-- No part was written. -/
def empty : Slots κ α :=
  ⟨[]⟩

/-- The part of a key, if it was written. -/
def get? (s : Slots κ α) (key : κ) : Option α :=
  s.entries.lookup key

/-- Write entries so that the one of a key changes in its place or is appended. -/
def put (key : κ) (a : α) : List (κ × α) → List (κ × α)
  | [] => [(key, a)]
  | (k, b) :: rest => if key == k then (key, a) :: rest else (k, b) :: put key a rest

/-- Write the part of a key. -/
def set (s : Slots κ α) (key : κ) (a : α) : Slots κ α :=
  ⟨put key a s.entries⟩

/-- The part of a key as a cell. -/
def slot (key : κ) (default : α) : Cell (Slots κ α) α :=
  ⟨fun s => (s.get? key).getD default, fun a s => s.set key a⟩

theorem lookup_put_self [LawfulBEq κ] (key : κ) (a : α) (entries : List (κ × α)) :
    (put key a entries).lookup key = some a := by
  induction entries with
  | nil => simp [put]
  | cons head rest ih =>
    obtain ⟨k, b⟩ := head
    unfold put
    split
    · simp
    · next h => simp [List.lookup_cons, h, ih]

theorem lookup_put_of_ne [LawfulBEq κ] {key other : κ} (h : other ≠ key) (a : α)
    (entries : List (κ × α)) : (put key a entries).lookup other = entries.lookup other := by
  have hother : (other == key) = false := beq_false_of_ne h
  induction entries with
  | nil => simp [put, List.lookup_cons, hother]
  | cons head rest ih =>
    obtain ⟨k, b⟩ := head
    unfold put
    split
    · next hk =>
      obtain rfl := eq_of_beq hk
      simp [List.lookup_cons, hother]
    · simp [List.lookup_cons, ih]

theorem lookup_filter_ne [LawfulBEq κ] (key other : κ) (entries : List (κ × α)) :
    (entries.filter (·.1 != key)).lookup other =
      if other == key then none else entries.lookup other := by
  induction entries with
  | nil => simp
  | cons head rest ih =>
    obtain ⟨k, b⟩ := head
    by_cases hk : k = key
    · subst hk
      rw [List.filter_cons_of_neg (by simp), ih, List.lookup_cons]
      cases other == k <;> rfl
    · rw [List.filter_cons_of_pos (by simpa using hk), List.lookup_cons, List.lookup_cons, ih]
      by_cases h : other = k
      · subst h
        simp [beq_false_of_ne hk]
      · rw [beq_false_of_ne h]

theorem mem_put {key : κ} {a : α} {entries : List (κ × α)} {e : κ × α}
    (h : e ∈ put key a entries) : e = (key, a) ∨ e ∈ entries := by
  induction entries with
  | nil => exact .inl (List.mem_singleton.1 h)
  | cons head rest ih =>
    obtain ⟨k, b⟩ := head
    unfold put at h
    split at h
    · rcases List.mem_cons.1 h with h | h
      · exact .inl h
      · exact .inr (List.mem_cons_of_mem _ h)
    · rcases List.mem_cons.1 h with h | h
      · exact .inr (h ▸ List.mem_cons_self)
      · exact (ih h).imp id (List.mem_cons_of_mem _)

/-- Writing appends the key unless it was written before. -/
theorem map_fst_put [LawfulBEq κ] (key : κ) (a : α) (entries : List (κ × α)) :
    (put key a entries).map Prod.fst =
      if key ∈ entries.map Prod.fst then entries.map Prod.fst
      else entries.map Prod.fst ++ [key] := by
  induction entries with
  | nil => rfl
  | cons head rest ih =>
    obtain ⟨k, b⟩ := head
    unfold put
    split
    · next hk =>
      obtain rfl := eq_of_beq hk
      simp
    · next hk =>
      have hne : key ≠ k := fun e => hk (beq_iff_eq.2 e)
      simp only [List.map_cons, ih, List.mem_cons, hne, false_or]
      split <;> rfl

end Slots

end AuthChain
