/-!
# Maps between texts

Finite maps from texts to texts, kept as their entries in increasing order of the keys, so that two
maps with the same entries are equal. Main statement: looking up a key after an insertion gives the
inserted value for that key and the former answer for every other (`TextMap.get?_insert`).
-/

namespace AuthChain

/-- Put an entry at its place, replacing an entry of the same key. -/
def insertEntry (key value : String) : List (String × String) → List (String × String)
  | [] => [(key, value)]
  | (k, v) :: rest =>
    if key < k then (key, value) :: (k, v) :: rest
    else if k < key then (k, v) :: insertEntry key value rest
    else (key, value) :: rest

/-- A finite map from texts to texts. -/
structure TextMap where
  entries : List (String × String)
  sorted : entries.Pairwise (fun a b => a.1 < b.1)

theorem eq_of_not_lt {a b : String} (h₁ : ¬ a < b) (h₂ : ¬ b < a) : a = b :=
  String.le_antisymm (String.not_lt.1 h₂) (String.not_lt.1 h₁)

theorem key_mem_insertEntry {key value : String} {entries : List (String × String)}
    {e : String × String} (h : e ∈ insertEntry key value entries) :
    e = (key, value) ∨ e ∈ entries := by
  induction entries with
  | nil => simpa [insertEntry] using h
  | cons head rest ih =>
    obtain ⟨k, v⟩ := head
    unfold insertEntry at h
    split at h
    · simpa using h
    · split at h
      · rcases List.mem_cons.1 h with h | h
        · exact .inr (by simp [h])
        · rcases ih h with h | h
          · exact .inl h
          · exact .inr (by simp [h])
      · rcases List.mem_cons.1 h with h | h
        · exact .inl h
        · exact .inr (by simp [h])

theorem insertEntry_sorted {key value : String} {entries : List (String × String)}
    (h : entries.Pairwise (fun a b => a.1 < b.1)) :
    (insertEntry key value entries).Pairwise (fun a b => a.1 < b.1) := by
  induction entries with
  | nil => simp [insertEntry]
  | cons head rest ih =>
    obtain ⟨k, v⟩ := head
    obtain ⟨below, tail⟩ := List.pairwise_cons.1 h
    unfold insertEntry
    split
    · next hlt =>
      refine List.pairwise_cons.2 ⟨fun e he => ?_, h⟩
      rcases List.mem_cons.1 he with rfl | he
      · exact hlt
      · exact String.lt_trans hlt (below e he)
    · next hlt =>
      split
      · next hgt =>
        refine List.pairwise_cons.2 ⟨fun e he => ?_, ih tail⟩
        rcases key_mem_insertEntry he with rfl | he
        · exact hgt
        · exact below e he
      · next hgt =>
        obtain rfl := eq_of_not_lt hlt hgt
        exact List.pairwise_cons.2 ⟨below, tail⟩

namespace TextMap

@[ext] theorem ext {a b : TextMap} (h : a.entries = b.entries) : a = b := by
  cases a; cases b; cases h; rfl

instance : DecidableEq TextMap := fun a b =>
  decidable_of_iff (a.entries = b.entries) ⟨ext, fun h => h ▸ rfl⟩

/-- The map without entries. -/
def empty : TextMap :=
  ⟨[], .nil⟩

instance : Inhabited TextMap := ⟨empty⟩

/-- Put a value for a key, replacing a former one. -/
def insert (m : TextMap) (key value : String) : TextMap :=
  ⟨insertEntry key value m.entries, insertEntry_sorted m.sorted⟩

/-- Remove the value for a key. -/
def erase (m : TextMap) (key : String) : TextMap :=
  ⟨m.entries.filter (·.1 != key), m.sorted.filter _⟩

/-- The value for a key. -/
def get? (m : TextMap) (key : String) : Option String :=
  m.entries.lookup key

/-- The key has a value. -/
def contains (m : TextMap) (key : String) : Bool :=
  (m.get? key).isSome

/-- The number of keys. -/
def size (m : TextMap) : Nat :=
  m.entries.length

/-- The map has no entries. -/
def isEmpty (m : TextMap) : Bool :=
  m.entries.isEmpty

/-- The map of a list of entries, the last one of a key winning. -/
def ofList (entries : List (String × String)) : TextMap :=
  entries.foldl (fun m (k, v) => m.insert k v) empty

/-! ## Looking up -/

theorem lookup_insertEntry (key value other : String) (entries : List (String × String)) :
    (insertEntry key value entries).lookup other =
      if other = key then some value else entries.lookup other := by
  induction entries with
  | nil =>
    by_cases h : other = key
    · simp [insertEntry, h]
    · have : (other == key) = false := by simpa using h
      simp [insertEntry, List.lookup_cons, this, h]
  | cons head rest ih =>
    obtain ⟨k, v⟩ := head
    unfold insertEntry
    split
    · by_cases h : other = key
      · simp [h]
      · have : (other == key) = false := by simpa using h
        simp [List.lookup_cons, this, h]
    · next hlt =>
      split
      · next hgt =>
        by_cases h : other = k
        · have hne : k ≠ key := fun e => String.lt_irrefl key (e ▸ hgt)
          simp [h, hne]
        · have : (other == k) = false := by simpa using h
          simp [List.lookup_cons, this, ih]
      · next hgt =>
        obtain rfl := eq_of_not_lt hlt hgt
        by_cases h : other = key
        · simp [h]
        · have : (other == key) = false := by simpa using h
          simp [List.lookup_cons, this, h]

theorem get?_insert (m : TextMap) (key value other : String) :
    (m.insert key value).get? other = if other = key then some value else m.get? other :=
  lookup_insertEntry key value other m.entries

@[simp] theorem get?_empty (key : String) : empty.get? key = none := rfl

end TextMap

end AuthChain
