import AuthChain.Slots

/-!
# Shared objects

A table with at most one value for each value type. A value is stored without its type, under the
code of the type and together with the type that is shown for it, so that values of all types fit
into one table. Whoever asks for the value of a type gets what is stored under its code only when
that turns out to be of the type. Main statement: looking up a code after an insertion gives the
inserted value for that code and the former answer for every other
(`SharedObjects.get?_insert_self`, `SharedObjects.get?_insert_of_ne`).
-/

namespace AuthChain.Build

section Stored

variable {U : Type} {V : U → Type}

/-- A value whose type is found out when it is asked for, with the type that is shown for it. -/
structure Stored (V : U → Type) where
  shown : U
  value : Sigma V

/-- Store a value without its type. -/
def Stored.ofValue (u : U) (v : V u) : Stored V :=
  ⟨u, ⟨u, v⟩⟩

/-- The stored value, if it is of the type. -/
def Stored.downcast? [DecidableEq U] (e : Stored V) (u : U) : Option (V u) :=
  if h : e.value.1 = u then some (h ▸ e.value.2) else none

theorem Stored.downcast?_ofValue [DecidableEq U] (u : U) (v : V u) :
    (ofValue u v).downcast? u = some v := by
  simp [downcast?, ofValue]

end Stored

/-- A table with at most one stored value for each code of a value type. -/
structure SharedObjects {U : Type} (V : U → Type) where
  entries : List (U × Stored V)

namespace SharedObjects

variable {U : Type} {V : U → Type}

/-- The table without values. -/
def empty : SharedObjects V :=
  ⟨[]⟩

instance : Inhabited (SharedObjects V) := ⟨empty⟩

section Lookup

variable [DecidableEq U]

/-- The value of a type, if what is stored under its code is of the type. -/
def get? (t : SharedObjects V) (u : U) : Option (V u) :=
  (t.entries.lookup u).bind (·.downcast? u)

/-- Something is stored under the code. -/
def contains (t : SharedObjects V) (u : U) : Bool :=
  t.entries.any (·.1 == u)

/-- Store a value under the code of its type, in the place of a former one or at the end. -/
def insert (t : SharedObjects V) (u : U) (v : V u) : SharedObjects V :=
  ⟨Slots.put u (.ofValue u v) t.entries⟩

/-- Remove what is stored under the code. -/
def erase (t : SharedObjects V) (u : U) : SharedObjects V :=
  ⟨t.entries.filter (·.1 != u)⟩

/-- Store a value. The answer is what it replaces, if that is of the type. -/
def replace (t : SharedObjects V) (u : U) (v : V u) : Option (V u) × SharedObjects V :=
  ((t.entries.lookup u).bind (·.downcast? u), t.insert u v)

/-- Remove what is stored under the code of a type. The answer is what that was, if it is of the
type. -/
def take (t : SharedObjects V) (u : U) : Option (V u) × SharedObjects V :=
  ((t.entries.lookup u).bind (·.downcast? u), t.erase u)

theorem get?_insert_self (t : SharedObjects V) (u : U) (v : V u) :
    (t.insert u v).get? u = some v := by
  unfold get? insert
  rw [Slots.lookup_put_self, Option.bind_some, Stored.downcast?_ofValue]

theorem get?_insert_of_ne (t : SharedObjects V) {u w : U} (h : u ≠ w) (v : V u) :
    (t.insert u v).get? w = t.get? w := by
  unfold get? insert
  rw [Slots.lookup_put_of_ne h.symm]

end Lookup

/-- The number of values. -/
def size (t : SharedObjects V) : Nat :=
  t.entries.length

/-- There are no values. -/
def isEmpty (t : SharedObjects V) : Bool :=
  t.entries.isEmpty

/-- The names of the types that are shown for the values, sorted. -/
def typeNames (t : SharedObjects V) (name : U → String) : List String :=
  (t.entries.map fun e => name e.2.shown).mergeSort fun a b => decide (a ≤ b)

end SharedObjects

end AuthChain.Build
