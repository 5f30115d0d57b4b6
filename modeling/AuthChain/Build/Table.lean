import AuthChain.Build.Kind

/-!
# The table of configurers

Registrations by the kind of their configurer, the kinds in the order of their first registration.
-/

namespace AuthChain.Build

/-- One successful registration of a configurer; its number tells it from all others. -/
structure Registration (C : Type) where
  serial : Nat
  configurer : C
  deriving DecidableEq

/-- The registrations of each kind, in the order of registration. -/
structure Table (C : Type) where
  rows : List (ConfigurerKind × List (Registration C))

namespace Table

variable {C : Type}

/-- The table without registrations. -/
def empty : Table C :=
  ⟨[]⟩

instance : Inhabited (Table C) := ⟨empty⟩

/-- Change the row of a kind in its place, or append a row. -/
def upsertRow (kind : ConfigurerKind) (f : List (Registration C) → List (Registration C)) :
    List (ConfigurerKind × List (Registration C)) →
      List (ConfigurerKind × List (Registration C))
  | [] => [(kind, f [])]
  | (k, rs) :: rest => if k = kind then (k, f rs) :: rest else (k, rs) :: upsertRow kind f rest

/-- Add a registration to those of its kind. -/
def push (t : Table C) (kind : ConfigurerKind) (r : Registration C) : Table C :=
  ⟨upsertRow kind (· ++ [r]) t.rows⟩

/-- Let a registration take the place of all those of its kind. -/
def replace (t : Table C) (kind : ConfigurerKind) (r : Registration C) : Table C :=
  ⟨upsertRow kind (fun _ => [r]) t.rows⟩

/-- The kind has a row. -/
def contains (t : Table C) (kind : ConfigurerKind) : Bool :=
  t.rows.any (·.1 == kind)

/-- The registrations of a kind. -/
def ofKind (t : Table C) (kind : ConfigurerKind) : List (Registration C) :=
  (t.rows.lookup kind).getD []

/-- Remove a kind with its registrations. -/
def erase (t : Table C) (kind : ConfigurerKind) : Table C :=
  ⟨t.rows.filter (·.1 != kind)⟩

/-- The kinds in the order of their first registration. -/
def kinds (t : Table C) : List ConfigurerKind :=
  t.rows.map (·.1)

/-- All registrations, kind by kind. -/
def registrations (t : Table C) : List (Registration C) :=
  t.rows.flatMap (·.2)

end Table

end AuthChain.Build
