/-!
# Cells

A cell is a part of a state that can be read and replaced. Sinks and providers keep what they
remember in a cell of a state that they share with others.
-/

namespace AuthChain

/-- A part of type `α` of states in `σ`. -/
structure Cell (σ α : Type) where
  get : σ → α
  set : α → σ → σ

namespace Cell

variable {σ τ α : Type}

/-- Change the part. -/
def modify (c : Cell σ α) (f : α → α) (s : σ) : σ :=
  c.set (f (c.get s)) s

/-- The state as a part of itself. -/
def whole : Cell σ σ :=
  ⟨id, fun a _ => a⟩

/-- A part of a part. -/
def comp (outer : Cell σ τ) (inner : Cell τ α) : Cell σ α :=
  ⟨fun s => inner.get (outer.get s), fun a => outer.modify (inner.set a)⟩

/-- Reading after writing gives what was written, and writing twice leaves the last. -/
structure Lawful (c : Cell σ α) : Prop where
  get_set : ∀ a s, c.get (c.set a s) = a
  set_set : ∀ a b s, c.set a (c.set b s) = c.set a s

theorem whole_lawful : (whole : Cell σ σ).Lawful :=
  ⟨fun _ _ => rfl, fun _ _ _ => rfl⟩

end Cell

end AuthChain
