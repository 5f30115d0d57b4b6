import AuthChain.Text.Layout

/-!
# Post-processors

Processors for objects of several types, kept in ascending order; processors of the same order stay
in the order of their addition. An object passes those of its own type.
-/

namespace AuthChain.Build

/-- Replaces objects of the type with the given code. -/
structure PostProcessor {U : Type} (V : U → Type) where
  code : U
  order : Int
  run : V code → V code

/-- The object after a processor, which leaves objects of other types alone. -/
def PostProcessor.apply {U : Type} [DecidableEq U] {V : U → Type} (p : PostProcessor V) (u : U)
    (x : V u) : V u :=
  if h : p.code = u then h ▸ p.run (h ▸ x) else x

/-- The processors in the order in which they run. -/
structure PostProcessors {U : Type} (V : U → Type) where
  processors : List (PostProcessor V)

namespace PostProcessors

variable {U : Type} {V : U → Type}

/-- No processors. -/
def empty : PostProcessors V :=
  ⟨[]⟩

instance : Inhabited (PostProcessors V) := ⟨empty⟩

/-- Processors by their order, those of the same order as they come. -/
def sort (processors : List (PostProcessor V)) : List (PostProcessor V) :=
  processors.mergeSort fun a b => decide (a.order ≤ b.order)

/-- Add a processor behind those of its order. -/
def add (ps : PostProcessors V) (p : PostProcessor V) : PostProcessors V :=
  ⟨sort (ps.processors ++ [p])⟩

/-- The object after the processors of its type. -/
def apply [DecidableEq U] (ps : PostProcessors V) (u : U) (x : V u) : V u :=
  ps.processors.foldl (fun x p => p.apply u x) x

/-- The number of processors. -/
def size (ps : PostProcessors V) : Nat :=
  ps.processors.length

/-- There are no processors. -/
def isEmpty (ps : PostProcessors V) : Bool :=
  ps.processors.isEmpty

/-- The processors by their type and order. -/
def describe (ps : PostProcessors V) (name : U → String) : String :=
  Text.recorded "CompositePostProcessor"
    [("processors", Text.listed
      (ps.processors.map fun p => Text.tupled [Text.quote (name p.code), toString p.order]))]

end PostProcessors

end AuthChain.Build
