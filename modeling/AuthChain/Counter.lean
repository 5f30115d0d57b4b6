/-!
# Counters

A counter of 64 bits that starts again at zero when it overflows.
-/

namespace AuthChain

/-- A counter of 64 bits. -/
structure Counter where
  value : UInt64
  deriving DecidableEq, Repr

namespace Counter

/-- The counter at zero. -/
def zero : Counter :=
  ⟨0⟩

instance : Inhabited Counter := ⟨zero⟩

/-- Count `n` more. -/
def add (c : Counter) (n : UInt64) : Counter :=
  ⟨c.value + n⟩

/-- Count one more. -/
def increment (c : Counter) : Counter :=
  c.add 1

/-- The counter with its value. -/
def describe (c : Counter) : String :=
  "Counter(" ++ toString c.value.toNat ++ ")"

end Counter

end AuthChain
