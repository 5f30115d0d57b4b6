import AuthChain.Config.Provider

/-!
# Layered values

Several providers one after the other: the first that has a value decides, and so does the first
that fails.
-/

namespace AuthChain.Config

variable {σ : Type}

/-- Ask providers in order for the value of a key. -/
def firstHit (key : String) : List (Provider σ) → Reading σ (Option String)
  | [] => return none
  | p :: rest => do
    match ← p.getRaw key with
    | some value =>
      Reading.ofAct (Act.emit (.resolved key p.name))
      return some value
    | none => firstHit key rest

/-- Serves the first value among several providers. -/
def Provider.composite (providers : List (Provider σ)) : Provider σ :=
  ⟨"composite", fun key => firstHit key providers⟩

/-- The description of several providers by their names. -/
def describeComposite (names : List String) : String :=
  Text.recorded "CompositeConfigProvider"
    [("provider_names", Text.listed (names.map Text.quote))]

end AuthChain.Config
