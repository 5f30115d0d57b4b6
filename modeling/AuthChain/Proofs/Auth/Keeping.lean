import AuthChain.Proofs.Auth.Resolution

/-!
# Sinks that keep an account

Counters and records are accounts in a cell of the state: their sink enters every notice into the
account and does nothing else. Published directly, notices are entered one after the other
(`Sink.get_publishEach_keeping`). Main statement: a resolver without a fallback whose strategies
leave the account alone enters exactly one notice for each resolution, the one that tells of its
answer (`Resolver.get_resolveEach`).
-/

namespace AuthChain.Auth

variable {α β γ σ : Type}

/-! ## Properties of walks -/

/-- A property of actions that telling an event has, and that sequences of actions keep. -/
structure Sequential (P : (γ : Type) → Act Event σ γ → Prop) : Prop where
  pure : ∀ {γ : Type} (c : γ), P γ (Pure.pure c)
  emit : ∀ e : Event, P Unit (Act.emit e)
  bind : ∀ {γ δ : Type} {m : Act Event σ γ} {f : γ → Act Event σ δ},
    P γ m → (∀ c, P δ (f c)) → P δ (m >>= f)

/-- A walk has such a property when the strategies have it. -/
theorem Sequential.walk [Authentication α] {P : (γ : Type) → Act Event σ γ → Prop}
    (hP : Sequential P) (credential : α) (size : Nat) (strategies : List (Strategy α σ))
    (h : ∀ strategy ∈ strategies, P _ (strategy.authenticate credential)) :
    ∀ (position : Nat) (last : Option AuthError),
      P _ (walk credential size position last strategies) := by
  -- the induction is on the strategies left, for any position and last error
  induction strategies with
  | nil =>
    intro position last
    exact hP.pure _
  | cons strategy rest ih =>
    intro position last
    have hrest := ih fun other hother => h other (List.mem_cons_of_mem _ hother)
    rw [Auth.walk]
    apply hP.bind (hP.emit _)
    intro _
    split
    · apply hP.bind (hP.emit _)
      intro _
      apply hP.bind (h strategy List.mem_cons_self)
      intro answer
      cases answer with
      | ok opinion =>
        cases opinion with
        | none => exact hrest _ _
        | some result => exact hP.pure _
      | error e =>
        dsimp only
        split
        · exact hP.pure _
        · apply hP.bind (hP.emit _)
          intro _
          exact hrest _ _
    · exact hrest _ _

/-- The action leaves the content of the cell as it is. -/
def Spares (cell : Cell σ β) (m : Act Event σ γ) : Prop :=
  ∀ s, cell.get (m s).state = cell.get s

theorem Spares.sequential (cell : Cell σ β) : Sequential fun _ m => Spares cell m where
  pure _ _ := rfl
  emit _ _ := rfl
  bind first second s := by rw [Act.state_bind, second, first]

/-! ## Accounts -/

/-- Publish notices to a sink one after the other. -/
def Sink.publishEach (sink : Sink α σ) : List (Notice α) → Act Event σ Unit
  | [] => pure ()
  | notice :: rest => do
    sink.publish notice
    sink.publishEach rest

/-- Resolve credentials one after the other and collect the answers. -/
def Resolver.resolveEach [Authentication α] (r : Resolver α σ) :
    List α → Act Event σ (List (Except AuthError α))
  | [] => pure []
  | credential :: rest => do
    let answer ← r.resolve credential
    let answers ← r.resolveEach rest
    return answer :: answers

/-- The notice that tells of the answer for a credential. -/
def Notice.ofAnswer (credential : α) : Except AuthError α → Notice α
  | .ok result => .success result
  | .error error => .failure error credential

namespace Sink

/-- Enters every notice into the account in a cell of the state. -/
def keeping (cell : Cell σ β) (enter : β → Notice α → β) : Sink α σ :=
  ⟨fun notice => Act.modify (cell.modify (enter · notice))⟩

theorem metrics_eq_keeping (cell : Cell σ Metrics) :
    (metrics cell : Sink α σ) = keeping cell Metrics.count := rfl

theorem recording_eq_keeping [Authentication α] (cell : Cell σ Recording) :
    (recording cell : Sink α σ) = keeping cell fun r notice => r.record (.ofNotice notice) := rfl

variable {cell : Cell σ β} {enter : β → Notice α → β}

theorem get_publish_keeping (hlawful : cell.Lawful) (notice : Notice α) (s : σ) :
    cell.get ((keeping cell enter).publish notice s).state = enter (cell.get s) notice :=
  hlawful.get_set _ _

theorem get_publishEach_keeping (hlawful : cell.Lawful) (notices : List (Notice α)) (s : σ) :
    cell.get ((keeping cell enter).publishEach notices s).state =
      notices.foldl enter (cell.get s) := by
  induction notices generalizing s with
  | nil => rfl
  | cons notice rest ih =>
    rw [publishEach, Act.state_bind, ih, get_publish_keeping hlawful, List.foldl_cons]

end Sink

/-! ## Resolutions -/

namespace Resolver

variable [Authentication α] {cell : Cell σ β} {enter : β → Notice α → β} {r : Resolver α σ}

/-- What follows the walk enters one notice, when there is no fallback to answer for it. -/
theorem get_conclude (hlawful : cell.Lawful) (hfallback : r.fallback = none)
    (hsink : r.sink = .keeping cell enter) (credential : α) (w : Walk α) (s : σ) :
    cell.get (r.conclude credential w s).state =
      enter (cell.get s) (.ofAnswer credential (r.conclude credential w s).answer) := by
  have hpublish : ∀ notice, cell.get (r.sink.publish notice s).state = enter (cell.get s) notice := by
    intro notice
    rw [hsink, Sink.get_publish_keeping hlawful]
  cases w with
  | accepted result => exact hpublish _
  | halted error => exact hpublish _
  | undecided last =>
    have hdenied : r.conclude credential (.undecided last) =
        r.deny credential false (last.getD (.providerNotFound (Authentication.kind credential))) := by
      unfold conclude fallBack
      rw [hfallback]
    rw [hdenied]
    unfold deny
    rw [hfallback]
    exact hpublish _

theorem get_resolve (hlawful : cell.Lawful) (hfallback : r.fallback = none)
    (hsink : r.sink = .keeping cell enter) (credential : α)
    (hspared : ∀ strategy ∈ r.strategies, Spares cell (strategy.authenticate credential)) (s : σ) :
    cell.get (r.resolve credential s).state =
      enter (cell.get s) (.ofAnswer credential (r.resolve credential s).answer) := by
  rw [resolve_eq, Act.state_bind, Act.answer_bind, get_conclude hlawful hfallback hsink,
    (Spares.sequential cell).walk credential _ _ hspared]

/-- Without a fallback, every resolution enters one notice into the account of the sink: the one
that tells of its answer. -/
theorem get_resolveEach (hlawful : cell.Lawful) (hfallback : r.fallback = none)
    (hsink : r.sink = .keeping cell enter)
    (hspared : ∀ strategy ∈ r.strategies, ∀ credential,
      Spares cell (strategy.authenticate credential))
    (credentials : List α) (s : σ) :
    cell.get (r.resolveEach credentials s).state =
      (List.zipWith Notice.ofAnswer credentials (r.resolveEach credentials s).answer).foldl enter
        (cell.get s) := by
  induction credentials generalizing s with
  | nil => rfl
  | cons credential rest ih =>
    have hfirst := get_resolve hlawful hfallback hsink credential
      (fun strategy hstrategy => hspared strategy hstrategy credential) s
    simp only [resolveEach, Act.state_bind, Act.answer_bind, Act.pure_apply]
    rw [List.zipWith_cons_cons, List.foldl_cons, ih, hfirst]

end Resolver

end AuthChain.Auth
