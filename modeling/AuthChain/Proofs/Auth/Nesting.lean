import AuthChain.Proofs.Auth.Resolution

/-!
# Resolvers as fallbacks of each other

A nesting is a list of tiers, each the fallback of the one before it; the last has a given fallback
or none. Strategies and fallbacks are all asked before the first notice is published, so a nesting
first deliberates, without sinks, and then declares what it found: it publishes its notices, each to
the sink of the tier that it is for, and gives its answer. Main statement: resolving with a nesting
is deliberating and then declaring (`Tier.resolve_declares`).
-/

namespace AuthChain.Auth

variable {α σ β γ : Type}

namespace Agrees

theorem symm {o p : Outcome Event σ β} (h : Agrees o p) : Agrees p o :=
  ⟨h.answer.symm, h.state.symm, h.events.symm⟩

theorem of_eq {m n : Act Event σ β} (h : m = n) (s : σ) : Agrees (m s) (n s) :=
  h ▸ .refl _

/-- What follows may depend on the answer. -/
theorem bind_right (m : Act Event σ β) {f g : β → Act Event σ γ}
    (h : ∀ b s, Agrees (f b s) (g b s)) (s : σ) : Agrees ((m >>= f) s) ((m >>= g) s) :=
  Agrees.bind (.refl _) (h _ _)

theorem bind_left {m n : Act Event σ β} {s : σ} (h : Agrees (m s) (n s))
    (f : β → Act Event σ γ) : Agrees ((m >>= f) s) ((n >>= f) s) :=
  Agrees.bind h (.refl _)

end Agrees

/-! ## Tiers -/

/-- A resolver without its sink and its fallback. -/
structure Tier (α σ : Type) where
  strategies : List (Strategy α σ)
  eraseCredentials : Bool

/-- The tier as a resolver. -/
def Tier.resolver (tier : Tier α σ) (sink : Sink α σ) (fallback : Option (Manager α σ)) :
    Resolver α σ :=
  ⟨tier.strategies, fallback, sink, tier.eraseCredentials⟩

/-- The tiers as a fallback, each with the tiers behind it as its own. The first of them is at the
level given, and the sinks are by level. -/
def behind [Authentication α] (sinks : Nat → Sink α σ) (fallback : Option (Manager α σ)) :
    Nat → List (Tier α σ) → Option (Manager α σ)
  | _, [] => fallback
  | level, tier :: inner =>
    some (tier.resolver (sinks level) (behind sinks fallback (level + 1) inner)).toManager

/-! ## Notices -/

/-- What a nesting finds: its answer, and the notices to publish, each with the level of its sink,
in order. -/
structure Ruling (α : Type) where
  answer : Except AuthError α
  notices : List (Nat × Notice α)

namespace Ruling

/-- An answer with nothing to publish. -/
def told (answer : Except AuthError α) : Ruling α :=
  ⟨answer, []⟩

/-- A result of a strategy. -/
def granted (level : Nat) (result : α) : Ruling α :=
  ⟨.ok result, [(level, .success result)]⟩

/-- An error that a resolver answers for. -/
def denied (level : Nat) (credential : α) (error : AuthError) : Ruling α :=
  ⟨.error error, [(level, .failure error credential)]⟩

/-- The ruling with notices before its own. -/
def after (earlier : List (Nat × Notice α)) (ruling : Ruling α) : Ruling α :=
  { ruling with notices := earlier ++ ruling.notices }

end Ruling

/-- Publish notices in their order. -/
def announce (sinks : Nat → Sink α σ) : List (Nat × Notice α) → Act Event σ Unit
  | [] => pure ()
  | (level, notice) :: rest => do
    (sinks level).publish notice
    announce sinks rest

theorem announce_append (sinks : Nat → Sink α σ) (first second : List (Nat × Notice α)) :
    announce sinks (first ++ second) =
      (do announce sinks first; announce sinks second) := by
  induction first with
  | nil => rw [List.nil_append, announce, pure_bind]
  | cons notice rest ih =>
    rw [List.cons_append, announce, announce, bind_assoc, ih]

/-- Publish the notices of a ruling and give its answer. -/
def declare (sinks : Nat → Sink α σ) (ruling : Ruling α) : Act Event σ (Except AuthError α) := do
  announce sinks ruling.notices
  return ruling.answer

theorem declare_after (sinks : Nat → Sink α σ) (earlier : List (Nat × Notice α))
    (ruling : Ruling α) :
    declare sinks (ruling.after earlier) =
      (do announce sinks earlier; declare sinks ruling) := by
  unfold declare Ruling.after
  rw [announce_append, bind_assoc]

theorem declare_told (sinks : Nat → Sink α σ) (answer : Except AuthError α) :
    declare sinks (.told answer) = pure answer :=
  pure_bind () _

theorem declare_granted (sinks : Nat → Sink α σ) (level : Nat) (result : α) :
    declare sinks (.granted level result) =
      (do (sinks level).publish (.success result); return .ok result) := by
  unfold declare Ruling.granted announce announce
  rw [bind_assoc, pure_bind]

theorem declare_denied (sinks : Nat → Sink α σ) (level : Nat) (credential : α)
    (error : AuthError) :
    declare sinks (.denied level credential error) =
      (do (sinks level).publish (.failure error credential); return .error error) := by
  unfold declare Ruling.denied announce announce
  rw [bind_assoc, pure_bind]

theorem announce_silent (notices : List (Nat × Notice α)) :
    announce (fun _ => (.silent : Sink α σ)) notices = pure () := by
  induction notices with
  | nil => rfl
  | cons notice rest ih =>
    rw [announce, ih]
    exact pure_bind () _

theorem declares_answer (sinks : Nat → Sink α σ) (ruling : Act Event σ (Ruling α)) (s : σ) :
    Agrees ((ruling >>= declare sinks) s)
      ((do
        let answer ← Ruling.answer <$> ruling
        announce sinks (ruling s).answer.notices
        return answer : Act Event σ (Except AuthError α)) s) := by
  rw [bind_map_left]
  exact Agrees.bind (.refl _) (.refl _)

theorem Tier.deny_declares (tier : Tier α σ) (sinks : Nat → Sink α σ) (level : Nat)
    (fallback : Option (Manager α σ)) (credential : α) (own : AuthError) (s : σ) :
    Agrees ((tier.resolver (sinks level) fallback).deny credential false own s)
      (declare sinks (.denied level credential own) s) := by
  rw [declare_denied]
  exact Resolver.deny_agrees _ credential own s

/-! ## Deliberating -/

section Deliberation

variable [Authentication α]

/-- The error of a resolver whose strategies did not decide and whose fallback finds no provider. -/
def ownError (credential : α) (last : Option AuthError) : AuthError :=
  last.getD (.providerNotFound (Authentication.kind credential))

namespace Tier

/-- Drop the secret of a result where the tier does so and the result can. -/
def scrub (tier : Tier α σ) (result : α) : α :=
  if tier.eraseCredentials then (Authentication.erased? result).getD result else result

/-- What a tier without a result of its own makes of the answer of its fallback. When that finds no
provider, the tier answers for its own error. -/
def respond (tier : Tier α σ) (level : Nat) (credential : α) (own : AuthError) :
    Except AuthError α → Ruling α
  | .ok result => .told (.ok (tier.scrub result))
  | .error e => if e.isProviderNotFound then .denied level credential own else .told (.error e)

/-- The ruling of a tier without a result of its own, after the ruling of its fallback. -/
def review (tier : Tier α σ) (level : Nat) (credential : α) (own : AuthError)
    (ruling : Ruling α) : Ruling α :=
  (tier.respond level credential own ruling.answer).after ruling.notices

/-- The ruling of a tier after the walk over its strategies; the counsel is what its fallback
finds. -/
def rule (tier : Tier α σ) (level : Nat) (credential : α)
    (counsel : Option (Act Event σ (Ruling α))) : Walk α → Act Event σ (Ruling α)
  | .accepted result => pure (.granted level (tier.scrub result))
  | .halted error => pure (.denied level credential error)
  | .undecided last =>
    match counsel with
    | none => pure (.denied level credential (ownError credential last))
    | some ruling => tier.review level credential (ownError credential last) <$> ruling

/-- What a tier finds, given what its fallback finds. -/
def deliberate (tier : Tier α σ) (level : Nat) (credential : α)
    (counsel : Option (Act Event σ (Ruling α))) : Act Event σ (Ruling α) :=
  walk credential tier.strategies.length 0 none tier.strategies >>=
    tier.rule level credential counsel

end Tier

/-- What the tiers behind a resolver find, and then the last fallback. -/
def counsel (fallback : Option (Manager α σ)) (credential : α) :
    Nat → List (Tier α σ) → Option (Act Event σ (Ruling α))
  | _, [] => fallback.map fun manager => Ruling.told <$> manager.authenticate credential
  | level, tier :: inner =>
    some (tier.deliberate level credential (counsel fallback credential (level + 1) inner))

/-- A manager deliberates and then declares. -/
def Declares (sinks : Nat → Sink α σ) (credential : α) (manager : Manager α σ)
    (ruling : Act Event σ (Ruling α)) : Prop :=
  ∀ s, Agrees (manager.authenticate credential s) ((ruling >>= declare sinks) s)

variable {sinks : Nat → Sink α σ} {credential : α} {fallback : Option (Manager α σ)}

namespace Tier

/-- A review adds to what the fallback declared. -/
theorem declare_review (tier : Tier α σ) (sinks : Nat → Sink α σ) (level : Nat) (credential : α)
    (own : AuthError) (ruling : Ruling α) :
    declare sinks (tier.review level credential own ruling) =
      (do
        let answer ← declare sinks ruling
        declare sinks (tier.respond level credential own answer)) := by
  unfold review
  rw [declare_after]
  unfold declare
  rw [bind_assoc]
  simp only [pure_bind]

theorem conclude_declares (tier : Tier α σ) (level : Nat)
    {counsel : Option (Act Event σ (Ruling α))}
    (h : Option.Rel (Declares sinks credential) fallback counsel) (w : Walk α) (s : σ) :
    Agrees ((tier.resolver (sinks level) fallback).conclude credential w s)
      ((tier.rule level credential counsel w >>= declare sinks) s) := by
  cases w with
  | accepted result =>
    refine .of_eq ?_ s
    rw [rule, pure_bind, declare_granted]
    rfl
  | halted error =>
    rw [rule, pure_bind, declare_denied]
    exact Agrees.bind (.refl _) (.narrated rfl (.refl _))
  | undecided last =>
    cases h with
    | none =>
      rw [rule, pure_bind]
      exact tier.deny_declares sinks level none credential _ s
    | @some manager ruling h =>
      rw [rule, bind_map_left]
      simp only [declare_review]
      rw [← bind_assoc]
      refine Agrees.bind (h s) ?_
      -- what follows the fallback's answer is the same on both sides
      generalize ((ruling >>= declare sinks) s).state = s'
      cases ((ruling >>= declare sinks) s).answer with
      | ok result => exact .of_eq (declare_told _ _).symm s'
      | error e =>
        cases hnotFound : e.isProviderNotFound with
        | true =>
          simp only [respond, hnotFound, if_true]
          exact tier.deny_declares sinks level _ credential _ s'
        | false =>
          simp only [respond, hnotFound, Bool.false_eq_true, if_false]
          rw [declare_told]
          exact .narrated rfl (.refl _)

/-- A tier in front of a fallback that deliberates and then declares does so too. -/
theorem resolver_declares (tier : Tier α σ) (level : Nat)
    {counsel : Option (Act Event σ (Ruling α))}
    (h : Option.Rel (Declares sinks credential) fallback counsel) :
    Declares sinks credential (tier.resolver (sinks level) fallback).toManager
      (tier.deliberate level credential counsel) := by
  intro s
  rw [deliberate, bind_assoc]
  exact Agrees.bind_right _ (tier.conclude_declares level h) s

end Tier

theorem behind_declares (sinks : Nat → Sink α σ) (fallback : Option (Manager α σ))
    (credential : α) (inner : List (Tier α σ)) :
    ∀ level, Option.Rel (Declares sinks credential) (behind sinks fallback level inner)
      (counsel fallback credential level inner) := by
  induction inner with
  | nil =>
    intro level
    cases fallback with
    | none => exact .none
    | some manager =>
      refine .some fun s => ?_
      rw [bind_map_left]
      simp only [declare_told]
      exact .of_eq (bind_pure _).symm s
  | cons tier inner ih => exact fun level => .some (tier.resolver_declares level (ih (level + 1)))

/-- Resolving with a nesting is deliberating without sinks and then declaring the ruling. -/
theorem Tier.resolve_declares (outer : Tier α σ) (inner : List (Tier α σ)) (sinks : Nat → Sink α σ)
    (fallback : Option (Manager α σ)) (credential : α) (s : σ) :
    Agrees ((outer.resolver (sinks 0) (behind sinks fallback 1 inner)).resolve credential s)
      ((outer.deliberate 0 credential (counsel fallback credential 1 inner) >>= declare sinks) s) :=
  outer.resolver_declares 0 (behind_declares sinks fallback credential inner 1) s

end Deliberation

end AuthChain.Auth
