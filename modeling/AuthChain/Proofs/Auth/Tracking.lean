import AuthChain.Context

/-!
# Contexts in use

A context is used by setting and clearing its authentication, by resolving credentials into it and
by making it anonymous. A use has an effect when it leaves an authentication of its own or none:
setting and clearing always do, a resolution does when it gives a result, and becoming anonymous
does when the context holds no authentication (`Use.effect`).

Main statement: a context that was empty at first holds what the last use with an effect left in it;
a resolution that fails answers with its error and changes nothing, one that succeeds stores its
very result, and an anonymous token fills an empty context once (`tracks_last_effective_use`).
-/

namespace AuthChain.SecurityContext

open Auth

variable {α σ : Type}

/-! ## Resolving into a context -/

section Resolving

variable [Authentication α]

theorem resolveInto_apply (r : Resolver α σ) (credential : α) (c : SecurityContext α) (s : σ) :
    r.resolveInto c credential s =
      ⟨match (r.resolve credential s).answer with
        | .ok result => (.ok (), withAuthentication result)
        | .error e => (.error e, c),
        (r.resolve credential s).events, (r.resolve credential s).state⟩ := by
  rw [Resolver.resolveInto, Act.bind_apply]
  cases (r.resolve credential s).answer <;> simp [setAuthentication, withAuthentication]

/-- A resolution into a context is the resolution; it stores the result or leaves the context. -/
structure ResolvesInto (r : Resolver α σ) (credential : α) (c : SecurityContext α) (s : σ) :
    Prop where
  failed : ∀ e, (r.resolve credential s).answer = .error e →
    (r.resolveInto c credential s).answer = (.error e, c)
  resolved : ∀ result, (r.resolve credential s).answer = .ok result →
    (r.resolveInto c credential s).answer = (.ok (), withAuthentication result)
  events_eq : (r.resolveInto c credential s).events = (r.resolve credential s).events
  state_eq : (r.resolveInto c credential s).state = (r.resolve credential s).state

theorem resolvesInto (r : Resolver α σ) (credential : α) (c : SecurityContext α) (s : σ) :
    ResolvesInto r credential c s := by
  refine ⟨fun e he => ?_, fun result hresult => ?_, ?_, ?_⟩
  · rw [resolveInto_apply, he]
  · rw [resolveInto_apply, hresult]
  · rw [resolveInto_apply]
  · rw [resolveInto_apply]

end Resolving

/-! ## The anonymous default -/

section Anonymous

variable [OfToken AuthenticationToken α]

theorem orAnonymous_apply (settings : AnonymousSettings) (c : SecurityContext α) (s : σ) :
    c.orAnonymous settings s =
      if c.authentication.isNone then
        ⟨withAuthentication (OfToken.ofToken (anonymousToken settings)),
          [.becameAnonymous settings.principal], s⟩
      else ⟨c, [.keptAuthentication], s⟩ := by
  obtain ⟨held⟩ := c
  cases held <;> rfl

/-- The token is an authenticated anonymous one, issued with the key of the settings, and holds
neither a secret nor details. -/
structure IsAnonymous (settings : AnonymousSettings) (t : AuthenticationToken) : Prop where
  kind : t.kind = .anonymous
  authenticated : t.authenticated = true
  principal : t.principal = settings.principal
  authorities : t.authorities = settings.authorities
  credentials : t.credentials = none
  details : t.details = none
  issued : t.issuedWith settings.key = true

theorem isAnonymous_anonymousToken (settings : AnonymousSettings) :
    IsAnonymous settings (anonymousToken settings) where
  kind := rfl
  authenticated := rfl
  principal := rfl
  authorities := rfl
  credentials := rfl
  details := rfl
  issued := AuthenticationToken.issuedWith_anonymous _ _ _

/-- An empty context becomes anonymous, and then stays as it is, as any other context does. -/
structure FillsOnce (settings : AnonymousSettings) (c : SecurityContext α) (s : σ) : Prop where
  kept : c ≠ empty → (c.orAnonymous settings s).answer = c
  filled : c = empty → ∃ token, IsAnonymous settings token ∧
    (c.orAnonymous settings s).answer = withAuthentication (OfToken.ofToken token)
  again : ∀ (others : AnonymousSettings) (t : σ),
    ((c.orAnonymous settings s).answer.orAnonymous others t).answer =
      (c.orAnonymous settings s).answer
  state_eq : (c.orAnonymous settings s).state = s

theorem fillsOnce (settings : AnonymousSettings) (c : SecurityContext α) (s : σ) :
    FillsOnce settings c s := by
  obtain ⟨held⟩ := c
  cases held with
  | none =>
    refine ⟨fun hne => absurd rfl hne, fun _ => ?_, fun _ _ => rfl, rfl⟩
    exact ⟨_, isAnonymous_anonymousToken settings, rfl⟩
  | some a => exact ⟨fun _ => rfl, fun h => absurd h (by simp [empty]), fun _ _ => rfl, rfl⟩

end Anonymous

/-! ## Uses and their effects -/

/-- What is done with a context. -/
inductive Use (α σ : Type) where
  | set (a : α)
  | clear
  | resolveInto (r : Resolver α σ) (credential : α)
  | orAnonymous (settings : AnonymousSettings)

variable [Authentication α] [OfToken AuthenticationToken α]

/-- Use a context; the answer is the context behind the use. -/
def Use.perform (c : SecurityContext α) : Use α σ → Act Event σ (SecurityContext α)
  | set a => return c.setAuthentication a
  | clear => return c.clear.2
  | resolveInto r credential => do
    let (_, c) ← r.resolveInto c credential
    return c
  | orAnonymous settings => c.orAnonymous settings

/-- Use a context several times. -/
def run (c : SecurityContext α) (uses : List (Use α σ)) : Act Event σ (SecurityContext α) :=
  uses.foldlM Use.perform c

/-- What the use leaves in a context, if it leaves anything of its own there. -/
def Use.effect (c : SecurityContext α) (s : σ) : Use α σ → Option (Option α)
  | set a => some (some a)
  | clear => some none
  | resolveInto r credential => (r.resolve credential s).answer.toOption.map some
  | orAnonymous settings =>
    if c.authentication.isNone then some (some (OfToken.ofToken (anonymousToken settings)))
    else none

/-- The effects of the uses that have one, in their order, each at the moment of its use. -/
def effects (c : SecurityContext α) (s : σ) : List (Use α σ) → List (Option α)
  | [] => []
  | use :: rest =>
    (use.effect c s).toList ++ effects (use.perform c s).answer (use.perform c s).state rest

/-- A use with an effect leaves it in the context, and any other leaves the context as it is. -/
theorem Use.perform_answer (use : Use α σ) (c : SecurityContext α) (s : σ) :
    (use.perform c s).answer = ⟨(use.effect c s).getD c.authentication⟩ := by
  cases use with
  | set a => rfl
  | clear => rfl
  | resolveInto r credential =>
    rw [perform, effect, Act.answer_bind, resolveInto_apply]
    cases (r.resolve credential s).answer <;> rfl
  | orAnonymous settings =>
    rw [perform, effect, orAnonymous_apply]
    cases c.authentication.isNone <;> rfl

/-- What is held in the end is the last effect, or what was held before when there is none. -/
theorem run_answer (uses : List (Use α σ)) (c : SecurityContext α) (s : σ) :
    (run c uses s).answer = ⟨(effects c s uses).getLast?.getD c.authentication⟩ := by
  induction uses generalizing c s with
  | nil => rfl
  | cons use rest ih =>
    have hrest : (run c (use :: rest) s).answer =
        (run (use.perform c s).answer rest (use.perform c s).state).answer := by
      rw [run, List.foldlM_cons, Act.answer_bind, run]
    rw [hrest, ih, effects, List.getLast?_append]
    -- without a later effect, the context holds that of this use or what it held before
    cases (effects (use.perform c s).answer (use.perform c s).state rest).getLast? with
    | some held => rfl
    | none =>
      rw [Use.perform_answer]
      cases use.effect c s <;> rfl

/-- At any moment a resolution into a context stores its very result or, with its error, changes
nothing, and becoming anonymous fills an empty context once. However an empty context is used, it
holds in the end what the last use with an effect left in it. -/
theorem tracks_last_effective_use (uses : List (Use α σ)) (s : σ) :
    (∀ (r : Resolver α σ) (credential : α) (c : SecurityContext α) (t : σ),
      ResolvesInto r credential c t) ∧
    (∀ (settings : AnonymousSettings) (c : SecurityContext α) (t : σ), FillsOnce settings c t) ∧
    (run empty uses s).answer.authentication = (effects empty s uses).getLast?.getD none :=
  ⟨resolvesInto, fillsOnce, congrArg authentication (run_answer uses empty s)⟩

/-- A resolver with one strategy that gives the same answer to everyone. -/
def answering (answer : Except AuthError (Option AuthenticationToken)) :
    Resolver AuthenticationToken Unit :=
  ⟨[⟨"fixed", fun _ => true, fun _ => return answer⟩], none, .silent, false⟩

/-- A login takes the place of the anonymous default, and neither a later login that fails nor
another default takes the place of the login. -/
theorem login_outlasts_failure_and_default :
    let alice := AuthenticationToken.verified .bearerToken "alice" ["user"]
    let guest : AnonymousSettings := ⟨"key", "guest", ["visitor"]⟩
    let other : AnonymousSettings := ⟨"other", "nobody", []⟩
    let denied := AuthError.rejected .badCredentials "unknown"
    let uses : List (Use AuthenticationToken Unit) :=
      [.orAnonymous guest, .resolveInto (answering (.error denied)) alice,
        .resolveInto (answering (.ok (some alice))) alice,
        .resolveInto (answering (.error denied)) alice, .orAnonymous other]
    (run empty (uses.take 2) ()).answer.authentication = some (anonymousToken guest) ∧
      (run empty uses ()).answer.authentication = some alice ∧
      ((answering (.error denied)).resolveInto (withAuthentication alice) alice ()).answer =
        (.error denied, withAuthentication alice) := by
  intro alice guest other denied uses
  obtain ⟨hresolves, -, hanonymous⟩ := tracks_last_effective_use (uses.take 2) ()
  obtain ⟨-, -, hlogin⟩ := tracks_last_effective_use uses ()
  refine ⟨hanonymous.trans rfl, hlogin.trans rfl, ?_⟩
  exact (hresolves _ alice (withAuthentication alice) ()).failed denied rfl

end AuthChain.SecurityContext
