import AuthChain.Proofs.Auth.Nesting
import AuthChain.Script.Identity

/-!
# What becomes of a strategy's token

A nesting is watched by letting every strategy write what it gives to a log beside the state, with
the level of its tier. Watching leaves the resolution as it is (`Tier.resolver_watches`), and the
log of a resolution tells which strategy its result goes back to.

Main statement: a result goes back to the one token that a strategy gave, or else to the last
fallback; of that token the resolution fills in the details, when they are missing, and drops the
secret, unless every tier on the way to it keeps secrets (`Tier.token_is_kept`).
-/

namespace AuthChain.Auth

variable {α σ β γ : Type}

/-! ## Watching strategies -/

/-- What strategies gave, each with the level of its tier. -/
abbrev Given (α : Type) : Type :=
  List (Nat × α)

/-- The action beside a log that it leaves alone. -/
def beside (m : Act Event σ β) : Act Event (σ × Given α) β := fun s =>
  ⟨(m s.1).answer, (m s.1).events, ((m s.1).state, s.2)⟩

/-- What an answer of a strategy adds to the log. -/
def givenBy (level : Nat) : Except AuthError (Option α) → Given α
  | .ok (some result) => [(level, result)]
  | _ => []

/-- The strategy writes its results to the log. -/
def Strategy.watched (level : Nat) (strategy : Strategy α σ) : Strategy α (σ × Given α) where
  name := strategy.name
  supports := strategy.supports
  authenticate credential := do
    let answer ← beside (strategy.authenticate credential)
    Act.modify fun s => (s.1, s.2 ++ givenBy level answer)
    return answer

def Manager.beside (manager : Manager α σ) : Manager α (σ × Given α) :=
  ⟨fun credential => Auth.beside (manager.authenticate credential)⟩

def Sink.beside (sink : Sink α σ) : Sink α (σ × Given α) :=
  ⟨fun notice => Auth.beside (sink.publish notice)⟩

namespace Tier

/-- The tier whose strategies write their results to the log. -/
def watched (level : Nat) (tier : Tier α σ) : Tier α (σ × Given α) :=
  ⟨tier.strategies.map (Strategy.watched level), tier.eraseCredentials⟩

/-- Tiers that are watched, the first of them at the level given. -/
def watchedFrom : Nat → List (Tier α σ) → List (Tier α (σ × Given α))
  | _, [] => []
  | level, tier :: inner => tier.watched level :: watchedFrom (level + 1) inner

end Tier

/-- The watched action does what the plain one does, and adds to the log what fits its answer. -/
def Watches (P : β → Given α → Prop) (watched : Act Event (σ × Given α) β)
    (plain : Act Event σ β) : Prop :=
  ∀ s log, ∃ given, P (plain s).answer given ∧
    watched (s, log) = ⟨(plain s).answer, (plain s).events, ((plain s).state, log ++ given)⟩

namespace Watches

variable {P : β → Given α → Prop} {Q : γ → Given α → Prop}

theorem pure {b : β} (hb : P b []) :
    Watches (σ := σ) P (Pure.pure b) (Pure.pure b) := by
  intro s log
  refine ⟨[], hb, ?_⟩
  rw [List.append_nil]
  rfl

theorem beside (m : Act Event σ β) :
    Watches (fun _ given => given = []) (Auth.beside (α := α) m) m := by
  intro s log
  refine ⟨[], rfl, ?_⟩
  rw [List.append_nil]
  rfl

theorem emit (e : Event) :
    Watches (σ := σ) (α := α) (fun _ given => given = []) (Act.emit e) (Act.emit e) :=
  beside (Act.emit e)

/-- What both actions add to the log is added one after the other. -/
theorem bind {watched : Act Event (σ × Given α) β} {plain : Act Event σ β}
    {f : β → Act Event (σ × Given α) γ} {g : β → Act Event σ γ} (first : Watches P watched plain)
    (second : ∀ b given, P b given → Watches (fun c more => Q c (given ++ more)) (f b) (g b)) :
    Watches Q (watched >>= f) (plain >>= g) := by
  intro s log
  obtain ⟨given, hgiven, hfirst⟩ := first s log
  obtain ⟨more, hmore, hsecond⟩ := second _ given hgiven (plain s).state (log ++ given)
  refine ⟨given ++ more, hmore, ?_⟩
  rw [Act.bind_apply, hfirst]
  simp only [hsecond, List.append_assoc]
  rfl

/-- Nothing is added by the first action. -/
theorem bind_silent {watched : Act Event (σ × Given α) β} {plain : Act Event σ β}
    {f : β → Act Event (σ × Given α) γ} {g : β → Act Event σ γ}
    (first : Watches (fun _ given => given = []) watched plain)
    (second : ∀ b, Watches Q (f b) (g b)) : Watches Q (watched >>= f) (plain >>= g) := by
  refine bind first fun b given hgiven => ?_
  subst hgiven
  exact second b

end Watches

theorem Strategy.watched_watches (level : Nat) (strategy : Strategy α σ) (credential : α) :
    Watches (fun answer given => given = givenBy level answer)
      ((strategy.watched level).authenticate credential) (strategy.authenticate credential) := by
  intro s log
  refine ⟨givenBy level (strategy.authenticate credential s).answer, rfl, ?_⟩
  simp [Strategy.watched, beside, Act.bind_apply, Act.map_apply]

/-! ## Watched walks -/

section Resolution

variable [Authentication α]

/-- What the log of a walk tells: the result that the walk ends with, before it got the details of
the credential. -/
inductive WalkGave (level : Nat) (credential : α) : Walk α → Given α → Prop where
  | accepted (result : α) :
      WalkGave level credential (.accepted (copyDetails credential result)) [(level, result)]
  | halted (error : AuthError) : WalkGave level credential (.halted error) []
  | undecided (last : Option AuthError) : WalkGave level credential (.undecided last) []

theorem walk_watches (level : Nat) (credential : α) (size : Nat)
    (strategies : List (Strategy α σ)) : ∀ (position : Nat) (last : Option AuthError),
      Watches (WalkGave level credential)
        (walk credential size position last (strategies.map (Strategy.watched level)))
        (walk credential size position last strategies) := by
  -- the induction is on the strategies left; only the one that ends the walk adds to the log
  induction strategies with
  | nil =>
    intro position last
    exact .pure (.undecided last)
  | cons strategy rest ih =>
    intro position last
    rw [List.map_cons, walk, walk]
    apply Watches.bind_silent (.emit _)
    intro _
    show Watches _ (if strategy.supports (Authentication.kind credential) then _ else _) _
    cases strategy.supports (Authentication.kind credential) with
    | false =>
      simp only [Bool.false_eq_true, if_false]
      exact ih position last
    | true =>
      simp only [if_true]
      apply Watches.bind_silent (.emit _)
      intro _
      apply Watches.bind (strategy.watched_watches level credential)
      intro answer given hgiven
      subst hgiven
      cases answer with
      | ok opinion =>
        cases opinion with
        | none => exact ih (position + 1) last
        | some result => exact .pure (.accepted result)
      | error e =>
        cases hdefinitive : e.isDefinitive with
        | true =>
          simp only [hdefinitive, if_true]
          exact .pure (.halted e)
        | false =>
          simp only [hdefinitive, Bool.false_eq_true, if_false]
          apply Watches.bind_silent (.emit _)
          intro _
          exact ih (position + 1) (some e)

/-! ## Watched nestings -/

/-- What the log of a nesting tells: the one result that a strategy of its tiers gave, which is the
answer with the details of the credential and scrubbed by the tiers on its way. With an empty log
the answer is an error, or there is a last fallback, which gave it. -/
inductive Traced (credential : α) (level : Nat) (tiers : List (Tier α σ)) (backed : Bool) :
    Except AuthError α → Given α → Prop where
  | strategy (i : Nat) (result : α) (hi : i < tiers.length) :
      Traced credential level tiers backed
        (.ok ((tiers.take (i + 1)).foldr Tier.scrub (copyDetails credential result)))
        [(level + i, result)]
  | fallback (result : α) : backed = true → Traced credential level tiers backed (.ok result) []
  | failure (error : AuthError) : Traced credential level tiers backed (.error error) []

section Tiers

variable {credential : α} {level : Nat} {tier : Tier α σ} {inner : List (Tier α σ)} {backed : Bool}

theorem Traced.outward {answer : Except AuthError α} {given : Given α}
    (h : Traced credential (level + 1) inner backed answer given) :
    Traced credential level (tier :: inner) backed (answer.map tier.scrub) given := by
  cases h with
  | strategy i result hi =>
    have traced : Traced credential level (tier :: inner) backed _ [(level + (i + 1), result)] :=
      .strategy (i + 1) result (Nat.succ_lt_succ hi)
    have hlevel : level + 1 + i = level + (i + 1) := by omega
    rw [hlevel]
    exact traced
  | fallback result hopen => exact .fallback (tier.scrub result) hopen
  | failure error => exact .failure error

theorem deny_watches (sink : Sink α σ) (fallback : Option (Manager α σ))
    {watching : Option (Manager α (σ × Given α))} (hsome : watching.isSome = fallback.isSome)
    (published : Bool) (error : AuthError) :
    Watches (Traced credential level (tier :: inner) backed)
      (((tier.watched level).resolver sink.beside watching).deny credential published error)
      ((tier.resolver sink fallback).deny credential published error) := by
  have hend : Watches (Traced credential level (tier :: inner) backed)
      (do if watching.isSome then Act.emit .denied
          return .error error : Act Event (σ × Given α) (Except AuthError α))
      (do if fallback.isSome then Act.emit .denied
          return .error error : Act Event σ (Except AuthError α)) := by
    rw [hsome]
    cases fallback.isSome with
    | false => exact .pure (.failure error)
    | true => exact .bind_silent (.emit _) fun _ => .pure (.failure error)
  cases published with
  | true => exact hend
  | false => exact .bind_silent (.beside _) fun _ => hend

/-- The fallbacks are both missing, or the watched one does what the plain one does. -/
def WatchesFallback (P : Except AuthError α → Given α → Prop) (credential : α) :
    Option (Manager α (σ × Given α)) → Option (Manager α σ) → Prop :=
  Option.Rel fun watching plain =>
    Watches P (watching.authenticate credential) (plain.authenticate credential)

theorem conclude_watches (sink : Sink α σ) {watching : Option (Manager α (σ × Given α))}
    {fallback : Option (Manager α σ)}
    (h : WatchesFallback (Traced credential (level + 1) inner backed) credential watching fallback)
    {w : Walk α} {given : Given α} (hw : WalkGave level credential w given) :
    Watches
      (fun answer more => Traced credential level (tier :: inner) backed answer (given ++ more))
      (((tier.watched level).resolver sink.beside watching).conclude credential w)
      ((tier.resolver sink fallback).conclude credential w) := by
  cases hw with
  | accepted result =>
    refine .bind_silent (.beside _) fun _ => .pure ?_
    exact .strategy 0 result (Nat.succ_pos _)
  | halted error =>
    refine .bind_silent (.beside _) fun _ => .bind_silent (.emit _) fun _ => .pure ?_
    exact .failure error
  | undecided last =>
    unfold Resolver.conclude Resolver.fallBack Tier.resolver
    cases h with
    | none => exact deny_watches sink none rfl false _
    | @some watching plain h =>
      refine .bind h fun answer given traced => ?_
      cases answer with
      | ok result => exact .pure (by rw [List.append_nil]; exact traced.outward)
      | error error =>
        -- an error goes back to no strategy's result
        cases traced
        cases hnotFound : error.isProviderNotFound with
        | true =>
          simp only [hnotFound, if_true]
          exact deny_watches sink (some plain) rfl false _
        | false =>
          simp only [hnotFound, Bool.false_eq_true, if_false]
          exact deny_watches sink (some plain) rfl true _

theorem Tier.resolver_watches (sink : Sink α σ) {watching : Option (Manager α (σ × Given α))}
    {fallback : Option (Manager α σ)}
    (h :
      WatchesFallback (Traced credential (level + 1) inner backed) credential watching fallback) :
    Watches (Traced credential level (tier :: inner) backed)
      (((tier.watched level).resolver sink.beside watching).resolve credential)
      ((tier.resolver sink fallback).resolve credential) := by
  rw [Resolver.resolve_eq, Resolver.resolve_eq]
  refine .bind ?_ fun w given hw => conclude_watches sink h hw
  show Watches _ (walk credential (tier.strategies.map _).length 0 none _) _
  rw [List.length_map]
  exact walk_watches level credential tier.strategies.length tier.strategies 0 none

theorem behind_watches (sinks : Nat → Sink α σ) (fallback : Option (Manager α σ))
    (credential : α) (inner : List (Tier α σ)) :
    ∀ level, WatchesFallback (Traced credential level inner fallback.isSome) credential
      (behind (fun level => (sinks level).beside) (fallback.map Manager.beside) level
        (Tier.watchedFrom level inner))
      (behind sinks fallback level inner) := by
  induction inner with
  | nil =>
    intro level
    cases fallback with
    | none => exact .none
    | some manager =>
      refine .some fun s log => ?_
      obtain ⟨given, hgiven, hrun⟩ := Watches.beside (manager.authenticate credential) s log
      refine ⟨given, ?_, hrun⟩
      rw [hgiven]
      cases (manager.authenticate credential s).answer with
      | ok result => exact .fallback result rfl
      | error error => exact .failure error
  | cons tier inner ih =>
    intro level
    exact .some (Tier.resolver_watches (sinks level) (ih (level + 1)))

end Tiers

/-! ## Tokens on their way -/

/-- A token keeps being one: its details and its secret can be told, set and dropped. -/
class LawfulTokens (α : Type) [Authentication α] [OfToken AuthenticationToken α] : Prop where
  details?_ofToken (t : AuthenticationToken) :
    Authentication.details? (OfToken.ofToken t : α) = t.details
  setDetails_ofToken (d : AuthenticationDetails) (t : AuthenticationToken) :
    Authentication.setDetails d (OfToken.ofToken t : α) = OfToken.ofToken (t.withDetails d)
  erased?_ofToken (t : AuthenticationToken) :
    Authentication.erased? (OfToken.ofToken t : α) = some (OfToken.ofToken t.eraseCredentials)

end Resolution

instance : LawfulTokens AuthenticationToken where
  details?_ofToken _ := rfl
  setDetails_ofToken _ _ := rfl
  erased?_ofToken _ := rfl

section Tokens

variable [Authentication α] [OfToken AuthenticationToken α] [LawfulTokens α]

theorem copyDetails_ofToken (credential : α) (t : AuthenticationToken) :
    copyDetails credential (OfToken.ofToken t) =
      OfToken.ofToken { t with details := t.details.or (Authentication.details? credential) } := by
  unfold copyDetails
  rw [LawfulTokens.details?_ofToken]
  obtain ⟨kind, principal, credentials, authorities, authenticated, own, keyHash⟩ := t
  cases own with
  | some own => rfl
  | none =>
    cases Authentication.details? credential with
    | none => rfl
    | some details => exact LawfulTokens.setDetails_ofToken details _

theorem Tier.scrub_ofToken (tier : Tier α σ) (t : AuthenticationToken) :
    tier.scrub (OfToken.ofToken t) =
      OfToken.ofToken { t with
        credentials := if tier.eraseCredentials then none else t.credentials } := by
  unfold Tier.scrub
  cases tier.eraseCredentials with
  | false => rfl
  | true =>
    simp only [if_true, LawfulTokens.erased?_ofToken, Option.getD_some]
    rfl

/-- Tiers that a token passes leave its secret when all of them keep secrets. -/
theorem foldr_scrub_ofToken (tiers : List (Tier α σ)) (t : AuthenticationToken) :
    tiers.foldr Tier.scrub (OfToken.ofToken t) =
      OfToken.ofToken { t with
        credentials := if tiers.all (!·.eraseCredentials) then t.credentials else none } := by
  induction tiers with
  | nil => rfl
  | cons tier rest ih =>
    rw [List.foldr_cons, ih, Tier.scrub_ofToken, List.all_cons]
    cases tier.eraseCredentials <;> rfl

/-- Watching a nesting leaves its resolution as it is. A result that goes back to no strategy comes
from a last fallback. Otherwise the log holds the one result that a strategy gave, and the nesting
answers with it: a token is answered as the strategy gave it, with the details of the credential
where it has none, and with its secret exactly when every tier from the outermost to its own keeps
secrets. -/
theorem Tier.token_is_kept (outer : Tier α σ) (inner : List (Tier α σ)) (sinks : Nat → Sink α σ)
    (fallback : Option (Manager α σ)) (credential : α) (s : σ) :
    let resolved :=
      (outer.resolver (sinks 0) (behind sinks fallback 1 inner)).resolve credential s
    let watched :=
      ((outer.watched 0).resolver (sinks 0).beside
        (behind (fun level => (sinks level).beside) (fallback.map Manager.beside) 1
          (watchedFrom 1 inner))).resolve credential (s, [])
    (watched.answer = resolved.answer ∧ watched.events = resolved.events ∧
      watched.state.1 = resolved.state) ∧
    (∀ result, resolved.answer = .ok result → watched.state.2 = [] → fallback.isSome = true) ∧
    ∀ i result, (i, result) ∈ watched.state.2 →
      watched.state.2 = [(i, result)] ∧ i < (outer :: inner).length ∧
      ∀ t : AuthenticationToken, result = OfToken.ofToken t →
        resolved.answer = .ok (OfToken.ofToken { t with
          details := t.details.or (Authentication.details? credential)
          credentials :=
            if ((outer :: inner).take (i + 1)).all (!·.eraseCredentials) then t.credentials
            else none }) := by
  intro resolved watched
  have hwatches : Watches (Traced credential 0 (outer :: inner) fallback.isSome)
      (((outer.watched 0).resolver (sinks 0).beside
        (behind (fun level => (sinks level).beside) (fallback.map Manager.beside) 1
          (watchedFrom 1 inner))).resolve credential)
      ((outer.resolver (sinks 0) (behind sinks fallback 1 inner)).resolve credential) :=
    Tier.resolver_watches (sinks 0) (behind_watches sinks fallback credential inner 1)
  obtain ⟨given, traced, hrun⟩ := hwatches s []
  have hwatched : watched = ⟨resolved.answer, resolved.events, (resolved.state, given)⟩ := hrun
  have hanswer : Traced credential 0 (outer :: inner) fallback.isSome resolved.answer given :=
    traced
  rw [hwatched]
  refine ⟨⟨rfl, rfl, rfl⟩, ?_, ?_⟩
  · intro result hok hgiven
    subst hgiven
    rw [hok] at hanswer
    cases hanswer with
    | fallback _ hsome => exact hsome
  · intro i result hmem
    generalize resolved.answer = answer at hanswer
    cases hanswer with
    | fallback => exact absurd hmem List.not_mem_nil
    | failure => exact absurd hmem List.not_mem_nil
    | strategy j given hj =>
      obtain ⟨rfl, rfl⟩ : i = 0 + j ∧ result = given := by simpa using hmem
      rw [Nat.zero_add]
      refine ⟨rfl, hj, fun t ht => ?_⟩
      rw [ht, copyDetails_ofToken, foldr_scrub_ofToken]

end Tokens

/-! ## A token that passes an erasing tier -/

open Script (Identity)

instance : LawfulTokens Identity where
  details?_ofToken _ := rfl
  setDetails_ofToken _ _ := rfl
  erased?_ofToken _ := rfl

/-- A tier with one strategy that gives the same answer to everyone. -/
def answeringTier (eraseCredentials : Bool) (answer : Answer Identity) : Tier Identity Unit :=
  ⟨[⟨"fixed", fun _ => true, fun _ => return answer⟩], eraseCredentials⟩

/-- A sealed credential is turned into a token by the innermost of three tiers. The first and the
last keep secrets, the one between them does not: the token has the details of the credential, which
is no token itself, and no secret. -/
theorem token_passes_erasing_tier :
    let details := AuthenticationDetails.empty.withSessionId "17"
    let badge := Identity.sealed
      ((AuthenticationToken.presented .preAuthenticated "alice" "seal").withDetails details)
    let token :=
      (AuthenticationToken.verified .usernamePassword "alice" ["user"]).withCredentials "pw"
    let inner := [answeringTier true (.ok none), answeringTier false (.ok (some (.token token)))]
    (((answeringTier false (.ok none)).resolver .silent
      (behind (fun _ => .silent) none 1 inner)).resolve badge ()).answer =
        .ok (.token { token with details := some details, credentials := none }) := by
  intro details badge token inner
  obtain ⟨-, -, hgiven⟩ := Tier.token_is_kept (answeringTier false (.ok none)) inner
    (fun _ => .silent) none badge ()
  exact (hgiven 2 (.token token) List.mem_cons_self).2.2 token rfl

end AuthChain.Auth
