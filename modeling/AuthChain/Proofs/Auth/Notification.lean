import AuthChain.Proofs.Auth.Nesting

/-!
# What a nesting publishes

A result is published once, by the tier whose strategy gave it. An error is published by the tier
that answers for it; the tiers around it pass it on silently, unless it says that no provider was
found. Such an error does not count for the tier around it, which then answers for an error of its
own and publishes that one as well. Main statement: a nesting without a last fallback publishes one
success, or failures of neighbouring tiers from the inside out of which all but the last say that no
provider was found (`Tier.resolution_is_announced`).
-/

namespace AuthChain.Auth

variable {α σ : Type}

/-- The failures that neighbouring tiers publish from the inside out, the last of them at the level
given. -/
def failures (credential : α) (level : Nat) : List AuthError → List (Nat × Notice α)
  | [] => []
  | e :: rest => (level + rest.length, .failure e credential) :: failures credential level rest

theorem failures_append_singleton (credential : α) (level : Nat) (errors : List AuthError)
    (e : AuthError) :
    failures credential level (errors ++ [e]) =
      failures credential (level + 1) errors ++ [(level, .failure e credential)] := by
  induction errors with
  | nil => rfl
  | cons x rest ih =>
    have hlevel : level + (rest ++ [e]).length = level + 1 + rest.length := by
      rw [List.length_append, List.length_singleton]
      omega
    rw [List.cons_append, failures, failures, hlevel, ih, List.cons_append]

section Announced

variable [Authentication α]

/-- What tiers from a level on publish for a ruling: a result once, or an error once by the tier that
answers for it, and before that the errors of the tiers behind this one, which found no provider. -/
inductive Announced (credential : α) (level : Nat) (tiers : List (Tier α σ)) : Ruling α → Prop where
  /-- A tier published its result, and the tiers in front of it may have scrubbed it further. -/
  | success (i : Nat) (published : α) (hi : i < tiers.length) :
    Announced credential level tiers
      ⟨.ok ((tiers.take i).foldr Tier.scrub published), [(level + i, .success published)]⟩
  /-- The error comes from a tier in front of tiers that found no provider. It is the first tier,
  or the tiers in front of it pass the error on. -/
  | failure (i : Nat) (missing : List AuthError) (e : AuthError)
      (hi : i + missing.length < tiers.length)
      (hmissing : ∀ x ∈ missing, x.isProviderNotFound = true)
      (he : i = 0 ∨ e.isProviderNotFound = false) :
    Announced credential level tiers
      ⟨.error e, failures credential (level + i) (missing ++ [e])⟩

namespace Announced

variable {credential : α} {level : Nat} {tier : Tier α σ} {inner : List (Tier α σ)}

theorem granted (result : α) :
    Announced credential level (tier :: inner) (.granted level result) :=
  .success 0 result (Nat.succ_pos _)

theorem denied (e : AuthError) :
    Announced credential level (tier :: inner) (.denied level credential e) :=
  .failure 0 [] e (Nat.succ_pos _) (fun _ hx => absurd hx List.not_mem_nil) (.inl rfl)

/-- Only an error that says that no provider was found makes the tier in front publish. -/
theorem review {ruling : Ruling α} (h : Announced credential (level + 1) inner ruling)
    (own : AuthError) :
    Announced credential level (tier :: inner) (tier.review level credential own ruling) := by
  cases h with
  | success i published hi =>
    have hsuccess : Announced credential level (tier :: inner)
        ⟨.ok (((tier :: inner).take (i + 1)).foldr Tier.scrub published),
          [(level + i + 1, .success published)]⟩ :=
      .success (i + 1) published (Nat.succ_lt_succ hi)
    rw [← Nat.add_right_comm] at hsuccess
    unfold Tier.review Tier.respond Ruling.told Ruling.after
    rw [List.append_nil]
    exact hsuccess
  | failure i missing e hi hmissing he =>
    unfold Tier.review Tier.respond
    cases hnotFound : e.isProviderNotFound with
    | true =>
      -- no tier passes such an error on, so it is the answer of the tier right behind
      obtain rfl : i = 0 := he.resolve_right (by simp [hnotFound])
      simp only [hnotFound, if_true]
      unfold Ruling.after Ruling.denied
      rw [Nat.add_zero, ← failures_append_singleton]
      refine .failure 0 (missing ++ [e]) own ?_ ?_ (.inl rfl)
      · rw [List.length_append, List.length_singleton, List.length_cons]
        omega
      · intro x hx
        rcases List.mem_append.1 hx with hx | hx
        · exact hmissing x hx
        · exact List.mem_singleton.1 hx ▸ hnotFound
    | false =>
      simp only [hnotFound, Bool.false_eq_true, if_false]
      unfold Ruling.after Ruling.told
      rw [List.append_nil, Nat.add_right_comm]
      refine .failure (i + 1) missing e ?_ hmissing (.inr hnotFound)
      rw [List.length_cons]
      omega

theorem rule {counsel : Option (Act Event σ (Ruling α))}
    (h : ∀ ruling, counsel = some ruling →
      ∀ s, Announced credential (level + 1) inner (ruling s).answer) (w : Walk α) (s : σ) :
    Announced credential level (tier :: inner) (tier.rule level credential counsel w s).answer := by
  cases w with
  | accepted result => exact granted _
  | halted error => exact denied _
  | undecided last =>
    cases counsel with
    | none => exact denied _
    | some ruling =>
      rw [Tier.rule, Act.map_apply]
      exact (h ruling rfl s).review _

end Announced

theorem counsel_announced (credential : α) (inner : List (Tier α σ)) :
    ∀ level ruling, counsel none credential level inner = some ruling →
      ∀ s, Announced credential level inner (ruling s).answer := by
  induction inner with
  | nil => exact fun level ruling h => nomatch h
  | cons tier inner ih =>
    rintro level _ ⟨⟩ s
    exact Announced.rule (ih (level + 1)) _ _

/-- A nesting of resolvers without a last fallback asks and answers without its sinks, and then
publishes one success, or failures of neighbouring tiers from the inside out: more than one exactly
when fallbacks found no provider. -/
theorem Tier.resolution_is_announced (outer : Tier α σ) (inner : List (Tier α σ))
    (sinks : Nat → Sink α σ) (credential : α) (s : σ) :
    let deliberation := outer.deliberate 0 credential (counsel none credential 1 inner)
    Agrees ((outer.resolver (sinks 0) (behind sinks none 1 inner)).resolve credential s)
        ((deliberation >>= declare sinks) s) ∧
      Announced credential 0 (outer :: inner) (deliberation s).answer :=
  ⟨outer.resolve_declares inner sinks none credential s,
    Announced.rule (counsel_announced credential inner 1) _ _⟩

end Announced

/-! ## Two failures of one resolution -/

/-- The states of two recording sinks. -/
abbrev TwoRecordings : Type :=
  Recording × Recording

/-- A tier whose only strategy looks at bearer tokens and has no opinion on them. -/
def bearerTier (name : String) : Tier AuthenticationToken TwoRecordings :=
  ⟨[⟨name, (· == .bearerToken), fun _ => pure (.ok none)⟩], true⟩

/-- The outermost tier records to the first state and the one behind it to the second. -/
def twoRecordings : Nat → Sink AuthenticationToken TwoRecordings
  | 0 => .recording ⟨Prod.fst, fun r s => (r, s.2)⟩
  | _ => .recording ⟨Prod.snd, fun r s => (s.1, r)⟩

/-- A login that no strategy of two tiers supports is recorded as a failure by both. -/
theorem unsupported_login_is_recorded_twice :
    let alice := AuthenticationToken.presented .usernamePassword "alice" "pw"
    let entry := Entry.ofNotice (.failure (.providerNotFound .usernamePassword) alice)
    let sinks := twoRecordings
    let empty := (Recording.withCapacity 8, Recording.withCapacity 8)
    let resolved := ((bearerTier "outer").resolver (sinks 0)
      (behind sinks none 1 [bearerTier "inner"])).resolve alice empty
    resolved.answer = .error (.providerNotFound .usernamePassword) ∧
      resolved.state = (⟨8, [entry]⟩, ⟨8, [entry]⟩) := by
  intro alice entry sinks empty resolved
  have h := (Tier.resolution_is_announced (bearerTier "outer") [bearerTier "inner"] sinks alice
    empty).1
  exact ⟨h.answer.trans rfl, h.state.trans rfl⟩

end AuthChain.Auth
