import AuthChain.Proofs.Auth.Resolution

/-!
# What a resolver publishes

The sink of a resolver is overheard: every notice that it gets is also written to a log beside the
state, which nothing else can reach. Strategies, fallback and sink are arbitrary.

Main statement: a resolution sends its own sink one success, with the very result that it answers;
or nothing, when the answer is the fallback's; or one failure, with the error that it answers and
the credential (`Resolver.resolution_is_published`).
-/

namespace AuthChain.Auth

variable {α σ τ β γ : Type}

/-! ## Overhearing a sink -/

/-- The action with a log beside its state that it cannot reach. -/
def aside (m : Act Event σ β) : Act Event (σ × τ) β := fun s =>
  ⟨(m s.1).answer, (m s.1).events, ((m s.1).state, s.2)⟩

theorem aside_apply (m : Act Event σ β) (s : σ) (log : τ) :
    aside m (s, log) = ⟨(m s).answer, (m s).events, ((m s).state, log)⟩ := rfl

theorem aside_pure (b : β) : aside (τ := τ) (pure b : Act Event σ β) = pure b := rfl

theorem aside_emit (e : Event) : aside (τ := τ) (Act.emit e : Act Event σ Unit) = Act.emit e := rfl

theorem aside_bind (m : Act Event σ β) (f : β → Act Event σ γ) :
    aside (τ := τ) (m >>= f) = aside m >>= fun b => aside (f b) := rfl

def Strategy.aside (strategy : Strategy α σ) : Strategy α (σ × τ) :=
  ⟨strategy.name, strategy.supports,
    fun credential => Auth.aside (strategy.authenticate credential)⟩

def Manager.aside (manager : Manager α σ) : Manager α (σ × τ) :=
  ⟨fun credential => Auth.aside (manager.authenticate credential)⟩

/-- The sink with a log of the notices that it got. -/
def Sink.overheard (sink : Sink α σ) : Sink α (σ × List (Notice α)) where
  publish notice := do
    Auth.aside (sink.publish notice)
    Act.modify fun s => (s.1, s.2 ++ [notice])

/-- The resolver with a log of the notices that it sends to its own sink. -/
def Resolver.overheard (r : Resolver α σ) : Resolver α (σ × List (Notice α)) :=
  ⟨r.strategies.map Strategy.aside, r.fallback.map Manager.aside, r.sink.overheard,
    r.eraseCredentials⟩

/-- The action that is overheard does the same as the plain one, and meanwhile the sink gets the
notices. -/
def Sends (overheard : Act Event (σ × List (Notice α)) β) (plain : Act Event σ β) (s : σ)
    (notices : List (Notice α)) : Prop :=
  ∀ log, overheard (s, log) =
    ⟨(plain s).answer, (plain s).events, ((plain s).state, log ++ notices)⟩

namespace Sends

theorem aside (m : Act Event σ β) (s : σ) : Sends (α := α) (Auth.aside m) m s [] := by
  intro log
  rw [aside_apply, List.append_nil]

theorem publish (sink : Sink α σ) (notice : Notice α) (s : σ) :
    Sends (sink.overheard.publish notice) (sink.publish notice) s [notice] := by
  intro log
  simp [Sink.overheard, Act.bind_apply, aside_apply]

theorem pure (b : β) (s : σ) : Sends (α := α) (Pure.pure b) (Pure.pure b) s [] :=
  aside (Pure.pure b) s

theorem emit (e : Event) (s : σ) : Sends (α := α) (Act.emit e) (Act.emit e) s [] :=
  aside (Act.emit e) s

section Bind

variable {overheard : Act Event (σ × List (Notice α)) β} {plain : Act Event σ β} {s : σ}
  {notices more : List (Notice α)} {f : β → Act Event (σ × List (Notice α)) γ}
  {g : β → Act Event σ γ}

theorem bind (first : Sends overheard plain s notices)
    (second : Sends (f (plain s).answer) (g (plain s).answer) (plain s).state more) :
    Sends (overheard >>= f) (plain >>= g) s (notices ++ more) := by
  intro log
  rw [Act.bind_apply, first log]
  simp only [second (log ++ notices), List.append_assoc]
  rfl

/-- Nothing is sent after the first action. -/
theorem bind_quiet (first : Sends overheard plain s notices)
    (second : Sends (f (plain s).answer) (g (plain s).answer) (plain s).state []) :
    Sends (overheard >>= f) (plain >>= g) s notices := by
  have hboth := first.bind second
  rwa [List.append_nil] at hboth

/-- Nothing is sent by the first action. -/
theorem quiet_bind (first : Sends overheard plain s [])
    (second : Sends (f (plain s).answer) (g (plain s).answer) (plain s).state more) :
    Sends (overheard >>= f) (plain >>= g) s more :=
  first.bind second

end Bind

end Sends

variable [Authentication α]

/-- The log is out of reach of a walk. -/
theorem walk_aside (credential : α) (size : Nat) (strategies : List (Strategy α σ)) :
    ∀ (position : Nat) (last : Option AuthError),
      walk credential size position last (strategies.map (Strategy.aside (τ := τ))) =
        aside (walk credential size position last strategies) := by
  -- the induction is on the strategies left, for any position and last error
  induction strategies with
  | nil =>
    intro position last
    rfl
  | cons strategy rest ih =>
    intro position last
    rw [List.map_cons, walk, walk, aside_bind, aside_emit]
    refine congrArg (Act.emit _ >>= ·) (funext fun _ => ?_)
    by_cases hsupports : strategy.supports (Authentication.kind credential) = true
    · have hlifted : (strategy.aside (τ := τ)).supports (Authentication.kind credential) = true :=
        hsupports
      rw [if_pos hsupports, if_pos hlifted, aside_bind, aside_emit, aside_bind]
      refine congrArg (Act.emit _ >>= ·) (funext fun _ => ?_)
      refine congrArg (aside (strategy.authenticate credential) >>= ·) (funext fun answer => ?_)
      cases answer with
      | ok opinion =>
        cases opinion with
        | none => exact ih _ _
        | some result => rfl
      | error e =>
        by_cases hdefinitive : e.isDefinitive = true
        · simp only [hdefinitive, if_true, aside_pure]
        · simp only [hdefinitive, ih]
          rfl
    · have hlifted : ¬ (strategy.aside (τ := τ)).supports (Authentication.kind credential) = true :=
        hsupports
      rw [if_neg hsupports, if_neg hlifted]
      exact ih _ _

/-! ## What is published -/

/-- What a resolver answers and what it sends to its sink, from the answers of the strategies that
were asked and what the fallback, if there is one, answers after them. -/
inductive Publication (r : Resolver α σ) (credential : α) (answers : List (Answer α))
    (counsel : Option (Except AuthError α)) : Except AuthError α → List (Notice α) → Prop where
  /-- A strategy gave the result, which is given out with details and without a secret that is to be
  dropped. -/
  | granted (given detailed final : α) (hlast : answers.getLast? = some (.ok (some given)))
      (hdetails : Detailed credential given detailed)
      (hsecret : Scrubbed r.eraseCredentials detailed final) :
    Publication r credential answers counsel (.ok final) [.success final]
  /-- A strategy gave an error about the account or of a service that failed. -/
  | halted (e : AuthError) (hlast : answers.getLast? = some (.error e))
      (hclass : e.errorClass = .accountStatus ∨ e.errorClass = .internalService) :
    Publication r credential answers counsel (.error e) [.failure e credential]
  /-- No strategy decided, and the fallback gave the result. -/
  | backed (result final : α) (hundecided : ∀ a ∈ answers, decides a = false)
      (hcounsel : counsel = some (.ok result))
      (hsecret : Scrubbed r.eraseCredentials result final) :
    Publication r credential answers counsel (.ok final) []
  /-- No strategy decided, and the error is the fallback's. -/
  | relayed (e : AuthError) (hundecided : ∀ a ∈ answers, decides a = false)
      (hcounsel : counsel = some (.error e)) (hclass : e.errorClass ≠ .providerNotFound) :
    Publication r credential answers counsel (.error e) []
  /-- No strategy decided, and there is no fallback or it found no provider. -/
  | denied (own : AuthError) (hundecided : ∀ a ∈ answers, decides a = false)
      (hcounsel : ∀ c ∈ counsel, ∃ e, c = .error e ∧ e.errorClass = .providerNotFound)
      (hown : own = (lastError answers).getD (.providerNotFound (Authentication.kind credential))) :
    Publication r credential answers counsel (.error own) [.failure own credential]

/-- The verdict is the last answer, if it decides; then no other answer does. -/
theorem verdict_cases {answers : List (Answer α)} {unasked : List (Strategy α σ)}
    (hstops : Stops answers unasked) (credential : α) :
    (∃ given, answers.getLast? = some (.ok (some given)) ∧
      verdict credential none answers = .accepted (copyDetails credential given)) ∨
    (∃ e, answers.getLast? = some (.error e) ∧ e.isDefinitive = true ∧
      verdict credential none answers = .halted e) ∨
    (∀ a ∈ answers, decides a = false) ∧
      verdict credential none answers = .undecided (lastError answers) := by
  -- the answers before the last one never decide, or the walk had ended there
  have hundecided : ∀ a, answers.getLast? = some a → decides a = false →
      ∀ b ∈ answers, decides b = false := by
    intro a hlast hdecides b hb
    obtain ⟨front, rfl⟩ := List.getLast?_eq_some_iff.1 hlast
    have hearly := hstops.early
    rw [List.dropLast_concat] at hearly
    rcases List.mem_append.1 hb with hb | hb
    · exact hearly b hb
    · exact List.mem_singleton.1 hb ▸ hdecides
  unfold verdict
  rw [Option.or_none]
  cases hlast : answers.getLast? with
  | none =>
    refine .inr (.inr ⟨fun a ha => ?_, rfl⟩)
    rw [List.getLast?_eq_none_iff.1 hlast] at ha
    exact absurd ha List.not_mem_nil
  | some a =>
    match a, hlast with
    | .ok (some given), _ => exact .inl ⟨given, rfl, rfl⟩
    | .ok none, hlast => exact .inr (.inr ⟨hundecided _ hlast rfl, rfl⟩)
    | .error e, hlast =>
      by_cases hdefinitive : e.isDefinitive = true
      · exact .inr (.inl ⟨e, rfl, hdefinitive, if_pos hdefinitive⟩)
      · have hdecides : decides (.error e : Answer α) = false := by
          rw [decides_error]
          exact Bool.eq_false_iff.2 hdefinitive
        exact .inr (.inr ⟨hundecided _ hlast hdecides, if_neg hdefinitive⟩)

namespace Resolver

variable (r : Resolver α σ) (credential : α)

theorem succeed_sends (result : α) (s : σ) :
    Sends (r.overheard.succeed result) (r.succeed result) s [.success (r.scrub result)] :=
  (Sends.publish r.sink _ s).bind_quiet (.pure _ _)

theorem halt_sends (e : AuthError) (s : σ) :
    Sends (r.overheard.halt credential e) (r.halt credential e) s [.failure e credential] :=
  (Sends.publish r.sink _ s).bind_quiet ((Sends.emit _ _).bind_quiet (.pure _ _))

omit [Authentication α] in
theorem overheard_fallback : r.overheard.fallback = r.fallback.map Manager.aside := rfl

omit [Authentication α] in
theorem deny_sends (published : Bool) (e : AuthError) (s : σ) :
    Sends (r.overheard.deny credential published e) (r.deny credential published e) s
      (if published then [] else [.failure e credential]) := by
  unfold deny
  rw [overheard_fallback, Option.isSome_map]
  cases published with
  | true =>
    cases r.fallback.isSome with
    | true => exact (Sends.emit _ _).bind_quiet (.pure _ _)
    | false => exact .pure _ _
  | false =>
    refine (Sends.publish r.sink _ s).bind_quiet ?_
    cases r.fallback.isSome with
    | true => exact (Sends.emit _ _).bind_quiet (.pure _ _)
    | false => exact .pure _ _

omit [Authentication α] in
theorem deny_answer (published : Bool) (e : AuthError) (s : σ) :
    (r.deny credential published e s).answer = .error e := by
  unfold deny
  cases published <;> cases r.fallback.isSome <;> rfl

/-- What the fallback answers in a state, if there is one. -/
def counsel (s : σ) : Option (Except AuthError α) :=
  r.fallback.map fun manager => (manager.authenticate credential s).answer

theorem fallBack_publishes {answers : List (Answer α)}
    (hundecided : ∀ a ∈ answers, decides a = false) (s : σ) :
    ∃ notices,
      Sends (r.overheard.fallBack credential (lastError answers))
        (r.fallBack credential (lastError answers)) s notices ∧
      Publication r credential answers (r.counsel credential s)
        (r.fallBack credential (lastError answers) s).answer notices := by
  unfold fallBack counsel
  rw [overheard_fallback]
  cases r.fallback with
  | none =>
    refine ⟨_, r.deny_sends credential false _ s, ?_⟩
    simp only [deny_answer]
    exact .denied _ hundecided (fun c hc => nomatch hc) rfl
  | some manager =>
    simp only [Act.answer_bind, Option.map_some]
    have hasked := Sends.aside (α := α) (manager.authenticate credential) s
    cases hcounsel : (manager.authenticate credential s).answer with
    | ok result =>
      refine ⟨[], hasked.quiet_bind ?_, ?_⟩
      · rw [hcounsel]
        exact .pure _ _
      · exact .backed result _ hundecided rfl (r.scrubbed_iff.2 rfl)
    | error e =>
      cases hfound : e.isProviderNotFound with
      | true =>
        refine ⟨[.failure ((lastError answers).getD
          (.providerNotFound (Authentication.kind credential))) credential],
          hasked.quiet_bind ?_, ?_⟩
        · rw [hcounsel]
          simp only [hfound, if_true]
          exact r.deny_sends credential false _ _
        · simp only [hfound, if_true, deny_answer]
          have hclass := e.isProviderNotFound_iff.1 hfound
          exact .denied _ hundecided (fun c hc => ⟨e, (Option.some.inj hc).symm, hclass⟩) rfl
      | false =>
        refine ⟨[], hasked.quiet_bind ?_, ?_⟩
        · rw [hcounsel]
          simp only [hfound, Bool.false_eq_true, if_false]
          exact r.deny_sends credential true _ _
        · simp only [hfound, Bool.false_eq_true, if_false, deny_answer]
          exact .relayed e hundecided rfl (e.isProviderNotFound_eq_false_iff.1 hfound)

theorem conclude_publishes {answers : List (Answer α)} {unasked : List (Strategy α σ)}
    (hstops : Stops answers unasked) (s : σ) :
    ∃ notices,
      Sends (r.overheard.conclude credential (verdict credential none answers))
        (r.conclude credential (verdict credential none answers)) s notices ∧
      Publication r credential answers (r.counsel credential s)
        (r.conclude credential (verdict credential none answers) s).answer notices := by
  rcases verdict_cases hstops credential with ⟨given, hlast, hverdict⟩ |
    ⟨e, hlast, hdefinitive, hverdict⟩ | ⟨hundecided, hverdict⟩
  · rw [hverdict]
    exact ⟨_, r.succeed_sends _ s,
      .granted given _ _ hlast (detailed_iff.2 rfl) (r.scrubbed_iff.2 rfl)⟩
  · rw [hverdict]
    exact ⟨_, r.halt_sends credential e s, .halted e hlast (e.isDefinitive_iff.1 hdefinitive)⟩
  · rw [hverdict]
    exact r.fallBack_publishes credential hundecided s

/-- One resolution, for any strategies, fallback and sink, sends its own sink exactly what its
answers call for, whatever the sink got before. -/
theorem resolution_is_published (s : σ) :
    ∃ asked unasked,
      r.strategies.filter (·.supports (Authentication.kind credential)) = asked ++ unasked ∧
      Stops (consult credential asked s).answer unasked ∧
      ∃ notices,
        Sends (r.overheard.resolve credential) (r.resolve credential) s notices ∧
        Publication r credential (consult credential asked s).answer
          (r.counsel credential (consult credential asked s).state)
          (r.resolve credential s).answer notices := by
  obtain ⟨asked, unasked, hfilter, hstops, hwalk⟩ :=
    walk_agrees credential r.strategies.length r.strategies 0 none s
  refine ⟨asked, unasked, hfilter, hstops, ?_⟩
  have hanswer := hwalk.answer
  have hstate := hwalk.state
  rw [Act.map_apply] at hanswer hstate
  obtain ⟨notices, hsends, hpublication⟩ :=
    r.conclude_publishes credential hstops (consult credential asked s).state
  have hlifted : r.overheard.resolve credential =
      aside (walk credential r.strategies.length 0 none r.strategies) >>=
        r.overheard.conclude credential := by
    rw [resolve_eq]
    unfold overheard
    rw [walk_aside, List.length_map]
  rw [hlifted, resolve_eq, Act.answer_bind, hanswer, hstate]
  refine ⟨notices, ?_, hpublication⟩
  -- the walk sends nothing
  refine (Sends.aside (walk credential r.strategies.length 0 none r.strategies) s).quiet_bind ?_
  rw [hanswer, hstate]
  exact hsends

/-- A strategy that gives the same answer to everyone. -/
def unanimous (answer : Answer AuthenticationToken) : Strategy AuthenticationToken Unit :=
  ⟨"fixed", fun _ => true, fun _ => return answer⟩

/-- A result goes to the sink with the details of the credential and without its secret; the error
of a strategy goes there although a fallback was asked, since that found no provider. -/
theorem result_and_kept_error_are_published :
    let details := AuthenticationDetails.empty.withSessionId "17"
    let alice := (AuthenticationToken.presented .bearerToken "alice" "pw").withDetails details
    let verified := AuthenticationToken.verified .bearerToken "alice" ["user"]
    let wrong := AuthError.rejected .badCredentials "wrong"
    let unknown := AuthError.providerNotFound .bearerToken
    let granting : Resolver AuthenticationToken Unit :=
      ⟨[unanimous (.error wrong), unanimous (.ok (some (verified.withCredentials "pw")))], none,
        .silent, true⟩
    let denying : Resolver AuthenticationToken Unit :=
      ⟨[unanimous (.error wrong), unanimous (.ok none)], some ⟨fun _ => return .error unknown⟩,
        .silent, true⟩
    (granting.overheard.resolve alice ((), [])).state.2 =
        [.success (verified.withDetails details)] ∧
      (denying.overheard.resolve alice ((), [])).state.2 = [.failure wrong alice] := by
  intro details alice verified wrong unknown granting denying
  constructor
  · obtain ⟨asked, unasked, -, -, notices, hsends, hpublication⟩ :=
      granting.resolution_is_published alice ()
    have hanswer : (granting.resolve alice ()).answer = .ok (verified.withDetails details) := rfl
    rw [hsends [], List.nil_append]
    rw [hanswer] at hpublication
    -- a result is a strategy's or the fallback's, and there is no fallback
    cases hpublication with
    | granted => rfl
    | backed result _ _ hcounsel => exact absurd hcounsel.symm (Option.some_ne_none _)
  · obtain ⟨asked, unasked, -, -, notices, hsends, hpublication⟩ :=
      denying.resolution_is_published alice ()
    have hanswer : (denying.resolve alice ()).answer = .error wrong := rfl
    rw [hsends [], List.nil_append]
    rw [hanswer] at hpublication
    cases hpublication with
    | halted => rfl
    | relayed _ _ hcounsel =>
      -- the fallback answered with another error
      have hsame : unknown = wrong := Except.error.inj (Option.some.inj hcounsel)
      simp [unknown, wrong] at hsame
    | denied => rfl

end Resolver

end AuthChain.Auth
