import AuthChain.Auth.Resolver

/-!
# Resolution and its reference

The reference of a resolution is stated on the strategies that support the credential's kind: they
are asked in order up to the first that decides, the last answer or the fallback gives the outcome,
and the outcome is published (`Resolver.reference`). What becomes of a result before it is given out
is told by two relations, for its details (`Detailed`) and for its secret (`Scrubbed`). Main
statement: resolving follows the reference in its answer, in everything that the strategies, the
fallback and the sink do, and in the events that are not told by resolvers themselves
(`Resolver.resolve_follows_reference`).
-/

namespace AuthChain.Auth

variable {α σ β γ : Type}

/-! ## Outcomes up to what resolvers tell -/

/-- The event is told by a resolver on its way. -/
def Event.isNarration : Event → Bool
  | .considered .. => true
  | .attempted .. => true
  | .setBack .. => true
  | .halted .. => true
  | .denied => true
  | _ => false

/-- The events that are not told by resolvers. -/
def heard (es : List Event) : List Event :=
  es.filter fun e => !e.isNarration

@[simp] theorem heard_append (es fs : List Event) : heard (es ++ fs) = heard es ++ heard fs :=
  List.filter_append ..

theorem heard_cons_of_isNarration {e : Event} (he : e.isNarration = true) (es : List Event) :
    heard (e :: es) = heard es :=
  List.filter_cons_of_neg (by simp [he])

/-- Two outcomes agree in their answers, their states and the events that are not told by
resolvers. -/
structure Agrees (o p : Outcome Event σ β) : Prop where
  answer : o.answer = p.answer
  state : o.state = p.state
  events : heard o.events = heard p.events

namespace Agrees

theorem refl (o : Outcome Event σ β) : Agrees o o :=
  ⟨rfl, rfl, rfl⟩

theorem trans {o p q : Outcome Event σ β} (first : Agrees o p) (second : Agrees p q) :
    Agrees o q :=
  ⟨first.answer.trans second.answer, first.state.trans second.state,
    first.events.trans second.events⟩

theorem bind {m n : Act Event σ β} {f g : β → Act Event σ γ} {s : σ} (first : Agrees (m s) (n s))
    (second : Agrees (f (n s).answer (n s).state) (g (n s).answer (n s).state)) :
    Agrees ((m >>= f) s) ((n >>= g) s) := by
  obtain ⟨hanswer, hstate, hevents⟩ := first
  refine ⟨?_, ?_, ?_⟩
  · rw [Act.answer_bind, Act.answer_bind, hanswer, hstate]
    exact second.answer
  · rw [Act.state_bind, Act.state_bind, hanswer, hstate]
    exact second.state
  · rw [Act.events_bind, Act.events_bind, heard_append, heard_append, hanswer, hstate, hevents,
      second.events]

/-- What a resolver tells makes no difference. -/
theorem narrated {e : Event} (he : e.isNarration = true) {m : Act Event σ β}
    {o : Outcome Event σ β} {s : σ} (h : Agrees (m s) o) :
    Agrees ((do Act.emit e; m : Act Event σ β) s) o := by
  refine ⟨h.answer, h.state, ?_⟩
  rw [Act.events_bind, ← h.events]
  exact heard_cons_of_isNarration he _

end Agrees

/-! ## Asking strategies -/

/-- What a strategy answers. -/
abbrev Answer (α : Type) : Type :=
  Except AuthError (Option α)

/-- The answer ends the walk over the strategies: a result, or an error that is about the account or
comes from a service that failed. -/
def decides : Answer α → Bool
  | .ok (some _) => true
  | .ok none => false
  | .error e => e.errorClass = .accountStatus ∨ e.errorClass = .internalService

theorem decides_error (e : AuthError) : decides (.error e : Answer α) = e.isDefinitive := by
  rw [decides, Bool.eq_iff_iff, decide_eq_true_iff, e.isDefinitive_iff]

/-- The error of an answer, if it is one. -/
def error? : Answer α → Option AuthError
  | .ok _ => none
  | .error e => some e

/-- The last error among answers. -/
def lastError (answers : List (Answer α)) : Option AuthError :=
  (answers.filterMap error?).getLast?

/-- Ask strategies one after the other, each once, and collect their answers. -/
def consult (credential : α) : List (Strategy α σ) → Act Event σ (List (Answer α))
  | [] => pure []
  | strategy :: rest => do
    let answer ← strategy.authenticate credential
    let answers ← consult credential rest
    return answer :: answers

/-- Strategies were asked up to the first that decides, or all of them. -/
structure Stops (answers : List (Answer α)) (unasked : List (Strategy α σ)) : Prop where
  early : ∀ a ∈ answers.dropLast, decides a = false
  late : unasked ≠ [] → ∃ a, answers.getLast? = some a ∧ decides a = true

/-- How a walk ends that got these answers after a last error. -/
def verdict [Authentication α] (credential : α) (last : Option AuthError)
    (answers : List (Answer α)) : Walk α :=
  match answers.getLast? with
  | some (.ok (some result)) => .accepted (copyDetails credential result)
  | some (.error e) =>
    if e.isDefinitive then .halted e else .undecided ((lastError answers).or last)
  | _ => .undecided ((lastError answers).or last)

/-! ## The walk -/

theorem lastError_cons (a : Answer α) (answers : List (Answer α)) :
    lastError (a :: answers) = (lastError answers).or (error? a) := by
  unfold lastError
  rw [List.getLast?_filterMap, List.getLast?_filterMap, List.reverse_cons, List.findSome?_append,
    List.findSome?_singleton]

theorem Stops.cons {a : Answer α} {answers : List (Answer α)} {unasked : List (Strategy α σ)}
    (ha : decides a = false) (h : Stops answers unasked) : Stops (a :: answers) unasked := by
  refine ⟨?_, fun hne => ?_⟩
  · cases answers with
    | nil => exact fun b hb => absurd hb List.not_mem_nil
    | cons c rest =>
      intro b hb
      rcases List.mem_cons.1 hb with rfl | hb
      · exact ha
      · exact h.early b hb
  · obtain ⟨b, hb, hdecides⟩ := h.late hne
    refine ⟨b, ?_, hdecides⟩
    rw [List.getLast?_cons, hb]
    rfl

section Walk

variable [Authentication α]

/-- An answer that does not decide leaves its error, if it has one, to the verdict. -/
theorem verdict_cons {a : Answer α} (ha : decides a = false) (credential : α)
    (last : Option AuthError) (answers : List (Answer α)) :
    verdict credential last (a :: answers) =
      verdict credential ((error? a).or last) answers := by
  unfold verdict
  cases answers with
  | nil =>
    match a, ha with
    | .ok none, _ => rfl
    | .error e, ha =>
      have hdefinitive : e.isDefinitive = false := (decides_error e).symm.trans ha
      simp [lastError, error?, hdefinitive]
  | cons b rest =>
    -- the verdict is on a later answer; the error counts when no later one does
    rw [List.getLast?_cons_cons, lastError_cons a, Option.or_assoc]

theorem map_consult_cons (credential : α) (last : Option AuthError) (strategy : Strategy α σ)
    (rest : List (Strategy α σ)) :
    verdict credential last <$> consult credential (strategy :: rest) =
      (do
        let a ← strategy.authenticate credential
        (fun answers => verdict credential last (a :: answers)) <$> consult credential rest) := by
  rw [consult, map_bind]
  congr
  funext a
  rw [map_bind]
  simp only [map_pure]
  exact bind_pure_comp _ _

section Step

variable {credential : α} {strategy : Strategy α σ} {rest : List (Strategy α σ)}
  {size position : Nat} {last : Option AuthError} {s : σ}

theorem walk_cons_of_not_supports
    (hsupports : strategy.supports (Authentication.kind credential) = false)
    {o : Outcome Event σ (Walk α)} (h : Agrees (walk credential size position last rest s) o) :
    Agrees (walk credential size position last (strategy :: rest) s) o := by
  rw [walk]
  refine Agrees.narrated rfl ?_
  rw [hsupports]
  exact h

theorem walk_cons_of_decides
    (hsupports : strategy.supports (Authentication.kind credential) = true)
    (hdecides : decides (strategy.authenticate credential s).answer = true) :
    Agrees (walk credential size position last (strategy :: rest) s)
      ((verdict credential last <$> consult credential [strategy]) s) := by
  rw [walk]
  refine Agrees.narrated rfl ?_
  rw [hsupports]
  refine Agrees.narrated rfl ?_
  rw [map_consult_cons]
  refine Agrees.bind (.refl _) ?_
  match (strategy.authenticate credential s).answer, hdecides with
  | .ok (some result), _ => exact .refl _
  | .error e, hdecides =>
    have hdefinitive : e.isDefinitive = true := (decides_error e).symm.trans hdecides
    simp only [hdefinitive, if_true]
    refine ⟨?_, rfl, rfl⟩
    show Walk.halted e = verdict credential last [.error e]
    simp [verdict, hdefinitive]

theorem walk_cons_of_not_decides
    (hsupports : strategy.supports (Authentication.kind credential) = true)
    (hdecides : decides (strategy.authenticate credential s).answer = false)
    {asked : List (Strategy α σ)}
    (h : Agrees
      (walk credential size (position + 1)
        ((error? (strategy.authenticate credential s).answer).or last) rest
        (strategy.authenticate credential s).state)
      ((verdict credential ((error? (strategy.authenticate credential s).answer).or last) <$>
        consult credential asked) (strategy.authenticate credential s).state)) :
    Agrees (walk credential size position last (strategy :: rest) s)
      ((verdict credential last <$> consult credential (strategy :: asked)) s) := by
  rw [walk]
  refine Agrees.narrated rfl ?_
  rw [hsupports]
  refine Agrees.narrated rfl ?_
  rw [map_consult_cons]
  refine Agrees.bind (.refl _) ?_
  -- the error, if it is one, is the last error of the walk from here on
  simp only [verdict_cons hdecides]
  generalize (strategy.authenticate credential s).answer = a at hdecides h
  match a, hdecides with
  | .ok none, _ => exact h
  | .error e, hdecides =>
    have hdefinitive : e.isDefinitive = false := (decides_error e).symm.trans hdecides
    simp only [hdefinitive]
    exact .narrated rfl h

end Step

/-- A walk asks the supporting strategies up to the first that decides, and ends with the verdict
on their answers. -/
theorem walk_agrees (credential : α) (size : Nat) (strategies : List (Strategy α σ)) :
    ∀ (position : Nat) (last : Option AuthError) (s : σ), ∃ asked unasked,
      strategies.filter (·.supports (Authentication.kind credential)) = asked ++ unasked ∧
      Stops (consult credential asked s).answer unasked ∧
      Agrees (walk credential size position last strategies s)
        ((verdict credential last <$> consult credential asked) s) := by
  induction strategies with
  | nil =>
    intro position last s
    have hstops : Stops ([] : List (Answer α)) ([] : List (Strategy α σ)) :=
      ⟨fun a ha => absurd ha List.not_mem_nil, fun hne => absurd rfl hne⟩
    exact ⟨[], [], rfl, hstops, .refl _⟩
  | cons strategy rest ih =>
    intro position last s
    cases hsupports : strategy.supports (Authentication.kind credential) with
    | false =>
      obtain ⟨asked, unasked, hfilter, hstops, hagrees⟩ := ih position last s
      refine ⟨asked, unasked, ?_, hstops, walk_cons_of_not_supports hsupports hagrees⟩
      rw [List.filter_cons_of_neg (by simp [hsupports]), hfilter]
    | true =>
      cases hdecides : decides (strategy.authenticate credential s).answer with
      | true =>
        -- the strategies behind this one are not asked
        refine ⟨[strategy], rest.filter (·.supports (Authentication.kind credential)), ?_, ?_,
          walk_cons_of_decides hsupports hdecides⟩
        · rw [List.filter_cons_of_pos (by simp [hsupports])]
          rfl
        · exact ⟨fun a ha => absurd ha List.not_mem_nil, fun _ => ⟨_, rfl, hdecides⟩⟩
      | false =>
        obtain ⟨asked, unasked, hfilter, hstops, hagrees⟩ := ih (position + 1)
          ((error? (strategy.authenticate credential s).answer).or last)
          (strategy.authenticate credential s).state
        refine ⟨strategy :: asked, unasked, ?_, hstops.cons hdecides,
          walk_cons_of_not_decides hsupports hdecides hagrees⟩
        rw [List.filter_cons_of_pos (by simp [hsupports]), hfilter]
        rfl

end Walk

/-! ## Results as they are given out -/

section GivenOut

variable [Authentication α]

/-- What becomes of a result of a strategy: with no details of its own it takes over those of the
credential, if that has any. -/
inductive Detailed (credential given : α) : α → Prop where
  | own {d : AuthenticationDetails} (hown : Authentication.details? given = some d) :
    Detailed credential given given
  | copied {d : AuthenticationDetails} (hown : Authentication.details? given = none)
      (hcredential : Authentication.details? credential = some d) :
    Detailed credential given (Authentication.setDetails d given)
  | bare (hown : Authentication.details? given = none)
      (hcredential : Authentication.details? credential = none) :
    Detailed credential given given

/-- What becomes of the secret of a result: it is kept where secrets are kept, and otherwise dropped
if the result holds one that can be dropped. -/
inductive Scrubbed (erases : Bool) (result : α) : α → Prop where
  | kept (herases : erases = false) : Scrubbed erases result result
  | dropped {final : α} (herases : erases = true)
      (herased : Authentication.erased? result = some final) : Scrubbed erases result final
  | bare (herases : erases = true) (herased : Authentication.erased? result = none) :
    Scrubbed erases result result

theorem detailed_iff {credential given final : α} :
    Detailed credential given final ↔ final = copyDetails credential given := by
  constructor
  · intro h
    cases h with
    | own hown => simp [copyDetails, hown]
    | copied hown hcredential => simp [copyDetails, hown, hcredential]
    | bare hown hcredential => simp [copyDetails, hown, hcredential]
  · rintro rfl
    unfold copyDetails
    cases hown : Authentication.details? given with
    | some d => exact .own hown
    | none =>
      cases hcredential : Authentication.details? credential with
      | some d => exact .copied hown hcredential
      | none => exact .bare hown hcredential

theorem Resolver.scrubbed_iff (r : Resolver α σ) {result final : α} :
    Scrubbed r.eraseCredentials result final ↔ final = r.scrub result := by
  constructor
  · intro h
    cases h with
    | kept herases => simp [scrub, herases]
    | dropped herases herased => simp [scrub, herases, herased]
    | bare herases herased => simp [scrub, herases, herased]
  · rintro rfl
    unfold scrub
    cases herases : r.eraseCredentials with
    | false => exact .kept rfl
    | true =>
      cases herased : Authentication.erased? result with
      | some final => exact .dropped rfl herased
      | none => exact .bare rfl herased

end GivenOut

/-! ## The reference -/

namespace Resolver

theorem deny_agrees (r : Resolver α σ) (credential : α) (error : AuthError) (s : σ) :
    Agrees (r.deny credential false error s)
      ((do r.sink.publish (.failure error credential); return .error error :
        Act Event σ (Except AuthError α)) s) := by
  unfold deny
  refine Agrees.bind (.refl _) ?_
  cases r.fallback with
  | none => exact .refl _
  | some manager => exact .narrated rfl (.refl _)

variable [Authentication α]

/-- The outcome when no strategy decided: the fallback's, unless it finds no provider either; then
the last error of a strategy, or that there is no provider for the kind. -/
def undecidedReference (r : Resolver α σ) (credential : α) (answers : List (Answer α)) :
    Act Event σ (Except AuthError α) := do
  let own := (lastError answers).getD (.providerNotFound (Authentication.kind credential))
  match r.fallback with
  | none =>
    r.sink.publish (.failure own credential)
    return .error own
  | some manager =>
    match ← manager.authenticate credential with
    | .ok result => return .ok (r.scrub result)
    | .error e =>
      if e.errorClass = .providerNotFound then
        r.sink.publish (.failure own credential)
        return .error own
      else return .error e

/-- The outcome for the answers of the strategies that were asked: the last one when it decides,
and then the fallback is not asked. -/
def answerReference (r : Resolver α σ) (credential : α) (answers : List (Answer α)) :
    Act Event σ (Except AuthError α) :=
  match answers.getLast? with
  | some (.ok (some result)) => do
    let final := r.scrub (copyDetails credential result)
    r.sink.publish (.success final)
    return .ok final
  | some (.error e) =>
    if e.errorClass = .accountStatus ∨ e.errorClass = .internalService then do
      r.sink.publish (.failure e credential)
      return .error e
    else r.undecidedReference credential answers
  | _ => r.undecidedReference credential answers

/-- The reference of a resolution, given the strategies that it asks. -/
def reference (r : Resolver α σ) (credential : α) (asked : List (Strategy α σ)) :
    Act Event σ (Except AuthError α) := do
  let answers ← consult credential asked
  r.answerReference credential answers

/-- What follows the walk over the strategies. -/
def conclude (r : Resolver α σ) (credential : α) : Walk α → Act Event σ (Except AuthError α)
  | .accepted result => r.succeed result
  | .halted error => r.halt credential error
  | .undecided last => r.fallBack credential last

theorem resolve_eq (r : Resolver α σ) (credential : α) :
    r.resolve credential =
      walk credential r.strategies.length 0 none r.strategies >>= r.conclude credential := rfl

theorem fallBack_agrees (r : Resolver α σ) (credential : α) (answers : List (Answer α)) (s : σ) :
    Agrees (r.fallBack credential (lastError answers) s)
      (r.undecidedReference credential answers s) := by
  unfold fallBack undecidedReference
  cases hfallback : r.fallback with
  | none => exact r.deny_agrees credential _ s
  | some manager =>
    refine Agrees.bind (.refl _) ?_
    cases (manager.authenticate credential s).answer with
    | ok result => exact .refl _
    | error e =>
      by_cases hclass : e.errorClass = .providerNotFound
      · have hnotFound : e.isProviderNotFound = true := e.isProviderNotFound_iff.2 hclass
        simp only [hnotFound, hclass, if_true]
        exact r.deny_agrees credential _ _
      · have hnotFound : e.isProviderNotFound = false :=
          e.isProviderNotFound_eq_false_iff.2 hclass
        simp only [hnotFound, hclass, Bool.false_eq_true, if_false]
        -- the error of the fallback is not published again
        unfold deny
        rw [hfallback]
        exact .narrated rfl (.refl _)

theorem conclude_agrees (r : Resolver α σ) (credential : α) (answers : List (Answer α)) (s : σ) :
    Agrees (r.conclude credential (verdict credential none answers) s)
      (r.answerReference credential answers s) := by
  have hundecided := r.fallBack_agrees credential answers s
  unfold verdict answerReference
  rw [Option.or_none]
  match answers.getLast? with
  | some (.ok (some result)) => exact .refl _
  | some (.ok none) => exact hundecided
  | none => exact hundecided
  | some (.error e) =>
    -- the walk asks for a definitive error, the reference for its class
    by_cases hdefinitive : e.isDefinitive = true
    · simp only [if_pos hdefinitive, if_pos (e.isDefinitive_iff.1 hdefinitive)]
      exact Agrees.bind (.refl _) (.narrated rfl (.refl _))
    · simp only [if_neg hdefinitive, if_neg (mt e.isDefinitive_iff.2 hdefinitive)]
      exact hundecided

/-- A resolution follows its reference: it asks the supporting strategies in order up to the first
that decides, each once, and then does what the reference does. A result of a strategy is given out
with details, and every result is given out as its secrets are to be treated. -/
theorem resolve_follows_reference (r : Resolver α σ) (credential : α) (s : σ) :
    (∃ asked unasked,
      r.strategies.filter (·.supports (Authentication.kind credential)) = asked ++ unasked ∧
      Stops (consult credential asked s).answer unasked ∧
      Agrees (r.resolve credential s) (r.reference credential asked s)) ∧
    (∀ given, Detailed credential given (copyDetails credential given)) ∧
    ∀ result, Scrubbed r.eraseCredentials result (r.scrub result) := by
  refine ⟨?_, fun _ => detailed_iff.2 rfl, fun _ => r.scrubbed_iff.2 rfl⟩
  obtain ⟨asked, unasked, hfilter, hstops, hwalk⟩ :=
    walk_agrees credential r.strategies.length r.strategies 0 none s
  refine ⟨asked, unasked, hfilter, hstops, ?_⟩
  -- what follows the walk depends on the verdict alone
  have hverdict := Agrees.bind hwalk (f := r.conclude credential) (.refl _)
  rw [bind_map_left] at hverdict
  rw [resolve_eq]
  exact hverdict.trans (Agrees.bind (.refl _) (r.conclude_agrees credential _ _))

end Resolver

end AuthChain.Auth
