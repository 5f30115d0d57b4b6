import AuthChain.Proofs.Auth.Nesting

/-!
# Nestings as one resolver

A resolver with another one as its fallback asks the strategies of both in turn, and then the last
fallback. It answers as one resolver over all the strategies does, unless a strategy behind the
first resolver says that no provider was found: such an error is dropped by the nesting, and kept by
the one resolver. Main statement: up to what they publish, a nesting and the resolver over the
strategies of its tiers do the same (`Tier.nesting_is_concatenation`).
-/

namespace AuthChain.Auth

variable {α σ : Type}

/-- A value without its secret has none to drop. -/
class ErasesOnce (α : Type) [Authentication α] : Prop where
  getD_erased? : ∀ x y : α, Authentication.erased? x = some y →
    (Authentication.erased? y).getD y = y

instance : ErasesOnce AuthenticationToken where
  getD_erased? _ _ h := by
    cases h
    rfl

/-! ## Walks over concatenated strategies -/

namespace Walk

/-- Go on where no strategy decided. -/
def onward (go : Option AuthError → Act Event σ (Walk α)) : Walk α → Act Event σ (Walk α)
  | .accepted result => pure (.accepted result)
  | .halted error => pure (.halted error)
  | .undecided last => go last

/-- The walk after an earlier error, which stays the last one when no other follows. -/
def since (earlier : Option AuthError) : Walk α → Walk α
  | .accepted result => .accepted result
  | .halted error => .halted error
  | .undecided last => .undecided (last.or earlier)

theorem onward_since (earlier : Option AuthError) :
    onward (fun last => pure (.undecided (last.or earlier))) =
      fun w : Walk α => (pure (w.since earlier) : Act Event σ (Walk α)) := by
  funext w
  cases w <;> rfl

/-- The error that a walk ended with, if any. -/
def error? : Walk α → Option AuthError
  | .accepted _ => none
  | .halted error => some error
  | .undecided last => last

end Walk

section Walks

variable [Authentication α] {credential : α}

/-- Positions and sizes are only told, and an error before the walk counts at its end. -/
theorem walk_append_since {size : Nat} (size' : Nat) {earlier : Option AuthError}
    {tail : List (Strategy α σ)} {go : Option AuthError → Act Event σ (Walk α)}
    (htail : ∀ position last s,
      Agrees (walk credential size position (last.or earlier) tail s) (go last s))
    (front : List (Strategy α σ)) :
    ∀ position position' last s,
      Agrees (walk credential size position (last.or earlier) (front ++ tail) s)
        ((walk credential size' position' last front >>= Walk.onward go) s) := by
  induction front with
  | nil => exact fun position _ last s => htail position last s
  | cons strategy rest ih =>
    intro position position' last s
    rw [List.cons_append, walk, walk, bind_assoc]
    refine Agrees.bind_right _ (fun _ s => ?_) s
    cases strategy.supports (Authentication.kind credential) with
    | false => exact ih position position' last s
    | true =>
      simp only [if_true]
      rw [bind_assoc]
      refine .narrated rfl (.symm (.narrated rfl (.symm ?_)))
      rw [bind_assoc]
      refine Agrees.bind_right _ (fun answer s => ?_) s
      cases answer with
      | ok opinion =>
        cases opinion with
        | none => exact ih (position + 1) (position' + 1) last s
        | some result => exact .refl _
      | error e =>
        cases hdefinitive : e.isDefinitive with
        | true =>
          simp only [hdefinitive, if_true]
          exact .refl _
        | false =>
          simp only [hdefinitive, Bool.false_eq_true, if_false]
          rw [bind_assoc]
          exact Agrees.bind_right _ (fun _ => ih (position + 1) (position' + 1) (some e)) s

/-- A walk after an earlier error. -/
theorem walk_since (size size' : Nat) (strategies : List (Strategy α σ))
    (position position' : Nat) (earlier : Option AuthError) (s : σ) :
    Agrees (walk credential size position earlier strategies s)
      ((Walk.since earlier <$> walk credential size' position' none strategies) s) := by
  have hend : ∀ position (last : Option AuthError) s, Agrees
      (walk credential size position (last.or earlier) ([] : List (Strategy α σ)) s)
      ((pure (.undecided (last.or earlier)) : Act Event σ (Walk α)) s) := fun _ _ _ => .refl _
  have h := walk_append_since size' hend strategies position position' none s
  rw [List.append_nil, Option.none_or, Walk.onward_since, bind_pure_comp] at h
  exact h

/-- A walk over two lists is the walk over the first and, where it does not decide, the walk over
the second. -/
theorem walk_append (size size₁ size₂ : Nat) (first second : List (Strategy α σ)) (s : σ) :
    Agrees (walk credential size 0 none (first ++ second) s)
      ((walk credential size₁ 0 none first >>= Walk.onward fun last =>
        Walk.since last <$> walk credential size₂ 0 none second) s) := by
  have htail : ∀ position last s, Agrees
      (walk credential size position (last.or none) second s)
      ((Walk.since last <$> walk credential size₂ 0 none second) s) := by
    intro position last s
    rw [Option.or_none]
    exact walk_since size size₂ second position 0 last s
  exact walk_append_since size₁ htail first 0 0 none s

/-- A walk ends with an error of one of its strategies, or with the one before it. -/
theorem walk_error? {size : Nat} {strategies : List (Strategy α σ)} {P : AuthError → Prop}
    (hstrategies : ∀ strategy ∈ strategies, ∀ s e,
      (strategy.authenticate credential s).answer = .error e → P e) :
    ∀ position last, (∀ e, last = some e → P e) → ∀ s e,
      (walk credential size position last strategies s).answer.error? = some e → P e := by
  induction strategies with
  | nil => exact fun _ _ hlast _ e he => hlast e he
  | cons strategy rest ih =>
    intro position last hlast s e he
    have ih := ih fun strategy hmem => hstrategies strategy (List.mem_cons_of_mem _ hmem)
    rw [walk, Act.answer_bind] at he
    cases hsupports : strategy.supports (Authentication.kind credential) with
    | false =>
      rw [hsupports] at he
      exact ih position last hlast s e he
    | true =>
      rw [hsupports] at he
      simp only [if_true, Act.answer_bind, Act.emit_apply] at he
      have hanswer := hstrategies strategy List.mem_cons_self s
      generalize (strategy.authenticate credential s).state = s' at he
      generalize (strategy.authenticate credential s).answer = answer at hanswer he
      cases answer with
      | ok opinion =>
        cases opinion with
        | none => exact ih (position + 1) last hlast s' e he
        | some result => cases he
      | error x =>
        cases hdefinitive : x.isDefinitive with
        | true =>
          simp only [hdefinitive, if_true] at he
          exact Option.some.inj he ▸ hanswer x rfl
        | false =>
          simp only [hdefinitive, Bool.false_eq_true, if_false, Act.answer_bind] at he
          exact ih (position + 1) (some x) (fun y hy => Option.some.inj hy ▸ hanswer x rfl) s' e he

end Walks

/-! ## Tiers joined into one -/

namespace Tier

/-- The tier with the strategies of another one behind its own. -/
def append (tier second : Tier α σ) : Tier α σ :=
  ⟨tier.strategies ++ second.strategies, tier.eraseCredentials⟩

/-- The tier with the strategies of all tiers behind it. -/
def join (tier : Tier α σ) (inner : List (Tier α σ)) : Tier α σ :=
  ⟨tier.strategies ++ inner.flatMap (·.strategies), tier.eraseCredentials⟩

theorem join_cons (outer tier : Tier α σ) (inner : List (Tier α σ)) :
    outer.join (tier :: inner) = (outer.append tier).join inner := by
  unfold join append
  rw [List.flatMap_cons, List.append_assoc]

theorem join_nil (tier : Tier α σ) : tier.join [] = tier := by
  unfold join
  rw [List.flatMap_nil, List.append_nil]

end Tier

/-! ## Answers without notices -/

section Answers

variable [Authentication α]

namespace Tier

/-- The answer of a tier whose strategies did not decide, given the answer of its fallback. -/
def settle (tier : Tier α σ) (own : AuthError) : Except AuthError α → Except AuthError α
  | .ok result => .ok (tier.scrub result)
  | .error e => .error (if e.isProviderNotFound then own else e)

/-- The answer of a tier after the walk over its strategies. -/
def settleWalk (tier : Tier α σ) (credential : α)
    (fallback : Option (Act Event σ (Except AuthError α))) :
    Walk α → Act Event σ (Except AuthError α)
  | .accepted result => pure (.ok (tier.scrub result))
  | .halted error => pure (.error error)
  | .undecided last =>
    match fallback with
    | none => pure (.error (ownError credential last))
    | some answer => tier.settle (ownError credential last) <$> answer

/-- The answer of a tier, given that of its fallback. -/
def find (tier : Tier α σ) (credential : α)
    (fallback : Option (Act Event σ (Except AuthError α))) : Act Event σ (Except AuthError α) :=
  walk credential tier.strategies.length 0 none tier.strategies >>=
    tier.settleWalk credential fallback

theorem answer_respond (tier : Tier α σ) (level : Nat) (credential : α) (own : AuthError)
    (answer : Except AuthError α) :
    (tier.respond level credential own answer).answer = tier.settle own answer := by
  unfold respond settle
  cases answer with
  | ok result => rfl
  | error e => cases hnotFound : e.isProviderNotFound <;> simp only [hnotFound] <;> rfl

theorem answer_deliberate (tier : Tier α σ) (level : Nat) (credential : α)
    (counsel : Option (Act Event σ (Ruling α))) :
    Ruling.answer <$> tier.deliberate level credential counsel =
      tier.find credential (counsel.map fun ruling => Ruling.answer <$> ruling) := by
  unfold deliberate find
  rw [map_bind]
  congr
  funext w
  cases w with
  | accepted result => rfl
  | halted error => rfl
  | undecided last =>
    cases counsel with
    | none => rfl
    | some ruling =>
      unfold rule settleWalk review Ruling.after
      simp only [Option.map_some, Functor.map_map, answer_respond]

/-- No strategy of the tier answers the credential with an error that says that no provider was
found. -/
def FindsProvider (tier : Tier α σ) (credential : α) : Prop :=
  ∀ strategy ∈ tier.strategies, ∀ s e, (strategy.authenticate credential s).answer = .error e →
    e.isProviderNotFound = false

/-- A resolver without an error of its own finds no provider, and the one in front of it answers
for its own error. -/
theorem ownError_or (credential : α) {error : Option AuthError}
    (hfound : ∀ e, error = some e → e.isProviderNotFound = false) (last : Option AuthError) :
    (if (ownError credential error).isProviderNotFound then ownError credential last
      else ownError credential error) = ownError credential (error.or last) := by
  cases error with
  | none => rfl
  | some e => exact if_neg (by simp [ownError, hfound e rfl])

section Join

variable [ErasesOnce α] {credential : α} {outer second : Tier α σ}

theorem scrub_scrub (hflag : second.eraseCredentials = outer.eraseCredentials) (result : α) :
    outer.scrub (second.scrub result) = outer.scrub result := by
  unfold scrub
  rw [hflag]
  cases outer.eraseCredentials with
  | false => rfl
  | true =>
    simp only [if_true]
    cases herased : Authentication.erased? result with
    | none => rw [Option.getD_none, herased, Option.getD_none]
    | some y => exact ErasesOnce.getD_erased? result y herased

theorem settle_settle (hflag : second.eraseCredentials = outer.eraseCredentials)
    (own error : AuthError) (answer : Except AuthError α) :
    outer.settle own (second.settle error answer) =
      outer.settle (if error.isProviderNotFound then own else error) answer := by
  cases answer with
  | ok result => exact congrArg Except.ok (scrub_scrub hflag result)
  | error e =>
    unfold settle
    cases hnotFound : e.isProviderNotFound <;> simp [hnotFound]

/-- Two tiers settle a walk of the second as one tier settles the walk of both. -/
theorem settle_settleWalk (hflag : second.eraseCredentials = outer.eraseCredentials)
    (last : Option AuthError) (fallback : Option (Act Event σ (Except AuthError α))) {w : Walk α}
    (hw : ∀ e, w.error? = some e → e.isProviderNotFound = false) :
    outer.settle (ownError credential last) <$> second.settleWalk credential fallback w =
      (outer.append second).settleWalk credential fallback (w.since last) := by
  cases w with
  | accepted result =>
    exact congrArg (fun r => (pure (.ok r) : Act Event σ (Except AuthError α)))
      (scrub_scrub hflag result)
  | halted e =>
    have hfound := hw e rfl
    unfold settleWalk settle
    rw [map_pure]
    simp only [hfound, Bool.false_eq_true, if_false]
    rfl
  | undecided error =>
    have hfound : ∀ e, error = some e → e.isProviderNotFound = false := hw
    have hown := ownError_or credential hfound last
    cases fallback with
    | none =>
      unfold settleWalk settle
      rw [map_pure]
      exact congrArg (fun e => (pure (.error e) : Act Event σ (Except AuthError α))) hown
    | some answer =>
      have hsettle : (fun a => outer.settle (ownError credential last)
          (second.settle (ownError credential error) a)) =
            outer.settle (ownError credential (error.or last)) := by
        funext a
        rw [settle_settle hflag, hown]
      unfold settleWalk
      rw [Functor.map_map, hsettle]
      rfl

/-- A tier behind another one answers as one tier with the strategies of both. -/
theorem find_find (hflag : second.eraseCredentials = outer.eraseCredentials)
    (hfinds : second.FindsProvider credential)
    (fallback : Option (Act Event σ (Except AuthError α))) (s : σ) :
    Agrees (outer.find credential (some (second.find credential fallback)) s)
      ((outer.append second).find credential fallback s) := by
  refine .trans ?_ (.symm (Agrees.bind_left (walk_append _ outer.strategies.length
    second.strategies.length outer.strategies second.strategies s) _))
  rw [bind_assoc]
  refine Agrees.bind_right _ (fun w s => ?_) s
  cases w with
  | accepted result => exact .refl _
  | halted error => exact .refl _
  | undecided last =>
    unfold settleWalk find Walk.onward
    simp only [map_bind, bind_map_left]
    refine Agrees.bind (.refl _) ?_
    rw [settle_settleWalk hflag last fallback
      (walk_error? hfinds 0 none (fun _ h => nomatch h) s)]
    exact .refl _

/-- Tiers behind each other answer as one tier with the strategies of all. -/
theorem find_join (fallback : Option (Manager α σ)) {inner : List (Tier α σ)}
    (hfinds : ∀ tier ∈ inner, tier.FindsProvider credential) (level : Nat) :
    ∀ outer : Tier α σ, (∀ tier ∈ inner, tier.eraseCredentials = outer.eraseCredentials) →
      ∀ s, Agrees
        ((Ruling.answer <$> outer.deliberate level credential
          (counsel fallback credential (level + 1) inner)) s)
        ((Ruling.answer <$> (outer.join inner).deliberate 0 credential
          (counsel fallback credential 1 [])) s) := by
  induction inner generalizing level with
  | nil =>
    intro outer _ s
    rw [join_nil, answer_deliberate, answer_deliberate]
    exact .refl _
  | cons tier inner ih =>
    intro outer hflag s
    obtain ⟨hsame, hflag⟩ := List.forall_mem_cons.1 hflag
    obtain ⟨hfirst, hfinds⟩ := List.forall_mem_cons.1 hfinds
    -- the outermost two tiers become one, in front of the others
    rw [join_cons]
    refine .trans ?_ (ih hfinds (level + 1) (outer.append tier) hflag s)
    rw [answer_deliberate, answer_deliberate, counsel, Option.map_some, answer_deliberate]
    exact find_find hsame hfirst _ s

end Join

end Tier

namespace Tier

/-- A nesting that publishes nothing gives its answer. -/
theorem resolve_silent (outer : Tier α σ) (inner : List (Tier α σ))
    (fallback : Option (Manager α σ)) (credential : α) (s : σ) :
    Agrees ((outer.resolver .silent (behind (fun _ => .silent) fallback 1 inner)).resolve
        credential s)
      ((Ruling.answer <$>
        outer.deliberate 0 credential (counsel fallback credential 1 inner)) s) := by
  refine (outer.resolve_declares inner (fun _ => .silent) fallback credential s).trans ?_
  unfold declare
  simp only [announce_silent, bind_pure_comp]
  exact .refl _

/-- A nesting publishes after everything else. -/
theorem resolve_publishes (outer : Tier α σ) (inner : List (Tier α σ)) (sinks : Nat → Sink α σ)
    (fallback : Option (Manager α σ)) (credential : α) {core : Act Event σ (Except AuthError α)}
    {s : σ} (hcore : Agrees ((Ruling.answer <$>
      outer.deliberate 0 credential (counsel fallback credential 1 inner)) s) (core s)) :
    ∃ notices, Agrees
      ((outer.resolver (sinks 0) (behind sinks fallback 1 inner)).resolve credential s)
      ((do let answer ← core; announce sinks notices; return answer :
        Act Event σ (Except AuthError α)) s) :=
  ⟨_, (outer.resolve_declares inner sinks fallback credential s).trans
    ((declares_answer _ _ s).trans (Agrees.bind_left hcore _))⟩

/-- Up to what they publish, which comes last, a nesting with one retention flag and the resolver
over the strategies of all its tiers do the same: they ask the same strategies and the same last
fallback in the same order and give the same answer, if no strategy behind the outermost tier says
that no provider was found. -/
theorem nesting_is_concatenation [ErasesOnce α] (outer : Tier α σ) (inner : List (Tier α σ))
    (fallback : Option (Manager α σ)) (sinks : Nat → Sink α σ) (sink : Sink α σ) (credential : α)
    (hflag : ∀ tier ∈ inner, tier.eraseCredentials = outer.eraseCredentials)
    (hfinds : ∀ tier ∈ inner, tier.FindsProvider credential) (s : σ) :
    let core := ((outer.join inner).resolver .silent fallback).resolve credential
    (∃ notices, Agrees
      ((outer.resolver (sinks 0) (behind sinks fallback 1 inner)).resolve credential s)
      ((do let answer ← core; announce sinks notices; return answer :
        Act Event σ (Except AuthError α)) s)) ∧
    (∃ notices, Agrees (((outer.join inner).resolver sink fallback).resolve credential s)
      ((do let answer ← core; announce (fun _ => sink) notices; return answer :
        Act Event σ (Except AuthError α)) s)) := by
  intro core
  have hcore : Agrees ((Ruling.answer <$> (outer.join inner).deliberate 0 credential
      (counsel fallback credential 1 [])) s) (core s) :=
    ((outer.join inner).resolve_silent [] fallback credential s).symm
  have hjoin := find_join fallback hfinds 0 outer hflag s
  exact ⟨outer.resolve_publishes inner sinks fallback credential (hjoin.trans hcore),
    (outer.join inner).resolve_publishes [] (fun _ => sink) fallback credential hcore⟩

end Tier

end Answers

/-! ## A directory in front of a database -/

/-- A tier with one strategy that notes that it was asked. -/
def notingTier (name : String) (answer : Answer AuthenticationToken) :
    Tier AuthenticationToken (List String) :=
  ⟨[⟨name, fun _ => true, fun _ => do Act.modify (· ++ [name]); return answer⟩], true⟩

/-- A directory that rejects a login with a database behind it: both are asked, and the token of the
database is scrubbed, as when one resolver asks both. -/
theorem directory_before_database :
    let alice := AuthenticationToken.presented .usernamePassword "alice" "pw"
    let token := (AuthenticationToken.verified .usernamePassword "alice" []).withCredentials "pw"
    let directory := notingTier "directory" (.error (.rejected .badCredentials "unknown"))
    let database := notingTier "database" (.ok (some token))
    let nested := directory.resolver .silent (behind (fun _ => .silent) none 1 [database])
    let joined := (directory.join [database]).resolver .silent none
    (nested.resolve alice []).answer = .ok token.eraseCredentials ∧
      (joined.resolve alice []).answer = .ok token.eraseCredentials ∧
      (nested.resolve alice []).state = ["directory", "database"] ∧
      (joined.resolve alice []).state = ["directory", "database"] := by
  intro alice token directory database nested joined
  have hfinds : ∀ tier ∈ [database], tier.FindsProvider alice := by
    intro tier htier strategy hstrategy s e he
    obtain rfl := List.mem_singleton.1 htier
    obtain rfl := List.mem_singleton.1 hstrategy
    exact nomatch he
  have hflag : ∀ tier ∈ [database], tier.eraseCredentials = directory.eraseCredentials := by
    intro tier htier
    obtain rfl := List.mem_singleton.1 htier
    rfl
  obtain ⟨⟨notices, hnested⟩, ⟨notices', hjoined⟩⟩ := Tier.nesting_is_concatenation directory
    [database] none (fun _ => .silent) .silent alice hflag hfinds []
  rw [announce_silent] at hnested hjoined
  exact ⟨hnested.answer.trans rfl, hjoined.answer.trans rfl, hnested.state.trans rfl,
    hjoined.state.trans rfl⟩

end AuthChain.Auth
