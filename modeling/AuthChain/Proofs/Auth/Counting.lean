import AuthChain.Proofs.Auth.Recollection

/-!
# What counters count

The counters of a sink depend on the outcomes alone: no error for a success, an error for a failure.
A list of outcomes leaves one state of the counters (`Metrics.foldl_count`), in which every number
is taken modulo the width of a counter. Main statement: published directly or by a resolver without
a fallback, every outcome is counted once, as a success or as a failure of its class
(`Metrics.every_outcome_counts`).
-/

namespace AuthChain

namespace Counter

/-- The counter that has counted to a number. -/
def ofNat (n : Nat) : Counter :=
  ⟨UInt64.ofNat n⟩

theorem increment_ofNat (n : Nat) : (ofNat n).increment = ofNat (n + 1) := by
  unfold increment add ofNat
  rw [UInt64.ofNat_add]
  rfl

theorem toNat_ofNat (n : Nat) : (ofNat n).value.toNat = n % UInt64.size :=
  UInt64.toNat_ofNat'

end Counter

namespace Auth

variable {α σ : Type}

/-- The error of an answer, if it is one. -/
def failure? : Except AuthError α → Option AuthError
  | .ok _ => none
  | .error error => some error

theorem error?_ofAnswer (credential : α) (answer : Except AuthError α) :
    (Notice.ofAnswer credential answer).error? = failure? answer := by
  cases answer <;> rfl

theorem ErrorClass.label_inj {c d : ErrorClass} : c.label = d.label ↔ c = d := by
  constructor
  · intro h
    have hlabel := congrArg ErrorClass.ofLabel? h
    rw [ofLabel?_label, ofLabel?_label] at hlabel
    exact Option.some.inj hlabel
  · rintro rfl
    rfl

/-! ## The counters of outcomes -/

/-- The number of failures of a class. -/
def failuresOf (c : ErrorClass) (outcomes : List (Option AuthError)) : Nat :=
  outcomes.countP (·.any (·.errorClass == c))

/-- Every failure has one of the four classes. -/
theorem countP_isSome_eq (outcomes : List (Option AuthError)) :
    outcomes.countP Option.isSome =
      failuresOf .accountStatus outcomes + failuresOf .internalService outcomes +
        failuresOf .rejected outcomes + failuresOf .providerNotFound outcomes := by
  unfold failuresOf
  induction outcomes with
  | nil => rfl
  | cons outcome rest ih =>
    simp only [List.countP_cons, ih]
    cases outcome with
    | none => simp
    | some error => cases error <;> simp [AuthError.errorClass] <;> omega

/-- To have the label of a class is to be of that class. -/
theorem countP_label_eq (c : ErrorClass) (outcomes : List (Option AuthError)) :
    outcomes.countP (·.any (·.label == c.label)) = failuresOf c outcomes := by
  apply List.countP_congr
  intro outcome _
  cases outcome with
  | none => simp
  | some error => simp [AuthError.label, ErrorClass.label_inj]

namespace Metrics

/-- The counters after outcomes. -/
def ofOutcomes (outcomes : List (Option AuthError)) : Metrics where
  successes := .ofNat (outcomes.count none)
  failures := .ofNat (outcomes.countP Option.isSome)
  accountStatus := .ofNat (failuresOf .accountStatus outcomes)
  internalService := .ofNat (failuresOf .internalService outcomes)
  rejected := .ofNat (failuresOf .rejected outcomes)
  providerNotFound := .ofNat (failuresOf .providerNotFound outcomes)

theorem ofClass_ofOutcomes (c : ErrorClass) (outcomes : List (Option AuthError)) :
    (ofOutcomes outcomes).ofClass c = .ofNat (failuresOf c outcomes) := by
  cases c <;> rfl

theorem count_ofOutcomes (outcomes : List (Option AuthError)) (notice : Notice α) :
    (ofOutcomes outcomes).count notice = ofOutcomes (outcomes ++ [notice.error?]) := by
  cases notice with
  | success result =>
    simp [count, countSuccess, ofOutcomes, failuresOf, Counter.increment_ofNat, Notice.error?]
  | failure error credential =>
    -- one class is counted, and all failures together
    cases error <;>
      simp [count, countFailure, ofOutcomes, failuresOf, Counter.increment_ofNat, Notice.error?,
        AuthError.errorClass]

theorem foldl_count (notices : List (Notice α)) :
    notices.foldl count .zero = ofOutcomes (notices.map Notice.error?) := by
  induction notices using List.reverseRecOn with
  | nil => rfl
  | append_singleton notices notice ih =>
    rw [List.foldl_concat, ih, count_ofOutcomes, List.map_append, List.map_singleton]

/-- The counters account for outcomes: every success and every failure is counted, the failures also
by their class, and each number is the true one modulo the `2 ^ 64` values of a counter. -/
structure Accounts (m : Metrics) (outcomes : List (Option AuthError)) : Prop where
  successes : m.successes.value.toNat = outcomes.count none % UInt64.size
  failures : m.failures.value.toNat = outcomes.countP Option.isSome % UInt64.size
  sum : m.failures.value.toNat =
    (m.accountStatus.value.toNat + m.internalService.value.toNat + m.rejected.value.toNat +
      m.providerNotFound.value.toNat) % UInt64.size
  classes : ∀ c : ErrorClass,
    (m.ofClass c).value.toNat = outcomes.countP (·.any (·.label == c.label)) % UInt64.size
  labels : ∀ e : AuthError,
    (m.failuresFor e.label).toNat = outcomes.countP (·.any (·.label == e.label)) % UInt64.size

theorem accounts_ofOutcomes (outcomes : List (Option AuthError)) :
    (ofOutcomes outcomes).Accounts outcomes where
  successes := Counter.toNat_ofNat _
  failures := Counter.toNat_ofNat _
  sum := by
    simp only [ofOutcomes, Counter.toNat_ofNat, countP_isSome_eq, UInt64.size]
    omega
  classes c := by
    rw [ofClass_ofOutcomes, Counter.toNat_ofNat, countP_label_eq]
  labels e := by
    have hlabel : e.label = e.errorClass.label := rfl
    unfold failuresFor
    rw [hlabel, ErrorClass.ofLabel?_label, countP_label_eq]
    dsimp only
    rw [ofClass_ofOutcomes, Counter.toNat_ofNat]

end Metrics

/-! ## Counting resolutions -/

namespace Resolver

variable [Authentication α]

/-- There is one answer for each credential. -/
theorem length_resolveEach (r : Resolver α σ) (credentials : List α) (s : σ) :
    (r.resolveEach credentials s).answer.length = credentials.length := by
  induction credentials generalizing s with
  | nil => rfl
  | cons credential rest ih =>
    simp only [resolveEach, Act.answer_bind, Act.pure_apply, List.length_cons, ih]

end Resolver

/-- The outcomes that notices of answers tell of are those of the answers. -/
theorem map_error?_zipWith (credentials : List α) (answers : List (Except AuthError α))
    (h : answers.length = credentials.length) :
    (List.zipWith Notice.ofAnswer credentials answers).map Notice.error? =
      answers.map failure? := by
  induction credentials generalizing answers with
  | nil =>
    obtain rfl := List.length_eq_zero_iff.1 h
    rfl
  | cons credential rest ih =>
    cases answers with
    | nil => simp at h
    | cons answer others =>
      rw [List.zipWith_cons_cons, List.map_cons, List.map_cons, error?_ofAnswer,
        ih others (Nat.succ.inj h)]

variable [Authentication α]

/-- From zero, the counters of a sink account for the outcomes of all notices that are published to
it, and for the answers of a resolver without a fallback that publishes to it, when its strategies
leave the counters alone. -/
theorem Metrics.every_outcome_counts {cell : Cell σ Metrics} (hlawful : cell.Lawful) {s : σ}
    (hzero : cell.get s = .zero) :
    (∀ notices : List (Notice α),
      (cell.get ((Sink.metrics cell).publishEach notices s).state).Accounts
        (notices.map Notice.error?)) ∧
    (∀ r : Resolver α σ, r.fallback = none → r.sink = .metrics cell →
      (∀ strategy ∈ r.strategies, ∀ credential,
        Spares cell (strategy.authenticate credential)) →
      ∀ credentials,
        (cell.get (r.resolveEach credentials s).state).Accounts
          ((r.resolveEach credentials s).answer.map failure?)) := by
  refine ⟨fun notices => ?_, fun r hfallback hsink hspared credentials => ?_⟩
  · rw [Sink.metrics_eq_keeping, Sink.get_publishEach_keeping hlawful, hzero, foldl_count]
    exact accounts_ofOutcomes _
  · rw [Resolver.get_resolveEach hlawful hfallback hsink hspared, hzero, foldl_count,
      map_error?_zipWith _ _ (r.length_resolveEach credentials s)]
    exact accounts_ofOutcomes _

/-- A strategy for passwords that knows alice and nobody else, whatever the state. -/
def door : Strategy AuthenticationToken σ :=
  ⟨"door", (· == .usernamePassword), fun credential => pure
    (if credential.principal = "alice" then .ok (some credential)
      else .error (.rejected .badCredentials (credential.principal ++ " unknown")))⟩

/-- A login, an unknown name and a kind that no strategy supports are three outcomes. -/
theorem three_logins_are_counted :
    let alice := AuthenticationToken.presented .usernamePassword "alice" "pw"
    let mallory := AuthenticationToken.presented .usernamePassword "mallory" "pw"
    let robot := AuthenticationToken.presented .bearerToken "robot" "key"
    let r : Resolver AuthenticationToken Metrics := ⟨[door], none, .metrics .whole, true⟩
    let resolved := r.resolveEach [alice, mallory, robot] .zero
    (Cell.whole : Cell Metrics Metrics).Lawful ∧ r.fallback = none ∧
      (∀ strategy ∈ r.strategies, ∀ credential,
        Spares .whole (strategy.authenticate credential)) ∧
      resolved.state.Accounts
        [none, some (.rejected .badCredentials "mallory unknown"),
          some (.providerNotFound .bearerToken)] ∧
      resolved.state.failuresFor "rejected" = 1 := by
  intro alice mallory robot r resolved
  have hspared : ∀ strategy ∈ r.strategies, ∀ credential,
      Spares .whole (strategy.authenticate credential) := by
    intro strategy hstrategy credential
    obtain rfl := List.mem_singleton.1 hstrategy
    exact fun _ => rfl
  have haccounts := (Metrics.every_outcome_counts Cell.whole_lawful (s := .zero) rfl).2 r rfl rfl
    hspared [alice, mallory, robot]
  exact ⟨Cell.whole_lawful, rfl, hspared, haccounts, rfl⟩

end Auth

end AuthChain
