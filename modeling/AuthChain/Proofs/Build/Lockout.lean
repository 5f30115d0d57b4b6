import AuthChain.Proofs.Build.Enrolment

/-!
# Requests that are refused

A request that a builder may refuse is guarded: it succeeds exactly on the builders that allow it,
and a refusal leaves no event and the very same builder (`Guarded`). A callback that makes such a
request goes on with the refusal on the builder on which it asked (`Guarded.relays`).

Main statement: registrations are guarded by the unbuilt and the initializing state, and requests
for the only configurer of a kind by there being one at most; and from the beginning of the
configuring state on the table loses rows at most (`Builder.refused_requests_change_nothing`).
-/

namespace AuthChain.Build

open scoped List

variable {S : Signature} {α β : Type}

/-! ## Guarded requests -/

/-- The request succeeds exactly on the builders that allow it, and is refused on the others, which
stay as they are. -/
structure Guarded (request : Act (Event S) (Builder S) (Except IllegalState α))
    (allows : Builder S → Prop) (refusal : Builder S → IllegalState) : Prop where
  succeeds_iff : ∀ b, (∃ a, (request b).answer = .ok a) ↔ allows b
  refuses : ∀ b, ¬ allows b → request b = ⟨.error (refusal b), [], b⟩

/-- A callback makes the request and goes on with its answer, on the builder that it leaves. -/
def Relays (ask : (Except IllegalState α → Callback S β) → Callback S β)
    (request : Act (Event S) (Builder S) (Except IllegalState α)) : Prop :=
  ∀ next, (ask next).run = request >>= fun r => (next r).run

/-- A callback that asks goes on with a success where the builder allows it, and elsewhere with the
refusal, as if it had not asked. -/
structure Heeded (ask : (Except IllegalState α → Callback S β) → Callback S β)
    (allows : Builder S → Prop) (refusal : Builder S → IllegalState) : Prop where
  allowed : ∀ next b, allows b → ∃ a c,
    ((ask next).run b).answer = ((next (.ok a)).run c).answer ∧
      ((ask next).run b).state = ((next (.ok a)).run c).state
  refused : ∀ next b, ¬ allows b → (ask next).run b = (next (.error (refusal b))).run b

theorem Guarded.heeded {request : Act (Event S) (Builder S) (Except IllegalState α)}
    {allows : Builder S → Prop} {refusal : Builder S → IllegalState}
    (guarded : Guarded request allows refusal)
    {ask : (Except IllegalState α → Callback S β) → Callback S β} (relays : Relays ask request) :
    Heeded ask allows refusal := by
  constructor
  · intro next b hb
    obtain ⟨a, ha⟩ := (guarded.succeeds_iff b).2 hb
    refine ⟨a, (request b).state, ?_, ?_⟩
    · rw [relays next, Act.answer_bind, ha]
    · rw [relays next, Act.state_bind, ha]
  · intro next b hb
    rw [relays next, Act.bind_apply, guarded.refuses b hb]
    rfl

namespace Builder

/-- The builder takes registrations. -/
def Open (b : Builder S) : Prop :=
  b.state = .unbuilt ∨ b.state = .initializing

/-- The kind has two configurers or more. -/
def HasSeveral (b : Builder S) (kind : ConfigurerKind) : Prop :=
  2 ≤ (b.configurers kind).length

/-- Ask for the only configurer of a kind. -/
def askConfigurer (kind : ConfigurerKind) :
    Act (Event S) (Builder S) (Except IllegalState (Option S.Configurer)) :=
  Act.gets fun b => b.configurer kind

theorem register_guarded (c : S.Configurer) :
    Guarded (register c) Open fun b => .registrationClosed (S.kind c) b.state := by
  have hopen : ∀ b : Builder S, b.Open ↔ b.state.isConfigured = false := fun b =>
    (State.isConfigured_eq_false_iff b.state).symm
  constructor
  · intro b
    rw [register_apply, hopen]
    cases b.state.isConfigured with
    | true => simp
    | false => simp
  · intro b hb
    rw [hopen, Bool.not_eq_false] at hb
    rw [register_apply, if_pos hb]

/-- Whether a configurer is adjusted before makes no difference. -/
theorem registerWith_guarded (c : S.Configurer) (customize : S.Configurer → S.Configurer) :
    Guarded (registerWith c customize) Open fun b =>
      .registrationClosed (S.kind (customize c)) b.state :=
  register_guarded (customize c)

theorem configurer_of_hasSeveral {b : Builder S} {kind : ConfigurerKind} (h : b.HasSeveral kind) :
    b.configurer kind = .error (.severalConfigurers kind (b.configurers kind).length) := by
  unfold HasSeveral at h
  unfold configurer
  generalize b.configurers kind = cs at h
  match cs, h with
  | _ :: _ :: _, _ => rfl

theorem configurer_of_not_hasSeveral {b : Builder S} {kind : ConfigurerKind}
    (h : ¬ b.HasSeveral kind) : b.configurer kind = .ok (b.configurers kind).head? := by
  unfold HasSeveral at h
  unfold configurer
  generalize b.configurers kind = cs at h
  match cs, h with
  | [], _ => rfl
  | [_], _ => rfl
  | _ :: _ :: _, h => exact absurd (Nat.le_add_left 2 _) h

theorem askConfigurer_guarded (kind : ConfigurerKind) :
    Guarded (S := S) (askConfigurer kind) (fun b => ¬ b.HasSeveral kind) fun b =>
      .severalConfigurers kind (b.configurers kind).length := by
  constructor
  · intro b
    rw [askConfigurer, Act.gets_apply]
    by_cases hb : b.HasSeveral kind
    · simp [configurer_of_hasSeveral hb, hb]
    · simp [configurer_of_not_hasSeveral hb, hb]
  · intro b hb
    rw [askConfigurer, Act.gets_apply, configurer_of_hasSeveral (Classical.not_not.1 hb)]

theorem removeConfigurer_guarded (kind : ConfigurerKind) :
    Guarded (S := S) (removeConfigurer kind) (fun b => ¬ b.HasSeveral kind) fun b =>
      .severalConfigurers kind (b.configurers kind).length := by
  constructor
  · intro b
    rw [removeConfigurer, Act.bind_apply, Act.get_apply]
    by_cases hb : b.HasSeveral kind
    · simp [configurer_of_hasSeveral hb, hb]
    · simp [configurer_of_not_hasSeveral hb, hb, Act.map_apply]
  · intro b hb
    rw [removeConfigurer, Act.bind_apply, Act.get_apply]
    simp only [configurer_of_hasSeveral (Classical.not_not.1 hb)]
    rfl

theorem register_relays (c : S.Configurer) :
    Relays (β := β) (Callback.register c) (register c) :=
  fun _ => rfl

theorem askConfigurer_relays (kind : ConfigurerKind) :
    Relays (β := β) (fun next => (Callback.configurer kind).bind next)
      (askConfigurer (S := S) kind) :=
  fun _ => rfl

end Builder

/-! ## Builders that are locked -/

theorem Turn.rows_sublist {a b : Builder S} {e : List (Event S)} (turn : Turn a e b)
    (ha : a.state.isConfigured = true) :
    b.state.isConfigured = true ∧ b.table.rows <+ a.table.rows := by
  cases turn with
  | step step =>
    refine ⟨by rwa [step.sameFrame.state], ?_⟩
    cases step with
    | register c hopen =>
      rw [ha] at hopen
      exact Bool.noConfusion hopen
    | remove kind => exact List.filter_sublist
    | _ => exact List.Sublist.refl _
  | move s hs =>
    refine ⟨?_, List.Sublist.refl _⟩
    have hrank := (State.canTransition_iff _ _).1 hs
    simp only [State.isConfigured, decide_eq_true_eq] at ha ⊢
    omega
  | take => exact ⟨ha, List.Sublist.refl _⟩
  | keep p n => exact ⟨ha, List.Sublist.refl _⟩
  | process ps => exact ⟨ha, List.Sublist.refl _⟩

/-- From the configuring state on, the table loses rows at most. -/
theorem Passage.rows_sublist {a b : Builder S} {h : List (Event S)} (passage : Passage a h b)
    (ha : a.state.isConfigured = true) : b.table.rows <+ a.table.rows := by
  induction passage with
  | refl => exact List.Sublist.refl _
  | head turn _ ih =>
    obtain ⟨hstate, hrows⟩ := turn.rows_sublist ha
    exact (ih hstate).trans hrows

/-- The history tells of no registration behind the move to the configuring state, from which there
is no way back. -/
structure Locked (h : List (Event S)) (b : Builder S) : Prop where
  configured : .moved .initializing .configuring ∈ h → b.state.isConfigured = true
  closed : ∀ n kind, ¬ [.moved .initializing .configuring, .registered n kind] <+ h

namespace Locked

variable {h e : List (Event S)} {b c : Builder S}

theorem nil (b : Builder S) : Locked [] b :=
  ⟨fun hmem => absurd hmem List.not_mem_nil, fun _ _ hsub => absurd hsub.length_le (by simp)⟩

theorem append (locked : Locked h b)
    (hstate : b.state.isConfigured = true → c.state.isConfigured = true)
    (hmoved : .moved .initializing .configuring ∈ e → c.state.isConfigured = true)
    (hregistered : ∀ n kind, .registered n kind ∉ e) : Locked (h ++ e) c where
  configured hmem := by
    rcases List.mem_append.1 hmem with hmem | hmem
    · exact hstate (locked.configured hmem)
    · exact hmoved hmem
  closed n kind hsub :=
    locked.closed n kind ((pair_sublist_append_left (hregistered n kind)).1 hsub)

theorem enter (locked : Locked h b) (hopen : b.state.isConfigured = false) (c : S.Configurer) :
    Locked (h ++ registrationEvents b c) (b.enter c) := by
  -- the move was not made yet, and a registration does not make it
  have hbefore : .moved .initializing .configuring ∉ h := by
    intro hmem
    rw [locked.configured hmem] at hopen
    exact Bool.noConfusion hopen
  have hnot := moved_not_mem_registrationEvents b c .initializing .configuring
  constructor
  · intro hmem
    rcases List.mem_append.1 hmem with hmem | hmem
    · exact absurd hmem hbefore
    · exact absurd hmem hnot
  · intro n kind hsub
    have hmem := hsub.subset List.mem_cons_self
    rcases List.mem_append.1 hmem with hmem | hmem
    · exact hbefore hmem
    · exact hnot hmem

theorem turn (locked : Locked h b) (turn : Turn b e c) : Locked (h ++ e) c := by
  cases turn with
  | step step =>
    cases step with
    | register c hopen => exact locked.enter hopen c
    | remove kind => exact locked.append id (by simp) (by simp)
    | tell e he =>
      refine locked.append id ?_ ?_
      · intro hmem
        rw [List.mem_singleton] at hmem
        subst hmem
        simp [Event.isPlain] at he
      · intro n kind hmem
        rw [List.mem_singleton] at hmem
        subst hmem
        simp [Event.isPlain] at he
    | _ => exact locked.append id (by simp) (by simp)
  | move s hs =>
    have hturn := (Turn.move b s hs)
    refine locked.append (fun hb => (hturn.rows_sublist hb).1) ?_ (by simp)
    intro hmem
    obtain ⟨-, rfl⟩ : State.initializing = b.state ∧ State.configuring = s := by simpa using hmem
    rfl
  | take => exact locked.append id (by simp) (by simp)
  | keep p n => exact locked.append id (by simp) (by simp)
  | process ps => exact locked.append id (by simp) (by simp)

end Locked

/-- Whatever is done with a builder, it is locked behind the move. -/
theorem Builder.locked_after (t : S.Target) (accumulates : Bool) (w : S.World)
    (ops : List (Operation S)) :
    Locked ((create t accumulates w).history ops) ((create t accumulates w).after ops) :=
  (after_passage _ ops).invariant (fun locked turn => locked.turn turn) (Locked.nil _)

/-- Events that tell of no registration at most take rows out of the table. -/
theorem tableOf_append_sublist (accumulates : Bool) (g : List (Event S)) {h : List (Event S)}
    (hregistered : ∀ n kind, .registered n kind ∉ h) :
    (tableOf accumulates (g ++ h)).rows <+ (tableOf accumulates g).rows := by
  induction h using List.reverseRecOn with
  | nil =>
    rw [List.append_nil]
  | append_singleton h e ih =>
    have hbefore := ih fun n kind hmem => hregistered n kind (List.mem_append_left _ hmem)
    rw [← List.append_assoc, tableOf_concat]
    cases e with
    | registered n kind =>
      exact absurd (List.mem_append_right _ List.mem_cons_self) (hregistered n kind)
    | removed kind => exact List.filter_sublist.trans hbefore
    | _ => exact hbefore

namespace Builder

/-- A registration succeeds exactly while the builder is unbuilt or initializing; asking for the
only configurer of a kind, and removing it, succeed exactly while there are not several. A refusal
leaves no event and changes nothing, whether the caller asked or a callback. From the move to the
configuring state on, at each moment of the history, the table loses rows at most. -/
theorem refused_requests_change_nothing (t : S.Target) (accumulates : Bool) (w : S.World)
    (ops : List (Operation S)) :
    (∀ c, Guarded (S := S) (register c) Open fun b => .registrationClosed (S.kind c) b.state) ∧
    (∀ c customize, Guarded (S := S) (registerWith c customize) Open fun b =>
      .registrationClosed (S.kind (customize c)) b.state) ∧
    (∀ kind, Guarded (S := S) (askConfigurer kind) (fun b => ¬ b.HasSeveral kind) fun b =>
      .severalConfigurers kind (b.configurers kind).length) ∧
    (∀ kind, Guarded (S := S) (removeConfigurer kind) (fun b => ¬ b.HasSeveral kind) fun b =>
      .severalConfigurers kind (b.configurers kind).length) ∧
    (∀ (β : Type) c, Heeded (Callback.register (α := β) c) Open fun b =>
      .registrationClosed (S.kind c) b.state) ∧
    (∀ (β : Type) kind, Heeded (fun next => (Callback.configurer (S := S) kind).bind (β := β) next)
      (fun b => ¬ b.HasSeveral kind) fun b =>
        .severalConfigurers kind (b.configurers kind).length) ∧
    ((create t accumulates w).after ops).table.bare =
      tableOf accumulates ((create t accumulates w).history ops) ∧
    (∀ pre mid post, (create t accumulates w).history ops = pre ++ mid ++ post →
      .moved .initializing .configuring ∈ pre →
      (tableOf accumulates (pre ++ mid)).rows <+ (tableOf accumulates pre).rows) ∧
    ∀ more, ((create t accumulates w).after ops).state.isConfigured = true →
      ((create t accumulates w).after (ops ++ more)).table.rows <+
        ((create t accumulates w).after ops).table.rows := by
  refine ⟨register_guarded, registerWith_guarded, askConfigurer_guarded, removeConfigurer_guarded,
    fun _ c => (register_guarded c).heeded (register_relays c),
    fun _ kind => (askConfigurer_guarded kind).heeded (askConfigurer_relays kind),
    (enrolled_after t accumulates w ops).table_eq, ?_, ?_⟩
  · intro pre mid post heq hmoved
    refine tableOf_append_sublist accumulates pre fun n kind hmem => ?_
    apply (locked_after t accumulates w ops).closed n kind
    rw [heq, List.append_assoc]
    exact (List.singleton_sublist.2 hmoved).append
      (List.singleton_sublist.2 (List.mem_append_left _ hmem))
  · intro more hconfigured
    rw [after_append]
    exact (after_passage _ more).rows_sublist hconfigured

/-- The hook before all `configure` calls removes `beta`, and every `configure` tries to register
`gamma`. -/
def intruding : Lifecycle Sample.signature where
  init _ := .done ()
  configure _ := .register Sample.gamma fun _ => .done ()
  beforeInit := .done ()
  beforeConfigure := .removeConfigurers Sample.beta.kind fun _ => .done ()
  performBuild := .done ()

/-- The caller and the callbacks are refused, and the table lost `beta` alone. -/
theorem intruder_is_refused :
    register Sample.gamma ((create () false ()).after
        [.register Sample.alpha, .register Sample.beta, .build intruding]) =
      ⟨.error (.registrationClosed Sample.gamma.kind .built), [], (create () false ()).after
        [.register Sample.alpha, .register Sample.beta, .build intruding]⟩ ∧
    removeConfigurer Sample.alpha.kind ((create (S := Sample.signature) () true ()).after
        [.register Sample.alpha, .register Sample.alpha]) =
      ⟨.error (.severalConfigurers Sample.alpha.kind 2), [], (create () true ()).after
        [.register Sample.alpha, .register Sample.alpha]⟩ ∧
    ((create () false ()).after
        ([.register Sample.alpha, .register Sample.beta, .build intruding] ++
          [.removeConfigurers Sample.alpha.kind])).table.rows <+
      ((create () false ()).after
        [.register Sample.alpha, .register Sample.beta, .build intruding]).table.rows ∧
    ∃ pre mid : List (Event Sample.signature),
      .started (.configure 0) ∈ mid ∧
        (tableOf false (pre ++ mid)).rows <+ (tableOf false pre).rows := by
  let pre : List (Event Sample.signature) :=
    [.registered 0 Sample.alpha.kind, .registered 1 Sample.beta.kind,
      .moved .unbuilt .initializing, .started .beforeInit, .finished .beforeInit none,
      .initializing 2, .started (.init 0), .finished (.init 0) none, .started (.init 1),
      .finished (.init 1) none, .moved .initializing .configuring]
  let mid : List (Event Sample.signature) :=
    [.started .beforeConfigure, .removed Sample.beta.kind, .finished .beforeConfigure none,
      .configuring 1, .started (.configure 0), .finished (.configure 0) none]
  have hhistory : ∃ post, (create () false ()).history
      [.register Sample.alpha, .register Sample.beta, .build intruding] = pre ++ mid ++ post :=
    ⟨_, rfl⟩
  obtain ⟨post, hpost⟩ := hhistory
  obtain ⟨hregister, -, -, -, -, -, -, htable, hrows⟩ := refused_requests_change_nothing () false ()
    [.register Sample.alpha, .register Sample.beta, .build intruding]
  obtain ⟨-, -, -, hremove, -⟩ := refused_requests_change_nothing (S := Sample.signature) () true ()
    [.register Sample.alpha, .register Sample.alpha]
  refine ⟨(hregister Sample.gamma).refuses _ ?_, (hremove Sample.alpha.kind).refuses _ ?_,
    hrows [.removeConfigurers Sample.alpha.kind] rfl, pre, mid, by simp [mid],
    htable pre mid post hpost (by simp [pre])⟩
  · rintro (hstate | hstate)
    · exact State.noConfusion hstate
    · exact State.noConfusion hstate
  · intro hnot
    exact hnot (Nat.le_refl 2)

end Builder

end AuthChain.Build
