import AuthChain.Proofs.Auth.Counting
import AuthChain.Proofs.Auth.Publication

/-!
# Sinks composed of sinks

Composite sinks may pass their notices to composite sinks in turn, so sinks form trees. A leaf may
stand at several places, so leaves are told apart by names. What becomes of one leaf is compared in
a part of the state that it shares with the strategies and that the other leaves leave alone.

Main statement: a tree of sinks calls its leaves from left to right, once for each place, with every
notice; it is the flat composite of its leaves, and a record or counters that stand at one place end
up as if they were the only sink (`SinkTree.composite_is_its_leaves`).
-/

namespace AuthChain.Auth

variable {α β γ ι σ ω : Type}

/-! ## Trees of sinks -/

/-- Sinks composed of sinks, the leaves by their names. -/
inductive SinkTree (ι : Type) where
  | leaf (i : ι)
  | composite (parts : List (SinkTree ι))

namespace SinkTree

mutual

/-- The sink that a tree stands for. -/
def sink (named : ι → Sink α σ) : SinkTree ι → Sink α σ
  | leaf i => named i
  | composite parts => .composite (sinks named parts)

/-- The sinks that trees stand for. -/
def sinks (named : ι → Sink α σ) : List (SinkTree ι) → List (Sink α σ)
  | [] => []
  | tree :: rest => tree.sink named :: sinks named rest

end

mutual

/-- The leaves from left to right. -/
def leaves : SinkTree ι → List ι
  | leaf i => [i]
  | composite parts => leavesOf parts

/-- The leaves of trees from left to right. -/
def leavesOf : List (SinkTree ι) → List ι
  | [] => []
  | tree :: rest => tree.leaves ++ leavesOf rest

end

end SinkTree

theorem Sink.publishAll_append (front back : List (Sink α σ)) (notice : Notice α) :
    publishAll (front ++ back) notice =
      (do publishAll front notice; publishAll back notice) := by
  induction front with
  | nil => rfl
  | cons sink rest ih =>
    rw [List.cons_append, publishAll, publishAll, ih, bind_assoc]

theorem Sink.publishAll_singleton (sink : Sink α σ) (notice : Notice α) :
    publishAll [sink] notice = sink.publish notice :=
  bind_pure (sink.publish notice)

namespace SinkTree

mutual

theorem publish_sink (named : ι → Sink α σ) (notice : Notice α) :
    ∀ tree : SinkTree ι,
      (tree.sink named).publish notice = Sink.publishAll (tree.leaves.map named) notice
  | leaf i => (Sink.publishAll_singleton (named i) notice).symm
  | composite parts => publish_sinks named notice parts

theorem publish_sinks (named : ι → Sink α σ) (notice : Notice α) :
    ∀ parts : List (SinkTree ι),
      Sink.publishAll (sinks named parts) notice =
        Sink.publishAll ((leavesOf parts).map named) notice
  | [] => rfl
  | tree :: rest => by
    rw [sinks, leavesOf, List.map_append, Sink.publishAll_append, Sink.publishAll,
      publish_sink named notice tree, publish_sinks named notice rest]

end

/-- A tree is the flat composite of its leaves. -/
theorem sink_eq_composite (named : ι → Sink α σ) (tree : SinkTree ι) :
    tree.sink named = .composite (tree.leaves.map named) :=
  congrArg Sink.mk (funext fun notice => publish_sink named notice tree)

end SinkTree

/-! ## Calls -/

/-- The sink writes every call of it to a log, under its name. -/
def Sink.tapped (i : ι) (sink : Sink α σ) : Sink α (σ × List (ι × Notice α)) where
  publish notice := do
    aside (sink.publish notice)
    Act.modify fun s => (s.1, s.2 ++ [(i, notice)])

/-- The tapped action does what the plain one does, and meanwhile the sinks get these calls. -/
def Calls (tapped : Act Event (σ × List (ι × Notice α)) β) (plain : Act Event σ β)
    (calls : List (ι × Notice α)) : Prop :=
  ∀ s log, tapped (s, log) =
    ⟨(plain s).answer, (plain s).events, ((plain s).state, log ++ calls)⟩

namespace Calls

theorem pure (b : β) : Calls (α := α) (ι := ι) (σ := σ) (Pure.pure b) (Pure.pure b) [] := by
  intro s log
  rw [List.append_nil]
  rfl

theorem bind {tapped : Act Event (σ × List (ι × Notice α)) β} {plain : Act Event σ β}
    {f : β → Act Event (σ × List (ι × Notice α)) γ} {g : β → Act Event σ γ}
    {calls more : List (ι × Notice α)} (first : Calls tapped plain calls)
    (second : ∀ b, Calls (f b) (g b) more) : Calls (tapped >>= f) (plain >>= g) (calls ++ more) := by
  intro s log
  rw [Act.bind_apply, first s log]
  simp only [second _ _ (log ++ calls), List.append_assoc]
  rfl

theorem publish (i : ι) (sink : Sink α σ) (notice : Notice α) :
    Calls ((sink.tapped i).publish notice) (sink.publish notice) [(i, notice)] := by
  intro s log
  simp [Sink.tapped, Act.bind_apply, aside_apply]

theorem publishAll (named : ι → Sink α σ) (notice : Notice α) (leaves : List ι) :
    Calls (Sink.publishAll (leaves.map fun i => (named i).tapped i) notice)
      (Sink.publishAll (leaves.map named) notice) (leaves.map (·, notice)) := by
  induction leaves with
  | nil => exact pure ()
  | cons i rest ih => exact (publish i (named i) notice).bind fun _ => ih

/-- Every notice is passed to all leaves before the next one. -/
theorem publishEach (named : ι → Sink α σ) (tree : SinkTree ι) (notices : List (Notice α)) :
    Calls ((tree.sink fun i => (named i).tapped i).publishEach notices)
      ((tree.sink named).publishEach notices)
      (notices.flatMap fun notice => tree.leaves.map (·, notice)) := by
  induction notices with
  | nil => exact pure ()
  | cons notice rest ih =>
    have hfirst := publishAll named notice tree.leaves
    rw [← SinkTree.publish_sink, ← SinkTree.publish_sink] at hfirst
    exact hfirst.bind fun _ => ih

end Calls

/-! ## A part of the state -/

/-- From states with the same part, the actions answer the same and leave the same part. -/
def SameWithin (part : Cell σ ω) (m n : Act Event σ β) : Prop :=
  ∀ s t, part.get s = part.get t →
    (m s).answer = (n t).answer ∧ part.get (m s).state = part.get (n t).state

/-- The action depends on the part alone. -/
def Confined (part : Cell σ ω) (m : Act Event σ β) : Prop :=
  SameWithin part m m

namespace SameWithin

variable {part : Cell σ ω}

theorem pure (b : β) : Confined part (Pure.pure b : Act Event σ β) :=
  fun _ _ h => ⟨rfl, h⟩

theorem emit (e : Event) : Confined part (Act.emit e : Act Event σ Unit) :=
  fun _ _ h => ⟨rfl, h⟩

theorem bind {m n : Act Event σ β} {f g : β → Act Event σ γ} (first : SameWithin part m n)
    (second : ∀ b, SameWithin part (f b) (g b)) : SameWithin part (m >>= f) (n >>= g) := by
  intro s t h
  obtain ⟨hanswer, hpart⟩ := first s t h
  rw [Act.answer_bind, Act.answer_bind, Act.state_bind, Act.state_bind, hanswer]
  exact second _ _ _ hpart

/-- What leaves the part alone may come before. -/
theorem of_spares {m : Act Event σ Unit} {n k : Act Event σ Unit} (hm : Spares part m)
    (h : SameWithin part n k) : SameWithin part (do m; n) k := by
  intro s t hst
  rw [Act.answer_bind, Act.state_bind]
  exact h _ _ ((hm s).trans hst)

/-- What leaves the part alone may come behind. -/
theorem spares {m k : Act Event σ Unit} {n : Act Event σ Unit} (h : SameWithin part m k)
    (hn : Spares part n) : SameWithin part (do m; n) k := by
  intro s t hst
  rw [Act.answer_bind, Act.state_bind]
  exact ⟨rfl, (hn _).trans (h s t hst).2⟩

/-- An account in the part is kept there. -/
theorem keeping (hlawful : part.Lawful) (account : Cell ω β) (enter : β → Notice α → β)
    (notice : Notice α) :
    Confined part ((Sink.keeping (part.comp account) enter).publish notice) := by
  have hpart : ∀ s, part.get ((Sink.keeping (part.comp account) enter).publish notice s).state =
      account.modify (enter · notice) (part.get s) := fun s => hlawful.get_set _ s
  intro s t h
  rw [hpart, hpart, h]
  exact ⟨rfl, rfl⟩

theorem publishEach {first second : Sink α σ}
    (h : ∀ notice, SameWithin part (first.publish notice) (second.publish notice))
    (notices : List (Notice α)) :
    SameWithin part (first.publishEach notices) (second.publishEach notices) := by
  induction notices with
  | nil => exact pure ()
  | cons notice rest ih => exact (h notice).bind fun _ => ih

/-- What depends on the part alone can be put in sequence. -/
theorem sequential (part : Cell σ ω) : Sequential fun _ m => Confined part m where
  pure := pure
  emit := emit
  bind := bind

end SameWithin

/-! ## A leaf among others -/

theorem Spares.publishAll {part : Cell σ ω} {notice : Notice α} (sinks : List (Sink α σ))
    (h : ∀ sink ∈ sinks, Spares part (sink.publish notice)) :
    Spares part (Sink.publishAll sinks notice) := by
  induction sinks with
  | nil => exact (Spares.sequential part).pure ()
  | cons sink rest ih =>
    apply (Spares.sequential part).bind (h sink List.mem_cons_self)
    intro _
    exact ih fun other hother => h other (List.mem_cons_of_mem _ hother)

namespace SinkTree

variable [DecidableEq ι]

/-- The leaf stands at one place in the tree, and all other leaves leave the part alone. -/
structure Singles (tree : SinkTree ι) (named : ι → Sink α σ) (part : Cell σ ω) (i : ι) : Prop where
  once : tree.leaves.count i = 1
  others : ∀ j ∈ tree.leaves, j ≠ i → ∀ notice, Spares part ((named j).publish notice)

/-- In the part, a notice to the tree is a notice to the leaf. -/
theorem Singles.publish {tree : SinkTree ι} {named : ι → Sink α σ} {part : Cell σ ω} {i : ι}
    (h : tree.Singles named part i)
    (hconfined : ∀ notice, Confined part ((named i).publish notice)) (notice : Notice α) :
    SameWithin part ((tree.sink named).publish notice) ((named i).publish notice) := by
  have hmem : i ∈ tree.leaves := List.one_le_count_iff.1 (Nat.le_of_eq h.once.symm)
  -- the place of the leaf cuts the others in two, and neither side has it again
  obtain ⟨before, behind, hleaves, hbefore⟩ := List.eq_append_cons_of_mem hmem
  have hbehind : i ∉ behind := by
    have honce := h.once
    rw [hleaves, List.count_append, List.count_cons_self] at honce
    exact List.count_eq_zero.1 (by omega)
  have hspares : ∀ side : List ι, side ⊆ tree.leaves → i ∉ side →
      Spares part (Sink.publishAll (side.map named) notice) := by
    intro side hside hi
    apply Spares.publishAll
    intro sink hsink
    obtain ⟨j, hj, rfl⟩ := List.mem_map.1 hsink
    exact h.others j (hside hj) (fun hji => hi (hji ▸ hj)) notice
  have hfront : Spares part (Sink.publishAll (before.map named) notice) := by
    apply hspares before _ hbefore
    rw [hleaves]
    exact List.subset_append_left _ _
  have hback : Spares part (Sink.publishAll (behind.map named) notice) := by
    apply hspares behind _ hbehind
    rw [hleaves]
    intro j hj
    exact List.mem_append_right _ (List.mem_cons_of_mem _ hj)
  have halone : SameWithin part
      (do (named i).publish notice; Sink.publishAll (behind.map named) notice)
      ((named i).publish notice) := SameWithin.spares (hconfined notice) hback
  rw [publish_sink, hleaves, List.map_append, List.map_cons, Sink.publishAll_append,
    Sink.publishAll]
  exact halone.of_spares hfront

end SinkTree

namespace Resolver

variable [Authentication α] {part : Cell σ ω}

/-- The strategies and the fallback depend on the part alone. -/
structure Confined (r : Resolver α σ) (part : Cell σ ω) : Prop where
  strategies : ∀ strategy ∈ r.strategies, ∀ credential,
    Auth.Confined part (strategy.authenticate credential)
  fallback : ∀ manager ∈ r.fallback, ∀ credential,
    Auth.Confined part (manager.authenticate credential)

/-- The resolver with another sink. -/
def withSink (r : Resolver α σ) (sink : Sink α σ) : Resolver α σ :=
  { r with sink := sink }

section Sinks

variable {r : Resolver α σ} {first second : Sink α σ}

omit [Authentication α] in
theorem deny_sameWithin
    (hsinks : ∀ notice, SameWithin part (first.publish notice) (second.publish notice))
    (credential : α) (published : Bool) (e : AuthError) :
    SameWithin part ((r.withSink first).deny credential published e)
      ((r.withSink second).deny credential published e) := by
  have htold : SameWithin part
      (do if r.fallback.isSome then Act.emit .denied
          return Except.error e : Act Event σ (Except AuthError α))
      (do if r.fallback.isSome then Act.emit .denied
          return Except.error e) := by
    cases r.fallback.isSome with
    | true => exact (SameWithin.emit _).bind fun _ => .pure _
    | false => exact .pure _
  cases published with
  | true => exact htold
  | false => exact (hsinks _).bind fun _ => htold

theorem resolve_sameWithin (hconfined : r.Confined part)
    (hsinks : ∀ notice, SameWithin part (first.publish notice) (second.publish notice))
    (credential : α) :
    SameWithin part ((r.withSink first).resolve credential)
      ((r.withSink second).resolve credential) := by
  rw [resolve_eq, resolve_eq]
  have hwalk := (SameWithin.sequential part).walk credential r.strategies.length r.strategies
    (fun strategy hstrategy => hconfined.strategies strategy hstrategy credential) 0 none
  apply hwalk.bind
  intro w
  cases w with
  | accepted result => exact (hsinks _).bind fun _ => .pure _
  | halted e => exact (hsinks _).bind fun _ => (SameWithin.emit _).bind fun _ => .pure _
  | undecided last =>
    show SameWithin part ((r.withSink first).fallBack credential last)
      ((r.withSink second).fallBack credential last)
    have hfallback : ∀ sink, (r.withSink sink).fallback = r.fallback := fun _ => rfl
    unfold fallBack
    rw [hfallback, hfallback]
    cases hmanager : r.fallback with
    | none => exact deny_sameWithin hsinks credential _ _
    | some manager =>
      apply SameWithin.bind (hconfined.fallback manager hmanager credential)
      intro answer
      cases answer with
      | ok result => exact .pure _
      | error e =>
        dsimp only
        split
        · exact deny_sameWithin hsinks credential _ _
        · exact deny_sameWithin hsinks credential _ _

theorem resolveEach_sameWithin (hconfined : r.Confined part)
    (hsinks : ∀ notice, SameWithin part (first.publish notice) (second.publish notice))
    (credentials : List α) :
    SameWithin part ((r.withSink first).resolveEach credentials)
      ((r.withSink second).resolveEach credentials) := by
  induction credentials with
  | nil => exact .pure _
  | cons credential rest ih =>
    apply (resolve_sameWithin hconfined hsinks credential).bind
    intro answer
    apply ih.bind
    intro answers
    exact .pure _

end Sinks

end Resolver

/-- Seen from the cell, the first sink of the resolver is as good as the second: the same notices
and the same resolutions leave the same content, and the resolutions have the same answers. -/
structure AsGoodAs [Authentication α] (cell : Cell σ β) (r : Resolver α σ)
    (first second : Sink α σ) : Prop where
  published : ∀ notices s,
    cell.get (first.publishEach notices s).state = cell.get (second.publishEach notices s).state
  answers : ∀ credentials s,
    ((r.withSink first).resolveEach credentials s).answer =
      ((r.withSink second).resolveEach credentials s).answer
  resolved : ∀ credentials s,
    cell.get ((r.withSink first).resolveEach credentials s).state =
      cell.get ((r.withSink second).resolveEach credentials s).state

/-- A leaf that keeps its account in the part is served as well by the tree as alone. -/
theorem SinkTree.Singles.asGoodAs [Authentication α] [DecidableEq ι] {tree : SinkTree ι}
    {named : ι → Sink α σ} {part : Cell σ ω} {i : ι} (h : tree.Singles named part i)
    (hlawful : part.Lawful) {account : Cell ω β} {enter : β → Notice α → β}
    (hi : named i = .keeping (part.comp account) enter) {r : Resolver α σ}
    (hr : r.Confined part) : AsGoodAs (part.comp account) r (tree.sink named) (named i) := by
  have hsinks := h.publish fun notice => hi ▸ SameWithin.keeping hlawful account enter notice
  refine ⟨fun notices s => ?_, fun credentials s => ?_, fun credentials s => ?_⟩
  · exact congrArg account.get (SameWithin.publishEach hsinks notices s s rfl).2
  · exact (Resolver.resolveEach_sameWithin hr hsinks credentials s s rfl).1
  · exact congrArg account.get (Resolver.resolveEach_sameWithin hr hsinks credentials s s rfl).2

/-- A tree of sinks passes every notice to its leaves from left to right, once for each place, and so
is the flat composite of its leaves. A record or counters at one place, in a part of the state that
no other leaf touches, are served as if they were the only sink. -/
theorem SinkTree.composite_is_its_leaves [Authentication α] [DecidableEq ι] (tree : SinkTree ι)
    (named : ι → Sink α σ) :
    (∀ notices : List (Notice α),
      Calls ((tree.sink fun i => (named i).tapped i).publishEach notices)
        ((tree.sink named).publishEach notices)
        (notices.flatMap fun notice => tree.leaves.map (·, notice))) ∧
    tree.sink named = .composite (tree.leaves.map named) ∧
    ∀ (part : Cell σ ω) (i : ι), part.Lawful → tree.Singles named part i →
      ∀ r : Resolver α σ, r.Confined part →
        (∀ record, named i = .recording (part.comp record) →
          AsGoodAs (part.comp record) r (tree.sink named) (named i)) ∧
        (∀ counts, named i = .metrics (part.comp counts) →
          AsGoodAs (part.comp counts) r (tree.sink named) (named i)) := by
  refine ⟨Calls.publishEach named tree, tree.sink_eq_composite named, ?_⟩
  intro part i hlawful hsingles r hr
  constructor
  · intro record hi
    rw [Sink.recording_eq_keeping] at hi
    exact hsingles.asGoodAs hlawful hi hr
  · intro counts hi
    rw [Sink.metrics_eq_keeping] at hi
    exact hsingles.asGoodAs hlawful hi hr

/-- Counters that stand at two places count twice, and the record between them is as good as the
only sink. -/
theorem record_between_counters :
    let alice := AuthenticationToken.presented .usernamePassword "alice" "pw"
    let mallory := AuthenticationToken.presented .usernamePassword "mallory" "pw"
    let part : Cell (Recording × Metrics) Recording := ⟨Prod.fst, fun r s => (r, s.2)⟩
    let counters : Cell (Recording × Metrics) Metrics := ⟨Prod.snd, fun m s => (s.1, m)⟩
    let named : Bool → Sink AuthenticationToken (Recording × Metrics) := fun isRecord =>
      if isRecord then .recording (part.comp .whole) else .metrics counters
    let tree : SinkTree Bool :=
      .composite [.leaf false, .composite [.leaf true, .composite []], .leaf false]
    let r : Resolver AuthenticationToken (Recording × Metrics) := ⟨[door], none, .silent, true⟩
    let resolved := ((r.withSink (tree.sink named)).resolveEach [alice, mallory]
      (.withCapacity 8, .zero)).state
    part.Lawful ∧ tree.Singles named part true ∧ r.Confined part ∧
      AsGoodAs (part.comp .whole) r (tree.sink named) (named true) ∧
      resolved.1.entries.map (·.principal) = ["alice", "mallory"] ∧
      resolved.2.successes.value = 2 ∧ resolved.2.failures.value = 2 := by
  intro alice mallory part counters named tree r resolved
  have hlawful : part.Lawful := ⟨fun _ _ => rfl, fun _ _ _ => rfl⟩
  have hsingles : tree.Singles named part true := by
    refine ⟨rfl, fun j _ hj notice s => ?_⟩
    obtain rfl : j = false := Bool.eq_false_iff.2 hj
    rfl
  have hconfined : r.Confined part := by
    refine ⟨fun strategy hstrategy credential => ?_, fun manager hmanager => nomatch hmanager⟩
    obtain rfl := List.mem_singleton.1 hstrategy
    exact SameWithin.pure _
  have hrecord := ((SinkTree.composite_is_its_leaves tree named).2.2 part true hlawful hsingles r
    hconfined).1 .whole rfl
  exact ⟨hlawful, hsingles, hconfined, hrecord, rfl, rfl, rfl⟩

end AuthChain.Auth
