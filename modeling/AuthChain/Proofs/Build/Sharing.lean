import AuthChain.Proofs.Build.Usage

/-!
# What is shared during the use of a builder

Callbacks are watched by letting them note every access to the shared objects, with what they were
answered. Watching changes nothing else, so the accesses of a watched builder are those of the
builder itself, in the order in which they were made.

Main statement: whatever is done with a builder, a look at the shared objects finds for each type
the value that was shared last before, by whomever, and nothing only if there was none
(`Builder.last_shared_wins`).
-/

namespace AuthChain.Build

variable {S : Signature} {α β : Type}

/-! ## Accesses -/

/-- An access to the shared objects: a value was shared, with the one that it replaced, or somebody
looked at all of them. -/
inductive Access (S : Signature) where
  | wrote (u : S.Code) (v : S.Value u) (replaced : Option (S.Value u))
  | read (table : SharedObjects S.Value)

/-- The value of a type that the access shared, if it shared one. -/
def Access.written? (u : S.Code) : Access S → Option (S.Value u)
  | wrote w v _ => if h : w = u then some (h ▸ v) else none
  | read _ => none

/-- The value of a type that was shared last. -/
def lastWritten (u : S.Code) (log : List (Access S)) : Option (S.Value u) :=
  (log.filterMap (Access.written? u)).getLast?

/-- The access was answered with what was shared last before. -/
def Access.Answered (earlier : List (Access S)) : Access S → Prop
  | wrote u _ replaced => replaced = lastWritten u earlier
  | read table => ∀ u, table.get? u = lastWritten u earlier

theorem lastWritten_append_of_none {u : S.Code} {a : Access S} (ha : a.written? u = none)
    (log : List (Access S)) : lastWritten u (log ++ [a]) = lastWritten u log := by
  simp [lastWritten, List.filterMap_append, ha]

theorem lastWritten_append_of_some {u : S.Code} {a : Access S} {v : S.Value u}
    (ha : a.written? u = some v) (log : List (Access S)) :
    lastWritten u (log ++ [a]) = some v := by
  simp [lastWritten, List.filterMap_append, ha]

theorem lastWritten_eq_none_iff {u : S.Code} {log : List (Access S)} :
    lastWritten u log = none ↔ ∀ v replaced, .wrote u v replaced ∉ log := by
  rw [lastWritten, List.getLast?_eq_none_iff, List.filterMap_eq_nil_iff]
  constructor
  · intro h v replaced hmem
    have hnone := h _ hmem
    simp [Access.written?] at hnone
  · intro h a ha
    cases a with
    | read table => rfl
    | wrote w v replaced =>
      by_cases hw : w = u
      · subst hw
        exact absurd ha (h v replaced)
      · simp [Access.written?, hw]

theorem exists_lastWritten {u : S.Code} {v : S.Value u} {replaced : Option (S.Value u)}
    {log : List (Access S)} (h : .wrote u v replaced ∈ log) : ∃ x, lastWritten u log = some x := by
  apply Option.ne_none_iff_exists'.1
  intro hnone
  exact lastWritten_eq_none_iff.1 hnone v replaced h

/-- The table holds what was shared last, and every access was answered so. -/
structure Faithful (log : List (Access S)) (table : SharedObjects S.Value) : Prop where
  latest : ∀ u, table.get? u = lastWritten u log
  answered : ∀ pre a post, log = pre ++ a :: post → a.Answered pre

namespace Faithful

variable {log : List (Access S)} {table : SharedObjects S.Value}

theorem nil : Faithful ([] : List (Access S)) .empty where
  latest _ := rfl
  answered pre a post h := absurd h (by simp)

theorem append (h : Faithful log table) {a : Access S} (ha : a.Answered log)
    {next : SharedObjects S.Value} (hnext : ∀ u, next.get? u = lastWritten u (log ++ [a])) :
    Faithful (log ++ [a]) next := by
  refine ⟨hnext, fun pre x post heq => ?_⟩
  rcases exists_cut_of_append_eq heq with ⟨rest, hrest⟩ | ⟨mid, rfl, hmid⟩
  · exact h.answered pre x rest hrest
  · -- the last access is the new one
    cases mid with
    | nil =>
      obtain ⟨rfl, -⟩ := List.cons.inj hmid
      rw [List.append_nil]
      exact ha
    | cons y mid => simp at hmid

theorem read (h : Faithful log table) : Faithful (log ++ [.read table]) table := by
  have ha : (Access.read table).Answered log := h.latest
  apply h.append ha
  intro u
  rw [h.latest, lastWritten_append_of_none rfl]

theorem write (h : Faithful log table) (u : S.Code) (v : S.Value u) :
    Faithful (log ++ [.wrote u v (table.get? u)]) (table.insert u v) := by
  have ha : (Access.wrote u v (table.get? u)).Answered log := h.latest u
  apply h.append ha
  intro w
  by_cases hw : u = w
  · subst hw
    have hv : (Access.wrote u v (table.get? u)).written? u = some v := by simp [Access.written?]
    rw [table.get?_insert_self, lastWritten_append_of_some hv]
  · rw [table.get?_insert_of_ne hw, h.latest,
      lastWritten_append_of_none (by simp [Access.written?, hw])]

end Faithful

/-! ## Watched callbacks -/

/-- The signature in which callbacks also note their accesses. -/
abbrev Signature.watched (S : Signature) : Signature where
  Code := S.Code
  Value := S.Value
  typeName := S.typeName
  Configurer := S.Configurer
  kind := S.kind
  Target := S.Target
  Object := S.Object
  World := S.World
  Note := S.Note ⊕ Access S

/-- The callback that notes its accesses. -/
def Callback.watched : Callback S α → Callback S.watched α
  | done a => done a
  | fail e => fail e
  | register c next => register c fun x => (next x).watched
  | configurers kind next => configurers kind fun x => (next x).watched
  | removeConfigurers kind next => removeConfigurers kind fun x => (next x).watched
  | setShared u v next => setShared u v fun x => note (.inr (.wrote u v x)) (next x).watched
  | sharedObjects next => sharedObjects fun t => note (.inr (.read t)) (next t).watched
  | state next => state fun x => (next x).watched
  | target next => target fun x => (next x).watched
  | setTarget t next => setTarget t next.watched
  | postProcess u x next => postProcess u x fun y => (next y).watched
  | world next => world fun x => (next x).watched
  | setWorld w next => setWorld w next.watched
  | note n next => note (.inl n) next.watched
  | log line next => log line next.watched

/-- The lifecycle whose callbacks note their accesses. -/
def Lifecycle.watched (l : Lifecycle S) : Lifecycle S.watched where
  init c := (l.init c).watched
  configure c := (l.configure c).watched
  beforeInit := l.beforeInit.watched
  beforeConfigure := l.beforeConfigure.watched
  performBuild := l.performBuild.watched

/-- The builder as one whose callbacks are watched. -/
def Builder.watched (b : Builder S) : Builder S.watched where
  target := b.target
  table := b.table
  late := b.late
  shared := b.shared
  state := b.state
  accumulates := b.accumulates
  postProcessors := b.postProcessors
  object := b.object
  world := b.world
  nextSerial := b.nextSerial
  nextObject := b.nextObject

/-- The event without watching; a noted access is none. -/
def Event.plain? : Event S.watched → Option (Event S)
  | .moved before after => some (.moved before after)
  | .registered serial kind => some (.registered serial kind)
  | .registeredLate kind => some (.registeredLate kind)
  | .removed kind => some (.removed kind)
  | .initializing count => some (.initializing count)
  | .initializingLate count => some (.initializingLate count)
  | .configuring count => some (.configuring count)
  | .started call => some (.started call)
  | .finished call failure => some (.finished call failure)
  | .withheld state => some (.withheld state)
  | .gaveUp error => some (.gaveUp error)
  | .noted (.inl n) => some (.noted n)
  | .noted (.inr _) => none
  | .logged line => some (.logged line)

/-- The access that the event tells of, if it tells of one. -/
def Event.access? : Event S.watched → Option (Access S)
  | .noted (.inr a) => some a
  | _ => none

/-- The events without watching. -/
def plainEvents (h : List (Event S.watched)) : List (Event S) :=
  h.filterMap Event.plain?

/-- The accesses that events tell of. -/
def accesses (h : List (Event S.watched)) : List (Access S) :=
  h.filterMap Event.access?

@[simp] theorem plainEvents_append (g h : List (Event S.watched)) :
    plainEvents (g ++ h) = plainEvents g ++ plainEvents h :=
  List.filterMap_append ..

@[simp] theorem accesses_append (g h : List (Event S.watched)) :
    accesses (g ++ h) = accesses g ++ accesses h :=
  List.filterMap_append ..

/-- The watched outcome is the plain one but for the accesses, which are faithful to the table that
they begin with. -/
structure Mirrors (table : SharedObjects S.Value)
    (watched : Outcome (Event S.watched) (Builder S.watched) β)
    (plain : Outcome (Event S) (Builder S) β) : Prop where
  answer : watched.answer = plain.answer
  state : watched.state = plain.state.watched
  events : plainEvents watched.events = plain.events
  accesses : ∀ log, Faithful log table →
    Faithful (log ++ accesses watched.events) plain.state.shared

/-- The watched action does what the plain one does. -/
def Watched (watched : Act (Event S.watched) (Builder S.watched) β)
    (plain : Act (Event S) (Builder S) β) : Prop :=
  ∀ b, Mirrors b.shared (watched b.watched) (plain b)

/-- What leaves the shared objects alone and notes no access makes no difference. -/
theorem Mirrors.quiet {table : SharedObjects S.Value}
    {watched : Outcome (Event S.watched) (Builder S.watched) β}
    {plain : Outcome (Event S) (Builder S) β} (answer : watched.answer = plain.answer)
    (state : watched.state = plain.state.watched)
    (events : plainEvents watched.events = plain.events)
    (none : Build.accesses watched.events = []) (shared : plain.state.shared = table) :
    Mirrors table watched plain where
  answer := answer
  state := state
  events := events
  accesses log h := by
    rw [none, List.append_nil, shared]
    exact h

namespace Watched

theorem pure (a : α) : Watched (S := S) (Pure.pure a) (Pure.pure a) :=
  fun _ => .quiet rfl rfl rfl rfl rfl

theorem bind {m' : Act (Event S.watched) (Builder S.watched) α}
    {m : Act (Event S) (Builder S) α} {f' : α → Act (Event S.watched) (Builder S.watched) β}
    {f : α → Act (Event S) (Builder S) β} (first : Watched m' m)
    (second : ∀ a, Watched (f' a) (f a)) : Watched (m' >>= f') (m >>= f) := by
  intro b
  have hfirst := first b
  have hsecond := second (m b).answer (m b).state
  rw [← hfirst.state, ← hfirst.answer] at hsecond
  refine ⟨?_, ?_, ?_, fun log h => ?_⟩
  · rw [Act.answer_bind, Act.answer_bind, hsecond.answer, hfirst.answer]
  · rw [Act.state_bind, Act.state_bind, hsecond.state, hfirst.answer]
  · rw [Act.events_bind, Act.events_bind, plainEvents_append, hfirst.events, hsecond.events,
      hfirst.answer]
  · -- the second action begins with the table that the first one left
    rw [Act.events_bind, Act.state_bind, accesses_append, ← List.append_assoc, ← hfirst.answer]
    exact hsecond.accesses _ (hfirst.accesses log h)

theorem reading {f' : Builder S.watched → Act (Event S.watched) (Builder S.watched) β}
    {f : Builder S → Act (Event S) (Builder S) β}
    (h : ∀ b : Builder S, Mirrors b.shared (f' b.watched b.watched) (f b b)) :
    Watched (Act.get >>= f') (Act.get >>= f) :=
  h

/-- An attempt ends at the first error, watched or not. -/
theorem attempt {m' : Attempt S.watched α} {m : Attempt S α} {f' : α → Attempt S.watched β}
    {f : α → Attempt S β} (first : Watched m'.run m.run)
    (second : ∀ a, Watched (f' a).run (f a).run) : Watched (m' >>= f').run (m >>= f).run := by
  rw [ExceptT.run_bind, ExceptT.run_bind]
  apply first.bind
  intro r
  cases r with
  | ok a => exact second a
  | error e => exact .pure (Except.error e)

end Watched

/-! ## Watching callbacks -/

namespace Builder

theorem register_watched (c : S.Configurer) :
    Watched (register (S := S.watched) c) (register c) := by
  intro b
  have hstate : b.watched.state = b.state := rfl
  rw [register_apply, register_apply, hstate]
  split
  · exact .quiet rfl rfl rfl rfl rfl
  · -- only the initializing state leaves a second event
    cases hi : b.state.isInitializing with
    | true => refine .quiet rfl rfl ?_ ?_ rfl <;> simp [registrationEvents, hstate, hi] <;> rfl
    | false => refine .quiet rfl rfl ?_ ?_ rfl <;> simp [registrationEvents, hstate, hi] <;> rfl

theorem removeConfigurers_watched (kind : ConfigurerKind) :
    Watched (removeConfigurers (S := S.watched) kind) (removeConfigurers kind) := by
  intro b
  have htable : b.watched.table = b.table := rfl
  rw [removeConfigurers_apply, removeConfigurers_apply, htable]
  split
  · exact .quiet rfl rfl rfl rfl rfl
  · exact .quiet rfl rfl rfl rfl rfl

end Builder

theorem Callback.run_watched (m : Callback S α) : Watched m.watched.run m.run := by
  -- only sharing a value and looking at the shared ones are accesses
  induction m with
  | done a => exact .pure _
  | fail e => exact .pure _
  | register c next ih => exact .bind (Builder.register_watched c) ih
  | configurers kind next ih => exact fun b => ih _ b
  | removeConfigurers kind next ih => exact .bind (Builder.removeConfigurers_watched kind) ih
  | setShared u v next ih =>
    intro b
    obtain ⟨answer, state, events, faithful⟩ := ih (b.shared.get? u) (b.setShared u v)
    refine ⟨answer, state, events, fun log h => ?_⟩
    have hrest := faithful _ (h.write u v)
    rw [List.append_assoc] at hrest
    exact hrest
  | sharedObjects next ih =>
    intro b
    obtain ⟨answer, state, events, faithful⟩ := ih b.shared b
    refine ⟨answer, state, events, fun log h => ?_⟩
    have hrest := faithful _ h.read
    rw [List.append_assoc] at hrest
    exact hrest
  | state next ih => exact fun b => ih _ b
  | target next ih => exact fun b => ih _ b
  | setTarget t next ih => exact .bind (fun _ => .quiet rfl rfl rfl rfl rfl) fun _ => ih
  | postProcess u x next ih => exact fun b => ih _ b
  | world next ih => exact fun b => ih _ b
  | setWorld w next ih => exact .bind (fun _ => .quiet rfl rfl rfl rfl rfl) fun _ => ih
  | note n next ih => exact .bind (fun _ => .quiet rfl rfl rfl rfl rfl) fun _ => ih
  | log line next ih => exact .bind (fun _ => .quiet rfl rfl rfl rfl rfl) fun _ => ih

/-! ## Watching builds -/

namespace Builder

theorem move_watched (s : State) :
    Watched (move (S := S.watched) s).run (move (S := S) s).run := by
  intro b
  cases ht : b.state.canTransition s with
  | true =>
    have hw : b.watched.state.canTransition s = true := ht
    rw [move_run ht, move_run hw]
    exact .quiet rfl rfl rfl rfl rfl
  | false =>
    have hw : b.watched.state.canTransition s = false := ht
    rw [move_run_refused ht, move_run_refused hw]
    exact .quiet rfl rfl rfl rfl rfl

theorem call_watched (c : Call) (body : Callback S α) :
    Watched (call c body.watched).run (call c body).run := by
  refine .bind (fun _ => .quiet rfl rfl rfl rfl rfl) fun _ => ?_
  refine .bind body.run_watched fun r => ?_
  exact .bind (fun _ => .quiet rfl rfl rfl rfl rfl) fun _ => .pure r

theorem initEach_watched (l : Lifecycle S) (rs : List (Registration S.Configurer)) :
    Watched (initEach l.watched rs).run (initEach l rs).run := by
  induction rs with
  | nil => exact .pure _
  | cons r rest ih => exact .attempt (call_watched _ _) fun _ => ih

theorem configureEach_watched (l : Lifecycle S) (rs : List (Registration S.Configurer)) :
    Watched (configureEach l.watched rs).run (configureEach l rs).run := by
  induction rs with
  | nil => exact .pure _
  | cons r rest ih => exact .attempt (call_watched _ _) fun _ => ih

section Stages

variable (l : Lifecycle S)

theorem opening_watched : Watched (opening l.watched).run (opening l).run :=
  .attempt (move_watched _) fun _ => call_watched _ _

theorem firstPass_watched : Watched (firstPass l.watched).run (firstPass l).run := by
  refine .attempt (fun _ => .quiet rfl rfl rfl rfl rfl) fun rs => ?_
  exact .attempt (fun _ => .quiet rfl rfl rfl rfl rfl) fun _ => initEach_watched l rs

theorem announceLate_watched (rs : List (Registration S.Configurer)) :
    Watched (announceLate (S := S.watched) rs).run (announceLate (S := S) rs).run := by
  cases rs with
  | nil => exact .pure _
  | cons r rest => exact fun _ => .quiet rfl rfl rfl rfl rfl

theorem refuseLate_watched :
    Watched (refuseLate (S := S.watched)).run (refuseLate (S := S)).run := by
  refine .attempt (fun _ => .quiet rfl rfl rfl rfl rfl) fun due => ?_
  cases due with
  | nil => exact .pure _
  | cons extra rest => exact .pure _

theorem latePass_watched : Watched (latePass l.watched).run (latePass l).run := by
  refine .attempt (fun _ => .quiet rfl rfl rfl rfl rfl) fun late => ?_
  refine .attempt (announceLate_watched (S := S) late) fun _ => ?_
  exact .attempt (initEach_watched l late) fun _ => refuseLate_watched

theorem configureConfigurers_watched :
    Watched (configureConfigurers l.watched).run (configureConfigurers l).run := by
  refine .attempt (fun _ => .quiet rfl rfl rfl rfl rfl) fun rs => ?_
  exact .attempt (fun _ => .quiet rfl rfl rfl rfl rfl) fun _ => configureEach_watched l rs

theorem production_watched : Watched (production l.watched).run (production l).run := by
  refine .attempt (move_watched _) fun _ => .attempt (call_watched _ _) fun o => ?_
  refine .attempt (fun _ => .quiet rfl rfl rfl rfl rfl) fun p => ?_
  exact .attempt (move_watched _) fun _ => .pure (Except.ok p)

theorem closing_watched : Watched (closing l.watched).run (closing l).run := by
  refine .attempt (.attempt (move_watched _) fun _ => call_watched _ _) fun _ => ?_
  exact .attempt (configureConfigurers_watched l) fun _ => production_watched l

theorem runLifecycle_watched : Watched (runLifecycle l.watched).run (runLifecycle l).run := by
  rw [runLifecycle_eq_stages, runLifecycle_eq_stages]
  refine .attempt (opening_watched l) fun _ => .attempt (firstPass_watched l) fun _ => ?_
  exact .attempt (latePass_watched l) fun _ => closing_watched l

theorem build_watched : Watched (build l.watched).run (build l).run := by
  intro b
  by_cases hb : b.state = .unbuilt
  · have hw : b.watched.state = .unbuilt := hb
    rw [build_run_unbuilt l hb, build_run_unbuilt l.watched hw]
    exact runLifecycle_watched l b
  · have hw : b.watched.state ≠ .unbuilt := hb
    rw [build_run_of_begun l hb, build_run_of_begun l.watched hw]
    refine .quiet ?_ rfl rfl rfl rfl
    have hstate : b.watched.state = b.state := rfl
    have hobject : b.watched.object = b.object := rfl
    simp only [hstate, hobject]
    cases b.state <;> cases b.object <;> rfl

theorem getOrBuild_watched : Watched (getOrBuild l.watched) (getOrBuild l) := by
  apply Watched.reading
  intro b
  have hstate : b.watched.state = b.state := rfl
  have hobject : b.watched.object = b.object := rfl
  cases hb : b.state.isUnbuilt with
  | true =>
    simp only [hstate, hb, if_true]
    refine Watched.bind (build_watched l) (fun r => ?_) b
    -- an error is told of, which is no access
    cases r with
    | ok p => exact .pure _
    | error e => exact fun _ => .quiet rfl rfl rfl rfl rfl
  | false =>
    simp only [hstate, hobject, hb, Bool.false_eq_true, if_false]
    cases b.object.isNone with
    | true => exact .quiet rfl rfl rfl rfl rfl
    | false => exact .quiet rfl rfl rfl rfl rfl

end Stages

theorem removeConfigurer_watched (kind : ConfigurerKind) :
    Watched (removeConfigurer (S := S.watched) kind) (removeConfigurer kind) := by
  apply Watched.reading
  intro b
  have hconfigurer : b.watched.configurer kind = b.configurer kind := by
    show Callback.single (S := S.watched) kind (b.configurers kind) =
      Callback.single (S := S) kind (b.configurers kind)
    rcases b.configurers kind with _ | ⟨c, _ | ⟨d, rest⟩⟩ <;> rfl
  rw [hconfigurer]
  cases b.configurer kind with
  | error e => exact .quiet rfl rfl rfl rfl rfl
  | ok c => exact Watched.bind (removeConfigurers_watched kind) (fun _ => .pure _) b

end Builder

/-! ## Watching a caller -/

/-- The operation with watched callbacks. -/
def Operation.watched : Operation S → Operation S.watched
  | register c => register c
  | removeConfigurers kind => removeConfigurers kind
  | removeConfigurer kind => removeConfigurer kind
  | setShared u v => setShared u v
  | withTarget t => withTarget t
  | withPostProcessors ps => withPostProcessors ps
  | addPostProcessor p => addPostProcessor p
  | surround w => surround w
  | build l => build l.watched
  | getOrBuild l => getOrBuild l.watched

namespace Builder

/-- The events that an operation leaves, and the accesses of callbacks and of the caller. -/
def watchedEvents (b : Builder S) : Operation S → List (Event S.watched)
  | .setShared u v => [.noted (.inr (.wrote u v (b.shared.get? u)))]
  | op => b.watched.events op.watched

/-- The events that operations leave in their order, and the accesses of callbacks and of the
caller. -/
def watchedHistory (b : Builder S) : List (Operation S) → List (Event S.watched)
  | [] => []
  | op :: rest => b.watchedEvents op ++ (b.step op).watchedHistory rest

/-- The watched operation does what the plain one does. -/
theorem step_watched (b : Builder S) (op : Operation S) :
    Mirrors b.shared ⟨(), b.watchedEvents op, b.watched.step op.watched⟩
      ⟨(), b.events op, b.step op⟩ := by
  have hrun : ∀ {β : Type} {m' : Act (Event S.watched) (Builder S.watched) β}
      {m : Act (Event S) (Builder S) β}, Watched m' m →
        Mirrors b.shared ⟨(), (m' b.watched).events, (m' b.watched).state⟩
          ⟨(), (m b).events, (m b).state⟩ :=
    fun h => ⟨rfl, (h b).state, (h b).events, (h b).accesses⟩
  cases op with
  | register c => exact hrun (register_watched c)
  | removeConfigurers kind => exact hrun (removeConfigurers_watched kind)
  | removeConfigurer kind => exact hrun (removeConfigurer_watched kind)
  | setShared u v => exact ⟨rfl, rfl, rfl, fun log h => h.write u v⟩
  | build l => exact hrun (build_watched l)
  | getOrBuild l => exact hrun (getOrBuild_watched l)
  | withTarget t => exact .quiet rfl rfl rfl rfl rfl
  | withPostProcessors ps => exact .quiet rfl rfl rfl rfl rfl
  | addPostProcessor p => exact .quiet rfl rfl rfl rfl rfl
  | surround w => exact .quiet rfl rfl rfl rfl rfl

theorem after_watched (b : Builder S) (ops : List (Operation S)) :
    Mirrors b.shared ⟨(), b.watchedHistory ops, b.watched.after (ops.map Operation.watched)⟩
      ⟨(), b.history ops, b.after ops⟩ := by
  induction ops generalizing b with
  | nil => exact .quiet rfl rfl rfl rfl rfl
  | cons op rest ih =>
    obtain ⟨-, hstate, hevents, hfaithful⟩ := b.step_watched op
    obtain ⟨-, hstates, hhistory, hall⟩ := ih (b.step op)
    refine ⟨rfl, ?_, ?_, fun log h => ?_⟩
    · show (b.watched.step op.watched).after _ = _
      rw [show b.watched.step op.watched = (b.step op).watched from hstate]
      exact hstates
    · show plainEvents (b.watchedEvents op ++ (b.step op).watchedHistory rest) = _
      rw [plainEvents_append, hhistory]
      exact congrArg (· ++ _) hevents
    · show Faithful (log ++ Build.accesses (b.watchedEvents op ++ _)) _
      rw [accesses_append, ← List.append_assoc]
      exact hall _ (hfaithful log h)

end Builder

/-! ## The value that was shared last -/

/-- A value was shared, with the one that it replaced. -/
abbrev Event.sharing (u : S.Code) (v : S.Value u) (replaced : Option (S.Value u)) :
    Event S.watched :=
  .noted (.inr (.wrote u v replaced))

/-- A callback looked at the shared objects. -/
abbrev Event.looking (table : SharedObjects S.Value) : Event S.watched :=
  .noted (.inr (.read table))

theorem mem_accesses {a : Access S} {h : List (Event S.watched)} :
    a ∈ accesses h ↔ .noted (.inr a) ∈ h := by
  unfold accesses
  rw [List.mem_filterMap]
  constructor
  · rintro ⟨e, he, hx⟩
    cases e with
    | noted n =>
      cases n with
      | inl n => simp [Event.access?] at hx
      | inr x =>
        obtain rfl : x = a := by simpa [Event.access?] using hx
        exact he
    | _ => simp [Event.access?] at hx
  · exact fun h => ⟨_, h, rfl⟩

theorem accesses_eq_of_cut {a : Access S} {h pre post : List (Event S.watched)}
    (heq : h = pre ++ .noted (.inr a) :: post) :
    accesses h = accesses pre ++ a :: accesses post := by
  rw [heq, accesses_append]
  rfl

theorem Callback.requiredShared_run {b : Builder S} {u : S.Code} {x : S.Value u}
    (h : b.shared.get? u = some x) : ((requiredShared u).run b).answer = .ok (.ok x) := by
  rw [requiredShared, Callback.run, Act.bind_apply, Act.get_apply]
  simp only [h]
  rfl

/-- In a history, and on the builder that it led to, the value that was shared last is found. -/
structure LastWins (h : List (Event S.watched)) (b : Builder S) : Prop where
  /-- What a caller finds for a type is the value of it that was shared last. -/
  found : ∀ u, b.shared.get? u = lastWritten u (accesses h)
  /-- What a callback finds for a type is the value of it that was shared last before. -/
  looked : ∀ pre table post, h = pre ++ .looking table :: post → ∀ c : Builder S,
    c.shared = table → ∀ u,
      ((Callback.shared u).run c).answer = .ok (lastWritten u (accesses pre))
  /-- Once a value of a type was shared, a callback that requires one is given it. -/
  required : ∀ pre table post, h = pre ++ .looking table :: post → ∀ c : Builder S,
    c.shared = table → ∀ u v replaced, .sharing u v replaced ∈ pre →
      ∃ x, lastWritten u (accesses pre) = some x ∧
        ((Callback.requiredShared u).run c).answer = .ok (.ok x)
  /-- What sharing a value replaces is the value of its type that was shared last before. -/
  replaced : ∀ pre u v replaced post, h = pre ++ .sharing u v replaced :: post →
    replaced = lastWritten u (accesses pre)
  /-- Nothing is found only where nothing was shared. -/
  missing : ∀ u, lastWritten u (accesses h) = none ↔ ∀ v replaced, .sharing u v replaced ∉ h

theorem Faithful.lastWins {h : List (Event S.watched)} {b : Builder S}
    (faithful : Faithful (accesses h) b.shared) : LastWins h b where
  found := faithful.latest
  looked pre table post heq c hc u := by
    have hread := faithful.answered _ _ _ (accesses_eq_of_cut heq)
    show Except.ok (c.shared.get? u) = _
    rw [hc, hread u]
  required pre table post heq c hc u v replaced hmem := by
    have hread := faithful.answered _ _ _ (accesses_eq_of_cut heq)
    obtain ⟨x, hx⟩ := exists_lastWritten (mem_accesses.2 hmem)
    refine ⟨x, hx, ?_⟩
    exact Callback.requiredShared_run (by rw [hc, hread u, hx])
  replaced pre u v replaced post heq := faithful.answered _ _ _ (accesses_eq_of_cut heq)
  missing u := by
    rw [lastWritten_eq_none_iff]
    exact forall₂_congr fun v replaced => not_congr mem_accesses

/-- Whatever is done with a builder, what is found among the shared objects is what was shared
last, by the caller or by any callback; and this is what happens when nobody notes it. -/
theorem Builder.last_shared_wins (t : S.Target) (accumulates : Bool) (w : S.World)
    (ops : List (Operation S)) :
    let b : Builder S := create t accumulates w
    LastWins (b.watchedHistory ops) (b.after ops) ∧
      plainEvents (b.watchedHistory ops) = b.history ops ∧
      b.watched.after (ops.map Operation.watched) = (b.after ops).watched := by
  intro b
  obtain ⟨-, hstate, hevents, hfaithful⟩ := b.after_watched ops
  refine ⟨?_, hevents, hstate⟩
  have hall : Faithful ([] ++ accesses (b.watchedHistory ops)) (b.after ops).shared :=
    hfaithful [] .nil
  exact Faithful.lastWins hall

/-! ## A number that an `init` shares -/

namespace Sample

/-- A signature whose callbacks share numbers. -/
def counting : Signature where
  Code := Unit
  Value _ := Nat
  typeName _ := "Count"
  Configurer := Sample
  kind := kind
  Target := Unit
  Object := Unit
  World := Unit
  Note := Empty

/-- The caller's builder. -/
def counter : Builder counting :=
  .create () true ()

/-- A lifecycle in which every `init` shares a number and every `configure` requires one. -/
def countingLifecycle : Lifecycle counting where
  init _ := .setShared (S := counting) () (7 : Nat) fun _ => .done ()
  configure _ := do
    let _ ← Callback.requiredShared (S := counting) ()
    return ()
  beforeInit := .done ()
  beforeConfigure := .done ()
  performBuild := .done ()

/-- The caller shares a number, registers a configurer and builds. -/
def countingOperations : List (Operation counting) :=
  [.setShared () (3 : Nat), .register .alpha, .build countingLifecycle]

/-- The events before the `configure` looks. -/
def beforeLook : List (Event counting.watched) :=
  (counter.watchedHistory countingOperations).take 14

end Sample

open Sample in
/-- The `init` replaces the number of the caller, and the `configure` is given the new one. -/
theorem Builder.configure_finds_what_init_shared :
    counter.watchedHistory countingOperations =
        beforeLook ++ .looking (counter.setShared () (7 : Nat)).shared ::
          (counter.watchedHistory countingOperations).drop 15 ∧
      .sharing () (7 : Nat) (some (3 : Nat)) ∈ beforeLook ∧
      ∃ x, lastWritten () (accesses beforeLook) = some x ∧
        ((Callback.requiredShared ()).run (counter.setShared () (7 : Nat))).answer =
          .ok (.ok x) := by
  have hcut : counter.watchedHistory countingOperations =
      beforeLook ++ .looking (counter.setShared () (7 : Nat)).shared ::
        (counter.watchedHistory countingOperations).drop 15 := rfl
  have hshared : .sharing () (7 : Nat) (some (3 : Nat)) ∈ beforeLook :=
    List.mem_of_getElem? (i := 7) rfl
  have hwins : LastWins (counter.watchedHistory countingOperations)
      (counter.after countingOperations) :=
    (last_shared_wins (S := counting) () true () countingOperations).1
  exact ⟨hcut, hshared, hwins.required beforeLook (counter.setShared () (7 : Nat)).shared _ hcut
    (counter.setShared () (7 : Nat)) rfl () (7 : Nat) (some (3 : Nat)) hshared⟩

end AuthChain.Build
