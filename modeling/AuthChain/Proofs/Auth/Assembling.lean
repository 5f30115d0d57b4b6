import AuthChain.Auth.Assembly
import AuthChain.Proofs.Build.Surviving

/-!
# Assembling compared with making

The contributions that a caller registers, with removals between them, and a build come to the same
as making the resolver directly of the parts that survive. The contributions of a kind keep their
order, those of different kinds do not meet; the settings take the way over the shared objects,
where the last ones that are initialized are read by all.

Main statement: a build assembles the resolver that is made of the target's parts and the surviving
ones and has just these parts, and it fails exactly when they have neither a strategy nor a fallback
(`assembled_like_direct`).
-/

namespace AuthChain.Auth

open Build

variable {α σ X β γ : Type} {kind : X → ConfigurerKind}

/-! ## Parts of contributions -/

namespace Contribution

def strategies? : Contribution α σ → Option (List (Strategy α σ))
  | strategies list => some list
  | _ => none

def fallback? : Contribution α σ → Option (Manager α σ)
  | fallback m => some m
  | _ => none

def sink? : Contribution α σ → Option (Sink α σ)
  | sink s => some s
  | _ => none

def settings? : Contribution α σ → Option SecuritySettings
  | settings s => some s
  | _ => none

/-- What is read off contributions of one kind only does not depend on the others. -/
theorem filterMap_filter_kind {f : Contribution α σ → Option β} {k : ConfigurerKind}
    (hf : ∀ c, c.kind ≠ k → f c = none) (cs : List (Contribution α σ)) :
    (cs.filter (·.kind == k)).filterMap f = cs.filterMap f := by
  rw [List.filterMap_filter]
  apply congrArg (List.filterMap · cs)
  funext c
  by_cases hc : c.kind = k
  · rw [if_pos (by simpa using hc)]
  · rw [if_neg (by simpa using hc), hf c hc]

/-- The last of the parts that contributions have. -/
def last? (f : Contribution α σ → Option β) (cs : List (Contribution α σ)) : Option β :=
  (cs.filterMap f).getLast?

theorem last?_cons (f : Contribution α σ → Option β) (c : Contribution α σ)
    (rest : List (Contribution α σ)) : last? f (c :: rest) = (last? f rest).or (f c) := by
  unfold last?
  rw [List.getLast?_filterMap, List.getLast?_filterMap, List.reverse_cons, List.findSome?_append,
    List.findSome?_singleton]

theorem last?_isSome {f : Contribution α σ → Option β} {c : Contribution α σ}
    {cs : List (Contribution α σ)} (hc : c ∈ cs) (hf : (f c).isSome = true) :
    (last? f cs).isSome = true := by
  obtain ⟨x, hx⟩ := Option.isSome_iff_exists.1 hf
  rw [last?, List.getLast?_isSome]
  exact List.ne_nil_of_mem (List.mem_filterMap.2 ⟨c, hc, hx⟩)

end Contribution

namespace Assembly

/-- The parts with those of contributions: strategies behind the others, the last of everything
else. -/
def joined (a : Assembly α σ) (cs : List (Contribution α σ)) : Assembly α σ where
  strategies := a.strategies ++ (cs.filterMap Contribution.strategies?).flatten
  fallback := (Contribution.last? Contribution.fallback? cs).or a.fallback
  sink := (Contribution.last? Contribution.sink? cs).or a.sink
  retainCredentials := ((Contribution.last? Contribution.settings? cs).map
    fun s => !s.eraseCredentials).getD a.retainCredentials

/-- Contributions that agree kind by kind come to the same parts. -/
theorem joined_congr {cs ds : List (Contribution α σ)}
    (h : ∀ k, cs.filter (·.kind == k) = ds.filter (·.kind == k)) (a : Assembly α σ) :
    a.joined cs = a.joined ds := by
  have hread : ∀ {β : Type} {f : Contribution α σ → Option β} (k : ConfigurerKind),
      (∀ c, c.kind ≠ k → f c = none) → cs.filterMap f = ds.filterMap f := by
    intro β f k hf
    rw [← Contribution.filterMap_filter_kind hf cs, h k, Contribution.filterMap_filter_kind hf]
  have hstrategies : cs.filterMap Contribution.strategies? = ds.filterMap _ :=
    hread strategiesKind fun c hc => by cases c <;> first | rfl | exact absurd rfl hc
  have hfallback : cs.filterMap Contribution.fallback? = ds.filterMap _ :=
    hread fallbackKind fun c hc => by cases c <;> first | rfl | exact absurd rfl hc
  have hsink : cs.filterMap Contribution.sink? = ds.filterMap _ :=
    hread sinkKind fun c hc => by cases c <;> first | rfl | exact absurd rfl hc
  have hsettings : cs.filterMap Contribution.settings? = ds.filterMap _ :=
    hread settingsKind fun c hc => by cases c <;> first | rfl | exact absurd rfl hc
  unfold joined Contribution.last?
  rw [hstrategies, hfallback, hsink, hsettings]

/-- What a contribution leaves on a target while some settings are shared. -/
def receive (shared : Option SecuritySettings) (a : Assembly α σ) : Contribution α σ → Assembly α σ
  | .strategies list => list.foldl addStrategy a
  | .fallback m => a.setFallback m
  | .sink s => a.setSink s
  | .settings _ =>
    match shared with
    | some s => a.setRetainCredentials (!s.eraseCredentials)
    | none => a

theorem foldl_addStrategy (list : List (Strategy α σ)) (a : Assembly α σ) :
    list.foldl addStrategy a = { a with strategies := a.strategies ++ list } := by
  induction list generalizing a with
  | nil => simp
  | cons s rest ih =>
    rw [List.foldl_cons, ih, addStrategy, List.append_assoc]
    rfl

theorem receive_eq (shared : Option SecuritySettings) (a : Assembly α σ) (c : Contribution α σ) :
    a.receive shared c =
      { strategies := a.strategies ++ c.strategies?.getD []
        fallback := c.fallback?.or a.fallback
        sink := c.sink?.or a.sink
        retainCredentials :=
          ((c.settings?.bind fun _ => shared).map fun s => !s.eraseCredentials).getD
            a.retainCredentials } := by
  cases c with
  | strategies list => exact foldl_addStrategy list a
  | fallback m => simp [receive, setFallback, Contribution.strategies?, Contribution.fallback?,
      Contribution.sink?, Contribution.settings?]
  | sink s => simp [receive, setSink, Contribution.strategies?, Contribution.fallback?,
      Contribution.sink?, Contribution.settings?]
  | settings s =>
    cases shared <;> simp [receive, setRetainCredentials, Contribution.strategies?,
      Contribution.fallback?, Contribution.sink?, Contribution.settings?]

theorem foldl_receive (shared : Option SecuritySettings) (cs : List (Contribution α σ))
    (a : Assembly α σ) :
    cs.foldl (receive shared) a =
      { a.joined cs with
        retainCredentials :=
          (((Contribution.last? Contribution.settings? cs).bind fun _ => shared).map
            fun s => !s.eraseCredentials).getD a.retainCredentials } := by
  -- the shared settings are fixed here, the last ones only in the next lemma
  induction cs generalizing a with
  | nil => simp [joined, Contribution.last?]
  | cons c rest ih =>
    rw [List.foldl_cons, ih, receive_eq]
    simp only [joined, Contribution.last?_cons, Option.or_assoc, mk.injEq, true_and]
    constructor
    · cases hc : c.strategies? <;> simp [hc]
    · cases Contribution.last? Contribution.settings? rest <;> cases c.settings? <;>
        cases shared <;> rfl

/-- Where the last of the settings are shared, contributions leave their parts. -/
theorem foldl_receive_last (cs : List (Contribution α σ)) (a : Assembly α σ) :
    cs.foldl (receive (Contribution.last? Contribution.settings? cs)) a = a.joined cs := by
  rw [foldl_receive]
  cases hlast : Contribution.last? Contribution.settings? cs <;> simp [joined, hlast]

theorem parts_eq (a : Assembly α σ) :
    a.parts = ⟨a.strategies, a.fallback, a.sink.getD .silent, !a.retainCredentials⟩ := by
  obtain ⟨strategies, fallback, sink, retain⟩ := a
  cases fallback <;> cases sink <;> rfl

end Assembly

namespace ResolverParts

variable {p : ResolverParts α σ}

theorem nothing_to_ask_iff :
    (p.strategies.isEmpty && p.fallback.isNone) = true ↔ p.strategies = [] ∧ p.fallback = none := by
  rw [Bool.and_eq_true, List.isEmpty_iff, Option.isNone_iff_eq_none]

/-- With a strategy or a fallback the resolver is made, and it has just these parts. -/
theorem build_eq_ok_iff {r : Resolver α σ} :
    p.build = .ok r ↔ (p.strategies ≠ [] ∨ p.fallback ≠ none) ∧
      r = ⟨p.strategies, p.fallback, p.sink, p.eraseCredentials⟩ := by
  rw [← not_and_or, ← nothing_to_ask_iff, build]
  constructor
  · intro h
    split at h
    · cases h
    · next hask => exact ⟨hask, (Except.ok.inj h).symm⟩
  · rintro ⟨hask, rfl⟩
    exact if_neg hask

theorem build_eq_error_iff :
    (∃ cause, p.build = .error (.config cause)) ↔ p.strategies = [] ∧ p.fallback = none := by
  rw [← nothing_to_ask_iff, build]
  constructor
  · rintro ⟨cause, h⟩
    split at h
    · assumption
    · cases h
  · intro hask
    exact ⟨.nothingToAsk, if_pos hask⟩

end ResolverParts

/-! ## Passes over contributions -/

/-- The builder after the `init` of a contribution. -/
def introduced (b : Builder (assembling α σ X kind)) :
    Contribution α σ → Builder (assembling α σ X kind)
  | .settings s => b.setShared .settings s
  | _ => b

theorem Contribution.init_run (c : Contribution α σ) (b : Builder (assembling α σ X kind)) :
    c.init.run b = ⟨.ok (), [], introduced b c⟩ := by
  cases c <;> rfl

/-- The settings that are shared, if there are any. -/
def settingsOf (b : Builder (assembling α σ X kind)) : Option SecuritySettings :=
  b.shared.get? AssemblyValue.settings

theorem foldl_introduced (cs : List (Contribution α σ)) (b : Builder (assembling α σ X kind)) :
    ∃ shared, cs.foldl introduced b = { b with shared := shared } ∧
      settingsOf { b with shared := shared } =
        (Contribution.last? Contribution.settings? cs).or (settingsOf b) := by
  -- the induction takes settings in order: later ones replace what earlier ones shared
  induction cs generalizing b with
  | nil => exact ⟨b.shared, rfl, rfl⟩
  | cons c rest ih =>
    obtain ⟨shared, heq, hsettings⟩ := ih (introduced b c)
    rw [List.foldl_cons, heq, Contribution.last?_cons, Option.or_assoc]
    cases c with
    | settings s =>
      refine ⟨shared, rfl, hsettings.trans ?_⟩
      exact congrArg (Option.or _) (b.shared.get?_insert_self AssemblyValue.settings s)
    | _ => exact ⟨shared, rfl, hsettings⟩

theorem requiredShared_bind_run {S : Signature} {u : S.Code} {v : S.Value u} {b : Builder S}
    (h : b.shared.get? u = some v) (f : Except IllegalState (S.Value u) → Callback S β) :
    (Callback.requiredShared u >>= f).run b = (f (.ok v)).run b := by
  simp only [Callback.requiredShared, bind, Callback.bind, Callback.run, Act.bind, Act.get, h]
  rfl

/-- The `configure` of settings finds some that are shared. -/
theorem Contribution.configure_run (c : Contribution α σ) (b : Builder (assembling α σ X kind))
    (h : c.settings?.isSome = true → (settingsOf b).isSome = true) :
    c.configure.run b = ⟨.ok (), [], b.withTarget (b.target.receive (settingsOf b) c)⟩ := by
  cases c with
  | settings s =>
    obtain ⟨t, ht⟩ := Option.isSome_iff_exists.1 (h rfl)
    rw [ht]
    exact requiredShared_bind_run (S := assembling α σ X kind) (u := AssemblyValue.settings) ht _
  | _ => rfl

/-! ## Stages that succeed -/

/-- The attempt succeeds and leaves the builder. -/
structure Leads {S : Signature} (m : Attempt S β) (b : Builder S) (a : β) (c : Builder S) :
    Prop where
  answer : (m.run b).answer = .ok a
  state : (m.run b).state = c

namespace Leads

variable {S : Signature} {m : Attempt S β} {b c : Builder S} {a : β}

theorem answer_bind (h : Leads m b a c) (f : β → Attempt S γ) :
    ((m >>= f).run b).answer = ((f a).run c).answer := by
  rw [Attempt.run_bind_ok h.answer, h.state]

theorem state_bind (h : Leads m b a c) (f : β → Attempt S γ) :
    ((m >>= f).run b).state = ((f a).run c).state := by
  rw [Attempt.run_bind_ok h.answer, h.state]

end Leads

/-- The object of a production is the answer of its callback. -/
theorem production_answer {S : Signature} (l : Lifecycle S) {b : Builder S}
    (h : b.state = .configuring) :
    ((Builder.production l).run b).answer.map (·.object) =
      (l.performBuild.run { b with state := .building }).answer := by
  have hmove : b.state.canTransition .building = true := by
    rw [h]
    rfl
  rw [Builder.production, Builder.move_bind_run hmove]
  cases hr : (l.performBuild.run { b with state := .building }).answer with
  | error e =>
    have hcall : ((Builder.call .performBuild l.performBuild).run
        { b with state := .building }).answer = .error e := hr
    rw [Attempt.run_bind_error hcall]
    rfl
  | ok o =>
    have hcall : ((Builder.call .performBuild l.performBuild).run
        { b with state := .building }).answer = .ok o := hr
    rw [Attempt.run_bind_ok hcall,
      Builder.conclude_run o (Builder.call_path .performBuild l.performBuild _).sameFrame.state]
    rfl

/-- Calls lead step by step to what each of them leaves. -/
theorem leads_callEach {call : Registration (Contribution α σ ⊕ X) →
      Call × Callback (assembling α σ X kind) Unit}
    {step : Builder (assembling α σ X kind) → Contribution α σ → Builder (assembling α σ X kind)}
    {P : Builder (assembling α σ X kind) → Prop} {cs : List (Contribution α σ)}
    (hrun : ∀ r, ∀ c ∈ cs, r.configurer = .inl c → ∀ b, P b →
      (call r).2.run b = ⟨.ok (), [], step b c⟩ ∧ P (step b c)) :
    ∀ {rs : List (Registration (Contribution α σ ⊕ X))} {b : Builder (assembling α σ X kind)},
      rs.map (·.configurer) = cs.map .inl → P b →
        Leads (Builder.callEach (rs.map call)) b () (cs.foldl step b) := by
  -- the induction is on the contributions; `P` is what each call needs and leaves in place
  induction cs with
  | nil =>
    intro rs b hrs _
    obtain rfl := List.map_eq_nil_iff.1 hrs
    exact ⟨rfl, rfl⟩
  | cons c rest ih =>
    intro rs b hrs hb
    obtain ⟨r, tail, rfl, hr, htail⟩ := List.map_eq_cons_iff.1 hrs
    obtain ⟨hcall, hstep⟩ := hrun r c List.mem_cons_self hr b hb
    have hfirst : Leads (Builder.call (call r).1 (call r).2) b () (step b c) := by
      constructor
      · rw [Builder.call_run, hcall]
      · rw [Builder.call_run, hcall]
    have hothers := ih (fun s d hd => hrun s d (List.mem_cons_of_mem _ hd)) htail hstep
    constructor
    · exact (hfirst.answer_bind _).trans hothers.answer
    · exact (hfirst.state_bind _).trans hothers.state

section Stages

variable {init configure : X → Callback (assembling α σ X kind) Unit}
  {b : Builder (assembling α σ X kind)} {cs : List (Contribution α σ)}

theorem leads_opening (h : b.state = .unbuilt) :
    Leads (Builder.opening (assemblyLifecycle init configure)) b ()
      { b with state := .initializing } := by
  constructor
  · rw [Builder.opening_run _ b h]
    rfl
  · rw [Builder.opening_run _ b h]
    rfl

theorem leads_firstPass (hcs : b.table.registrations.map (·.configurer) = cs.map .inl) :
    Leads (Builder.firstPass (assemblyLifecycle init configure)) b () (cs.foldl introduced b) := by
  have hpass : Leads (Builder.callEach
      (Builder.initCalls (assemblyLifecycle init configure) b.table.registrations)) b ()
      (cs.foldl introduced b) := by
    apply leads_callEach (P := fun _ => True) _ hcs trivial
    intro r c _ hr b _
    show ((assemblyLifecycle init configure).init r.configurer).run b = _ ∧ True
    rw [hr]
    exact ⟨c.init_run b, trivial⟩
  constructor
  · rw [Builder.firstPass_run]
    exact hpass.answer
  · rw [Builder.firstPass_run]
    exact hpass.state

theorem leads_latePass (h : b.late = []) :
    Leads (Builder.latePass (assemblyLifecycle init configure)) b () b := by
  have hb : { b with late := [] } = b := by rw [← h]
  constructor
  · rw [Builder.latePass_run, h]
    rfl
  · rw [Builder.latePass_run, h]
    exact hb

theorem leads_turning (h : b.state = .initializing) :
    Leads (Builder.turning (assemblyLifecycle init configure)) b ()
      { b with state := .configuring } := by
  constructor
  · rw [Builder.turning_run _ b h]
    rfl
  · rw [Builder.turning_run _ b h]
    rfl

theorem foldl_withTarget (shared : Option SecuritySettings) (cs : List (Contribution α σ))
    (b : Builder (assembling α σ X kind)) :
    cs.foldl (fun b c => b.withTarget (b.target.receive shared c)) b =
      b.withTarget (cs.foldl (Assembly.receive shared) b.target) := by
  induction cs generalizing b with
  | nil => rfl
  | cons c rest ih => exact ih _

/-- The configuring pass leaves the parts of all contributions, when the last settings among them
are shared. -/
theorem leads_configureConfigurers
    (hcs : b.table.registrations.map (·.configurer) = cs.map .inl)
    (hshared : settingsOf b = Contribution.last? Contribution.settings? cs) :
    Leads (Builder.configureConfigurers (assemblyLifecycle init configure)) b ()
      (b.withTarget (b.target.joined cs)) := by
  have hpass : Leads (Builder.callEach
      (Builder.configureCalls (assemblyLifecycle init configure) b.table.registrations)) b ()
      (cs.foldl (fun b c => b.withTarget (b.target.receive
        (Contribution.last? Contribution.settings? cs) c)) b) := by
    -- no `configure` changes what is shared
    apply leads_callEach
      (P := fun b => settingsOf b = Contribution.last? Contribution.settings? cs) _ hcs hshared
    intro r c hc hr b hb
    show ((assemblyLifecycle init configure).configure r.configurer).run b = _ ∧ settingsOf b = _
    rw [hr, ← hb]
    refine ⟨c.configure_run b fun hsettings => ?_, rfl⟩
    rw [hb]
    exact Contribution.last?_isSome hc hsettings
  rw [foldl_withTarget, Assembly.foldl_receive_last] at hpass
  constructor
  · rw [Builder.configureConfigurers_run]
    exact hpass.answer
  · rw [Builder.configureConfigurers_run]
    exact hpass.state

theorem finish_answer (r : Except Error (Resolver α σ)) (b : Builder (assembling α σ X kind))
    (hprocessors : b.postProcessors = .empty) :
    ((match r with
      | .ok resolver => .postProcess .resolver resolver fun (x : Resolver α σ) => .done x
      | .error e => .fail e :
        Callback (assembling α σ X kind) (Resolver α σ)).run b).answer = r := by
  cases r with
  | error e => rfl
  | ok resolver =>
    show Except.ok (b.postProcessors.apply AssemblyValue.resolver resolver) = _
    rw [hprocessors]
    rfl

/-- Without post-processors the parts on the target are made to a resolver as they are. -/
theorem makeResolver_answer (b : Builder (assembling α σ X kind))
    (hprocessors : b.postProcessors = .empty) :
    (makeResolver.run b).answer = b.target.parts.build := by
  have hfinish := finish_answer b.target.parts.build (b.withTarget b.target.emptied) hprocessors
  have htarget : ∀ next : Assembly α σ → Callback (assembling α σ X kind) (Resolver α σ),
      (Callback.target next).run b = (next b.target).run b := fun _ => rfl
  rw [makeResolver, htarget]
  -- with nothing to ask there is a log line more
  by_cases hc : Assembly.isConfigured b.target = true
  · rw [if_pos hc]
    exact hfinish
  · rw [if_neg hc]
    exact hfinish

/-- A build makes a resolver of the parts on the target and of those of the contributions. -/
theorem build_answer (init configure : X → Callback (assembling α σ X kind) Unit)
    (hstate : b.state = .unbuilt) (hlate : b.late = []) (hshared : settingsOf b = none)
    (hprocessors : b.postProcessors = .empty)
    (hcs : b.table.registrations.map (·.configurer) = cs.map .inl) :
    ((Builder.build (assemblyLifecycle init configure)).run b).answer.map (·.object) =
      (Assembly.joined b.target cs).parts.build := by
  -- the stages differ in the state, in what is shared and at last in the target
  obtain ⟨shared, hfirst, hsettings⟩ := foldl_introduced cs { b with state := .initializing }
  have opening : Leads (Builder.opening (assemblyLifecycle init configure)) b ()
      { b with state := .initializing } := leads_opening hstate
  have first : Leads (Builder.firstPass (assemblyLifecycle init configure))
      { b with state := .initializing } () { b with state := .initializing, shared := shared } := by
    rw [← hfirst]
    exact leads_firstPass hcs
  have late : Leads (Builder.latePass (assemblyLifecycle init configure))
      { b with state := .initializing, shared := shared } ()
      { b with state := .initializing, shared := shared } := leads_latePass hlate
  have turning : Leads (Builder.turning (assemblyLifecycle init configure))
      { b with state := .initializing, shared := shared } ()
      { b with state := .configuring, shared := shared } := leads_turning rfl
  have configuring : Leads (Builder.configureConfigurers (assemblyLifecycle init configure))
      { b with state := .configuring, shared := shared } ()
      { b with
        state := .configuring
        shared := shared
        target := Assembly.joined b.target cs } := by
    have hnone : settingsOf { b with state := .initializing } = none := hshared
    rw [hnone, Option.or_none] at hsettings
    exact leads_configureConfigurers hcs hsettings
  rw [Builder.build_run_unbuilt _ hstate, Builder.runLifecycle_eq_stages, opening.answer_bind,
    first.answer_bind, late.answer_bind, Builder.closing, turning.answer_bind,
    configuring.answer_bind, production_answer _ rfl]
  exact makeResolver_answer _ hprocessors

end Stages

/-! ## Registrations and removals before the build -/

/-- The operation of a caller who registers a contribution or removes configurers. -/
def contributing (p : Preparation (Contribution α σ)) : Operation (assembling α σ X kind) :=
  Preparation.operation (S := assembling α σ X kind) (p.map Sum.inl)

theorem exists_map_inl : ∀ {l : List (Contribution α σ ⊕ X)}, (∀ x ∈ l, ∃ c, x = .inl c) →
    ∃ cs : List (Contribution α σ), l = cs.map Sum.inl
  | [], _ => ⟨[], rfl⟩
  | x :: rest, h => by
    obtain ⟨c, rfl⟩ := h x List.mem_cons_self
    obtain ⟨cs, rfl⟩ := exists_map_inl fun y hy => h y (List.mem_cons_of_mem _ hy)
    exact ⟨c :: cs, rfl⟩

/-- The table lists contributions that agree kind by kind with the surviving ones. -/
theorem registered_contributions (target : Assembly α σ) (accumulates : Bool) (w : σ)
    (steps : List (Preparation (Contribution α σ))) {b : Builder (assembling α σ X kind)}
    (hb : b = (Builder.create target accumulates w).after (steps.map contributing)) :
    Builder.Prepared (S := assembling α σ X kind) target accumulates w
        ((Preparation.surviving Contribution.kind accumulates steps).map .inl) b ∧
      ∃ cs : List (Contribution α σ), b.table.registrations.map (·.configurer) = cs.map .inl ∧
        ∀ k, cs.filter (·.kind == k) =
          (Preparation.surviving Contribution.kind accumulates steps).filter (·.kind == k) := by
  have prepared := Builder.prepared_after (S := assembling α σ X kind) target accumulates w
    (steps.map (Preparation.map Sum.inl))
  have hsteps : (steps.map (Preparation.map Sum.inl)).map
      (Preparation.operation (S := assembling α σ X kind)) = steps.map contributing :=
    List.map_map
  have hsurviving : Preparation.surviving (assembling α σ X kind).kind accumulates
      (steps.map (Preparation.map Sum.inl)) =
        (Preparation.surviving Contribution.kind accumulates steps).map .inl :=
    Preparation.surviving_map Contribution.kind accumulates Sum.inl (fun _ => rfl) steps
  rw [hsteps, ← hb, hsurviving] at prepared
  have hread := prepared.filter_registrations
  refine ⟨prepared, ?_⟩
  obtain ⟨cs, hcs⟩ : ∃ cs : List (Contribution α σ),
      b.table.registrations.map (·.configurer) = cs.map .inl := by
    apply exists_map_inl
    intro x hx
    -- the table lists nothing but survivors
    have hmem : x ∈ (b.table.registrations.map (·.configurer)).filter
        ((assembling α σ X kind).kind · == (assembling α σ X kind).kind x) :=
      List.mem_filter.2 ⟨hx, beq_self_eq_true _⟩
    rw [hread] at hmem
    obtain ⟨c, -, hc⟩ := List.mem_map.1 (List.mem_filter.1 hmem).1
    exact ⟨c, hc.symm⟩
  refine ⟨cs, hcs, fun k => ?_⟩
  have hk := hread k
  rw [hcs, List.filter_map, List.filter_map] at hk
  exact (List.map_inj_right fun _ _ => Sum.inl.inj).1 hk

theorem assembled_answer (target : Assembly α σ) (accumulates : Bool) (w : σ)
    (init configure : X → Callback (assembling α σ X kind) Unit)
    (steps : List (Preparation (Contribution α σ))) :
    (((Builder.build (assemblyLifecycle init configure)).run
      ((Builder.create target accumulates w).after (steps.map contributing))).answer.map
        (·.object)) =
      (target.joined (Preparation.surviving Contribution.kind accumulates steps)).parts.build := by
  generalize hb : (Builder.create (S := assembling α σ X kind) target accumulates w).after
    (steps.map contributing) = b
  obtain ⟨prepared, cs, hcs, hagree⟩ :=
    registered_contributions target accumulates w steps hb.symm
  have htarget : b.target = target := congrArg Builder.target prepared.eq_create
  have hshared : b.shared = .empty := congrArg Builder.shared prepared.eq_create
  have hsettings : settingsOf b = none := by
    rw [settingsOf, hshared]
    rfl
  have hprocessors : b.postProcessors = .empty :=
    congrArg Builder.postProcessors prepared.eq_create
  rw [build_answer init configure prepared.state prepared.late hsettings hprocessors hcs, htarget,
    Assembly.joined_congr hagree]

/-- A resolver that configurers assemble is the one that is made directly of the target's parts and
of those that survive: their strategies behind the others in the order of registration, and the last
of their fallbacks, sinks and settings. With a strategy or a fallback among them it has exactly
these parts, and without both, and only then, the build fails. -/
theorem assembled_like_direct (target : Assembly α σ) (accumulates : Bool) (w : σ)
    (init configure : X → Callback (assembling α σ X kind) Unit)
    (steps : List (Preparation (Contribution α σ))) :
    let survivors := Preparation.surviving Contribution.kind accumulates steps
    let strategies := target.strategies ++ (survivors.filterMap Contribution.strategies?).flatten
    let fallback := (survivors.filterMap Contribution.fallback?).getLast?.or target.fallback
    let sink := (survivors.filterMap Contribution.sink?).getLast?.or target.sink
    let retain := ((survivors.filterMap Contribution.settings?).getLast?.map
      fun s => !s.eraseCredentials).getD target.retainCredentials
    let direct := (⟨strategies, fallback, sink, retain⟩ : Assembly α σ).parts
    let outcome := ((Builder.build (assemblyLifecycle init configure)).run
      ((Builder.create target accumulates w).after (steps.map contributing))).answer
    outcome.map (·.object) = direct.build ∧
      direct = ⟨strategies, fallback, sink.getD .silent, !retain⟩ ∧
      (strategies ≠ [] ∨ fallback ≠ none → ∃ made, outcome = .ok made ∧
        made.object = ⟨strategies, fallback, sink.getD .silent, !retain⟩) ∧
      ((∃ cause, outcome = .error (.config cause)) ↔ strategies = [] ∧ fallback = none) := by
  intro survivors strategies fallback sink retain direct outcome
  have hanswer : outcome.map (·.object) = direct.build :=
    assembled_answer target accumulates w init configure steps
  have hparts : direct = ⟨strategies, fallback, sink.getD .silent, !retain⟩ :=
    Assembly.parts_eq _
  -- of the build nothing counts from here on but its object
  clear_value outcome
  refine ⟨hanswer, hparts, fun hask => ?_, ?_⟩
  · rw [hparts, ResolverParts.build_eq_ok_iff.2 ⟨hask, rfl⟩] at hanswer
    cases outcome with
    | error e => cases hanswer
    | ok made => exact ⟨made, rfl, Except.ok.inj hanswer⟩
  · have hbuild := ResolverParts.build_eq_error_iff (p := direct)
    rw [← hanswer, hparts] at hbuild
    refine Iff.trans (exists_congr fun cause => ?_) hbuild
    cases outcome with
    | error e => simp [Except.map]
    | ok made => simp [Except.map]

/-- A strategy without an opinion on anyone. -/
def abstaining (name : String) : Strategy AuthenticationToken Unit :=
  ⟨name, fun _ => true, fun _ => return .ok none⟩

/-- The strategies of two registrations stand behind the one of the target, the fallback was removed
before the build, and by the settings that were registered last secrets are kept. -/
theorem removed_fallback_is_not_assembled :
    let nobody : Manager AuthenticationToken Unit :=
      ⟨fun t => return .error (.providerNotFound t.kind)⟩
    let strict : SecuritySettings := ⟨true, true, ⟨"key", "guest", []⟩⟩
    let steps : List (Preparation (Contribution AuthenticationToken Unit)) :=
      [.register (.strategies [abstaining "first"]), .register (.fallback nobody),
        .register (.settings strict), .register (.strategies [abstaining "second"]),
        .removeConfigurers fallbackKind,
        .register (.settings { strict with eraseCredentials := false })]
    let others : Empty → Callback (assembling AuthenticationToken Unit Empty nofun) Unit := nofun
    let target : Assembly AuthenticationToken Unit := ⟨[abstaining "own"], none, none, false⟩
    ∃ made, ((Builder.build (assemblyLifecycle others others)).run
        ((Builder.create target true ()).after (steps.map contributing))).answer = .ok made ∧
      made.object =
        ⟨[abstaining "own", abstaining "first", abstaining "second"], none, .silent, false⟩ := by
  intro nobody strict steps others target
  obtain ⟨-, -, hmade, -⟩ := assembled_like_direct target true () others others steps
  have hask : [abstaining "own", abstaining "first", abstaining "second"] ≠ [] :=
    List.cons_ne_nil _ _
  exact hmade (.inl hask)

end AuthChain.Auth
