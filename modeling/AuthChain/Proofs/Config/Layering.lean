import AuthChain.Config.Layers
import AuthChain.Proofs.Config.Serving

/-!
# Lookups in nested layers

Layered providers may be layers of others in turn, so providers form trees. A lookup asks leaves and
may change what they keep: a file is loaded when it is first asked. Outcomes are compared up to the
events that tell which of several providers had the value, since every layer tells its own.

Main statement: a lookup in a tree is one in the flat layers of its leaves. The first leaf that has
the key or fails decides, and those behind it are not asked (`Layering.first_leaf_decides`).
-/

namespace AuthChain.Config

variable {σ : Type}

/-! ## Outcomes up to the winning layers -/

/-- The event tells which of several providers had the value. -/
def Event.isResolved : Event → Bool
  | .resolved .. => true
  | _ => false

/-- The events that are not told by layers. -/
def heard (es : List Event) : List Event :=
  es.filter fun e => !e.isResolved

@[simp] theorem heard_append (es fs : List Event) : heard (es ++ fs) = heard es ++ heard fs :=
  List.filter_append ..

/-- What a lookup gives back. -/
abbrev Found (σ : Type) := Outcome Event σ (Except ConfigError (Option String))

/-- The outcome of a lookup without the events that are told by layers. -/
def quietly (m : Reading σ (Option String)) (s : σ) : Found σ :=
  ⟨(m.run s).answer, heard (m.run s).events, (m.run s).state⟩

/-- Go on with another lookup when there was no value. -/
def orElse (o : Found σ) (next : σ → Found σ) : Found σ :=
  match o with
  | ⟨.ok none, es, s⟩ => ⟨(next s).answer, es ++ (next s).events, (next s).state⟩
  | decided => decided

theorem orElse_none (es : List Event) (s : σ) (next : σ → Found σ) :
    orElse ⟨.ok none, es, s⟩ next = ⟨(next s).answer, es ++ (next s).events, (next s).state⟩ :=
  rfl

theorem orElse_of_ne {o : Found σ} (h : o.answer ≠ .ok none) (next : σ → Found σ) :
    orElse o next = o := by
  obtain ⟨answer, es, s⟩ := o
  match answer with
  | .error e => rfl
  | .ok (some value) => rfl
  | .ok none => exact absurd rfl h

theorem orElse_assoc (o : Found σ) (next last : σ → Found σ) :
    orElse (orElse o next) last = orElse o fun s => orElse (next s) last := by
  obtain ⟨answer, es, s⟩ := o
  match answer with
  | .error e => rfl
  | .ok (some value) => rfl
  | .ok none =>
    rw [orElse_none, orElse_none]
    obtain ⟨answer, fs, s'⟩ := next s
    match answer with
    | .error e => rfl
    | .ok (some value) => rfl
    | .ok none => simp only [orElse_none, List.append_assoc]

/-! ## Flat layers -/

section Flat

variable (key : String)

theorem quietly_firstHit_nil (s : σ) : quietly (firstHit key []) s = ⟨.ok none, [], s⟩ :=
  rfl

theorem quietly_firstHit_cons (p : Provider σ) (rest : List (Provider σ)) (s : σ) :
    quietly (firstHit key (p :: rest)) s =
      orElse (quietly (p.getRaw key) s) (quietly (firstHit key rest)) := by
  rw [firstHit]
  unfold quietly
  cases hanswer : ((p.getRaw key).run s).answer with
  | error e =>
    rw [run_bind_error hanswer]
    rfl
  | ok found =>
    rw [run_bind_ok hanswer]
    cases found with
    | none =>
      rw [orElse_none, ← heard_append]
    | some value =>
      -- the layer tells who had the value, which is not heard
      show Outcome.mk _ (heard (_ ++ [.resolved key p.name])) _ = _
      rw [heard_append]
      show Outcome.mk _ (_ ++ []) _ = _
      rw [List.append_nil]
      rfl

theorem quietly_firstHit_append (ps qs : List (Provider σ)) (s : σ) :
    quietly (firstHit key (ps ++ qs)) s =
      orElse (quietly (firstHit key ps) s) (quietly (firstHit key qs)) := by
  induction ps generalizing s with
  | nil => rfl
  | cons p rest ih =>
    rw [List.cons_append, quietly_firstHit_cons, quietly_firstHit_cons, orElse_assoc, funext ih]

theorem quietly_firstHit_singleton (p : Provider σ) (s : σ) :
    quietly (firstHit key [p]) s = quietly (p.getRaw key) s := by
  rw [quietly_firstHit_cons]
  obtain ⟨answer, es, s'⟩ := quietly (p.getRaw key) s
  match answer with
  | .error e => rfl
  | .ok (some value) => rfl
  | .ok none => rw [orElse_none, quietly_firstHit_nil, List.append_nil]

end Flat

/-! ## Nested layers -/

/-- Providers nested in layers. -/
inductive Layering (σ : Type) where
  | leaf (p : Provider σ)
  | layers (parts : List (Layering σ))

namespace Layering

mutual

/-- The provider that a tree stands for. -/
def provider : Layering σ → Provider σ
  | leaf p => p
  | layers parts => .composite (providers parts)

/-- The providers that trees stand for. -/
def providers : List (Layering σ) → List (Provider σ)
  | [] => []
  | tree :: rest => tree.provider :: providers rest

end

mutual

/-- The leaves from left to right. -/
def leaves : Layering σ → List (Provider σ)
  | leaf p => [p]
  | layers parts => leavesOf parts

/-- The leaves of trees from left to right. -/
def leavesOf : List (Layering σ) → List (Provider σ)
  | [] => []
  | tree :: rest => tree.leaves ++ leavesOf rest

end

mutual

theorem quietly_getRaw (key : String) :
    ∀ (tree : Layering σ) (s : σ),
      quietly (tree.provider.getRaw key) s = quietly (firstHit key tree.leaves) s
  | leaf p, s => (quietly_firstHit_singleton key p s).symm
  | layers parts, s => quietly_providers key parts s

theorem quietly_providers (key : String) :
    ∀ (parts : List (Layering σ)) (s : σ),
      quietly (firstHit key (providers parts)) s = quietly (firstHit key (leavesOf parts)) s
  | [], _ => rfl
  | tree :: rest, s => by
    rw [providers, leavesOf, quietly_firstHit_cons, quietly_firstHit_append,
      quietly_getRaw key tree s, funext (quietly_providers key rest)]

end

end Layering

/-! ## The deciding provider -/

/-- Asked one after the other from a state, providers have no value; with what they tell and the
state that they leave. -/
inductive Lacking (key : String) : List (Provider σ) → σ → List Event → σ → Prop
  | nil (s : σ) : Lacking key [] s [] s
  | cons {p : Provider σ} {rest : List (Provider σ)} {s s₁ s₂ : σ} {es fs : List Event}
      (first : (p.getRaw key).run s = ⟨.ok none, es, s₁⟩) (later : Lacking key rest s₁ fs s₂) :
      Lacking key (p :: rest) s (es ++ fs) s₂

/-- A provider that has the key or fails when it is asked, and before which all others have no
value. -/
structure Decider (key : String) (ps : List (Provider σ)) (s : σ) where
  before : List (Provider σ)
  provider : Provider σ
  behind : List (Provider σ)
  split : ps = before ++ provider :: behind
  told : List Event
  reached : σ
  lacking : Lacking key before s told reached
  decides : ((provider.getRaw key).run reached).answer ≠ .ok none

/-- The outcome of the deciding provider, behind what was told before. -/
def Decider.outcome {key : String} {ps : List (Provider σ)} {s : σ} (d : Decider key ps s) :
    Found σ :=
  ⟨((d.provider.getRaw key).run d.reached).answer,
    heard (d.told ++ ((d.provider.getRaw key).run d.reached).events),
    ((d.provider.getRaw key).run d.reached).state⟩

section Deciding

variable {key : String} {ps before : List (Provider σ)} {s s' : σ} {es : List Event}

theorem Lacking.firstHit_append (h : Lacking key before s es s') (after : List (Provider σ)) :
    quietly (firstHit key (before ++ after)) s =
      orElse ⟨.ok none, heard es, s'⟩ (quietly (firstHit key after)) := by
  induction h with
  | nil s => rfl
  | @cons p rest s s₁ s₂ es fs first later ih =>
    have hfirst : quietly (p.getRaw key) s = ⟨.ok none, heard es, s₁⟩ := by
      unfold quietly
      rw [first]
    rw [List.cons_append, quietly_firstHit_cons, hfirst, orElse_none, ih, orElse_none, orElse_none,
      heard_append, List.append_assoc]

theorem Lacking.firstHit_run (h : Lacking key ps s es s') :
    quietly (firstHit key ps) s = ⟨.ok none, heard es, s'⟩ := by
  have hall := h.firstHit_append []
  rwa [List.append_nil, orElse_none, quietly_firstHit_nil, List.append_nil] at hall

theorem Decider.firstHit_run (d : Decider key ps s) :
    quietly (firstHit key ps) s = d.outcome := by
  have hdecides : (quietly (d.provider.getRaw key) d.reached).answer ≠ .ok none := d.decides
  have hasked := d.lacking.firstHit_append (d.provider :: d.behind)
  rw [← d.split, orElse_none, quietly_firstHit_cons, orElse_of_ne hdecides] at hasked
  rw [hasked, outcome, heard_append]
  rfl

/-- All providers lack the key, or there is one that decides. -/
theorem lacking_or_decider (key : String) (ps : List (Provider σ)) (s : σ) :
    (∃ es s', Lacking key ps s es s') ∨ Nonempty (Decider key ps s) := by
  induction ps generalizing s with
  | nil => exact .inl ⟨[], s, .nil s⟩
  | cons p rest ih =>
    by_cases hp : ((p.getRaw key).run s).answer = .ok none
    · have first : (p.getRaw key).run s =
          ⟨.ok none, ((p.getRaw key).run s).events, ((p.getRaw key).run s).state⟩ := by
        rw [← hp]
      rcases ih ((p.getRaw key).run s).state with ⟨es, s', later⟩ | ⟨⟨d⟩⟩
      · exact .inl ⟨_, s', .cons first later⟩
      · exact .inr ⟨⟨p :: d.before, d.provider, d.behind, congrArg (p :: ·) d.split, _, d.reached,
          .cons first d.lacking, d.decides⟩⟩
    · exact .inr ⟨⟨[], p, rest, rfl, [], s, .nil s, hp⟩⟩

theorem answer_eq_none_iff :
    (quietly (firstHit key ps) s).answer = .ok none ↔ ∃ es s', Lacking key ps s es s' := by
  constructor
  · intro h
    rcases lacking_or_decider key ps s with hlacking | ⟨⟨d⟩⟩
    · exact hlacking
    · rw [d.firstHit_run] at h
      exact absurd h d.decides
  · rintro ⟨es, s', hlacking⟩
    rw [hlacking.firstHit_run]

theorem answer_eq_iff {answer : Except ConfigError (Option String)} (hne : answer ≠ .ok none) :
    (quietly (firstHit key ps) s).answer = answer ↔
      ∃ d : Decider key ps s, d.outcome.answer = answer := by
  constructor
  · intro h
    rcases lacking_or_decider key ps s with ⟨es, s', hlacking⟩ | ⟨⟨d⟩⟩
    · rw [hlacking.firstHit_run] at h
      exact absurd h.symm hne
    · exact ⟨d, d.firstHit_run ▸ h⟩
  · rintro ⟨d, hd⟩
    rw [d.firstHit_run, hd]

end Deciding

/-! ## Lookups in trees -/

namespace Layering

/-- What a lookup in a tree does. -/
structure DecidedByLeaf (tree : Layering σ) (key : String) (s : σ) : Prop where
  /-- It is a lookup in the flat layers of the leaves. -/
  flat : quietly (tree.provider.getRaw key) s =
    quietly ((Provider.composite tree.leaves).getRaw key) s
  /-- The first leaf that has the key or fails gives the outcome. It leaves the state, so leaves
  behind it were not asked. -/
  decided : ∀ d : Decider key tree.leaves s, quietly (tree.provider.getRaw key) s = d.outcome
  /-- A value is that of the first leaf that has the key, and no earlier one failed. -/
  found : ∀ value, ((tree.provider.getRaw key).run s).answer = .ok (some value) ↔
    ∃ d : Decider key tree.leaves s, d.outcome.answer = .ok (some value)
  /-- An error is that of a leaf before which no other had the key or failed. -/
  failed : ∀ e, ((tree.provider.getRaw key).run s).answer = .error e ↔
    ∃ d : Decider key tree.leaves s, d.outcome.answer = .error e
  /-- There is no value just when every leaf was asked and had none. -/
  absent : ((tree.provider.getRaw key).run s).answer = .ok none ↔
    ∃ es s', Lacking key tree.leaves s es s'
  /-- Other leaves behind the one that decides make no difference. -/
  unasked : ∀ (d : Decider key tree.leaves s) (other : Layering σ) (behind : List (Provider σ)),
    other.leaves = d.before ++ d.provider :: behind →
      quietly (other.provider.getRaw key) s = quietly (tree.provider.getRaw key) s

/-- In every tree of layers the leaves are asked from left to right up to the first that has the key
or fails, and this one decides. -/
theorem first_leaf_decides (tree : Layering σ) (key : String) (s : σ) :
    tree.DecidedByLeaf key s := by
  have hflat := quietly_getRaw key tree s
  have hanswer : ((tree.provider.getRaw key).run s).answer =
      (quietly (firstHit key tree.leaves) s).answer := by
    rw [← hflat, quietly]
  have hdecided : ∀ d : Decider key tree.leaves s,
      quietly (tree.provider.getRaw key) s = d.outcome :=
    fun d => hflat.trans d.firstHit_run
  refine
    { flat := hflat
      decided := hdecided
      found := fun value => ?_
      failed := fun e => ?_
      absent := ?_
      unasked := fun d other behind hother => ?_ }
  · rw [hanswer]
    exact answer_eq_iff fun h => nomatch h
  · rw [hanswer]
    exact answer_eq_iff fun h => nomatch h
  · rw [hanswer]
    exact answer_eq_none_iff
  · -- the same provider decides among the other leaves, with the same outcome
    let same : Decider key other.leaves s :=
      ⟨d.before, d.provider, behind, hother, d.told, d.reached, d.lacking, d.decides⟩
    rw [hdecided d, quietly_getRaw key other s, same.firstHit_run]
    rfl

/-- A provider of one value, whatever the state. -/
def constant (name key value : String) : Provider σ :=
  .memory name ⟨fun _ => TextMap.empty.insert key value, fun _ s => s⟩

/-- A malformed file behind the deciding leaf is not loaded, though a lookup in it would fail. -/
theorem malformed_file_is_not_loaded :
    let file := (FileSource.ofStore "a.json").provider
    let tree : Layering FileSource.Store :=
      .layers [.layers [.leaf (constant "high" "b" "2")],
        .layers [.leaf (constant "low" "a" "1"), .leaf file]]
    let s : FileSource.Store := ⟨[("a.json", .file (.text "["))], none⟩
    quietly (tree.provider.getRaw "a") s = ⟨.ok (some "1"), [], s⟩ ∧
      ∃ e, ((file.getRaw "a").run s).answer = .error e := by
  intro file tree s
  have hlacking : Lacking "a" [constant "high" "b" "2"] s ([] ++ []) s :=
    .cons (p := constant "high" "b" "2") rfl (.nil s)
  let low : Decider "a" tree.leaves s :=
    ⟨[constant "high" "b" "2"], constant "low" "a" "1", [file], rfl, _, s, hlacking,
      fun h => nomatch h⟩
  refine ⟨(first_leaf_decides tree "a" s).decided low, ?_⟩
  obtain ⟨e, herror⟩ : ∃ e, FileSource.parseDocument "[" = .error e := ⟨_, rfl⟩
  have hfound : (FileSource.ofStore "a.json").found s = .error e := herror
  refine ⟨e, ?_⟩
  rw [FileSource.getRaw_fresh _ rfl, FileSource.freshly, hfound]

end Layering

end AuthChain.Config
