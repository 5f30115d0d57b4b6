import AuthChain.Proofs.Build.Operation

/-!
# Contracts of attempts

A contract says what holds of the history and the builder before an attempt, and what then holds
after its answer; an attempt that fails leaves the build aborted (`Attempt.Contract`). The contracts
of the stages are about the state of the builder, the moves between states that the history tells
of, and the object.

Main statement: a build that runs answers with the object that the builder keeps and has made every
move, or stops in the state of the last call that it made, without an object; its error is that of
the call or refuses a nested registration (`Builder.runLifecycle_contract`).
-/

namespace AuthChain.Build

open scoped List

variable {S : Signature} {α β : Type}

/-! ## Moves -/

/-- The states between which the event tells of a move, if it tells of one. -/
def Event.move? : Event S → Option (State × State)
  | .moved before after => some (before, after)
  | _ => none

/-- The moves of a history. -/
def moves (h : List (Event S)) : List (State × State) :=
  h.filterMap Event.move?

@[simp] theorem moves_append (g h : List (Event S)) : moves (g ++ h) = moves g ++ moves h :=
  List.filterMap_append ..

/-- The state in which a call is made. -/
def Call.state : Call → State
  | beforeInit => .initializing
  | init _ => .initializing
  | beforeConfigure => .configuring
  | configure _ => .configuring
  | performBuild => .building

/-- The event tells of no move, and of no call but those made in the state. -/
def Event.suits (s : State) : Event S → Bool
  | .moved .. => false
  | .started c => c.state == s
  | _ => true

theorem moves_of_suits {s : State} {g : List (Event S)} (hg : ∀ e ∈ g, e.suits s = true) :
    moves g = [] := by
  refine List.filterMap_eq_nil_iff.2 fun e he => ?_
  have hsuits := hg e he
  cases e <;> simp [Event.suits, Event.move?] at hsuits ⊢

/-- The event tells of no move and of no call. -/
def Event.isQuiet : Event S → Bool
  | .moved .. => false
  | .started _ => false
  | _ => true

theorem Event.suits_of_isQuiet {s : State} {e : Event S} (he : e.isQuiet = true) :
    e.suits s = true := by
  cases e <;> simp [Event.isQuiet, Event.suits] at he ⊢

theorem Event.isQuiet_of_isOperation {e : Event S} (he : e.isOperation = true) :
    e.isQuiet = true := by
  cases e <;> simp [Event.isOperation, Event.isQuiet] at he ⊢

theorem calls_of_isQuiet {g : List (Event S)} (hg : ∀ e ∈ g, e.isQuiet = true) : calls g = [] := by
  refine List.filterMap_eq_nil_iff.2 fun e he => ?_
  have hquiet := hg e he
  cases e <;> simp [Event.isQuiet, Event.call?] at hquiet ⊢

/-- The history tells of the moves that lead to the state, and every call stands where the moves
had led to the state in which it is made. -/
structure Charted (h : List (Event S)) (s : State) : Prop where
  moves_eq : moves h = State.transitions.take s.rank
  placed : ∀ pre c post, h = pre ++ .started c :: post →
    moves pre = State.transitions.take c.state.rank

namespace Charted

variable {h g : List (Event S)} {s t : State}

theorem nil : Charted ([] : List (Event S)) .unbuilt where
  moves_eq := rfl
  placed pre c post heq := absurd heq (by simp)

theorem append (hh : Charted h s) (hg : ∀ e ∈ g, e.suits s = true) : Charted (h ++ g) s := by
  refine ⟨?_, fun pre c post heq => ?_⟩
  · rw [moves_append, moves_of_suits hg, List.append_nil, hh.moves_eq]
  · rcases exists_cut_of_append_eq heq with ⟨rest, hrest⟩ | ⟨mid, rfl, rfl⟩
    · exact hh.placed pre c rest hrest
    · -- no move is told of between the state and the call
      have hmid : moves mid = [] :=
        moves_of_suits (s := s) fun e he => hg e (List.mem_append_left _ he)
      have hc := hg (.started c) (List.mem_append_right _ List.mem_cons_self)
      have hstate : c.state = s := by simpa [Event.suits] using hc
      rw [moves_append, hmid, List.append_nil, hh.moves_eq, hstate]

theorem moved (hh : Charted h s) (ht : s.canTransition t = true) :
    Charted (h ++ [.moved s t]) t := by
  have hlast : State.transitions.take s.rank ++ [(s, t)] = State.transitions.take t.rank := by
    cases s <;> cases t <;> simp [State.canTransition, State.transitions, State.rank] at ht ⊢
  refine ⟨?_, fun pre c post heq => ?_⟩
  · rw [moves_append, hh.moves_eq]
    exact hlast
  · rcases exists_cut_of_append_eq heq with ⟨rest, hrest⟩ | ⟨mid, -, hmid⟩
    · exact hh.placed pre c rest hrest
    · exact absurd hmid (by cases mid <;> simp)

end Charted

/-! ## Contracts -/

/-- What holds of a history and of the builder that it led to. -/
abbrev Claim (S : Signature) : Type :=
  List (Event S) → Builder S → Prop

theorem Call.state_ne_unbuilt (c : Call) : c.state ≠ .unbuilt := by
  cases c <;> exact State.noConfusion

theorem Call.state_ne_built (c : Call) : c.state ≠ .built := by
  cases c <;> exact State.noConfusion

/-- The build stopped in the state of its last call, without an object; the error is that of the
call, or refuses a nested registration. -/
structure Aborted (e : Error) (h : List (Event S)) (b : Builder S) : Prop where
  charted : Charted h b.state
  object_eq : b.object = none
  last : (calls h).getLast?.map Call.state = some b.state
  cause : (∃ front c, h = front ++ [.finished c (some e)]) ∨
    ∃ kind, e = .illegalState (.nestedRegistration kind)

theorem Aborted.exists_call {e : Error} {h : List (Event S)} {b : Builder S}
    (aborted : Aborted e h b) : ∃ c : Call, c.state = b.state := by
  obtain ⟨c, -, hc⟩ := Option.map_eq_some_iff.1 aborted.last
  exact ⟨c, hc⟩

/-- From a history and a builder with `P` the attempt answers with `Q`, or leaves the build
aborted. -/
def Attempt.Contract (P : Claim S) (m : Attempt S α) (Q : α → Claim S) : Prop :=
  ∀ h b, P h b →
    (∀ a, (m.run b).answer = .ok a → Q a (h ++ (m.run b).events) (m.run b).state) ∧
    (∀ e, (m.run b).answer = .error e → Aborted e (h ++ (m.run b).events) (m.run b).state)

namespace Attempt.Contract

variable {P : Claim S} {Q : α → Claim S} {R : β → Claim S} {m : Attempt S α}
  {f : α → Attempt S β}

theorem bind (first : Contract P m Q) (second : ∀ a, Contract (Q a) (f a) R) :
    Contract P (m >>= f) R := by
  intro h b hp
  cases hm : (m.run b).answer with
  | error e =>
    rw [run_bind_error hm]
    refine ⟨fun a ha => absurd ha (by simp), fun x hx => ?_⟩
    obtain rfl := Except.error.inj hx
    exact (first h b hp).2 e hm
  | ok a =>
    rw [run_bind_ok hm, ← List.append_assoc]
    exact second a _ _ ((first h b hp).1 a hm)

/-- An attempt that always answers keeps its contract when its only outcome does. -/
theorem of_run {a : Builder S → α} {g : Builder S → List (Event S)} {c : Builder S → Builder S}
    (hrun : ∀ b, m.run b = ⟨.ok (a b), g b, c b⟩)
    (post : ∀ h b, P h b → Q (a b) (h ++ g b) (c b)) : Contract P m Q := by
  intro h b hp
  rw [hrun b]
  refine ⟨fun x hx => ?_, fun e he => absurd he (by simp)⟩
  obtain rfl := Except.ok.inj hx
  exact post h b hp

/-- Answering at once changes nothing. -/
theorem pure (a : α) : Contract P (Pure.pure a) fun _ => P :=
  of_run (a := fun _ => a) (g := fun _ => []) (c := id) (fun _ => rfl) fun h b hp => by
    rw [List.append_nil]
    exact hp

end Attempt.Contract

/-! ## Contracts of the parts of a build -/

/-- The history led to the state, and there is no object. -/
structure Reached (s : State) (h : List (Event S)) (b : Builder S) : Prop where
  state_eq : b.state = s
  charted : Charted h s
  object_eq : b.object = none

/-- The history led to the state, in which the last call was made, and there is no object. -/
structure Active (s : State) (h : List (Event S)) (b : Builder S) : Prop extends Reached s h b where
  last : (calls h).getLast?.map Call.state = some s

/-- The build made every move and keeps the object. -/
structure Finished (p : Produced S.Object) (h : List (Event S)) (b : Builder S) : Prop where
  state_eq : b.state = .built
  charted : Charted h .built
  object_eq : b.object = some p

theorem Active.aborted {s : State} {h : List (Event S)} {b : Builder S} {e : Error}
    (active : Active s h b)
    (cause : (∃ front c, h = front ++ [.finished c (some e)]) ∨
      ∃ kind, e = .illegalState (.nestedRegistration kind)) : Aborted e h b := by
  obtain ⟨⟨rfl, charted, object_eq⟩, last⟩ := active
  exact ⟨charted, object_eq, last, cause⟩

/-- What changes neither the state nor the object and makes no call keeps a build active. -/
theorem Active.append {s : State} {h g : List (Event S)} {b c : Builder S} (active : Active s h b)
    (hg : ∀ e ∈ g, e.isQuiet = true) (hstate : c.state = b.state) (hobject : c.object = b.object) :
    Active s (h ++ g) c where
  state_eq := hstate.trans active.state_eq
  charted := active.charted.append fun e he => Event.suits_of_isQuiet (hg e he)
  object_eq := hobject.trans active.object_eq
  last := by rw [calls_append, calls_of_isQuiet hg, List.append_nil, active.last]

namespace Builder

open Attempt (Contract)

theorem move_contract {s t : State} (ht : s.canTransition t = true) :
    Contract (S := S) (Reached s) (move t) fun _ => Reached t := by
  rintro h b ⟨rfl, charted, object_eq⟩
  rw [move_run ht]
  exact ⟨fun _ _ => ⟨rfl, charted.moved ht, object_eq⟩, fun e he => absurd he (by simp)⟩

/-- A call that fails aborts the build in the state of the call. -/
theorem call_contract (c : Call) (body : Callback S α) :
    Contract (Reached c.state) (call c body) fun _ => Active c.state := by
  intro h b reached
  have hframe := (body.run_path b).sameFrame
  have hsuits : ∀ e ∈ ((call c body).run b).events, e.suits c.state = true := by
    intro e he
    rw [call_run] at he
    simp only [List.mem_cons, List.mem_append, List.not_mem_nil, or_false] at he
    rcases he with rfl | he | rfl
    · simp [Event.suits]
    · exact Event.suits_of_isQuiet (Event.isQuiet_of_isOperation (body.run_isOperation b e he))
    · rfl
  have hcalls : calls ((call c body).run b).events = [c] := by
    rw [← calls_marks, marks_call]
    rfl
  have active : Active c.state (h ++ ((call c body).run b).events) ((call c body).run b).state :=
    { state_eq := hframe.state.trans reached.state_eq
      charted := reached.charted.append hsuits
      object_eq := hframe.object.trans reached.object_eq
      last := by rw [calls_append, hcalls, List.getLast?_concat, Option.map_some] }
  refine ⟨fun _ _ => active, fun e he => active.aborted (.inl ?_)⟩
  -- the failure of the call is its last event
  have hanswer : (body.run b).answer = .error e := he
  refine ⟨h ++ .started c :: (body.run b).events, c, ?_⟩
  rw [call_run, hanswer, List.append_assoc]
  rfl

theorem callEach_contract {s : State} : ∀ {cs : List (Call × Callback S Unit)},
    (∀ c ∈ cs, c.1.state = s) → Contract (Active s) (callEach cs) fun _ => Active s
  | [], _ => .pure ()
  | (c, body) :: rest, hcs => by
    refine .bind (Q := fun _ => Active s) ?_ fun _ => ?_
    · intro h b active
      have hstate : c.state = s := hcs (c, body) List.mem_cons_self
      subst hstate
      exact call_contract c body h b active.toReached
    · exact callEach_contract fun d hd => hcs d (List.mem_cons_of_mem _ hd)

theorem report_contract {s : State} {e : Event S} (he : e.isQuiet = true) :
    Contract (Active s) (report e) fun _ => Active s := by
  refine .of_run (g := fun _ => [e]) (fun b => rfl) fun h b active => active.append ?_ rfl rfl
  exact fun x hx => List.mem_singleton.1 hx ▸ he

/-- Reading or taking registrations keeps a build active. -/
theorem reading_contract {s : State} {m : Attempt S α} {a : Builder S → α}
    {c : Builder S → Builder S} (hrun : ∀ b, m.run b = ⟨.ok (a b), [], c b⟩)
    (hstate : ∀ b, (c b).state = b.state) (hobject : ∀ b, (c b).object = b.object) :
    Contract (Active s) m fun _ => Active s :=
  .of_run hrun fun _ b active =>
    active.append (fun _ he => absurd he List.not_mem_nil) (hstate b) (hobject b)

section Stages

variable (l : Lifecycle S)

theorem opening_contract :
    Contract (Reached .unbuilt) (opening l) fun _ => Active .initializing :=
  .bind (move_contract rfl) fun _ => call_contract .beforeInit l.beforeInit

theorem initEach_contract (rs : List (Registration S.Configurer)) :
    Contract (Active .initializing) (initEach l rs) fun _ => Active .initializing := by
  rw [initEach_eq]
  refine callEach_contract fun c hc => ?_
  obtain ⟨r, -, rfl⟩ := List.mem_map.1 hc
  rfl

theorem firstPass_contract :
    Contract (Active .initializing) (firstPass l) fun _ => Active .initializing := by
  refine .bind (reading_contract (fun b => rfl) (fun _ => rfl) fun _ => rfl) fun first => ?_
  exact .bind (report_contract rfl) fun _ => initEach_contract l first

theorem announceLate_contract (rs : List (Registration S.Configurer)) :
    Contract (S := S) (Active .initializing) (announceLate rs) fun _ => Active .initializing := by
  unfold announceLate
  split
  · exact report_contract rfl
  · exact .pure ()

theorem refuseLate_contract :
    Contract (S := S) (Active .initializing) refuseLate fun _ => Active .initializing := by
  refine .bind (reading_contract (fun b => rfl) (fun _ => rfl) fun _ => rfl) fun due => ?_
  cases due with
  | nil => exact .pure ()
  | cons extra rest =>
    -- this is the only error that a build raises itself
    intro h b active
    refine ⟨fun a ha => absurd ha (by intro ha; cases ha), fun e he => ?_⟩
    obtain rfl := Except.error.inj he
    refine Active.aborted (s := .initializing) ?_ (.inr ⟨S.kind extra.configurer, rfl⟩)
    exact active.append (fun _ he => absurd he List.not_mem_nil) rfl rfl

theorem latePass_contract :
    Contract (Active .initializing) (latePass l) fun _ => Active .initializing := by
  refine .bind (reading_contract takeLate_run (fun _ => rfl) fun _ => rfl) fun late => ?_
  refine .bind (announceLate_contract late) fun _ => ?_
  exact .bind (initEach_contract l late) fun _ => refuseLate_contract

theorem turning_contract :
    Contract (Active .initializing) (turning l) fun _ => Active .configuring := by
  refine .bind (Q := fun _ => Reached .configuring) ?_ fun _ => call_contract .beforeConfigure _
  exact fun h b active => move_contract rfl h b active.toReached

theorem configureConfigurers_contract :
    Contract (Active .configuring) (configureConfigurers l) fun _ => Active .configuring := by
  refine .bind (reading_contract (fun b => rfl) (fun _ => rfl) fun _ => rfl) fun all => ?_
  refine .bind (report_contract rfl) fun _ => ?_
  rw [configureEach_eq]
  refine callEach_contract fun c hc => ?_
  obtain ⟨r, -, rfl⟩ := List.mem_map.1 hc
  rfl

theorem production_contract :
    Contract (Active .configuring) (production l) Finished := by
  refine .bind (Q := fun _ => Reached .building) ?_ fun _ => ?_
  · exact fun h b active => move_contract rfl h b active.toReached
  refine .bind (call_contract .performBuild l.performBuild) fun o => ?_
  -- the object is kept in the building state, from which the last move is not refused
  intro h b active
  rw [conclude_run o active.state_eq]
  refine ⟨fun p hp => ?_, fun e he => absurd he (by simp)⟩
  obtain rfl := Except.ok.inj hp
  exact ⟨rfl, active.charted.moved rfl, rfl⟩

/-- A build that runs answers with the object that the builder keeps, or aborts. -/
theorem runLifecycle_contract : Contract (Reached .unbuilt) (runLifecycle l) Finished := by
  rw [runLifecycle_eq_stages]
  refine .bind (opening_contract l) fun _ => .bind (firstPass_contract l) fun _ => ?_
  refine .bind (latePass_contract l) fun _ => .bind (turning_contract l) fun _ => ?_
  exact .bind (configureConfigurers_contract l) fun _ => production_contract l

end Stages

end Builder

end AuthChain.Build
