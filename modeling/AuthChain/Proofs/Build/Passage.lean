import AuthChain.Proofs.Build.Usage

/-!
# Passages

Everything that can happen to a builder, in a build and outside of one, taken one turn at a time
(`Turn`). A passage is made of such turns, with the events that they leave.

Main statements: an attempt of a build travels, that is, it makes a passage whether it answers or
fails (`Builder.travels_runLifecycle`), and so do the operations of a caller
(`Builder.after_passage`). What every turn keeps of a history and its builder is therefore kept by
every use of a builder, at each moment of its builds (`Passage.invariant`).
-/

namespace AuthChain.Build

variable {S : Signature} {α β : Type}

/-- One turn of a builder with the events that it leaves. -/
inductive Turn : Builder S → List (Event S) → Builder S → Prop
  | step {a b : Builder S} {e : List (Event S)} : Step a e b → Turn a e b
  | move (b : Builder S) (s : State) :
      b.state.canTransition s = true → Turn b [.moved b.state s] { b with state := s }
  /-- The late pass takes the due registrations. -/
  | take (b : Builder S) : Turn b [] { b with late := [] }
  /-- The object of the build is kept. -/
  | keep (b : Builder S) (p : Produced S.Object) (n : Nat) :
      Turn b [] { b with object := some p, nextObject := n }
  | process (b : Builder S) (ps : PostProcessors S.Value) : Turn b [] (b.withPostProcessors ps)

/-- Turns one after the other, with all their events. -/
inductive Passage : Builder S → List (Event S) → Builder S → Prop
  | refl (b : Builder S) : Passage b [] b
  | head {a b c : Builder S} {e h : List (Event S)} :
      Turn a e b → Passage b h c → Passage a (e ++ h) c

namespace Passage

theorem single {a b : Builder S} {e : List (Event S)} (h : Turn a e b) : Passage a e b := by
  have passage := head h (refl b)
  rwa [List.append_nil] at passage

theorem trans {a b c : Builder S} {g h : List (Event S)} (first : Passage a g b)
    (second : Passage b h c) : Passage a (g ++ h) c := by
  induction first with
  | refl => exact second
  | head turn _ ih =>
    rw [List.append_assoc]
    exact head turn (ih second)

theorem of_path {a b : Builder S} {h : List (Event S)} (path : Path a h b) : Passage a h b := by
  induction path with
  | refl b => exact refl b
  | head step _ ih => exact head (.step step) ih

/-- Events that tell of nothing that happened to the builder. -/
theorem of_plain (b : Builder S) {told : List (Event S)} (h : ∀ e ∈ told, e.isPlain = true) :
    Passage b told b := by
  induction told with
  | nil => exact refl b
  | cons e rest ih =>
    have first := h e List.mem_cons_self
    exact head (.step (.tell b e first)) (ih fun x hx => h x (List.mem_cons_of_mem _ hx))

/-- What every turn keeps of a history and its builder, a passage keeps. -/
theorem invariant {P : List (Event S) → Builder S → Prop}
    (keeps : ∀ {h e : List (Event S)} {b c : Builder S}, P h b → Turn b e c → P (h ++ e) c)
    {a b : Builder S} {g : List (Event S)} (passage : Passage a g b) :
    ∀ {h : List (Event S)}, P h a → P (h ++ g) b := by
  induction passage with
  | refl =>
    intro h hp
    rwa [List.append_nil]
  | head turn _ ih =>
    intro h hp
    rw [← List.append_assoc]
    exact ih (keeps hp turn)

end Passage

/-! ## Attempts -/

/-- The attempt makes a passage, whether it answers or fails. -/
def Attempt.Travels (m : Attempt S α) : Prop :=
  ∀ b : Builder S, Passage b (m.run b).events (m.run b).state

namespace Attempt.Travels

theorem of_path {m : Attempt S α}
    (path : ∀ b : Builder S, Path b (m.run b).events (m.run b).state) : Travels m :=
  fun b => .of_path (path b)

theorem pure (a : α) : Travels (Pure.pure a : Attempt S α) :=
  fun b => .refl b

theorem bind {m : Attempt S α} {f : α → Attempt S β} (first : Travels m)
    (second : ∀ a, Travels (f a)) : Travels (m >>= f) := by
  intro b
  cases hm : (m.run b).answer with
  | error e =>
    rw [run_bind_error hm]
    exact first b
  | ok a =>
    rw [run_bind_ok hm]
    exact (first b).trans (second a _)

end Attempt.Travels

namespace Builder

open Attempt (Travels)

theorem travels_move (s : State) : Travels (move s : Attempt S Unit) := by
  intro b
  cases ht : b.state.canTransition s with
  | true =>
    rw [move_run ht]
    exact .single (.move b s ht)
  | false =>
    rw [move_run_refused ht]
    exact .refl b

theorem travels_keep (o : S.Object) : Travels (keep o) :=
  fun b => .single (.keep b _ _)

section Stages

variable (l : Lifecycle S)

theorem travels_opening : Travels (opening l) :=
  .bind (travels_move _) fun _ => .of_path (call_path _ _)

theorem travels_firstPass : Travels (firstPass l) :=
  .of_path (firstPass_path l)

theorem travels_latePass : Travels (latePass l) :=
  fun b => (Passage.single (.take b)).trans (.of_path (latePass_path l b))

theorem travels_turning : Travels (turning l) :=
  .bind (travels_move _) fun _ => .of_path (call_path _ _)

theorem travels_configureConfigurers : Travels (configureConfigurers l) :=
  .of_path (configureConfigurers_path l)

theorem travels_production : Travels (production l) := by
  refine .bind (travels_move _) fun _ => .bind (.of_path (call_path _ _)) fun o => ?_
  exact .bind (travels_keep o) fun p => .bind (travels_move _) fun _ => .pure p

/-- A build makes a passage, however it ends. -/
theorem travels_runLifecycle : Travels (runLifecycle l) := by
  rw [runLifecycle_eq_stages]
  refine .bind (travels_opening l) fun _ => .bind (travels_firstPass l) fun _ => ?_
  refine .bind (travels_latePass l) fun _ => .bind (travels_turning l) fun _ => ?_
  exact .bind (travels_configureConfigurers l) fun _ => travels_production l

end Stages

/-! ## Operations -/

theorem build_passage (l : Lifecycle S) (b : Builder S) :
    Passage b ((build l).run b).events ((build l).run b).state := by
  by_cases hb : b.state = .unbuilt
  · rw [build_run_unbuilt l hb]
    exact travels_runLifecycle l b
  · obtain ⟨hevents, hstate⟩ := build_run_begun l hb
    rw [hevents, hstate]
    exact .refl b

theorem getOrBuild_passage (l : Lifecycle S) (b : Builder S) :
    Passage b (getOrBuild l b).events (getOrBuild l b).state := by
  obtain ⟨hstate, told, hevents, htold⟩ := getOrBuild_apply l b
  rw [hstate, hevents]
  refine (build_passage l b).trans (.of_plain _ fun e he => ?_)
  rcases htold e he with ⟨s, rfl⟩ | ⟨error, rfl⟩
  · rfl
  · rfl

theorem step_passage (b : Builder S) (op : Operation S) : Passage b (b.events op) (b.step op) := by
  cases op with
  | register c => exact .of_path (register_path c b)
  | removeConfigurers kind => exact .of_path (removeConfigurers_path kind b)
  | removeConfigurer kind => exact .of_path (removeConfigurer_path kind b)
  | setShared u v => exact .single (.step (.share b u v))
  | withTarget t => exact .single (.step (.fill b t))
  | withPostProcessors ps => exact .single (.process b ps)
  | addPostProcessor p => exact .single (.process b (b.postProcessors.add p))
  | surround w => exact .single (.step (.surround b w))
  | build l => exact build_passage l b
  | getOrBuild l => exact getOrBuild_passage l b

/-- The operations of a caller make a passage with their history. -/
theorem after_passage (b : Builder S) (ops : List (Operation S)) :
    Passage b (b.history ops) (b.after ops) := by
  induction ops generalizing b with
  | nil => exact .refl b
  | cons op rest ih => exact (step_passage b op).trans (ih (b.step op))

end Builder

end AuthChain.Build
