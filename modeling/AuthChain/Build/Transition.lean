import AuthChain.Error

/-!
# Transitions

Moving from one state of a build to the next. Main statement: a transition succeeds exactly when its
pair of states may follow each other (`State.transition_eq_ok_iff`).
-/

namespace AuthChain.Build.State

/-- Move to another state, or fail because it may not follow. -/
def transition (before after : State) : Except IllegalState State :=
  if before.canTransition after then .ok after else .error (.badTransition before after)

theorem transition_eq_ok_iff (before after s : State) :
    before.transition after = .ok s ↔ before.canTransition after = true ∧ s = after := by
  unfold transition
  split
  · next h => simp only [h, Except.ok.injEq, true_and]; exact eq_comm
  · next h => simp only [h, reduceCtorEq, Bool.false_eq_true, false_and]

end AuthChain.Build.State
