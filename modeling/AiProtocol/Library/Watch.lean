import Mathlib.Data.List.Basic
import AiProtocol.Library.Execution

/-!
# Watched states

A state behind a lock and a channel with a version.  Who changes the state signals after the lock is
released; who waits remembers the version it saw before it looked at the state.  Then nobody who saw
the current version waits for a state which is enabled, unless a signal is still due.
-/

/-- A state with its channel. -/
structure Watched (State : Type*) where
  /-- What the lock guards. -/
  state : State
  /-- Signals so far. -/
  version : Nat
  /-- Changes whose signal is due. -/
  due : Nat
  /-- The versions seen by those who wait. -/
  waiting : List Nat

namespace Watched

variable {State : Type*}

/-- What happens to a watched state. -/
inductive Event where
  | change
  | signal
  | wait
  | leave

/-- One step of a watched state. -/
inductive Step (enabled : State → Prop) : Watched State → Event → Watched State → Prop
  | change (watched : Watched State) (state : State) :
      Step enabled watched .change { watched with state, due := watched.due + 1 }
  | signal (watched : Watched State) (due : Nat) (unsignalled : watched.due = due + 1) :
      Step enabled watched .signal { watched with version := watched.version + 1, due }
  | wait (watched : Watched State) (front back : List Nat) (seen : Nat)
      (known : seen ≤ watched.version) (disabled : ¬enabled watched.state)
      (split : watched.waiting = front ++ back) :
      Step enabled watched .wait { watched with waiting := front ++ seen :: back }
  | leave (watched : Watched State) (front back : List Nat) (seen : Nat)
      (split : watched.waiting = front ++ seen :: back) :
      Step enabled watched .leave { watched with waiting := front ++ back }

/-- Nobody misses a signal. -/
structure Attentive (enabled : State → Prop) (watched : Watched State) : Prop where
  /-- Versions are seen after they were reached. -/
  known : ∀ seen ∈ watched.waiting, seen ≤ watched.version
  /-- Who saw the last signal waits for a state which is not enabled, or for a signal which is due.
  -/
  alert : watched.version ∈ watched.waiting → enabled watched.state → 0 < watched.due

variable {enabled : State → Prop} {before after watched : Watched State} {event : Event}

theorem Attentive.step (attentive : Attentive enabled before)
    (step : Step enabled before event after) :
    Attentive enabled after := by
  obtain ⟨known, alert⟩ := attentive
  cases step with
  | change state => exact ⟨known, fun _ _ => Nat.succ_pos _⟩
  | signal due unsignalled =>
      constructor
      · intro seen member
        exact Nat.le_succ_of_le (known seen member)
      · intro member
        exact absurd (known _ member) (Nat.not_succ_le_self _)
  | wait front back seen small disabled split =>
      constructor
      · intro other member
        rcases List.mem_append.mp member with early | here
        · exact known other (split ▸ List.mem_append_left _ early)
        · rcases List.mem_cons.mp here with rfl | late
          · exact small
          · exact known other (split ▸ List.mem_append_right _ late)
      · intro _ ready
        exact absurd ready disabled
  | leave front back seen split =>
      have kept : ∀ other ∈ front ++ back, other ∈ before.waiting := by
        intro other member
        rw [split]
        rcases List.mem_append.mp member with early | late
        · exact List.mem_append_left _ early
        · exact List.mem_append_right _ (List.mem_cons_of_mem _ late)
      constructor
      · intro other member
        exact known other (kept other member)
      · intro member
        exact alert (kept _ member)

theorem attentive_run {trace : List Event}
    (run : Labelled.Execution (Step enabled) before trace watched)
    (initial : Attentive enabled before) : Attentive enabled watched :=
  run.invariant (Attentive enabled) Attentive.step initial

end Watched
