import AiProtocol.Dispatcher.Replies
import AiProtocol.Library.Ledger

/-!
# Permits of the gate

Permits are tickets: issued by `Gate::acquire`, handed from the executor to an HTTP task, and
redeemed when they are dropped.  The gate counts those in circulation.
-/

namespace AiProtocol

namespace Dispatcher

/-- A run of the dispatcher over any transport. -/
abbrev Run (settings : Settings) := Labelled.Execution (Step settings)

/-- A permit of the gate. -/
inductive Permit where
  /-- The executor holds it. -/
  | executor
  /-- The transport works on an attempt. -/
  | sending (attempt : AttemptId)
  /-- The transport returned from an attempt. -/
  | returned (attempt : AttemptId)
  deriving DecidableEq

/-- The permit of the executor. -/
def Executor.permit : Executor → Option Permit
  | .granted _ | .checked _ | .declined => some .executor
  | _ => none

/-- The permit of an HTTP task. -/
def HttpTask.permit (task : HttpTask) : Option Permit :=
  match task.stage with
  | .sending => some (.sending task.attempt.id)
  | .returned _ | .marked _ => some (.returned task.attempt.id)
  | .released _ => none

/-- The permits in circulation. -/
def permits (dispatcher : Dispatcher) : List Permit :=
  dispatcher.executor.permit.toList ++ dispatcher.running.filterMap HttpTask.permit

/-- The movement of permits in a step. -/
def Event.permitMovement : Event → Ledger.Movement Permit
  | .acquire _ => .issue .executor
  | .yield => .redeem .executor
  | .begin attempt =>
      { issued := [.sending attempt.id]
        redeemed := [.executor] }
  | .return attempt _ =>
      { issued := [.returned attempt.id]
        redeemed := [.sending attempt.id] }
  | .release attempt => .redeem (.returned attempt.id)
  | _ => .none

variable {settings : Settings} {before after dispatcher : Dispatcher} {event : Event}
  {trace : List Event}

@[simp] theorem resume_gate (request : RequestId) (number : Nat) (result : Result) :
    (dispatcher.resume request number result).gate = dispatcher.gate := by
  unfold Dispatcher.resume
  split
  · rfl
  · split <;> rfl

@[simp] theorem resume_executor (request : RequestId) (number : Nat) (result : Result) :
    (dispatcher.resume request number result).executor = dispatcher.executor := by
  unfold Dispatcher.resume
  split
  · rfl
  · split <;> rfl

@[simp] theorem resume_running (request : RequestId) (number : Nat) (result : Result) :
    (dispatcher.resume request number result).running = dispatcher.running := by
  unfold Dispatcher.resume
  split
  · rfl
  · split <;> rfl

@[simp] theorem resume_queue (request : RequestId) (number : Nat) (result : Result) :
    (dispatcher.resume request number result).queue = dispatcher.queue := by
  unfold Dispatcher.resume
  split
  · rfl
  · split <;> rfl

theorem filterMap_permit (task : HttpTask) (back : List HttpTask) :
    (task :: back).filterMap HttpTask.permit =
      task.permit.toList ++ back.filterMap HttpTask.permit := by
  cases held : task.permit with
  | none => rw [List.filterMap_cons_none held]; rfl
  | some permit => rw [List.filterMap_cons_some held]; rfl

/-- Permits of other tasks stay when one HTTP task goes on. -/
theorem Moves.task {front back : List HttpTask} {task task' : HttpTask} {movement}
    (own : Ledger.Moves task.permit.toList movement task'.permit.toList)
    (running : before.running = front ++ task :: back)
    (running' : after.running = front ++ task' :: back)
    (executor : after.executor = before.executor) :
    Ledger.Moves before.permits movement after.permits := by
  rw [Ledger.moves_iff_count] at own ⊢
  intro permit
  have moved := own permit
  rw [permits, permits, running, running', executor]
  simp only [List.filterMap_append, filterMap_permit, List.count_append]
  omega

theorem moves_step (step : Step settings before event after) :
    Ledger.Moves before.permits event.permitMovement after.permits := by
  have still : ∀ {after : Dispatcher}, after.executor.permit = before.executor.permit →
      after.running = before.running → Ledger.Moves before.permits .none after.permits := by
    intro after executor running
    rw [permits, permits, executor, running]
    exact .refl _
  cases step with
  | receive holder number result awaiting sent => exact still (by simp) (by simp)
  | take attempt rest idle next => exact still (by rw [idle]; rfl) rfl
  | skip attempt waiting closed => exact still (by rw [waiting]; rfl) rfl
  | overdue attempt waiting due => exact still (by rw [waiting]; rfl) rfl
  | halt attempt error waiting stopped => exact still (by rw [waiting]; rfl) rfl
  | check attempt granted isOpen => exact still (by rw [granted]; rfl) rfl
  | declineClosed attempt granted closed => exact still (by rw [granted]; rfl) rfl
  | decline attempt checked refused => exact still (by rw [checked]; rfl) rfl
  | acquire attempt gate waiting acquired =>
      rw [permits, waiting]
      exact .refl _
  | yield declined =>
      rw [permits, declined]
      exact .refl _
  | begin attempt progress checked begun =>
      rw [permits, permits, checked, List.filterMap_append]
      rw [Ledger.moves_iff_count]
      intro permit
      simp only [Event.permitMovement, Executor.permit, filterMap_permit, HttpTask.permit,
        Option.toList, List.filterMap_nil, List.count_append, List.count_nil]
      omega
  | «return» front back attempt result sending =>
      refine Moves.task ?_ sending rfl rfl
      exact List.Perm.swap _ _ _
  | mark front back attempt result returned =>
      refine Moves.task ?_ returned rfl rfl
      exact .refl _
  | release front back attempt result marked =>
      refine Moves.task ?_ marked rfl rfl
      exact .refl _
  | reply front back attempt result released =>
      rw [permits, permits, released]
      simp only [List.filterMap_append, filterMap_permit]
      exact .refl _
  | close done =>
      refine still ?_ rfl
      rcases done with ⟨closing, -⟩ | ⟨-, -, idle | closing⟩
      · rw [closing]; rfl
      · rw [idle]; rfl
      · rw [closing]; rfl
  | _ => exact still rfl rfl

/-- The gate counts the permits in circulation. -/
theorem counts_step (counts : before.gate.active = before.permits.length)
    (step : Step settings before event after) :
    after.gate.active = after.permits.length := by
  have moved := (moves_step step).length_eq
  rw [List.length_append, List.length_append] at moved
  cases step with
  | policy policy gate applied =>
      rw [(Gate.apply_eq_ok applied).2.1]
      exact counts
  | acquire attempt gate waiting acquired =>
      obtain ⟨-, rfl⟩ := Gate.acquire_eq_ok acquired
      simp [Event.permitMovement] at moved ⊢
      omega
  | yield declined =>
      simp [Event.permitMovement, Gate.release] at moved ⊢
      omega
  | release front back attempt result marked =>
      simp [Event.permitMovement, Gate.release] at moved ⊢
      omega
  | receive holder number result awaiting sent =>
      simp [Event.permitMovement] at moved ⊢
      omega
  | _ =>
      simp [Event.permitMovement, Gate.pause, Gate.stop, Dispatcher.fail] at moved ⊢
      omega

/-- In every state the gate counts the permits in circulation. -/
theorem counts_run (run : Run settings start trace dispatcher) :
    dispatcher.gate.active = dispatcher.permits.length :=
  run.invariant (fun dispatcher => dispatcher.gate.active = dispatcher.permits.length) counts_step
    rfl

end Dispatcher

end AiProtocol
