import AiProtocol.Gateway.Custody
import AiProtocol.Gateway.Callers

/-!
# Budget accounting

Permits are tickets: issued by `try_acquire_observed`, redeemed when a permit is dropped, and held
in between by a waiting job, by an execution or by the holder of the queue lock.  Every counter
follows the movements on its own account, so that it always counts the permits held on it.
-/

namespace AiProtocol

/-- A permit: the request which took it and the budget it was taken from. -/
abbrev Ticket := ReplyId × BudgetRef

/-- The permit of a job. -/
def Job.ticket {Action : Type} (job : Job Action) : Ticket :=
  (job.reply, job.permit)

/-- The permit dropped by an action. -/
def Effect.ticket : Effect → Option Ticket
  | .discard reply permit => some (reply, permit)
  | .release reply permit => some (reply, permit)
  | .answer _ _ => none

/-- The permit of an execution. -/
def Execution.ticket {Action : Type} (execution : Execution Action) : Option Ticket :=
  match execution.progress with
  | .running | .done _ => some (execution.reply, execution.permit)
  | .released _ | .finished => none

/-- The custody of permits. -/
def permits (Action : Type) : Custody Action Ticket where
  ofJob := Job.ticket
  ofEffect := Effect.ticket
  discard _ := rfl
  expiry _ := rfl
  rejection _ := rfl
  ofExecution := Execution.ticket
  finished execution joined := by
    cases progress : execution.progress <;>
      simp [Execution.isFinished, Execution.ticket, progress] at joined ⊢

/-- The movement of permits in a step. -/
def Event.permitMovement {Action : Type} : Event Action → Ledger.Movement Ticket
  | .acquire call budget => .issue (call, budget)
  | .perform (.discard reply permit) => .redeem (reply, permit)
  | .perform (.release reply permit) => .redeem (reply, permit)
  | .giveBack execution => .redeem (execution.reply, execution.permit)
  | _ => .none

namespace Gateway

variable {Action : Type}

/-- The permits in circulation. -/
def held (gateway : Gateway Action) : List Ticket :=
  (permits Action).held gateway

/-- Waiting jobs which hold a permit of a budget. -/
def queuedOn (budget : BudgetRef) (gateway : Gateway Action) : Nat :=
  gateway.queues.jobs.countP fun job => job.permit = budget

/-- Spawned executions which still hold a permit of a budget. -/
def executingOn (budget : BudgetRef) (gateway : Gateway Action) : Nat :=
  gateway.running.countP fun execution =>
    execution.ticket.isSome && execution.permit = budget

/-- Permits of a budget which the holder of the queue lock has in hand or is about to drop. -/
def inHandOn (budget : BudgetRef) (gateway : Gateway Action) : Nat :=
  ((permits Action).inHand gateway).countP fun ticket => ticket.2 = budget

private theorem countP_executing (budget : BudgetRef) (running : List (Execution Action)) :
    (running.filterMap Execution.ticket).countP (fun ticket => ticket.2 = budget) =
      running.countP fun execution => execution.ticket.isSome && execution.permit = budget := by
  induction running with
  | nil => rfl
  | cons execution running induction =>
      cases progress : execution.progress <;>
        simp [Execution.ticket, progress, List.countP_cons, induction]

private theorem countP_held (budget : BudgetRef) (gateway : Gateway Action) :
    gateway.held.countP (fun ticket => ticket.2 = budget) =
      gateway.queuedOn budget + gateway.executingOn budget + gateway.inHandOn budget := by
  rw [held, Custody.held, List.countP_append, List.countP_append, Custody.queued, List.countP_map,
    Custody.executing]
  exact congrArg (_ + · + _) (countP_executing budget gateway.running)

theorem permits_step {config : Config Action} {before after : Gateway Action}
    {event : Event Action} (idle : before.Idle) (step : Step config before event after) :
    Ledger.Moves before.held event.permitMovement after.held := by
  have moves := (permits Action).moves_step idle step
  rw [Ledger.moves_iff_count] at moves ⊢
  intro ticket
  have moved : ((permits Action).movement event).issued.count ticket +
      before.held.count ticket =
        ((permits Action).movement event).redeemed.count ticket + after.held.count ticket :=
    moves ticket
  cases step with
  | push call identity action observed job holds idle room accepted =>
      have same : (permits Action).ofJob job = (call, job.permit) := by rw [accepted]; rfl
      have exchanged : (permits Action).ofEffect (.release call job.permit) =
          some (call, job.permit) := rfl
      simp only [Custody.movement, Event.permitMovement, same, exchanged, Option.toList_some,
        Ledger.Movement.issued_none, Ledger.Movement.redeemed_none, List.count_nil] at moved ⊢
      omega
  | spawn job =>
      have same : (permits Action).ofJob job = job.ticket := rfl
      have exchanged : (permits Action).ofExecution (.spawned job) = some job.ticket := rfl
      simp only [Custody.movement, Event.permitMovement, same, exchanged, Option.toList_some,
        Ledger.Movement.issued_none, Ledger.Movement.redeemed_none, List.count_nil] at moved ⊢
      omega
  | complete front back execution response spawned progress =>
      have kept : (permits Action).ofExecution execution =
          (permits Action).ofExecution { execution with progress := .done (some response) } := by
        simp [permits, Execution.ticket, progress]
      simp only [Custody.movement, Event.permitMovement, kept, Ledger.Movement.issued_none,
        Ledger.Movement.redeemed_none, List.count_nil] at moved ⊢
      omega
  | fail front back execution spawned progress =>
      have kept : (permits Action).ofExecution execution =
          (permits Action).ofExecution { execution with progress := .done none } := by
        simp [permits, Execution.ticket, progress]
      simp only [Custody.movement, Event.permitMovement, kept, Ledger.Movement.issued_none,
        Ledger.Movement.redeemed_none, List.count_nil] at moved ⊢
      omega
  | giveBack front back execution response spawned progress =>
      simpa [Custody.movement, Event.permitMovement, permits, Execution.ticket, progress] using
        moved
  | send front back execution response spawned progress =>
      simpa [Custody.movement, Event.permitMovement, permits, Execution.ticket, progress] using
        moved
  | hangUp front back execution spawned progress =>
      simpa [Custody.movement, Event.permitMovement, permits, Execution.ticket, progress] using
        moved
  | perform effect => cases effect <;> exact moved
  | _ => exact moved

/-- The counter of every budget counts its permits. -/
def Balanced (gateway : Gateway Action) : Prop :=
  ∀ budget, (gateway.budgets budget).outstanding =
    gateway.held.countP fun ticket => ticket.2 = budget

theorem follows_release {gateway : Gateway Action} (balanced : gateway.Balanced)
    {ticket : Ticket} (owned : ticket ∈ gateway.held) (budget : BudgetRef) :
    Ledger.Follows (fun ticket => decide (ticket.2 = budget))
      (gateway.budgets budget).outstanding (.redeem ticket)
        (gateway.budgets.release ticket.2 budget).outstanding := by
  have positive : 1 ≤ (gateway.budgets ticket.2).outstanding := by
    rw [balanced ticket.2]
    exact List.countP_pos_iff.mpr ⟨ticket, owned, by simp⟩
  by_cases same : ticket.2 = budget
  · subst same
    simp [Ledger.Follows, Budgets.release]
    omega
  · have other : budget ≠ ticket.2 := fun equal => same equal.symm
    simp [Ledger.Follows, Budgets.release, Function.update_of_ne other, same]

theorem follows_step {config : Config Action} {before after : Gateway Action}
    {event : Event Action} (idle : before.Idle) (balanced : before.Balanced)
    (step : Step config before event after) (budget : BudgetRef) :
    Ledger.Follows (fun ticket => decide (ticket.2 = budget))
      (before.budgets budget).outstanding event.permitMovement
        (after.budgets budget).outstanding := by
  have moves := permits_step idle step
  cases step with
  | resize resized maximum =>
      by_cases same : budget = resized
      · subst same
        simp [Ledger.Follows, Event.permitMovement, Budgets.resize]
      · simp [Ledger.Follows, Event.permitMovement, Budgets.resize, Function.update_of_ne same]
  | acquire call identity action observed holds idle room =>
      obtain ⟨_, rfl⟩ := Snapshot.tryAcquireObserved_eq_some.mp room
      by_cases same : budget = identity.budget
      · subst same
        simp [Ledger.Follows, Event.permitMovement, Nat.add_comm]
      · have other : identity.budget ≠ budget := fun equal => same equal.symm
        simp [Ledger.Follows, Event.permitMovement, Function.update_of_ne same, other]
  | perform effect =>
      cases effect with
      | discard reply permit => exact follows_release balanced moves.mem_of_redeem budget
      | release reply permit => exact follows_release balanced moves.mem_of_redeem budget
      | answer => simp [Ledger.Follows, Event.permitMovement, perform]
  | giveBack => exact follows_release balanced moves.mem_of_redeem budget
  | _ => simp [Ledger.Follows, Event.permitMovement, move]

theorem balanced_run {config : Config Action} {gateway : Gateway Action}
    {trace : List (Event Action)} (run : Run config (start config) trace gateway) :
    gateway.Balanced := by
  refine run.invariantTrace (fun _ gateway => gateway.Balanced) (fun _ => rfl) ?_
  intro trace before after event earlier balanced step budget
  have idle := idle_run earlier
  exact (follows_step idle balanced step budget).counts (permits_step idle step) (balanced budget)

theorem outstanding_run {config : Config Action} {gateway : Gateway Action}
    {trace : List (Event Action)} (run : Run config (start config) trace gateway)
    (budget : BudgetRef) :
    (gateway.budgets budget).outstanding =
      gateway.queuedOn budget + gateway.executingOn budget + gateway.inHandOn budget :=
  (balanced_run run budget).trans (countP_held budget gateway)

theorem issued_permits (trace : List (Event Action)) (call : ReplyId) (budget : BudgetRef) :
    (Ledger.issued Event.permitMovement trace).count (call, budget) ≤
      trace.countP (Event.acquires call) := by
  induction trace with
  | nil => simp [Ledger.issued]
  | cons event trace induction =>
      rw [← List.singleton_append, Ledger.issued_append, List.count_append, List.countP_append,
        Ledger.issued_single, List.countP_singleton]
      refine Nat.add_le_add ?_ induction
      cases event with
      | acquire caller taken =>
          by_cases same : caller = call
          · simp [Event.permitMovement, Event.acquires, same, List.count_le_length.trans]
          · simp [Event.permitMovement, Event.acquires, same]
      | perform effect => cases effect <;> simp [Event.permitMovement]
      | _ => simp [Event.permitMovement]

/-- Every permit a request took is still held or was dropped, and it takes at most one. -/
theorem permits_balance {config : Config Action} {gateway : Gateway Action}
    {trace : List (Event Action)} (run : Run config (start config) trace gateway)
    (call : ReplyId) (budget : BudgetRef) :
    (Ledger.issued Event.permitMovement trace).count (call, budget) =
        gateway.held.count (call, budget) +
          (Ledger.redeemed Event.permitMovement trace).count (call, budget) ∧
      (Ledger.issued Event.permitMovement trace).count (call, budget) ≤ 1 := by
  have balance := Ledger.balance held Event.permitMovement
    (fun earlier step => permits_step (idle_run earlier) step) run (· == (call, budget))
  have empty : (start config).held = [] := rfl
  rw [empty, List.countP_nil, Nat.zero_add] at balance
  exact ⟨balance, (issued_permits trace call budget).trans (acquires_once run call)⟩

/-- Budget conservation: in every reachable state each counter counts the permits of its budget,
which are held by waiting jobs and executions alone whenever the queue lock is free; every dropped
permit decrements a positive counter; and every permit taken is held once or was dropped once. -/
theorem budget_conservation {config : Config Action} {gateway : Gateway Action}
    {trace : List (Event Action)} (run : Run config (start config) trace gateway)
    (budget : BudgetRef) :
    (gateway.budgets budget).outstanding =
        gateway.queuedOn budget + gateway.executingOn budget + gateway.inHandOn budget ∧
      (gateway.lock = .free → (gateway.budgets budget).outstanding =
        gateway.queuedOn budget + gateway.executingOn budget) ∧
      (∀ event after call, Step config gateway event after →
        event.permitMovement = .redeem (call, budget) →
          (gateway.budgets budget).outstanding = (after.budgets budget).outstanding + 1) ∧
      (∀ call, (Ledger.issued Event.permitMovement trace).count (call, budget) =
          gateway.held.count (call, budget) +
            (Ledger.redeemed Event.permitMovement trace).count (call, budget) ∧
        (Ledger.issued Event.permitMovement trace).count (call, budget) ≤ 1) ∧
      (gateway.lock = .free → gateway.queuedOn budget = 0 → gateway.executingOn budget = 0 →
        (gateway.budgets budget).outstanding = 0) := by
  have idle := idle_run run
  have balanced := balanced_run run
  have total := outstanding_run run budget
  have between : gateway.lock = .free → (gateway.budgets budget).outstanding =
      gateway.queuedOn budget + gateway.executingOn budget := by
    intro free
    have none : gateway.inHandOn budget = 0 := by
      rw [inHandOn, Custody.inHand_of_free _ idle free]
      rfl
    omega
  refine ⟨total, between, ?_, fun call => permits_balance run call budget, ?_⟩
  · intro event after call step dropped
    have follows := follows_step idle balanced step budget
    rw [dropped] at follows
    simpa [Ledger.Follows, Nat.add_comm] using follows
  · intro free unqueued unexecuted
    rw [between free, unqueued, unexecuted]

/-- One admitted agent job keeps one permit outstanding. -/
theorem budget_conservation_sample :
    ∃ gateway : Gateway Unit, gateway.queuedOn 7 = 1 ∧
      (gateway.budgets 7).outstanding = gateway.queuedOn 7 + gateway.executingOn 7 := by
  have begun : Run (.arbitrary 1) (start (.arbitrary 1)) [] _ := .refl _
  have run := (((begun.tail
    (.submit _ 0 ⟨"reader", .agent, [], 7⟩ () rfl trivial nofun)).tail
    (.enter _ 0 _ _ (fun _ => false) rfl rfl rfl nofun)).tail
    (.acquire _ 0 _ _ _ rfl rfl rfl)).tail (.push _ 0 _ _ _ _ rfl rfl (by decide) rfl)
  exact ⟨_, rfl, (budget_conservation run 7).2.1 rfl⟩

end Gateway

end AiProtocol
