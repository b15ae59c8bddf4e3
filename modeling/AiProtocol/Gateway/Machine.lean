import Mathlib.Logic.Function.Basic
import AiProtocol.Library.Execution
import AiProtocol.Gateway.Settings

/-!
# The gateway

The tasks of one gateway as a labelled step relation.  The holder of the queue lock performs the
actions of its section on permits and result channels one at a time, so that every other task can
run between a released permit and the reply which follows it.  Awaiting points are the only places
where a caller can leave or the scheduler can be aborted.
-/

namespace AiProtocol

/-- The progress of one operation request. -/
inductive Call (Action : Type) where
  /-- Not seen yet. -/
  | absent
  /-- `enqueue` waits for the queue lock. -/
  | submitted (identity : ClientIdentity) (action : Action)
  /-- Inside the locked section of `enqueue`. -/
  | entered
  /-- Between unlocking and `notify_one`. -/
  | pushed
  /-- `enqueue` awaits its receiver. -/
  | waiting
  /-- The response of the handler. -/
  | answered (response : Response)
  /-- The caller vanished and took the receiver with it. -/
  | left

/-- A result channel as its receiver sees it. -/
inductive Channel where
  /-- The sender is alive. -/
  | unset
  /-- A response was sent. -/
  | sent (response : Response)
  /-- The sender was dropped. -/
  | dropped

/-- Who holds the queue lock, and how far its section is. -/
inductive Section (Action : Type) where
  | free
  /-- `enqueue` after `maintain`. -/
  | admitting (call : ReplyId) (identity : ClientIdentity) (action : Action)
  /-- `enqueue` with a permit in hand. -/
  | placing (call : ReplyId) (identity : ClientIdentity) (action : Action) (observed : Snapshot)
  /-- `enqueue` returning `queue_full`. -/
  | refusing (call : ReplyId)
  /-- The scheduler between two handoffs. -/
  | scanning
  /-- The scheduler with a selected job in hand. -/
  | handing (job : Job Action)
  /-- The scheduler after its last handoff. -/
  | drained
  /-- `reject_pending` of a dropped gateway. -/
  | rejecting
  /-- Metrics or diagnostics read the queues. -/
  | inspecting

/-- Where the scheduler task is. -/
inductive Scheduler where
  /-- At the top of its loop. -/
  | awake
  /-- Awaiting the queue lock. -/
  | reaped
  /-- Holding the queue lock. -/
  | locked
  /-- In `select!`, with the deadline of its timer. -/
  | parked (deadline : Option Nat)
  /-- Returned from `run_scheduler`. -/
  | returned
  /-- Aborted. -/
  | aborted
  deriving DecidableEq

/-- How far a spawned execution is.  No response means that it panicked or was aborted; then its
captured permit is dropped before its captured sender. -/
inductive Progress where
  | running
  /-- Before `drop(permit)`. -/
  | done (response : Option Response)
  /-- Before `reply.send`. -/
  | released (response : Option Response)
  | finished

/-- A spawned execution which was not joined yet. -/
structure Execution (Action : Type) where
  /-- Sender of the result channel. -/
  reply : ReplyId
  /-- What is executed. -/
  action : Action
  /-- The budget whose permit the execution owns. -/
  permit : BudgetRef
  /-- How far it is. -/
  progress : Progress

/-- The execution can be joined. -/
def Execution.isFinished {Action : Type} (execution : Execution Action) : Bool :=
  match execution.progress with
  | .finished => true
  | _ => false

/-- The execution a job is handed to. -/
def Execution.spawned {Action : Type} (job : Job Action) : Execution Action :=
  { reply := job.reply, action := job.action, permit := job.permit, progress := .running }

/-- How far `Gateway::drop` is. -/
inductive Disposal where
  | alive
  /-- `closing` is stored. -/
  | closed
  /-- The scheduler was asked to abort. -/
  | aborting
  /-- `try_lock` failed and the cleanup task was spawned. -/
  | deferred
  /-- `reject_pending` took the pending jobs. -/
  | cleared
  deriving DecidableEq

/-- The state of one gateway. -/
structure Gateway (Action : Type) where
  /-- `Instant::now()`. -/
  clock : Nat
  /-- The budgets behind their mutexes. -/
  budgets : Budgets
  /-- The queues behind their lock. -/
  queues : Queues Action
  /-- Admission is closed. -/
  closing : Bool
  /-- The permit stored in `notify`. -/
  notified : Bool
  /-- The pending test-only rejection. -/
  rejectOnce : Bool
  /-- The holder of the queue lock. -/
  lock : Section Action
  /-- Actions the holder of the lock still has to perform. -/
  todo : List Effect
  /-- The operation requests. -/
  calls : ReplyId → Call Action
  /-- The result channels. -/
  channels : ReplyId → Channel
  /-- The scheduler task. -/
  scheduler : Scheduler
  /-- The `JoinSet` of the scheduler. -/
  running : List (Execution Action)
  /-- The destructor of the gateway. -/
  disposal : Disposal

namespace Gateway

variable {Action : Type}

/-- A gateway right after `Gateway::start`. -/
def start (config : Config Action) : Gateway Action where
  clock := 0
  budgets budget := .new (config.maximum budget)
  queues := .default config.mode
  closing := false
  notified := false
  rejectOnce := config.rejectOnce
  lock := .free
  todo := []
  calls _ := .absent
  channels _ := .unset
  scheduler := .awake
  running := []
  disposal := .alive

/-- The receivers seen closed are those of vanished callers. -/
def Sees (gateway : Gateway Action) (closed : ReplyId → Bool) : Prop :=
  ∀ reply, closed reply → gateway.calls reply = .left

/-- Clock reads and `is_closed` tests of a `pop_next` which ends at a given time. -/
structure Observes (gateway : Gateway Action) (later : Nat)
    (observe : Nat → Queues.Observation) : Prop where
  /-- The first read follows the present. -/
  start : gateway.clock ≤ (observe 0).now
  /-- The recheck follows the scan. -/
  handoff : ∀ turn, (observe turn).now ≤ (observe turn).handoff
  /-- The next turn follows the recheck. -/
  next : ∀ turn, (observe turn).handoff ≤ (observe (turn + 1)).now
  /-- All reads precede the end. -/
  finish : ∀ turn, (observe turn).handoff ≤ later
  /-- Receivers seen closed during a scan. -/
  closed : ∀ turn, gateway.Sees (observe turn).closed
  /-- Receivers seen closed after a pop. -/
  closedAtPop : ∀ turn, gateway.Sees (observe turn).closedAtPop

/-- Perform one action of a locked section. -/
def perform (gateway : Gateway Action) : Effect → Gateway Action
  | .discard reply permit =>
      { gateway with
        budgets := gateway.budgets.release permit
        channels := Function.update gateway.channels reply .dropped }
  | .release _ permit => { gateway with budgets := gateway.budgets.release permit }
  | .answer reply response =>
      { gateway with channels := Function.update gateway.channels reply (.sent response) }

/-- A request moves on. -/
def move (gateway : Gateway Action) (call : ReplyId) (phase : Call Action) : Gateway Action :=
  { gateway with calls := Function.update gateway.calls call phase }

/-- The scheduler returns from its loop. -/
def Drained (gateway : Gateway Action) : Prop :=
  gateway.closing ∧ gateway.running = [] ∧ gateway.queues.jobs = []

end Gateway

/-- What a step of the gateway did. -/
inductive Event (Action : Type) where
  /-- Time passes. -/
  | tick (now : Nat)
  /-- `set_maximum`, with the ceiling it replaces. -/
  | resize (budget : BudgetRef) (previous maximum : Nat)
  /-- A handler calls `enqueue`. -/
  | submit (call : ReplyId) (identity : ClientIdentity) (action : Action)
  /-- A handler or `enqueue` answers without touching the queues. -/
  | respond (call : ReplyId) (response : Response)
  /-- A caller vanishes at an await. -/
  | leave (call : ReplyId)
  /-- `enqueue` finds the gateway closed. -/
  | turnAway (call : ReplyId)
  /-- `enqueue` passes its closing check and scans the queues. -/
  | enter (call : ReplyId) (closed : ReplyId → Bool) (now : Nat)
  /-- The holder of the lock performs an action. -/
  | perform (effect : Effect)
  /-- `budget_exhausted`. -/
  | exhausted (call : ReplyId)
  /-- `enqueue` takes a permit. -/
  | acquire (call : ReplyId) (budget : BudgetRef)
  /-- `enqueue` meets a full queue. -/
  | overflow (call : ReplyId)
  /-- `queue_full`. -/
  | refuse (call : ReplyId)
  /-- `push_back`, then unlock. -/
  | push (call : ReplyId) (clientClass : ClientClass) (job : Job Action)
  /-- `notify_one` by `enqueue`. -/
  | notify (call : ReplyId)
  /-- `enqueue` receives a reply. -/
  | receive (call : ReplyId) (response : Response)
  /-- `enqueue` learns that its sender is gone. -/
  | lose (call : ReplyId)
  /-- `try_join_next` until nothing is finished. -/
  | reap
  /-- The scheduler locks and scans the queues. -/
  | scan (closed : ReplyId → Bool) (now : Nat)
  /-- `pop_next`. -/
  | pop (observe : Nat → Queues.Observation) (popped : Queues.Popped Action)
  /-- All executors are taken. -/
  | saturated
  /-- `execute(action)` and `running.spawn`. -/
  | spawn (job : Job Action)
  /-- `run_scheduler` returns. -/
  | finish
  /-- The scheduler unlocks and enters `select!`. -/
  | park
  /-- `notified()` wins. -/
  | wakeNotified
  /-- `join_next()` wins. -/
  | wakeJoined (execution : Execution Action)
  /-- `sleep_until` wins. -/
  | wakeTimer
  /-- An execution produces its response. -/
  | complete (execution : Execution Action) (response : Response)
  /-- An execution panics or is aborted. -/
  | fail (execution : Execution Action)
  /-- An execution drops its permit. -/
  | giveBack (execution : Execution Action)
  /-- An execution sends its response. -/
  | send (execution : Execution Action) (response : Response)
  /-- An execution drops its sender. -/
  | hangUp (execution : Execution Action)
  /-- `Gateway::close`. -/
  | close
  /-- `Gateway::drop` stores `closing`. -/
  | drop
  /-- `Gateway::drop` aborts the scheduler. -/
  | abort
  /-- `reject_pending`. -/
  | reject
  /-- `try_lock` fails. -/
  | defer
  /-- The abort reaches the scheduler. -/
  | cancel
  /-- Another reader takes the lock. -/
  | inspect
  /-- `reject_pending` or another reader unlocks. -/
  | unlock

open Gateway in
/-- One step of the gateway. -/
inductive Step {Action : Type} (config : Config Action) :
    Gateway Action → Event Action → Gateway Action → Prop
  | tick (gateway : Gateway Action) (now : Nat) (later : gateway.clock ≤ now) :
      Step config gateway (.tick now) { gateway with clock := now }
  | resize (gateway : Gateway Action) (budget : BudgetRef) (maximum : Nat) :
      Step config gateway (.resize budget (gateway.budgets budget).maximum maximum)
        { gateway with budgets := gateway.budgets.resize budget maximum }
  | submit (gateway : Gateway Action) (call : ReplyId) (identity : ClientIdentity)
      (action : Action) (fresh : gateway.calls call = .absent)
      (decided : config.decides (.enqueue identity action))
      (passed : ¬(identity.clientClass = .agent ∧ gateway.rejectOnce)) :
      Step config gateway (.submit call identity action)
        (gateway.move call (.submitted identity action))
  | refuseTest (gateway : Gateway Action) (call : ReplyId) (identity : ClientIdentity)
      (action : Action) (fresh : gateway.calls call = .absent)
      (decided : config.decides (.enqueue identity action))
      (rejected : identity.clientClass = .agent ∧ gateway.rejectOnce) :
      Step config gateway (.respond call (overloaded "test_rejection" "2"))
        { gateway.move call (.answered (overloaded "test_rejection" "2")) with
          rejectOnce := false }
  | respond (gateway : Gateway Action) (call : ReplyId) (response : Response)
      (fresh : gateway.calls call = .absent) (decided : config.decides (.respond response)) :
      Step config gateway (.respond call response) (gateway.move call (.answered response))
  | leave (gateway : Gateway Action) (call : ReplyId)
      (awaiting : (∃ identity action, gateway.calls call = .submitted identity action) ∨
        gateway.calls call = .waiting) :
      Step config gateway (.leave call) (gateway.move call .left)
  | turnAway (gateway : Gateway Action) (call : ReplyId) (identity : ClientIdentity)
      (action : Action) (submitted : gateway.calls call = .submitted identity action)
      (free : gateway.lock = .free) (closed : gateway.closing = true) :
      Step config gateway (.turnAway call) (gateway.move call (.answered gatewayClosed))
  | enter (gateway : Gateway Action) (call : ReplyId) (identity : ClientIdentity)
      (action : Action) (closed : ReplyId → Bool)
      (submitted : gateway.calls call = .submitted identity action)
      (free : gateway.lock = .free) (isOpen : gateway.closing = false)
      (seen : gateway.Sees closed) :
      Step config gateway (.enter call closed gateway.clock)
        { gateway.move call .entered with
          lock := .admitting call identity action
          queues := (gateway.queues.maintain closed gateway.clock).1
          todo := (gateway.queues.maintain closed gateway.clock).2 }
  | perform (gateway : Gateway Action) (effect : Effect) (rest : List Effect)
      (next : gateway.todo = effect :: rest) :
      Step config gateway (.perform effect) { gateway.perform effect with todo := rest }
  | exhausted (gateway : Gateway Action) (call : ReplyId) (identity : ClientIdentity)
      (action : Action) (holds : gateway.lock = .admitting call identity action)
      (idle : gateway.todo = [])
      (full : (gateway.budgets identity.budget).tryAcquireObserved = none) :
      Step config gateway (.exhausted call)
        { gateway.move call (.answered (overloaded "budget_exhausted" "1")) with lock := .free }
  | acquire (gateway : Gateway Action) (call : ReplyId) (identity : ClientIdentity)
      (action : Action) (observed : Snapshot)
      (holds : gateway.lock = .admitting call identity action) (idle : gateway.todo = [])
      (room : (gateway.budgets identity.budget).tryAcquireObserved = some observed) :
      Step config gateway (.acquire call identity.budget)
        { gateway with
          budgets := Function.update gateway.budgets identity.budget observed
          lock := .placing call identity action observed }
  | overflow (gateway : Gateway Action) (call : ReplyId) (identity : ClientIdentity)
      (action : Action) (observed : Snapshot)
      (holds : gateway.lock = .placing call identity action observed) (idle : gateway.todo = [])
      (full : config.settings.queueCapacity ≤ (gateway.queues.get identity.clientClass).length) :
      Step config gateway (.overflow call)
        { gateway with
          queues := gateway.queues.takeOrder.2
          lock := .refusing call
          todo := [.release call identity.budget] }
  | refuse (gateway : Gateway Action) (call : ReplyId) (holds : gateway.lock = .refusing call)
      (idle : gateway.todo = []) :
      Step config gateway (.refuse call)
        { gateway.move call (.answered (overloaded "queue_full" "1")) with lock := .free }
  | push (gateway : Gateway Action) (call : ReplyId) (identity : ClientIdentity)
      (action : Action) (observed : Snapshot) (job : Job Action)
      (holds : gateway.lock = .placing call identity action observed) (idle : gateway.todo = [])
      (room : (gateway.queues.get identity.clientClass).length < config.settings.queueCapacity)
      (accepted : job =
        { reply := call
          action
          permit := identity.budget
          acceptedAt := gateway.clock
          maxWait := config.queueSettings.forClass identity.clientClass
          order := gateway.queues.takeOrder.1 }) :
      Step config gateway (.push call identity.clientClass job)
        { gateway.move call .pushed with
          queues := gateway.queues.takeOrder.2.push identity.clientClass job
          lock := .free }
  | notify (gateway : Gateway Action) (call : ReplyId) (pushed : gateway.calls call = .pushed) :
      Step config gateway (.notify call) { gateway.move call .waiting with notified := true }
  | receive (gateway : Gateway Action) (call : ReplyId) (response : Response)
      (awaiting : gateway.calls call = .waiting)
      (sent : gateway.channels call = .sent response) :
      Step config gateway (.receive call response) (gateway.move call (.answered response))
  | lose (gateway : Gateway Action) (call : ReplyId) (awaiting : gateway.calls call = .waiting)
      (dropped : gateway.channels call = .dropped) :
      Step config gateway (.lose call) (gateway.move call (.answered internalError))
  | reap (gateway : Gateway Action) (awake : gateway.scheduler = .awake) :
      Step config gateway .reap
        { gateway with
          running := gateway.running.filter fun execution => !execution.isFinished
          scheduler := .reaped }
  | scan (gateway : Gateway Action) (closed : ReplyId → Bool)
      (reaped : gateway.scheduler = .reaped) (free : gateway.lock = .free)
      (seen : gateway.Sees closed) :
      Step config gateway (.scan closed gateway.clock)
        { gateway with
          lock := .scanning
          scheduler := .locked
          queues := (gateway.queues.maintain closed gateway.clock).1
          todo := (gateway.queues.maintain closed gateway.clock).2 }
  | pop (gateway : Gateway Action) (later : Nat) (observe : Nat → Queues.Observation)
      (popped : Queues.Popped Action) (holds : gateway.lock = .scanning) (idle : gateway.todo = [])
      (room : gateway.running.length < config.settings.executionLimit)
      (observes : gateway.Observes later observe)
      (returned : popped = gateway.queues.popNext observe) :
      Step config gateway (.pop observe popped)
        { gateway with
          clock := later
          lock :=
            match popped.job with
            | some selected => .handing selected.2
            | none => .drained
          queues := popped.queues
          todo := popped.effects }
  | saturated (gateway : Gateway Action) (holds : gateway.lock = .scanning)
      (idle : gateway.todo = [])
      (full : config.settings.executionLimit ≤ gateway.running.length) :
      Step config gateway .saturated { gateway with lock := .drained }
  | spawn (gateway : Gateway Action) (job : Job Action) (holds : gateway.lock = .handing job)
      (idle : gateway.todo = []) :
      Step config gateway (.spawn job)
        { gateway with
          lock := .scanning
          running := gateway.running ++ [.spawned job] }
  | finish (gateway : Gateway Action) (holds : gateway.lock = .drained) (idle : gateway.todo = [])
      (drained : gateway.Drained) :
      Step config gateway .finish { gateway with lock := .free, scheduler := .returned }
  | park (gateway : Gateway Action) (holds : gateway.lock = .drained) (idle : gateway.todo = [])
      (work : ¬gateway.Drained) :
      Step config gateway .park
        { gateway with lock := .free, scheduler := .parked gateway.queues.nextDeadline }
  | wakeNotified (gateway : Gateway Action) (deadline : Option Nat)
      (parked : gateway.scheduler = .parked deadline) (notified : gateway.notified = true) :
      Step config gateway .wakeNotified { gateway with scheduler := .awake, notified := false }
  | wakeJoined (gateway : Gateway Action) (deadline : Option Nat)
      (front back : List (Execution Action)) (execution : Execution Action)
      (parked : gateway.scheduler = .parked deadline)
      (joined : gateway.running = front ++ execution :: back)
      (finished : execution.progress = .finished) :
      Step config gateway (.wakeJoined execution)
        { gateway with scheduler := .awake, running := front ++ back }
  | wakeTimer (gateway : Gateway Action) (deadline : Nat)
      (parked : gateway.scheduler = .parked (some deadline)) (due : deadline ≤ gateway.clock) :
      Step config gateway .wakeTimer { gateway with scheduler := .awake }
  | complete (gateway : Gateway Action) (front back : List (Execution Action))
      (execution : Execution Action) (response : Response)
      (spawned : gateway.running = front ++ execution :: back)
      (progress : execution.progress = .running)
      (produced : config.executes execution.action response) :
      Step config gateway (.complete execution response)
        { gateway with
          running := front ++ { execution with progress := .done (some response) } :: back }
  | fail (gateway : Gateway Action) (front back : List (Execution Action))
      (execution : Execution Action) (spawned : gateway.running = front ++ execution :: back)
      (progress : execution.progress = .running) :
      Step config gateway (.fail execution)
        { gateway with running := front ++ { execution with progress := .done none } :: back }
  | giveBack (gateway : Gateway Action) (front back : List (Execution Action))
      (execution : Execution Action) (response : Option Response)
      (spawned : gateway.running = front ++ execution :: back)
      (progress : execution.progress = .done response) :
      Step config gateway (.giveBack execution)
        { gateway with
          budgets := gateway.budgets.release execution.permit
          running := front ++ { execution with progress := .released response } :: back }
  | send (gateway : Gateway Action) (front back : List (Execution Action))
      (execution : Execution Action) (response : Response)
      (spawned : gateway.running = front ++ execution :: back)
      (progress : execution.progress = .released (some response)) :
      Step config gateway (.send execution response)
        { gateway with
          channels := Function.update gateway.channels execution.reply (.sent response)
          running := front ++ { execution with progress := .finished } :: back }
  | hangUp (gateway : Gateway Action) (front back : List (Execution Action))
      (execution : Execution Action) (spawned : gateway.running = front ++ execution :: back)
      (progress : execution.progress = .released none) :
      Step config gateway (.hangUp execution)
        { gateway with
          channels := Function.update gateway.channels execution.reply .dropped
          running := front ++ { execution with progress := .finished } :: back }
  | close (gateway : Gateway Action) (free : gateway.lock = .free) :
      Step config gateway .close { gateway with closing := true, notified := true }
  | drop (gateway : Gateway Action) (alive : gateway.disposal = .alive) :
      Step config gateway .drop { gateway with closing := true, disposal := .closed }
  | abort (gateway : Gateway Action) (closed : gateway.disposal = .closed) :
      Step config gateway .abort { gateway with disposal := .aborting }
  | reject (gateway : Gateway Action)
      (aborting : gateway.disposal = .aborting ∨ gateway.disposal = .deferred)
      (free : gateway.lock = .free) :
      Step config gateway .reject
        { gateway with
          disposal := .cleared
          lock := .rejecting
          queues := gateway.queues.rejectPending.1
          todo := gateway.queues.rejectPending.2 }
  | defer (gateway : Gateway Action) (aborting : gateway.disposal = .aborting) :
      -- also when the free lock is already promised to a waiter
      Step config gateway .defer { gateway with disposal := .deferred }
  | cancel (gateway : Gateway Action)
      (asked : gateway.disposal ≠ .alive ∧ gateway.disposal ≠ .closed)
      (awaiting : gateway.scheduler = .reaped ∨ ∃ deadline, gateway.scheduler = .parked deadline) :
      Step config gateway .cancel { gateway with scheduler := .aborted }
  | inspect (gateway : Gateway Action) (free : gateway.lock = .free) :
      Step config gateway .inspect { gateway with lock := .inspecting }
  | unlock (gateway : Gateway Action)
      (holds : gateway.lock = .rejecting ∨ gateway.lock = .inspecting) (idle : gateway.todo = []) :
      Step config gateway .unlock { gateway with lock := .free }

/-- A run of a gateway. -/
abbrev Run {Action : Type} (config : Config Action) := Labelled.Execution (Step config)

end AiProtocol
