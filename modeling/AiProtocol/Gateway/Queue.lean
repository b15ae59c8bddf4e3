import Mathlib.Data.List.Basic
import AiProtocol.Gateway.Budget
import AiProtocol.Gateway.Response

/-!
# The two waiting queues

`Queues` with the operations that run under the queue lock.  Clock reads and `is_closed` tests are
arguments of the operations, since time passes and receivers disappear while the lock is held.
Besides its result every operation lists, in the order of the source, the actions on permits and
result channels it performs on the way.  Instants and durations are numbers of nanoseconds.
-/

namespace AiProtocol

/-- The identity of a oneshot result channel, which is also the `enqueue` call that made it. -/
abbrev ReplyId := Nat

/-- An accepted operation.  Dropping it drops its sender, its action and its permit. -/
structure Job (Action : Type) where
  /-- Sender of the result channel. -/
  reply : ReplyId
  /-- What will be executed. -/
  action : Action
  /-- The budget whose permit the job owns. -/
  permit : BudgetRef
  /-- Clock at admission. -/
  acceptedAt : Nat
  /-- Longest waiting time of the job's class. -/
  maxWait : Nat
  /-- Global admission order. -/
  order : Nat

/-- `Job::deadline`. -/
def Job.deadline {Action : Type} (job : Job Action) : Nat :=
  job.acceptedAt + job.maxWait

/-- Selection order for accepted jobs. -/
inductive SchedulerMode where
  | weighted
  | fifo
  deriving DecidableEq, Repr

/-- An action of a locked section on a permit or a result channel. -/
inductive Effect where
  /-- A whole job is dropped; its receiver was seen closed. -/
  | discard (reply : ReplyId) (permit : BudgetRef)
  /-- `drop(permit)`. -/
  | release (reply : ReplyId) (permit : BudgetRef)
  /-- `reply.send(response)`. -/
  | answer (reply : ReplyId) (response : Response)
  deriving DecidableEq, Repr

/-- The queues behind the lock of the gateway. -/
structure Queues (Action : Type) where
  /-- Waiting interactive jobs, front first. -/
  interactive : List (Job Action)
  /-- Waiting agent jobs, front first. -/
  agents : List (Job Action)
  /-- Interactive selections in a row under competition. -/
  interactiveStreak : Nat
  /-- Selection order, fixed for the process lifetime. -/
  mode : SchedulerMode
  /-- The next admission order. -/
  nextOrder : Nat

namespace Queues

variable {Action : Type}

/-- `Queues::default` with the configured mode. -/
def default (mode : SchedulerMode) : Queues Action :=
  { interactive := [], agents := [], interactiveStreak := 0, mode, nextOrder := 0 }

/-- The deque of one class. -/
def get (queues : Queues Action) : ClientClass → List (Job Action)
  | .interactive => queues.interactive
  | .agent => queues.agents

/-- Replace the deque of one class. -/
def set (queues : Queues Action) (jobs : List (Job Action)) : ClientClass → Queues Action
  | .interactive => { queues with interactive := jobs }
  | .agent => { queues with agents := jobs }

/-- All waiting jobs, interactive ones first. -/
def jobs (queues : Queues Action) : List (Job Action) :=
  queues.interactive ++ queues.agents

/-- What happens to the job in hand when a queue is drained by `reject_pending`. -/
def rejection (job : Job Action) : List Effect :=
  [.release job.reply job.permit, .answer job.reply gatewayClosed]

/-- `Queues::reject_pending`. -/
def rejectPending (queues : Queues Action) : Queues Action × List Effect :=
  ({ queues with interactive := [], agents := [] },
    queues.interactive.flatMap rejection ++ queues.agents.flatMap rejection)

/-- `Queues::take_order`. -/
def takeOrder (queues : Queues Action) : Nat × Queues Action :=
  (queues.nextOrder, { queues with nextOrder := queues.nextOrder + 1 })

/-- `push_back` on the deque of a class. -/
def push (queues : Queues Action) (clientClass : ClientClass) (job : Job Action) :
    Queues Action :=
  queues.set (queues.get clientClass ++ [job]) clientClass

/-- What happens to an expired job: its permit is dropped before its caller is told. -/
def expiry (job : Job Action) : List Effect :=
  [.release job.reply job.permit, .answer job.reply queueTimeout]

/-- The loop of `maintain` over one deque, with the number of turns left. -/
def sweep (closed : ReplyId → Bool) (now : Nat) :
    Nat → List (Job Action) → List (Job Action) × List Effect
  | 0, queue => (queue, [])
  | _ + 1, [] => ([], [])
  | turns + 1, job :: queue =>
      if closed job.reply then
        let rest := sweep closed now turns queue
        (rest.1, .discard job.reply job.permit :: rest.2)
      else if job.deadline ≤ now then
        let rest := sweep closed now turns queue
        (rest.1, expiry job ++ rest.2)
      else
        sweep closed now turns (queue ++ [job])

/-- `Queues::maintain`; `closed` answers the `is_closed` tests of the scan. -/
def maintain (queues : Queues Action) (closed : ReplyId → Bool) (now : Nat) :
    Queues Action × List Effect :=
  let interactive := sweep closed now queues.interactive.length queues.interactive
  let agents := sweep closed now queues.agents.length queues.agents
  ({ queues with interactive := interactive.1, agents := agents.1 }, interactive.2 ++ agents.2)

/-- Both classes have waiting work. -/
def competing (queues : Queues Action) : Bool :=
  !queues.interactive.isEmpty && !queues.agents.isEmpty

/-- The choice of `pop_next` between the two fronts. -/
def selectsInteractive (queues : Queues Action) : Bool :=
  if queues.mode = .fifo then
    match queues.interactive.head?, queues.agents.head? with
    | some left, some right => left.order < right.order
    | some _, none => true
    | none, _ => false
  else
    !queues.interactive.isEmpty && (queues.agents.isEmpty || queues.interactiveStreak < 3)

/-- The class `pop_next` takes its next job from. -/
def selectedClass (queues : Queues Action) : ClientClass :=
  if queues.selectsInteractive then .interactive else .agent

/-- The streak after a successful selection. -/
def nextStreak (queues : Queues Action) : Nat :=
  if queues.mode = .weighted ∧ queues.competing ∧ queues.selectsInteractive then
    queues.interactiveStreak + 1
  else
    0

/-- The clock reads and `is_closed` tests of one turn of the loop in `pop_next`. -/
structure Observation where
  /-- `Instant::now()` given to `maintain`. -/
  now : Nat
  /-- `is_closed` during `maintain`. -/
  closed : ReplyId → Bool
  /-- `is_closed` of the popped job. -/
  closedAtPop : ReplyId → Bool
  /-- `Instant::now()` of the recheck at handoff. -/
  handoff : Nat

/-- The outcome of `pop_next`. -/
structure Popped (Action : Type) where
  /-- The queues left behind. -/
  queues : Queues Action
  /-- Actions performed on the way. -/
  effects : List Effect
  /-- The selected job and its class. -/
  job : Option (ClientClass × Job Action)

/-- Perform some actions before the rest of a pop. -/
def Popped.after (effects : List Effect) (popped : Popped Action) : Popped Action :=
  { popped with effects := effects ++ popped.effects }

/-- The loop of `pop_next`, whose turns observe `observe 0`, `observe 1`, ….  Every turn that does
not return removes a job, so that `popNext` below never uses up its turns. -/
def popTurns : Nat → (Nat → Observation) → Queues Action → Popped Action
  | 0, _, queues => { queues, effects := [], job := none }
  | turns + 1, observe, queues =>
      let maintained := queues.maintain (observe 0).closed (observe 0).now
      let swept := maintained.1
      match swept.get swept.selectedClass with
      | [] =>
          { queues := { swept with interactiveStreak := 0 }, effects := maintained.2, job := none }
      | job :: rest =>
          let popped := swept.set rest swept.selectedClass
          if (observe 0).closedAtPop job.reply then
            (popTurns turns (fun turn => observe (turn + 1)) popped).after
              (maintained.2 ++ [.discard job.reply job.permit])
          else if job.deadline ≤ (observe 0).handoff then
            (popTurns turns (fun turn => observe (turn + 1)) popped).after
              (maintained.2 ++ expiry job)
          else
            { queues := { popped with interactiveStreak := swept.nextStreak }
              effects := maintained.2
              job := some (swept.selectedClass, job) }

/-- `Queues::pop_next`. -/
def popNext (queues : Queues Action) (observe : Nat → Observation) : Popped Action :=
  popTurns (queues.jobs.length + 1) observe queues

/-- `Queues::next_deadline`. -/
def nextDeadline (queues : Queues Action) : Option Nat :=
  (queues.jobs.map Job.deadline).min?

end Queues

end AiProtocol
