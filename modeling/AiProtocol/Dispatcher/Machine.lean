import AiProtocol.Dispatcher.Gate

/-!
# The dispatcher

The tasks of one dispatcher as a labelled step relation: one connection task for every request, one
executor which takes attempts in order, and one task for every HTTP attempt.  What an HTTP attempt
returns is left to the transport.
-/

namespace AiProtocol

namespace Dispatcher

/-- The identity of a connection task and of its progress record. -/
abbrev RequestId := Nat

/-- The identity of an attempt and of its result channel. -/
abbrev AttemptId := RequestId × Nat

/-- What a caller submits. -/
structure Request where
  /-- Identifier chosen by the caller. -/
  id : String
  /-- Credential of the caller. -/
  token : String
  /-- Operation, then its path. -/
  operation : String
  /-- Parameters. -/
  params : Json

/-- A submission as the connection task reads it. -/
structure Frame where
  /-- The request, if the frame is one. -/
  request : Option Request
  /-- Nanoseconds to the deadline of the caller, if they are finite. -/
  remaining : Option Int

/-- The configuration of a dispatcher. -/
structure Settings where
  /-- Paths by operation name and by path. -/
  routes : List (String × String)
  /-- Registered credentials. -/
  tokens : List String
  /-- Bound of the attempt queue. -/
  capacity : Nat

/-- The checks of `connection`: a refusal, or the request and the time it has left. -/
def Settings.accept (settings : Settings) (frame : Frame) : Except Reply (Request × Nat) :=
  match frame.request with
  | none => .error (.error "invalid_dispatch_request" "not_started" 0)
  | some request =>
      if !settings.tokens.contains request.token then
        .error (.error "unregistered_credential" "not_started" 0)
      else
        match frame.remaining, settings.routes.lookup request.operation with
        | some remaining, some path =>
            if remaining > 3600000 * millisecond ∨ request.id = "" ∨
                request.id.utf8ByteSize > 128 then
              .error (.error "invalid_dispatch_request" "not_started" 0)
            else if remaining ≤ 0 then
              .error (.error "task_deadline" "not_started" 0)
            else
              .ok ({ request with operation := path }, remaining.toNat)
        | _, _ => .error (.error "invalid_dispatch_request" "not_started" 0)

/-- Where a connection task is. -/
inductive Connection where
  /-- Not accepted yet. -/
  | absent
  /-- Refused before it became a job. -/
  | refused (reply : Reply)
  /-- `job` waits for room in the attempt queue. -/
  | trying (number : Nat)
  /-- `job` awaits the result of an attempt. -/
  | awaiting (number : Nat)
  /-- `retry::run` sleeps after an attempt. -/
  | pausing (number moment : Nat)
  /-- The outcome of the request. -/
  | replied (reply : Reply)
  /-- The caller disconnected. -/
  | vanished

/-- The result of an HTTP attempt. -/
abbrev Result := Except String HttpReply

/-- The result channel of an attempt. -/
inductive Outcome where
  | unset
  | sent (result : Result)
  | dropped

/-- An entry of the attempt queue; its request names its progress record and its result channel. -/
structure Attempt where
  /-- The connection task. -/
  request : RequestId
  /-- What is sent. -/
  payload : Request
  /-- Deadline of the request. -/
  deadline : Nat
  /-- Number of the attempt. -/
  number : Nat

/-- The identity of an attempt. -/
def Attempt.id (attempt : Attempt) : AttemptId :=
  (attempt.request, attempt.number)

/-- Where the executor is. -/
inductive Executor where
  /-- Awaiting the queue. -/
  | idle
  /-- In `select!` with an attempt. -/
  | waiting (attempt : Attempt)
  /-- With a gate permit, before the check of the result channel. -/
  | granted (attempt : Attempt)
  /-- With a gate permit, before `begin`. -/
  | checked (attempt : Attempt)
  /-- About to drop the gate permit of an attempt which did not begin. -/
  | declined
  /-- Out of its loop. -/
  | closing
  /-- Returned or aborted. -/
  | stopped

/-- How far an HTTP task is. -/
inductive Stage where
  /-- The transport works. -/
  | sending
  /-- The transport returned. -/
  | returned (result : Result)
  /-- A denial was recorded. -/
  | marked (result : Result)
  /-- The gate permit is dropped. -/
  | released (result : Result)

/-- An HTTP task. -/
structure HttpTask where
  /-- The attempt it performs. -/
  attempt : Attempt
  /-- How far it is. -/
  stage : Stage

end Dispatcher

/-- The state of one dispatcher. -/
structure Dispatcher where
  /-- `Instant::now()`. -/
  clock : Nat
  /-- The gate behind its mutex. -/
  gate : Dispatcher.Gate
  /-- The connection tasks. -/
  connections : Dispatcher.RequestId → Dispatcher.Connection
  /-- What they were asked for. -/
  payloads : Dispatcher.RequestId → Dispatcher.Request
  /-- Their deadlines. -/
  deadlines : Dispatcher.RequestId → Nat
  /-- Their progress records. -/
  progress : Dispatcher.RequestId → Dispatcher.Progress
  /-- The result channels. -/
  outcomes : Dispatcher.AttemptId → Dispatcher.Outcome
  /-- The attempt queue, front first. -/
  queue : List Dispatcher.Attempt
  /-- The executor. -/
  executor : Dispatcher.Executor
  /-- The HTTP tasks. -/
  running : List Dispatcher.HttpTask

namespace Dispatcher

/-- A dispatcher before it discovered its gateway. -/
def start : Dispatcher where
  clock := 0
  gate := .default
  connections _ := .absent
  payloads _ := { id := "", token := "", operation := "", params := .null }
  deadlines _ := 0
  progress _ := .default
  outcomes _ := .unset
  queue := []
  executor := .idle
  running := []

/-- The receiver of an attempt is gone. -/
def Closed (dispatcher : Dispatcher) (attempt : Attempt) : Prop :=
  dispatcher.connections attempt.request ≠ .awaiting attempt.number

/-- A request ends with a failure. -/
def fail (dispatcher : Dispatcher) (request : RequestId) (error : String)
    (response : Option HttpReply) : Dispatcher :=
  { dispatcher with
    connections := Function.update dispatcher.connections request (.replied
      { (dispatcher.progress request).failure error with
        status := response.map HttpReply.status
        body := response.bind HttpReply.body })
    progress := Function.update dispatcher.progress request (dispatcher.progress request).close }

/-- `retry::run` goes on with the result of an attempt. -/
def resume (dispatcher : Dispatcher) (request : RequestId) (number : Nat) :
    Result → Dispatcher
  | .error error => dispatcher.fail request error none
  | .ok response =>
      match verdict number response with
      | .completed =>
          { dispatcher with
            connections := Function.update dispatcher.connections request (.replied
              { ok := true
                code := "completed"
                execution := "completed"
                attempts := some (dispatcher.progress request).attempts
                status := some response.status
                body := response.body }) }
      | .failed error => dispatcher.fail request error (some response)
      | .pause seconds =>
          { dispatcher with
            connections := Function.update dispatcher.connections request
              (.pausing number (dispatcher.clock + seconds * 1000 * millisecond)) }

/-- What a step of the dispatcher did. -/
inductive Event where
  /-- Time passes. -/
  | tick (now : Nat)
  /-- `Gate::apply` of a fetched policy. -/
  | policy (policy : Policy)
  /-- `Gate::pause` after a failed refresh. -/
  | pause
  /-- `Gate::stop`. -/
  | stop
  /-- A submission is refused. -/
  | refuse (request : RequestId) (reply : Reply)
  /-- A submission becomes a job. -/
  | accept (request : RequestId) (deadline : Nat)
  /-- `job` queues an attempt. -/
  | enqueue (attempt : Attempt)
  /-- `job` finds the attempt queue closed. -/
  | reject (request : RequestId)
  /-- `job` receives the result of an attempt. -/
  | receive (request : RequestId) (result : Result)
  /-- `job` learns that its attempt was dropped. -/
  | lose (request : RequestId)
  /-- The pause between two attempts ends. -/
  | wake (request : RequestId)
  /-- The deadline of a request wins its `select!`. -/
  | expire (request : RequestId)
  /-- The caller disconnects. -/
  | disconnect (request : RequestId)
  /-- The reply was sent and `Cancellation` is dropped. -/
  | hangUp (request : RequestId)
  /-- The executor takes an attempt. -/
  | take (attempt : Attempt)
  /-- The receiver of the attempt is gone. -/
  | skip (attempt : Attempt)
  /-- The deadline of the attempt wins the `select!` of the executor. -/
  | overdue (attempt : Attempt)
  /-- `Gate::acquire` returns a permit. -/
  | acquire (attempt : Attempt)
  /-- `Gate::acquire` fails. -/
  | halt (attempt : Attempt)
  /-- The result channel is open. -/
  | check (attempt : Attempt)
  /-- The attempt does not begin. -/
  | decline (attempt : Attempt)
  /-- The permit of an attempt which did not begin is dropped. -/
  | yield
  /-- `Progress::begin` succeeds and the HTTP task is spawned. -/
  | begin (attempt : Attempt)
  /-- The transport returns. -/
  | return (attempt : Attempt) (result : Result)
  /-- A denial is recorded. -/
  | mark (attempt : Attempt)
  /-- The permit of an HTTP task is dropped. -/
  | release (attempt : Attempt)
  /-- An HTTP task sends its result. -/
  | reply (attempt : Attempt) (result : Result)
  /-- The executor returns or is aborted, with its queue. -/
  | close

/-- One step of the dispatcher. -/
inductive Step (settings : Settings) : Dispatcher → Event → Dispatcher → Prop
  | tick (dispatcher : Dispatcher) (now : Nat) (later : dispatcher.clock ≤ now) :
      Step settings dispatcher (.tick now) { dispatcher with clock := now }
  | policy (dispatcher : Dispatcher) (policy : Policy) (gate : Gate)
      (applied : dispatcher.gate.apply policy = .ok gate) :
      Step settings dispatcher (.policy policy) { dispatcher with gate := gate }
  | pause (dispatcher : Dispatcher) :
      Step settings dispatcher .pause { dispatcher with gate := dispatcher.gate.pause }
  | stop (dispatcher : Dispatcher) :
      Step settings dispatcher .stop { dispatcher with gate := dispatcher.gate.stop }
  | full (dispatcher : Dispatcher) (request : RequestId)
      (fresh : dispatcher.connections request = .absent) :
      -- every slot of the `capacity` semaphore is taken
      Step settings dispatcher
        (.refuse request (.error "dispatcher_queue_full" "not_started" 0))
        { dispatcher with
          connections := Function.update dispatcher.connections request
            (.refused (.error "dispatcher_queue_full" "not_started" 0)) }
  | refuse (dispatcher : Dispatcher) (request : RequestId) (frame : Frame) (reply : Reply)
      (fresh : dispatcher.connections request = .absent)
      (refused : settings.accept frame = .error reply) :
      Step settings dispatcher (.refuse request reply)
        { dispatcher with
          connections := Function.update dispatcher.connections request (.refused reply) }
  | accept (dispatcher : Dispatcher) (request : RequestId) (frame : Frame) (payload : Request)
      (remaining : Nat) (fresh : dispatcher.connections request = .absent)
      (admitted : settings.accept frame = .ok (payload, remaining)) :
      Step settings dispatcher (.accept request (dispatcher.clock + remaining))
        { dispatcher with
          connections := Function.update dispatcher.connections request (.trying 1)
          payloads := Function.update dispatcher.payloads request payload
          deadlines := Function.update dispatcher.deadlines request (dispatcher.clock + remaining)
          progress := Function.update dispatcher.progress request .default }
  | enqueue (dispatcher : Dispatcher) (request : RequestId) (number : Nat) (attempt : Attempt)
      (trying : dispatcher.connections request = .trying number)
      (isOpen : dispatcher.executor ≠ .stopped)
      (room : dispatcher.queue.length < settings.capacity)
      (made : attempt =
        { request
          payload := dispatcher.payloads request
          deadline := dispatcher.deadlines request
          number }) :
      Step settings dispatcher (.enqueue attempt)
        { dispatcher with
          connections := Function.update dispatcher.connections request (.awaiting number)
          queue := dispatcher.queue ++ [attempt] }
  | reject (dispatcher : Dispatcher) (request : RequestId) (number : Nat)
      (trying : dispatcher.connections request = .trying number)
      (stopped : dispatcher.executor = .stopped) :
      Step settings dispatcher (.reject request)
        (dispatcher.fail request "dispatcher_stopped" none)
  | receive (dispatcher : Dispatcher) (request : RequestId) (number : Nat) (result : Result)
      (awaiting : dispatcher.connections request = .awaiting number)
      (sent : dispatcher.outcomes (request, number) = .sent result) :
      Step settings dispatcher (.receive request result) (dispatcher.resume request number result)
  | lose (dispatcher : Dispatcher) (request : RequestId) (number : Nat)
      (awaiting : dispatcher.connections request = .awaiting number)
      (dropped : dispatcher.outcomes (request, number) = .dropped) :
      Step settings dispatcher (.lose request) (dispatcher.fail request "dispatcher_stopped" none)
  | wake (dispatcher : Dispatcher) (request : RequestId) (number moment : Nat)
      (pausing : dispatcher.connections request = .pausing number moment)
      (due : moment ≤ dispatcher.clock) :
      Step settings dispatcher (.wake request)
        { dispatcher with
          connections := Function.update dispatcher.connections request (.trying (number + 1)) }
  | expire (dispatcher : Dispatcher) (request : RequestId)
      (busy : (∃ number, dispatcher.connections request = .trying number) ∨
        (∃ number, dispatcher.connections request = .awaiting number) ∨
        ∃ number moment, dispatcher.connections request = .pausing number moment)
      (due : dispatcher.deadlines request ≤ dispatcher.clock) :
      Step settings dispatcher (.expire request) (dispatcher.fail request "task_deadline" none)
  | disconnect (dispatcher : Dispatcher) (request : RequestId)
      (busy : (∃ number, dispatcher.connections request = .trying number) ∨
        (∃ number, dispatcher.connections request = .awaiting number) ∨
        ∃ number moment, dispatcher.connections request = .pausing number moment) :
      Step settings dispatcher (.disconnect request)
        { dispatcher with
          connections := Function.update dispatcher.connections request .vanished
          progress := Function.update dispatcher.progress request
            (dispatcher.progress request).close }
  | hangUp (dispatcher : Dispatcher) (request : RequestId) (reply : Reply)
      (replied : dispatcher.connections request = .replied reply) :
      Step settings dispatcher (.hangUp request)
        { dispatcher with
          progress := Function.update dispatcher.progress request
            (dispatcher.progress request).close }
  | take (dispatcher : Dispatcher) (attempt : Attempt) (rest : List Attempt)
      (idle : dispatcher.executor = .idle) (next : dispatcher.queue = attempt :: rest) :
      Step settings dispatcher (.take attempt)
        { dispatcher with executor := .waiting attempt, queue := rest }
  | skip (dispatcher : Dispatcher) (attempt : Attempt)
      (waiting : dispatcher.executor = .waiting attempt) (closed : dispatcher.Closed attempt) :
      Step settings dispatcher (.skip attempt)
        { dispatcher with
          executor := .idle
          outcomes := Function.update dispatcher.outcomes attempt.id .dropped }
  | overdue (dispatcher : Dispatcher) (attempt : Attempt)
      (waiting : dispatcher.executor = .waiting attempt)
      (due : attempt.deadline ≤ dispatcher.clock) :
      Step settings dispatcher (.overdue attempt)
        { dispatcher with
          executor := .idle
          outcomes := Function.update dispatcher.outcomes attempt.id
            (.sent (.error "task_deadline")) }
  | acquire (dispatcher : Dispatcher) (attempt : Attempt) (gate : Gate)
      (waiting : dispatcher.executor = .waiting attempt)
      (acquired : dispatcher.gate.acquire = some (.ok gate)) :
      Step settings dispatcher (.acquire attempt)
        { dispatcher with executor := .granted attempt, gate := gate }
  | halt (dispatcher : Dispatcher) (attempt : Attempt) (error : String)
      (waiting : dispatcher.executor = .waiting attempt)
      (stopped : dispatcher.gate.acquire = some (.error error)) :
      Step settings dispatcher (.halt attempt)
        { dispatcher with
          executor := .closing
          outcomes := Function.update dispatcher.outcomes attempt.id .dropped }
  | check (dispatcher : Dispatcher) (attempt : Attempt)
      (granted : dispatcher.executor = .granted attempt) (isOpen : ¬dispatcher.Closed attempt) :
      Step settings dispatcher (.check attempt) { dispatcher with executor := .checked attempt }
  | declineClosed (dispatcher : Dispatcher) (attempt : Attempt)
      (granted : dispatcher.executor = .granted attempt) (closed : dispatcher.Closed attempt) :
      Step settings dispatcher (.decline attempt)
        { dispatcher with
          executor := .declined
          outcomes := Function.update dispatcher.outcomes attempt.id
            (.sent (.error "task_deadline")) }
  | decline (dispatcher : Dispatcher) (attempt : Attempt)
      (checked : dispatcher.executor = .checked attempt)
      (refused : (dispatcher.progress attempt.request).begin attempt.deadline dispatcher.clock =
        none) :
      Step settings dispatcher (.decline attempt)
        { dispatcher with
          executor := .declined
          outcomes := Function.update dispatcher.outcomes attempt.id
            (.sent (.error "task_deadline")) }
  | yield (dispatcher : Dispatcher) (declined : dispatcher.executor = .declined) :
      Step settings dispatcher .yield
        { dispatcher with executor := .idle, gate := dispatcher.gate.release }
  | begin (dispatcher : Dispatcher) (attempt : Attempt) (progress : Progress)
      (checked : dispatcher.executor = .checked attempt)
      (begun : (dispatcher.progress attempt.request).begin attempt.deadline dispatcher.clock =
        some progress) :
      Step settings dispatcher (.begin attempt)
        { dispatcher with
          executor := .idle
          progress := Function.update dispatcher.progress attempt.request progress
          running := dispatcher.running ++ [{ attempt, stage := .sending }] }
  | return (dispatcher : Dispatcher) (front back : List HttpTask) (attempt : Attempt)
      (result : Result)
      (sending : dispatcher.running = front ++ { attempt, stage := .sending } :: back) :
      Step settings dispatcher (.return attempt result)
        { dispatcher with running := front ++ { attempt, stage := .returned result } :: back }
  | mark (dispatcher : Dispatcher) (front back : List HttpTask) (attempt : Attempt)
      (result : Result)
      (returned : dispatcher.running = front ++ { attempt, stage := .returned result } :: back) :
      Step settings dispatcher (.mark attempt)
        { dispatcher with
          progress :=
            match result with
            | .ok response =>
                if notStarted response then
                  Function.update dispatcher.progress attempt.request
                    (dispatcher.progress attempt.request).deny
                else
                  dispatcher.progress
            | .error _ => dispatcher.progress
          running := front ++ { attempt, stage := .marked result } :: back }
  | release (dispatcher : Dispatcher) (front back : List HttpTask) (attempt : Attempt)
      (result : Result)
      (marked : dispatcher.running = front ++ { attempt, stage := .marked result } :: back) :
      Step settings dispatcher (.release attempt)
        { dispatcher with
          gate := dispatcher.gate.release
          running := front ++ { attempt, stage := .released result } :: back }
  | reply (dispatcher : Dispatcher) (front back : List HttpTask) (attempt : Attempt)
      (result : Result)
      (released : dispatcher.running = front ++ { attempt, stage := .released result } :: back) :
      Step settings dispatcher (.reply attempt result)
        { dispatcher with
          outcomes := Function.update dispatcher.outcomes attempt.id (.sent result)
          running := front ++ back }
  | close (dispatcher : Dispatcher)
      (done : dispatcher.executor = .closing ∧ dispatcher.running = [] ∨
        dispatcher.gate.stopped = true ∧ dispatcher.gate.active = 0 ∧
          (dispatcher.executor = .idle ∨ dispatcher.executor = .closing)) :
      -- the attempts left in the queue drop their senders
      Step settings dispatcher .close
        { dispatcher with
          executor := .stopped
          queue := []
          outcomes := fun id =>
            if dispatcher.queue.any fun attempt => attempt.id = id then .dropped
            else dispatcher.outcomes id }

end Dispatcher

end AiProtocol
