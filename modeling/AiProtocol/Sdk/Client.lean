import AiProtocol.Client.Retry

/-!
# The asynchronous Python client

What its tasks do from one suspension to the next.  The event loop runs nothing else in between, and
`async with self._condition` suspends only if the lock of the condition is taken.  The exceptions of
a task which is cancelled or whose `asyncio.timeout` expires reach it where it is suspended.
-/

namespace AiProtocol

namespace Sdk

/-- What an `AsyncClient` depends on. -/
structure Settings where
  /-- `dispatcher_socket` was given. -/
  dispatcher : Bool
  /-- `check_schema` of the JSON schema library. -/
  checkSchema : Json → Except PyError Unit
  /-- The parameters of a call pass its checks; an error is one the handler there does not catch. -/
  validates : Json → Json → Except PyError Bool

/-- The state of an `AsyncClient`. -/
structure Client where
  /-- `_policy`. -/
  policy : Option Json
  /-- `_active`. -/
  active : Int
  /-- `_ready`. -/
  ready : Bool
  /-- `_closed`. -/
  closed : Bool
  /-- The lock of `_condition` is taken. -/
  locked : Bool

namespace Client

/-- A client before its first policy. -/
def new : Client where
  policy := none
  active := 0
  ready := false
  closed := false
  locked := false

/-- The condition was entered. -/
def acquire (client : Client) : Client :=
  { client with locked := true }

/-- The condition was left, or `wait` gave the lock away. -/
def release (client : Client) : Client :=
  { client with locked := false }

/-- The ceiling of the stored policy. -/
def ceiling (client : Client) : Option Int :=
  client.policy.bind Json.ceiling

/-- The first operation of the stored policy with a name. -/
def descriptor (client : Client) (name : String) : Option Json :=
  ((client.policy.bind fun policy => policy.get "operations").bind Json.asArray).bind fun items =>
    items.find? fun operation => (operation.get "name").bind Json.asStr = some name

/-- `aclose`, up to the cancellation of the poller. -/
def close (client : Client) : Client :=
  Client.release { client.acquire with closed := true, ready := false }

/-- The test of `_acquire`. -/
def admits (settings : Settings) (client : Client) : Bool :=
  client.ready && (settings.dispatcher || client.ceiling.any fun maximum => client.active < maximum)

end Client

/-! ## Calls -/

/-- Why a suspended task is woken with `CancelledError`. -/
inductive Interrupt where
  /-- `Task.cancel`. -/
  | cancel
  /-- `asyncio.timeout`. -/
  | timeout
  deriving DecidableEq

/-- What leaves the `try` block around an attempt. -/
inductive Outcome where
  /-- The response of the gateway. -/
  | response (reply : HttpReply)
  /-- An exception, or the result of the dispatcher. -/
  | ended (ending : Ending)

/-- How `DispatcherClient.call` ends. -/
inductive Connected where
  /-- It returns. -/
  | reply (reply : Dispatcher.Reply)
  /-- It is interrupted. -/
  | interrupted (interrupt : Interrupt)
  /-- It raises an exception it does not catch. -/
  | raised (error : PyError)

/-- Where a call is suspended. -/
inductive Point where
  /-- Entering the condition in `_acquire`. -/
  | lockEnter
  /-- `wait`, with or without a notification. -/
  | waiting (notified : Bool)
  /-- `wait` entering the condition again. -/
  | lockWake (interrupt : Option Interrupt)
  /-- `_request`. -/
  | sending
  /-- `open_unix_connection`. -/
  | connecting
  /-- Between the submission and the reply of the dispatcher. -/
  | exchanging
  /-- `wait_closed`. -/
  | hangingUp (result : Connected)
  /-- Entering the condition in the `finally` block. -/
  | lockLeave (outcome : Outcome)
  /-- The pause before a retry. -/
  | sleeping
  /-- The task is done. -/
  | done (ending : Ending)

/-- A call of an operation. -/
structure Call where
  /-- Name of the operation. -/
  operation : String
  /-- Parameters. -/
  params : Json
  /-- Frames which `_acquire` has left on the stack. -/
  frames : Nat
  /-- The loop variable. -/
  number : Nat
  /-- `attempts`. -/
  attempts : Nat
  /-- `may_have_executed`. -/
  mayHaveExecuted : Bool
  /-- Where it is. -/
  point : Point

/-- What `DispatcherClient.call` makes of its arguments. -/
inductive Prelude where
  /-- It returns an error of its own. -/
  | refused (code : String)
  /-- It connects. -/
  | connects
  /-- It raises an exception it does not catch. -/
  | raised (error : PyError)

/-- What a running task finds in its environment. -/
structure Surroundings where
  /-- Nanoseconds left to the deadline. -/
  left : Nat
  /-- How a dispatcher client would begin. -/
  prelude : Prelude

/-- A client and one of its calls at the next suspension. -/
structure Segment where
  /-- The client. -/
  client : Client
  /-- The call. -/
  call : Call
  /-- `notify_all` was called. -/
  notify : Bool
  /-- The descriptor `_acquire` returned. -/
  granted : Option Json

namespace Call

/-- A call which passed its own checks. -/
def new (operation : String) (params : Json) (frames : Nat) : Call where
  operation := operation
  params := params
  frames := frames
  number := 1
  attempts := 0
  mayHaveExecuted := false
  point := .lockEnter

/-- The call is suspended, or done. -/
def suspend (call : Call) (point : Point) : Call :=
  { call with point }

/-- How an interrupted call ends, outside the condition and the `finally` block. -/
def interruption (call : Call) : Interrupt → Ending
  | .cancel => .cancelled
  | .timeout =>
      .deadlineExceeded (if call.mayHaveExecuted then "unknown" else "not_started") call.attempts

/-- The code after the `finally` block. -/
def conclude (call : Call) (left : Nat) : Outcome → Call
  | .ended ending => call.suspend (.done ending)
  | .response reply =>
      let marked : Call :=
        if reply.isSuccess then call else { call with mayHaveExecuted := !known reply }
      match turn call.number left reply with
      | .ends ending => marked.suspend (.done ending)
      | .sleeps _ => marked.suspend .sleeping

end Call

/-- An outcome of the dispatcher client in `call`. -/
def Connected.outcome (call : Call) : Connected → Outcome
  | .reply answer =>
      if answer.ok then
        .ended (.returned (answer.body.getD .null))
      else
        .ended (.operationError (if isCode answer.code then answer.code else "http_error")
          answer.execution answer.status answer.attempts)
  | .interrupted interrupt => .ended (call.interruption interrupt)
  | .raised error => .ended (.raised error)

section Segments

variable (settings : Settings)

/-- The `finally` block inside the condition. -/
def settle (client : Client) (call : Call) (left : Nat) (outcome : Outcome) : Segment where
  client := Client.release { client.acquire with active := client.active - 1 }
  call := call.conclude left outcome
  notify := true
  granted := none

/-- The `finally` block. -/
def leave (client : Client) (call : Call) (left : Nat) (outcome : Outcome) : Segment :=
  if settings.dispatcher then
    { client, call := call.conclude left outcome, notify := false, granted := none }
  else if client.locked then
    { client, call := call.suspend (.lockLeave outcome), notify := false, granted := none }
  else
    settle client call left outcome

/-- The `try` block around an attempt. -/
def attempt (client : Client) (call : Call) (surroundings : Surroundings) (descriptor : Json) :
    Segment :=
  match settings.validates descriptor call.params with
  | .error error => leave settings client call surroundings.left (.ended (.raised error))
  | .ok false =>
      leave settings client call surroundings.left
        (.ended (.operationError "invalid_parameters" "not_started" none (some call.attempts)))
  | .ok true =>
      if settings.dispatcher then
        let begun : Call := { call with mayHaveExecuted := true }
        match surroundings.prelude with
        | .refused code =>
            leave settings client begun surroundings.left
              (.ended (.operationError code "not_started" none (some 0)))
        | .raised error => leave settings client begun surroundings.left (.ended (.raised error))
        | .connects =>
            { client, call := begun.suspend .connecting, notify := false, granted := none }
      else
        { client
          call := { call with attempts := call.number, mayHaveExecuted := true, point := .sending }
          notify := false
          granted := none }

/-- The loop of `_acquire` inside the condition, up to `wait` or the attempt. -/
def check (client : Client) (call : Call) (surroundings : Surroundings) : Segment :=
  if client.closed then
    { client := client.release
      call := call.suspend (.done (.operationError "client_closed" "not_started" none (some 0)))
      notify := false
      granted := none }
  else if client.admits settings then
    match client.descriptor call.operation with
    | none =>
        { client := client.release
          call := call.suspend
            (.done (.operationError "operation_not_permitted" "not_started" none (some 0)))
          notify := false
          granted := none }
    | some descriptor =>
        let admitted : Client :=
          if settings.dispatcher then client else { client with active := client.active + 1 }
        match deepcopy call.frames descriptor with
        | .error error =>
            -- the exception leaves `_acquire`, and `call` outside its `finally` block
            { client := admitted.release, call := call.suspend (.done (.raised error))
              notify := false, granted := none }
        | .ok () =>
            { attempt settings admitted.release call surroundings descriptor with
              granted := some descriptor }
  else
    { client := client.release, call := call.suspend (.waiting false), notify := false
      granted := none }

/-- The beginning of `_acquire`. -/
def enter (client : Client) (call : Call) (surroundings : Surroundings) : Segment :=
  if client.locked then
    { client, call := call.suspend .lockEnter, notify := false, granted := none }
  else
    check settings client.acquire call surroundings

/-- The end of `wait`. -/
def wake (client : Client) (call : Call) (surroundings : Surroundings)
    (interrupt : Option Interrupt) : Segment :=
  if client.locked then
    { client, call := call.suspend (.lockWake interrupt), notify := false, granted := none }
  else
    match interrupt with
    | none => check settings client.acquire call surroundings
    | some interrupt =>
        { client := client.acquire.release
          call := call.suspend (.done (call.interruption interrupt))
          notify := false
          granted := none }

end Segments

/-- A reply which passes the checks of the dispatcher client. -/
def consistent (reply : Dispatcher.Reply) : Bool :=
  ["completed", "not_started", "unknown"].contains reply.execution &&
    if reply.ok then
      reply.execution = "completed" &&
        reply.status.any fun status => 200 ≤ status && status < 300
    else
      reply.execution ≠ "completed"

/-- `error` of the dispatcher client. -/
def connectionError (code execution : String) : Dispatcher.Reply where
  ok := false
  code := code
  execution := execution
  attempts := if execution = "unknown" then none else some 0
  status := none
  body := none

/-! ## Refreshes -/

/-- The end of a refresh. -/
inductive Refreshed where
  /-- The policy was stored. -/
  | applied
  /-- The client was closed meanwhile. -/
  | skipped
  /-- An exception. -/
  | raised (error : PyError)
  deriving DecidableEq

/-- Where a refresh, or the poller, is suspended. -/
inductive RefreshPoint where
  /-- The poller between two refreshes. -/
  | resting
  /-- Entering the condition. -/
  | lockEnter
  /-- `_request`. -/
  | fetching
  /-- Entering the condition with a policy. -/
  | lockApply (policy : Json)
  /-- Entering the condition in the handler. -/
  | lockFail (error : PyError)
  /-- It is done. -/
  | done (end_ : Refreshed)

/-- A client and one of its refreshes at the next suspension. -/
structure Refreshing where
  /-- The client. -/
  client : Client
  /-- The refresh. -/
  point : RefreshPoint
  /-- `notify_all` was called. -/
  notify : Bool

/-- The response to `GET /agent-policy`. -/
structure Fetched where
  /-- HTTP status code. -/
  status : Nat
  /-- What `response.json()` makes of the body. -/
  body : Except PyError Json

/-- The exceptions which `refresh` handles. -/
def PyError.handled : PyError → Bool
  | .http | .timeout | .cancelled => true
  | error => error.isValue

/-- The handler of `refresh` inside the condition. -/
def pause (client : Client) (error : PyError) : Refreshing where
  client := Client.release { client.acquire with ready := false }
  point := .done (.raised
    (if error = .cancelled then .cancelled else .protocol "Policy refresh failed"))
  notify := true

/-- An exception in the `try` block of `refresh`. -/
def fail (client : Client) (error : PyError) : Refreshing :=
  if PyError.handled error then
    if client.locked then
      { client, point := .lockFail error, notify := false }
    else
      pause client error
  else
    { client, point := .done (.raised error), notify := false }

/-- The policy of a response inside the condition, with the frames left on the stack.  The copy
which `refresh` returns is as deep as the one `validate_policy` has just made. -/
def apply (settings : Settings) (frames : Nat) (client : Client) (policy : Json) : Refreshing :=
  match validatePolicy settings.checkSchema frames policy client.policy with
  | .error error => fail client.release error
  | .ok () =>
      if client.closed then
        { client := client.release, point := .done .skipped, notify := false }
      else
        { client := Client.release { client with policy := some policy, ready := true }
          point := .done .applied
          notify := true }

/-- The end of the request in `refresh`. -/
def fetch (settings : Settings) (frames : Nat) (client : Client)
    (result : Except PyError Fetched) : Refreshing :=
  match result with
  | .error error => fail client error
  | .ok fetched =>
      if ¬(200 ≤ fetched.status ∧ fetched.status < 300) then
        -- `raise_for_status`
        fail client .http
      else
        match fetched.body with
        | .error error => fail client error
        | .ok policy =>
            if client.locked then
              { client, point := .lockApply policy, notify := false }
            else
              apply settings frames client.acquire policy

/-- The beginning of `refresh`. -/
def refresh (client : Client) : Refreshing :=
  if client.locked then
    { client, point := .lockEnter, notify := false }
  else if client.closed then
    { client := client.acquire.release
      point := .done (.raised (.protocol "Client is closed"))
      notify := false }
  else
    { client := client.acquire.release, point := .fetching, notify := false }

end Sdk

end AiProtocol
