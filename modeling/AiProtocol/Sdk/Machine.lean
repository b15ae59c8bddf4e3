import AiProtocol.Library.Execution
import AiProtocol.Sdk.Client

/-!
# The client and its environment

Calls, refreshes and pollers of one client as a labelled step relation: a step runs one task up to
its next suspension.  Every attempt is an exchange with the gateway, and every submission one with
the dispatcher.
-/

namespace AiProtocol

namespace Sdk

/-- What comes back for an attempt or a submission. -/
inductive Answer where
  /-- From the gateway. -/
  | response (response : HttpReply)
  /-- From the dispatcher. -/
  | reply (reply : Dispatcher.Reply)

/-- The answers which deny an execution. -/
def Answer.Denies : Answer → Prop
  | .response answer => answer.Denies
  | .reply answer => answer.execution = "not_started"

/-- What a suspended call is woken with. -/
inductive Input where
  /-- The awaited operation returned. -/
  | woken
  /-- The answer to its attempt or submission arrived. -/
  | answered
  /-- The awaited operation raised, without an error if a handler around it catches the class. -/
  | failed (error : Option PyError)
  /-- The task was cancelled, or its timeout expired. -/
  | interrupted (interrupt : Interrupt)

section Calls

variable (settings : Settings)

/-- A suspended call runs up to its next suspension. -/
def resume (client : Client) (call : Call) (surroundings : Surroundings) (answer : Option Answer)
    (input : Input) : Option Segment :=
  let leave := leave settings client call surroundings.left
  let hangUp (result : Connected) : Segment :=
    { client, call := call.suspend (.hangingUp result), notify := false, granted := none }
  let abandon (interrupt : Interrupt) : Segment :=
    { client, call := call.suspend (.done (call.interruption interrupt)), notify := false
      granted := none }
  match call.point, input with
  | .lockEnter, .woken => some (enter settings client call surroundings)
  | .lockEnter, .interrupted interrupt => some (abandon interrupt)
  | .waiting true, .woken => some (wake settings client call surroundings none)
  | .waiting _, .interrupted interrupt => some (wake settings client call surroundings interrupt)
  | .lockWake interrupt, .woken => some (wake settings client call surroundings interrupt)
  | .lockWake _, .interrupted interrupt =>
      some { client, call := call.suspend (.lockWake interrupt), notify := false, granted := none }
  | .sending, .answered =>
      match answer with
      | some (.response response) => some (leave (.response response))
      | _ => none
  | .sending, .failed none =>
      some (leave (.ended (.operationError "transport_error" "unknown" none (some call.attempts))))
  | .sending, .failed (some error) => some (leave (.ended (.raised error)))
  | .sending, .interrupted interrupt => some (leave (.ended (call.interruption interrupt)))
  | .connecting, .woken =>
      some { client, call := call.suspend .exchanging, notify := false, granted := none }
  | .connecting, .failed none =>
      let reply := connectionError "dispatcher_unavailable" "not_started"
      some (leave (Connected.outcome call (.reply reply)))
  | .connecting, .failed (some error) => some (leave (.ended (.raised error)))
  | .connecting, .interrupted interrupt => some (leave (.ended (call.interruption interrupt)))
  | .exchanging, .answered =>
      match answer with
      | some (.reply reply) =>
          some (hangUp (.reply (if consistent reply then reply
            else connectionError "dispatcher_response_lost" "unknown")))
      | _ => none
  | .exchanging, .failed none =>
      some (hangUp (.reply (connectionError "dispatcher_response_lost" "unknown")))
  | .exchanging, .failed (some error) => some (hangUp (.raised error))
  | .exchanging, .interrupted interrupt => some (hangUp (.interrupted interrupt))
  | .hangingUp result, .woken => some (leave (result.outcome call))
  | .hangingUp _, .failed (some error) => some (leave (.ended (.raised error)))
  | .hangingUp _, .interrupted interrupt => some (leave (.ended (call.interruption interrupt)))
  | .lockLeave outcome, .woken =>
      if client.locked then
        some { client, call, notify := false, granted := none }
      else
        some (settle client call surroundings.left outcome)
  | .lockLeave _, .interrupted interrupt => some (abandon interrupt)
  | .sleeping, .woken =>
      some (enter settings client { call with number := call.number + 1 } surroundings)
  | .sleeping, .interrupted interrupt => some (abandon interrupt)
  | _, _ => none

/-- What a suspended call can do, by where it is and what it is woken with. -/
inductive Resumes (client : Client) (call : Call) (surroundings : Surroundings)
    (answer : Option Answer) : Input → Segment → Prop
  | enters (point : call.point = .lockEnter) :
      Resumes client call surroundings answer .woken (enter settings client call surroundings)
  | notified (point : call.point = .waiting true) :
      Resumes client call surroundings answer .woken (wake settings client call surroundings none)
  | stirred (notified : Bool) (interrupt : Interrupt) (point : call.point = .waiting notified) :
      Resumes client call surroundings answer (.interrupted interrupt)
        (wake settings client call surroundings interrupt)
  | wakes (interrupt : Option Interrupt) (point : call.point = .lockWake interrupt) :
      Resumes client call surroundings answer .woken
        (wake settings client call surroundings interrupt)
  | delayed (earlier : Option Interrupt) (interrupt : Interrupt)
      (point : call.point = .lockWake earlier) :
      Resumes client call surroundings answer (.interrupted interrupt)
        { client, call := call.suspend (.lockWake interrupt), notify := false, granted := none }
  | responds (response : HttpReply) (point : call.point = .sending)
      (answered : answer = some (.response response)) :
      Resumes client call surroundings answer .answered
        (leave settings client call surroundings.left (.response response))
  | fails (point : call.point = .sending) :
      Resumes client call surroundings answer (.failed none)
        (leave settings client call surroundings.left
          (.ended (.operationError "transport_error" "unknown" none (some call.attempts))))
  | connects (point : call.point = .connecting) :
      Resumes client call surroundings answer .woken
        { client, call := call.suspend .exchanging, notify := false, granted := none }
  | unreachable (point : call.point = .connecting) :
      Resumes client call surroundings answer (.failed none)
        (leave settings client call surroundings.left
          (Connected.outcome call
            (.reply (connectionError "dispatcher_unavailable" "not_started"))))
  | replies (reply : Dispatcher.Reply) (point : call.point = .exchanging)
      (answered : answer = some (.reply reply)) :
      Resumes client call surroundings answer .answered
        { client
          call := call.suspend (.hangingUp (.reply (if consistent reply then reply
            else connectionError "dispatcher_response_lost" "unknown")))
          notify := false
          granted := none }
  | loses (point : call.point = .exchanging) :
      Resumes client call surroundings answer (.failed none)
        { client
          call := call.suspend
            (.hangingUp (.reply (connectionError "dispatcher_response_lost" "unknown")))
          notify := false
          granted := none }
  | fallsOver (error : PyError) (point : call.point = .exchanging) :
      Resumes client call surroundings answer (.failed (some error))
        { client, call := call.suspend (.hangingUp (.raised error)), notify := false
          granted := none }
  | cutOff (interrupt : Interrupt) (point : call.point = .exchanging) :
      Resumes client call surroundings answer (.interrupted interrupt)
        { client, call := call.suspend (.hangingUp (.interrupted interrupt)), notify := false
          granted := none }
  | hungUp (result : Connected) (point : call.point = .hangingUp result) :
      Resumes client call surroundings answer .woken
        (leave settings client call surroundings.left (result.outcome call))
  | raises (error : PyError)
      (point : call.point = .sending ∨ call.point = .connecting ∨
        ∃ result, call.point = .hangingUp result) :
      Resumes client call surroundings answer (.failed (some error))
        (leave settings client call surroundings.left (.ended (.raised error)))
  | interrupted (interrupt : Interrupt)
      (point : call.point = .sending ∨ call.point = .connecting ∨
        ∃ result, call.point = .hangingUp result) :
      Resumes client call surroundings answer (.interrupted interrupt)
        (leave settings client call surroundings.left (.ended (call.interruption interrupt)))
  | blocked (outcome : Outcome) (point : call.point = .lockLeave outcome)
      (locked : client.locked = true) :
      Resumes client call surroundings answer .woken
        { client, call, notify := false, granted := none }
  | settles (outcome : Outcome) (point : call.point = .lockLeave outcome)
      (free : client.locked = false) :
      Resumes client call surroundings answer .woken (settle client call surroundings.left outcome)
  | retries (point : call.point = .sleeping) :
      Resumes client call surroundings answer .woken
        (enter settings client { call with number := call.number + 1 } surroundings)
  | abandons (interrupt : Interrupt)
      (point : call.point = .lockEnter ∨ (∃ outcome, call.point = .lockLeave outcome) ∨
        call.point = .sleeping) :
      Resumes client call surroundings answer (.interrupted interrupt)
        { client, call := call.suspend (.done (call.interruption interrupt)), notify := false
          granted := none }

variable {settings}

/-- The cases of a step of a call. -/
theorem resumes_of_resume {client : Client} {call : Call} {surroundings : Surroundings}
    {answer : Option Answer} {input : Input} {segment : Segment}
    (resuming : resume settings client call surroundings answer input = some segment) :
    Resumes settings client call surroundings answer input segment := by
  unfold resume at resuming
  split at resuming <;> rename_i point
  case h_7 =>
    split at resuming
    · cases resuming
      exact .responds _ point rfl
    · cases resuming
  case h_15 =>
    split at resuming
    · cases resuming
      exact .replies _ point rfl
    · cases resuming
  case h_22 outcome =>
    split at resuming
    · rename_i locked
      cases resuming
      exact .blocked outcome point locked
    · rename_i free
      cases resuming
      exact .settles outcome point (by simpa using free)
  all_goals cases resuming
  · exact .enters point
  · exact .abandons _ (.inl point)
  · exact .notified point
  · exact .stirred _ _ point
  · exact .wakes _ point
  · exact .delayed _ _ point
  · exact .fails point
  · exact .raises _ (.inl point)
  · exact .interrupted _ (.inl point)
  · exact .connects point
  · exact .unreachable point
  · exact .raises _ (.inr (.inl point))
  · exact .interrupted _ (.inr (.inl point))
  · exact .loses point
  · exact .fallsOver _ point
  · exact .cutOff _ point
  · exact .hungUp _ point
  · exact .raises _ (.inr (.inr ⟨_, point⟩))
  · exact .interrupted _ (.inr (.inr ⟨_, point⟩))
  · exact .abandons _ (.inr (.inl ⟨_, point⟩))
  · exact .retries point
  · exact .abandons _ (.inr (.inr point))

end Calls

/-- `notify_all` reaches a call. -/
def Call.notified (call : Call) (notify : Bool) : Call :=
  match call.point, notify with
  | .waiting false, true => call.suspend (.waiting true)
  | _, _ => call

/-- The call has just been sent to the gateway or to the dispatcher. -/
def Call.isSent (call : Call) : Bool :=
  match call.point with
  | .sending | .exchanging => true
  | _ => false

/-! ## Refreshes -/

/-- What runs a refresh. -/
inductive Owner where
  /-- A caller of `refresh`. -/
  | caller
  /-- `__aenter__`. -/
  | entering
  /-- `_poll`. -/
  | poller
  deriving DecidableEq

/-- A task which refreshes. -/
structure Refresher where
  /-- What it runs. -/
  owner : Owner
  /-- Frames which `refresh` has left on the stack. -/
  frames : Nat
  /-- Where it is. -/
  point : RefreshPoint

/-- What a suspended refresh is woken with. -/
inductive RefreshInput where
  /-- The lock of the condition was handed over, or the pause of the poller is over. -/
  | woken
  /-- The request returned or raised. -/
  | fetched (result : Except PyError Fetched)
  /-- The task was cancelled, or the timeout of the refresh expired. -/
  | interrupted (interrupt : Interrupt)

/-- The exception of an interrupt. -/
def Interrupt.error : Interrupt → PyError
  | .cancel => .cancelled
  | .timeout => .timeout

/-- A suspended refresh runs up to its next suspension. -/
def Refresher.resume (settings : Settings) (client : Client) (refresher : Refresher)
    (input : RefreshInput) : Option Refreshing :=
  let abandon : Refreshing :=
    { client, point := .done (.raised .cancelled), notify := false }
  match refresher.point, input with
  | .resting, .woken => some (refresh client)
  | .resting, .interrupted .cancel => some abandon
  | .lockEnter, .woken => some (refresh client)
  | .lockEnter, .interrupted .cancel => some abandon
  | .fetching, .fetched result => some (fetch settings refresher.frames client result)
  | .fetching, .interrupted interrupt => some (fail client interrupt.error)
  | .lockApply policy, .woken =>
      if client.locked then
        some { client, point := .lockApply policy, notify := false }
      else
        some (apply settings refresher.frames client.acquire policy)
  | .lockApply _, .interrupted interrupt => some (fail client interrupt.error)
  | .lockFail error, .woken =>
      if client.locked then
        some { client, point := .lockFail error, notify := false }
      else
        some (pause client error)
  | .lockFail _, .interrupted .cancel => some abandon
  | _, _ => none

/-- What a task does as its refresh is done. -/
def Owner.conclude : Owner → Refreshing → Refreshing
  | .caller, refreshing => refreshing
  | .entering, refreshing =>
      match refreshing.point with
      | .done (.raised _) =>
          { client := refreshing.client.close, point := refreshing.point, notify := true }
      | _ => refreshing
  | .poller, refreshing =>
      match refreshing.point with
      | .done .applied | .done .skipped | .done (.raised (.protocol _)) =>
          { refreshing with point := .resting }
      | _ => refreshing

/-- The poller which `__aenter__` creates. -/
def Owner.spawns (frames : Nat) : Owner → RefreshPoint → List Refresher
  | .entering, .done .applied | .entering, .done .skipped =>
      [{ owner := .poller, frames, point := .resting }]
  | _, _ => []

/-! ## Steps -/

/-- A client, its tasks, and its attempts and submissions by call and number. -/
structure System where
  /-- The client. -/
  client : Client
  /-- The calls, by the order they were made in. -/
  calls : List Call
  /-- The refreshes and the pollers. -/
  refreshers : List Refresher
  /-- The attempts and submissions. -/
  exchanges : Nat × Nat → Exchange Answer

namespace System

/-- Before the first call. -/
def start : System where
  client := .new
  calls := []
  refreshers := []
  exchanges _ := .fresh

/-- A call went on up to its next suspension. -/
def resumed (system : System) (front back : List Call) (segment : Segment) : System :=
  { system with
    client := segment.client
    calls := (front ++ segment.call :: back).map fun call => call.notified segment.notify
    exchanges :=
      if segment.call.isSent then
        Function.update system.exchanges (front.length, segment.call.number)
          { system.exchanges (front.length, segment.call.number) with sent := true }
      else
        system.exchanges }

/-- A refresh went on up to its next suspension, and its owner with it. -/
def refreshed (system : System) (front back : List Refresher) (refresher : Refresher)
    (refreshing : Refreshing) : System :=
  let concluded := refresher.owner.conclude refreshing
  { system with
    client := concluded.client
    calls := system.calls.map fun call => call.notified concluded.notify
    refreshers := front ++ { refresher with point := concluded.point } :: back ++
      refresher.owner.spawns refresher.frames refreshing.point }

end System

/-- What a step did. -/
inductive Event where
  /-- A call is made; the descriptor is the one its first attempt was granted. -/
  | begin (call : Call) (surroundings : Surroundings) (granted : Option Json)
  /-- A call fails the checks of its arguments. -/
  | refuse (ending : Ending)
  /-- A call goes on; the descriptor is the one an attempt was granted. -/
  | resume (call : Nat) (surroundings : Surroundings) (input : Input) (granted : Option Json)
  /-- A waiting call is notified without need. -/
  | stir (call : Nat)
  /-- A refresh begins, and maybe ends. -/
  | refresh (owner : Owner) (ended : Option Refreshed)
  /-- A refresh goes on, and maybe ends. -/
  | renew (refresher : Nat) (input : RefreshInput) (ended : Option Refreshed)
  /-- `aclose`. -/
  | close
  /-- The gateway or the dispatcher acts on an attempt or a submission. -/
  | remote (exchange : Nat × Nat) (event : Exchange.Event Answer)

/-- The end of a refresh. -/
def RefreshPoint.ended : RefreshPoint → Option Refreshed
  | .done result => some result
  | _ => none

/-- The arguments of a call do not pass its checks. -/
inductive Refusal : Ending → Prop
  | invalid (message : String) : Refusal (.raised (.protocol message))
  | late : Refusal (.deadlineExceeded "not_started" 0)

inductive Step (settings : Settings) : System → Event → System → Prop
  | begin (system : System) (operation : String) (params : Json) (frames : Nat)
      (surroundings : Surroundings) (segment : Segment)
      (entered : system.client.policy.isSome ∨
        ∃ refresher ∈ system.refreshers, refresher.owner = .poller)
      (entering : enter settings system.client (.new operation params frames) surroundings =
        segment) :
      Step settings system
        (.begin (.new operation params frames) surroundings segment.granted)
        (system.resumed system.calls [] segment)
  | refuse (system : System) (operation : String) (params : Json) (frames : Nat) (ending : Ending)
      (refusal : Refusal ending) :
      Step settings system (.refuse ending)
        { system with
          calls := system.calls ++ [(Call.new operation params frames).suspend (.done ending)] }
  | resume (system : System) (front back : List Call) (call : Call) (surroundings : Surroundings)
      (input : Input) (segment : Segment) (here : system.calls = front ++ call :: back)
      (resuming : resume settings system.client call surroundings
        (system.exchanges (front.length, call.number)).answer input = some segment) :
      Step settings system (.resume front.length surroundings input segment.granted)
        (system.resumed front back segment)
  | stir (system : System) (front back : List Call) (call : Call)
      (here : system.calls = front ++ call :: back) (waiting : call.point = .waiting false) :
      Step settings system (.stir front.length)
        { system with calls := front ++ call.suspend (.waiting true) :: back }
  | refresh (system : System) (owner : Owner) (frames : Nat) (distinct : owner ≠ .poller)
      (once : owner = .entering → system.client.closed = false ∧
        ∀ refresher ∈ system.refreshers, refresher.owner ≠ .poller) :
      Step settings system (.refresh owner (Sdk.refresh system.client).point.ended)
        (system.refreshed system.refreshers [] { owner, frames, point := .resting }
          (Sdk.refresh system.client))
  | renew (system : System) (front back : List Refresher) (refresher : Refresher)
      (input : RefreshInput) (refreshing : Refreshing)
      (here : system.refreshers = front ++ refresher :: back)
      (renewing : refresher.resume settings system.client input = some refreshing)
      -- nothing but `aclose` cancels the poller
      (kept : refresher.owner = .poller → refreshing.point = .done (.raised .cancelled) →
        system.client.closed = true) :
      Step settings system (.renew front.length input refreshing.point.ended)
        (system.refreshed front back refresher refreshing)
  | close (system : System) :
      Step settings system .close
        { system with
          client := system.client.close
          calls := system.calls.map fun call => call.notified true }
  | remote (system : System) (call : Nat × Nat) (event : Exchange.Event Answer)
      (exchange : Exchange Answer) (distinct : event ≠ .send)
      (acts : Exchange.Step Answer.Denies (system.exchanges call) event exchange) :
      Step settings system (.remote call event)
        { system with exchanges := Function.update system.exchanges call exchange }

/-- Executions. -/
abbrev Run (settings : Settings) :=
  Labelled.Execution (Step settings)

end Sdk

end AiProtocol
