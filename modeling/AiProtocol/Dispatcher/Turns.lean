import AiProtocol.Dispatcher.Machine

/-!
# Turns

A dispatcher in front of a service whose denials are certain, over a transport which may lose any
response.  A request has one turn at most, which its connection task, the executor and an HTTP task
hand to each other.  Whoever has the turn knows what became of the earlier attempts, and nobody else
touches the progress of the request.
-/

namespace AiProtocol

namespace Dispatcher

/-- A dispatcher and its calls of the gateway. -/
structure System where
  /-- The dispatcher. -/
  dispatcher : Dispatcher
  /-- Its HTTP attempts. -/
  exchanges : AttemptId → Exchange HttpReply

/-- An event of the composition. -/
inductive SystemEvent where
  /-- The dispatcher moves. -/
  | dispatcher (event : Event)
  /-- The gateway moves in one of the calls. -/
  | remote (attempt : AttemptId) (event : Exchange.Event HttpReply)

/-- The event starts or ends a call. -/
def Event.calls : Event → Bool
  | .begin _ => true
  | .return _ _ => true
  | _ => false

/-- One step of the composition. -/
inductive SystemStep (settings : Settings) : System → SystemEvent → System → Prop
  | dispatcher (system : System) (event : Event) (after : Dispatcher)
      (own : event.calls = false) (step : Step settings system.dispatcher event after) :
      SystemStep settings system (.dispatcher event) { system with dispatcher := after }
  | begin (system : System) (attempt : Attempt) (after : Dispatcher)
      (step : Step settings system.dispatcher (.begin attempt) after) :
      SystemStep settings system (.dispatcher (.begin attempt))
        { dispatcher := after
          exchanges := Function.update system.exchanges attempt.id
            { system.exchanges attempt.id with sent := true } }
  | answered (system : System) (attempt : Attempt) (response : HttpReply) (after : Dispatcher)
      (answered : (system.exchanges attempt.id).answer = some response)
      (step : Step settings system.dispatcher (.return attempt (.ok response)) after) :
      SystemStep settings system (.dispatcher (.return attempt (.ok response)))
        { system with dispatcher := after }
  | lost (system : System) (attempt : Attempt) (error : String) (after : Dispatcher)
      (step : Step settings system.dispatcher (.return attempt (.error error)) after) :
      SystemStep settings system (.dispatcher (.return attempt (.error error)))
        { system with dispatcher := after }
  | remote (system : System) (attempt : AttemptId) (event : Exchange.Event HttpReply)
      (exchanges : AttemptId → Exchange HttpReply) (delivered : event ≠ .send)
      (step : Exchange.Calls HttpReply.Denies system.exchanges attempt event exchanges) :
      SystemStep settings system (.remote attempt event) { system with exchanges }

/-- A run of the composition. -/
abbrev SystemRun (settings : Settings) := Labelled.Execution (SystemStep settings)

/-- The composition before anything happened. -/
def System.start : System where
  dispatcher := .start
  exchanges _ := .fresh

/-! ## Who has the turn -/

/-- A turn of a request, with the number of its attempt. -/
inductive Turn where
  /-- `job` is about to queue the attempt. -/
  | trying (number : Nat)
  /-- `job` sleeps after the attempt. -/
  | pausing (number : Nat)
  /-- `job` can learn the outcome of the attempt. -/
  | settled (number : Nat) (outcome : Outcome)
  /-- The attempt waits in the queue or at the executor. -/
  | waiting (number : Nat)
  /-- The attempt is performed. -/
  | running (number : Nat) (stage : Stage)

/-- The attempt in the hands of the executor, before it begins. -/
def Executor.attempt : Executor → Option Attempt
  | .waiting attempt | .granted attempt | .checked attempt => some attempt
  | _ => none

/-- The turn of the connection task. -/
def connectionTurns (dispatcher : Dispatcher) (request : RequestId) : List Turn :=
  match dispatcher.connections request with
  | .trying number => [.trying number]
  | .pausing number _ => [.pausing number]
  | .awaiting number =>
      match dispatcher.outcomes (request, number) with
      | .unset => []
      | outcome => [.settled number outcome]
  | _ => []

/-- Attempts which did not begin. -/
def waitingAttempts (dispatcher : Dispatcher) : List Attempt :=
  dispatcher.executor.attempt.toList ++ dispatcher.queue

/-- The turns of attempts which did not begin. -/
def waitingTurns (attempts : List Attempt) (request : RequestId) : List Turn :=
  (attempts.filter fun attempt => attempt.request = request).map fun attempt =>
    .waiting attempt.number

/-- The turns of HTTP tasks. -/
def runningTurns (running : List HttpTask) (request : RequestId) : List Turn :=
  (running.filter fun task => task.attempt.request = request).map fun task =>
    .running task.attempt.number task.stage

/-- All turns of a request. -/
def turns (dispatcher : Dispatcher) (request : RequestId) : List Turn :=
  connectionTurns dispatcher request ++
    (waitingTurns dispatcher.waitingAttempts request ++ runningTurns dispatcher.running request)

namespace System

/-- Every attempt sent for a request has a smaller number. -/
def Below (system : System) (request : RequestId) (number : Nat) : Prop :=
  ∀ sent, (system.exchanges (request, sent)).sent = true → sent < number

/-- Every other attempt sent for a request was denied. -/
def Others (system : System) (request : RequestId) (number : Nat) : Prop :=
  ∀ sent, (system.exchanges (request, sent)).sent = true → sent ≠ number →
    (system.exchanges (request, sent)).Denied HttpReply.Denies

/-- No attempt from a number on has an outcome. -/
def Unset (system : System) (request : RequestId) (number : Nat) : Prop :=
  ∀ later, number ≤ later → system.dispatcher.outcomes (request, later) = .unset

/-- A denying response is on record. -/
def Recorded (system : System) (request : RequestId) (result : Result) : Prop :=
  ∀ response, result = .ok response → notStarted response →
    (system.dispatcher.progress request).mayHaveExecuted = false

/-- What the holder of a turn knows about the attempts of its request. -/
def Knows (system : System) (request : RequestId) : Turn → Prop
  | .trying number =>
      (system.dispatcher.progress request).mayHaveExecuted = false ∧
        system.Below request number ∧ system.Unset request number
  | .pausing number =>
      (system.dispatcher.progress request).mayHaveExecuted = false ∧
        system.Below request (number + 1) ∧ system.Unset request (number + 1)
  | .settled number outcome =>
      system.Below request (number + 1) ∧ system.Unset request (number + 1) ∧
        ∀ result, outcome = .sent result → system.Recorded request result
  | .waiting number =>
      (system.dispatcher.progress request).mayHaveExecuted = false ∧
        system.Below request number ∧ system.Unset request number
  | .running number stage =>
      system.Below request (number + 1) ∧ system.Unset request number ∧
        match stage with
        | .sending =>
            (system.dispatcher.progress request).mayHaveExecuted = true ∧
              system.Others request number
        | .returned result =>
            system.Others request number ∧
              ∀ response, result = .ok response →
                (system.exchanges (request, number)).answer = some response
        | .marked result => system.Recorded request result
        | .released result => system.Recorded request result

/-- The turns of a request are in order. -/
structure Coherent (system : System) (request : RequestId) : Prop where
  /-- There is one at most. -/
  alone : (turns system.dispatcher request).length ≤ 1
  /-- Its holder knows the past. -/
  knows : ∀ turn ∈ turns system.dispatcher request, system.Knows request turn
  /-- The record of the progress is true. -/
  clear : (system.dispatcher.progress request).mayHaveExecuted = false → ∀ number,
    (system.exchanges (request, number)).sent = true →
      (system.exchanges (request, number)).Denied HttpReply.Denies
  /-- One attempt at most lacks a denial. -/
  single : Exchange.Single HttpReply.Denies fun number => system.exchanges (request, number)
  /-- Nothing happened before the request was accepted. -/
  idle : (system.dispatcher.connections request = .absent ∨
      ∃ reply, system.dispatcher.connections request = .refused reply) →
    turns system.dispatcher request = [] ∧
      system.dispatcher.progress request = .default ∧
      (∀ number, (system.exchanges (request, number)).sent = false) ∧ system.Unset request 0

end System

/-! ## Passing the turn on -/

theorem waitingTurns_append (front back : List Attempt) (request : RequestId) :
    waitingTurns (front ++ back) request =
      waitingTurns front request ++ waitingTurns back request := by
  simp [waitingTurns]

theorem waitingTurns_self (attempt : Attempt) (back : List Attempt) :
    waitingTurns (attempt :: back) attempt.request =
      .waiting attempt.number :: waitingTurns back attempt.request := by
  simp [waitingTurns]

theorem waitingTurns_other {attempt : Attempt} {request : RequestId} (back : List Attempt)
    (other : attempt.request ≠ request) :
    waitingTurns (attempt :: back) request = waitingTurns back request := by
  simp [waitingTurns, other]

theorem waitingTurns_eq_nil {attempts : List Attempt} {request : RequestId} :
    waitingTurns attempts request = [] ↔ ∀ attempt ∈ attempts, attempt.request ≠ request := by
  simp [waitingTurns]

theorem waitingAttempts_some {dispatcher : Dispatcher} {attempt : Attempt}
    (held : dispatcher.executor.attempt = some attempt) :
    dispatcher.waitingAttempts = attempt :: dispatcher.queue := by
  rw [waitingAttempts, held]
  rfl

theorem waitingAttempts_none {dispatcher : Dispatcher}
    (empty : dispatcher.executor.attempt = none) :
    dispatcher.waitingAttempts = dispatcher.queue := by
  rw [waitingAttempts, empty]
  rfl

theorem runningTurns_append (front back : List HttpTask) (request : RequestId) :
    runningTurns (front ++ back) request =
      runningTurns front request ++ runningTurns back request := by
  simp [runningTurns]

theorem runningTurns_self (attempt : Attempt) (stage : Stage) (back : List HttpTask) :
    runningTurns ({ attempt, stage } :: back) attempt.request =
      .running attempt.number stage :: runningTurns back attempt.request := by
  simp [runningTurns]

theorem runningTurns_other {attempt : Attempt} {request : RequestId} (stage : Stage)
    (back : List HttpTask) (other : attempt.request ≠ request) :
    runningTurns ({ attempt, stage } :: back) request = runningTurns back request := by
  simp [runningTurns, other]

section

variable {dispatcher : Dispatcher} {request : RequestId} {number : Nat} {turn : Turn}

theorem connectionTurns_trying (trying : dispatcher.connections request = .trying number) :
    connectionTurns dispatcher request = [.trying number] := by
  rw [connectionTurns, trying]

theorem connectionTurns_pausing {moment : Nat}
    (pausing : dispatcher.connections request = .pausing number moment) :
    connectionTurns dispatcher request = [.pausing number] := by
  rw [connectionTurns, pausing]

theorem connectionTurns_unset (awaiting : dispatcher.connections request = .awaiting number)
    (unset : dispatcher.outcomes (request, number) = .unset) :
    connectionTurns dispatcher request = [] := by
  simp only [connectionTurns, awaiting, unset]

theorem connectionTurns_settled (awaiting : dispatcher.connections request = .awaiting number)
    (settled : dispatcher.outcomes (request, number) ≠ .unset) :
    connectionTurns dispatcher request =
      [.settled number (dispatcher.outcomes (request, number))] := by
  cases outcome : dispatcher.outcomes (request, number) with
  | unset => exact absurd outcome settled
  | _ => simp only [connectionTurns, awaiting, outcome]

theorem connectionTurns_replied {reply : Reply}
    (replied : dispatcher.connections request = .replied reply) :
    connectionTurns dispatcher request = [] := by
  rw [connectionTurns, replied]

theorem connectionTurns_congr {dispatcher' : Dispatcher}
    (connection : dispatcher'.connections request = dispatcher.connections request)
    (outcomes : ∀ number,
      dispatcher'.outcomes (request, number) = dispatcher.outcomes (request, number)) :
    connectionTurns dispatcher' request = connectionTurns dispatcher request := by
  unfold connectionTurns
  rw [connection]
  simp only [outcomes]

theorem turns_sublist {dispatcher' : Dispatcher}
    (connection : connectionTurns dispatcher' request = connectionTurns dispatcher request)
    (waiting : waitingTurns dispatcher'.waitingAttempts request =
      waitingTurns dispatcher.waitingAttempts request)
    (running : runningTurns dispatcher'.running request =
      runningTurns dispatcher.running request) :
    (turns dispatcher' request).Sublist (turns dispatcher request) := by
  rw [turns, turns, connection, waiting, running]

theorem waiting_of_turns (none : turns dispatcher request = []) :
    ∀ attempt ∈ dispatcher.waitingAttempts, attempt.request ≠ request := by
  simp only [turns, List.append_eq_nil_iff] at none
  exact waitingTurns_eq_nil.mp none.2.1

theorem turns_of_connection (connection : connectionTurns dispatcher request = [turn])
    (waiting : waitingTurns dispatcher.waitingAttempts request = [])
    (running : runningTurns dispatcher.running request = []) :
    turns dispatcher request = [turn] := by
  rw [turns, connection, waiting, running]
  rfl

theorem turns_of_waiting (connection : connectionTurns dispatcher request = [])
    (waiting : waitingTurns dispatcher.waitingAttempts request = [turn])
    (running : runningTurns dispatcher.running request = []) :
    turns dispatcher request = [turn] := by
  rw [turns, connection, waiting, running]
  rfl

theorem turns_of_running (connection : connectionTurns dispatcher request = [])
    (waiting : waitingTurns dispatcher.waitingAttempts request = [])
    (running : runningTurns dispatcher.running request = [turn]) :
    turns dispatcher request = [turn] := by
  rw [turns, connection, waiting, running]
  rfl

end

namespace System

variable {system system' : System} {request : RequestId}

/-- Turns can be dropped. -/
theorem Coherent.shrink (coherent : system.Coherent request)
    (fewer : (turns system'.dispatcher request).Sublist (turns system.dispatcher request))
    (mayHaveExecuted : (system'.dispatcher.progress request).mayHaveExecuted =
      (system.dispatcher.progress request).mayHaveExecuted)
    (outcomes : ∀ number, system'.dispatcher.outcomes (request, number) =
      system.dispatcher.outcomes (request, number))
    (exchanges : ∀ number, system'.exchanges (request, number) = system.exchanges (request, number))
    (idle : (system'.dispatcher.connections request = .absent ∨
        ∃ reply, system'.dispatcher.connections request = .refused reply) →
      (system.dispatcher.connections request = .absent ∨
          ∃ reply, system.dispatcher.connections request = .refused reply) ∧
        system'.dispatcher.progress request = system.dispatcher.progress request) :
    system'.Coherent request := by
  obtain ⟨alone, knows, clear, single, untouched⟩ := coherent
  refine ⟨fewer.length_le.trans alone, fun turn member => ?_, ?_, ?_, fun early => ?_⟩
  · have known := knows turn (fewer.subset member)
    cases turn with
    | running number stage =>
        cases stage <;>
          simpa only [Knows, Below, Others, Unset, Recorded, mayHaveExecuted, outcomes, exchanges]
            using known
    | _ =>
        simpa only [Knows, Below, Others, Unset, Recorded, mayHaveExecuted, outcomes, exchanges]
          using known
  · simpa only [mayHaveExecuted, exchanges] using clear
  · simpa only [exchanges] using single
  · obtain ⟨before, progress⟩ := idle early
    obtain ⟨none, fresh, unsent, unset⟩ := untouched before
    refine ⟨List.sublist_nil.mp (none ▸ fewer), progress.trans fresh, ?_, ?_⟩
    · simpa only [exchanges] using unsent
    · simpa only [Unset, outcomes] using unset

/-- The turn can be handed on. -/
theorem Coherent.hand
    (held : turns system'.dispatcher request = [] ∨
      ∃ turn, turns system'.dispatcher request = [turn] ∧ system'.Knows request turn)
    (clear : (system'.dispatcher.progress request).mayHaveExecuted = false → ∀ number,
      (system'.exchanges (request, number)).sent = true →
        (system'.exchanges (request, number)).Denied HttpReply.Denies)
    (single : Exchange.Single HttpReply.Denies fun number => system'.exchanges (request, number))
    (busy : system'.dispatcher.connections request ≠ .absent ∧
      ∀ reply, system'.dispatcher.connections request ≠ .refused reply) :
    system'.Coherent request := by
  refine ⟨?_, ?_, clear, single, ?_⟩
  · rcases held with none | ⟨turn, only, -⟩
    · simp [none]
    · simp [only]
  · rcases held with none | ⟨turn, only, known⟩
    · simp [none]
    · rw [only]
      rintro _ (_ | ⟨_, ⟨⟩⟩)
      exact known
  · rintro (absent | ⟨reply, refused⟩)
    · exact absurd absent busy.1
    · exact absurd refused (busy.2 reply)

/-- A request with a turn was accepted. -/
theorem Coherent.busy (coherent : system.Coherent request)
    (held : turns system.dispatcher request ≠ []) :
    system.dispatcher.connections request ≠ .absent ∧
      ∀ reply, system.dispatcher.connections request ≠ .refused reply :=
  ⟨fun absent => held (coherent.idle (.inl absent)).1,
    fun reply refused => held (coherent.idle (.inr ⟨reply, refused⟩)).1⟩

/-- With the turn of the connection task there is no other. -/
theorem Coherent.of_connection (coherent : system.Coherent request) {turn : Turn}
    (held : connectionTurns system.dispatcher request = [turn]) :
    system.Knows request turn ∧
      waitingTurns system.dispatcher.waitingAttempts request = [] ∧
        runningTurns system.dispatcher.running request = [] := by
  have alone := coherent.alone
  rw [turns, held, List.length_append, List.length_append, List.length_singleton] at alone
  refine ⟨coherent.knows turn ?_, List.eq_nil_of_length_eq_zero (by omega),
    List.eq_nil_of_length_eq_zero (by omega)⟩
  rw [turns, held]
  exact List.mem_append_left _ (List.mem_singleton.mpr rfl)

/-- With an attempt which waits there is no other turn. -/
theorem Coherent.of_waiting {attempt : Attempt} {front back : List Attempt}
    (coherent : system.Coherent attempt.request)
    (held : system.dispatcher.waitingAttempts = front ++ attempt :: back) :
    system.Knows attempt.request (.waiting attempt.number) ∧
      connectionTurns system.dispatcher attempt.request = [] ∧
        waitingTurns front attempt.request = [] ∧ waitingTurns back attempt.request = [] ∧
          runningTurns system.dispatcher.running attempt.request = [] := by
  have alone := coherent.alone
  rw [turns, held, waitingTurns_append, waitingTurns_self] at alone
  simp only [List.length_append, List.length_cons] at alone
  refine ⟨coherent.knows _ ?_, List.eq_nil_of_length_eq_zero (by omega),
    List.eq_nil_of_length_eq_zero (by omega), List.eq_nil_of_length_eq_zero (by omega),
    List.eq_nil_of_length_eq_zero (by omega)⟩
  rw [turns, held, waitingTurns_append, waitingTurns_self]
  simp

/-- With an HTTP task there is no other turn. -/
theorem Coherent.of_running {attempt : Attempt} {stage : Stage} {front back : List HttpTask}
    (coherent : system.Coherent attempt.request)
    (held : system.dispatcher.running = front ++ { attempt, stage } :: back) :
    system.Knows attempt.request (.running attempt.number stage) ∧
      connectionTurns system.dispatcher attempt.request = [] ∧
        waitingTurns system.dispatcher.waitingAttempts attempt.request = [] ∧
          runningTurns front attempt.request = [] ∧ runningTurns back attempt.request = [] := by
  have alone := coherent.alone
  rw [turns, held, runningTurns_append, runningTurns_self] at alone
  simp only [List.length_append, List.length_cons] at alone
  refine ⟨coherent.knows _ ?_, List.eq_nil_of_length_eq_zero (by omega),
    List.eq_nil_of_length_eq_zero (by omega), List.eq_nil_of_length_eq_zero (by omega),
    List.eq_nil_of_length_eq_zero (by omega)⟩
  rw [turns, held, runningTurns_append, runningTurns_self]
  simp

/-- Steps which move neither turns nor outcomes. -/
theorem Coherent.same (coherent : system.Coherent request) {dispatcher : Dispatcher}
    (connections : dispatcher.connections = system.dispatcher.connections)
    (progress : dispatcher.progress = system.dispatcher.progress)
    (outcomes : dispatcher.outcomes = system.dispatcher.outcomes)
    (waiting : dispatcher.waitingAttempts = system.dispatcher.waitingAttempts)
    (running : dispatcher.running = system.dispatcher.running) :
    ({ system with dispatcher } : System).Coherent request := by
  refine coherent.shrink ?_ (by rw [progress]) (fun _ => by rw [outcomes]) (fun _ => rfl) ?_
  · exact turns_sublist (connectionTurns_congr (congrFun connections _)
      fun number => congrFun outcomes _) (by rw [waiting]) (by rw [running])
  · intro early
    exact ⟨by simpa only [connections] using early, by rw [progress]⟩

/-- A connection task gives up its turn, if it has one. -/
theorem Coherent.settle (coherent : system.Coherent request) (settled : RequestId)
    (connection : Connection) (progress : Progress)
    (turnless : ∀ dispatcher : Dispatcher, dispatcher.connections settled = connection →
      connectionTurns dispatcher settled = [])
    (same : progress.mayHaveExecuted = (system.dispatcher.progress settled).mayHaveExecuted)
    (idle : (connection = .absent ∨ ∃ reply, connection = .refused reply) →
      system.dispatcher.connections settled = .absent ∧
        progress = system.dispatcher.progress settled) :
    ({ system with
      dispatcher := { system.dispatcher with
        connections := Function.update system.dispatcher.connections settled connection
        progress := Function.update system.dispatcher.progress settled progress } } :
          System).Coherent request := by
  by_cases other : request = settled
  · subst other
    refine coherent.shrink ?_ (by simpa using same) (fun _ => rfl) (fun _ => rfl) ?_
    · rw [turns, turns, turnless _ (Function.update_self _ _ _), List.nil_append]
      exact List.sublist_append_right _ _
    · simp only [Function.update_self]
      intro early
      exact ⟨.inl (idle early).1, (idle early).2⟩
  · refine coherent.shrink ?_ ?_ (fun _ => rfl) (fun _ => rfl) ?_
    · exact turns_sublist (connectionTurns_congr (Function.update_of_ne other _ _) fun _ => rfl)
        rfl rfl
    · simp [Function.update_of_ne other]
    · simp only [Function.update_of_ne other]
      exact fun early => ⟨early, trivial⟩

theorem Coherent.fail (coherent : system.Coherent request) (failed : RequestId) (error : String)
    (response : Option HttpReply) :
    ({ system with dispatcher := system.dispatcher.fail failed error response } :
      System).Coherent request :=
  coherent.settle failed _ (system.dispatcher.progress failed).close
    (fun _ => connectionTurns_replied) rfl (by simp)

/-- A connection task goes on with its turn. -/
theorem Coherent.turn (coherent : system.Coherent request) (holder : RequestId) {turn turn' : Turn}
    {connection : Connection} (held : connectionTurns system.dispatcher holder = [turn])
    (next : ∀ dispatcher : Dispatcher, dispatcher.connections holder = connection →
      connectionTurns dispatcher holder = [turn'])
    (busy : connection ≠ .absent ∧ ∀ reply, connection ≠ .refused reply)
    (knows : system.Knows holder turn → system.Knows holder turn') :
    ({ system with
      dispatcher := { system.dispatcher with
        connections := Function.update system.dispatcher.connections holder connection } } :
          System).Coherent request := by
  by_cases other : request = holder
  · subst other
    obtain ⟨known, waiting, running⟩ := coherent.of_connection held
    have knows' := knows known
    refine Coherent.hand (.inr ⟨turn', turns_of_connection (next _ ?_) waiting running, ?_⟩)
      coherent.clear coherent.single ?_
    · exact Function.update_self _ _ _
    · cases turn' with
      | running number stage => cases stage <;> exact knows'
      | _ => exact knows'
    · simpa only [Function.update_self] using busy
  · refine coherent.shrink ?_ rfl (fun _ => rfl) (fun _ => rfl) ?_
    · exact turns_sublist (connectionTurns_congr (Function.update_of_ne other _ _) fun _ => rfl)
        rfl rfl
    · simp only [Function.update_of_ne other]
      exact fun early => ⟨early, trivial⟩

private theorem connectionTurns_update {dispatcher dispatcher' : Dispatcher} {request : RequestId}
    {number : Nat} (connections : dispatcher'.connections = dispatcher.connections)
    (outcomes : ∀ other ≠ number,
      dispatcher'.outcomes (request, other) = dispatcher.outcomes (request, other))
    (set : dispatcher'.outcomes (request, number) ≠ .unset)
    (none : connectionTurns dispatcher request = []) :
    connectionTurns dispatcher' request = [] ∨ connectionTurns dispatcher' request =
      [.settled number (dispatcher'.outcomes (request, number))] := by
  unfold connectionTurns at none ⊢
  rw [connections]
  cases connection : dispatcher.connections request with
  | awaiting awaited =>
      simp only [connection] at none ⊢
      by_cases same : awaited = number
      · subst same
        cases outcome : dispatcher'.outcomes (request, awaited) with
        | unset => exact absurd outcome set
        | _ => exact .inr (by simp)
      · rw [outcomes awaited same]
        exact .inl none
  | trying => simp [connection] at none
  | pausing => simp [connection] at none
  | _ => exact .inl rfl

/-- An attempt ends and its result channel settles. -/
theorem Coherent.conclude (coherent : system.Coherent request) (number : Nat)
    (held : turns system.dispatcher request ≠ []) {dispatcher : Dispatcher}
    (connections : dispatcher.connections = system.dispatcher.connections)
    (progress : dispatcher.progress = system.dispatcher.progress)
    (outcomes : ∀ other ≠ number,
      dispatcher.outcomes (request, other) = system.dispatcher.outcomes (request, other))
    (set : dispatcher.outcomes (request, number) ≠ .unset)
    (unconnected : connectionTurns system.dispatcher request = [])
    (waiting : waitingTurns dispatcher.waitingAttempts request = [])
    (running : runningTurns dispatcher.running request = [])
    (below : system.Below request (number + 1)) (unset : system.Unset request number)
    (recorded : ∀ result, dispatcher.outcomes (request, number) = .sent result →
      system.Recorded request result) :
    ({ system with dispatcher } : System).Coherent request := by
  have knows : ({ system with dispatcher } : System).Knows request
      (.settled number (dispatcher.outcomes (request, number))) := by
    refine ⟨below, fun later larger => ?_, ?_⟩
    · exact (outcomes later (by omega)).trans (unset later (by omega))
    · simpa only [Recorded, progress] using recorded
  refine Coherent.hand ?_ ?_ coherent.single ?_
  · simp only [turns, waiting, running, List.append_nil]
    exact (connectionTurns_update connections outcomes set unconnected).imp_right
      fun turn => ⟨_, turn, knows⟩
  · rw [progress]
    exact coherent.clear
  · rw [connections]
    exact coherent.busy held

/-- Other requests do not notice that an attempt ends. -/
theorem Coherent.bystand (coherent : system.Coherent request) {dispatcher : Dispatcher}
    (connections : dispatcher.connections = system.dispatcher.connections)
    (progress : dispatcher.progress = system.dispatcher.progress)
    (outcomes : ∀ number,
      dispatcher.outcomes (request, number) = system.dispatcher.outcomes (request, number))
    (waiting : waitingTurns dispatcher.waitingAttempts request =
      waitingTurns system.dispatcher.waitingAttempts request)
    (running : runningTurns dispatcher.running request =
      runningTurns system.dispatcher.running request) :
    ({ system with dispatcher } : System).Coherent request := by
  refine coherent.shrink ?_ (by rw [progress]) outcomes (fun _ => rfl) ?_
  · exact turns_sublist (connectionTurns_congr (congrFun connections _) outcomes) waiting
      running
  · rw [connections, progress]
    exact fun early => ⟨early, rfl⟩

theorem update_outcome {outcomes : AttemptId → Outcome} {outcome : Outcome} {number : Nat}
    (other : Nat) (different : other ≠ number) :
    Function.update outcomes (request, number) outcome (request, other) =
      outcomes (request, other) :=
  Function.update_of_ne (fun equal => different (congrArg Prod.snd equal)) _ _

theorem update_outcome_of_ne {outcomes : AttemptId → Outcome} {outcome : Outcome} {id : AttemptId}
    (different : id.1 ≠ request) (number : Nat) :
    Function.update outcomes id outcome (request, number) = outcomes (request, number) :=
  Function.update_of_ne (fun equal => different (congrArg Prod.fst equal).symm) _ _

/-- The executor drops an attempt which did not begin. -/
theorem Coherent.abandon (coherent : system.Coherent request) {attempt : Attempt}
    {executor : Executor} (gate : Gate) (outcome : Outcome)
    (held : system.dispatcher.executor.attempt = some attempt) (empty : executor.attempt = none)
    (known : outcome = .dropped ∨ ∃ error, outcome = .sent (.error error)) :
    ({ system with
      dispatcher := { system.dispatcher with
        executor
        gate
        outcomes := Function.update system.dispatcher.outcomes attempt.id outcome } } :
          System).Coherent request := by
  have waiting : system.dispatcher.waitingAttempts = [] ++ attempt :: system.dispatcher.queue :=
    waitingAttempts_some held
  by_cases same : attempt.request = request
  · subst same
    obtain ⟨⟨clear, below, unset⟩, unconnected, -, rest, performing⟩ := coherent.of_waiting waiting
    have held : turns system.dispatcher attempt.request ≠ [] := by
      rw [turns, waiting, List.nil_append, waitingTurns_self]
      simp
    have sent : Function.update system.dispatcher.outcomes attempt.id outcome
        (attempt.request, attempt.number) = outcome := Function.update_self _ _ _
    refine coherent.conclude attempt.number held rfl rfl update_outcome ?_ unconnected ?_ performing
      (fun sent began => (below sent began).trans (Nat.lt_succ_self _)) unset ?_
    · refine sent.trans_ne ?_
      rcases known with rfl | ⟨error, rfl⟩ <;> exact nofun
    · exact (congrArg (waitingTurns · _) (waitingAttempts_none empty)).trans rest
    · rintro result told response rfl
      obtain rfl : outcome = .sent (.ok response) := sent.symm.trans told
      simp at known
  · refine coherent.bystand rfl rfl (update_outcome_of_ne same) ?_ rfl
    rw [waiting, List.nil_append, waitingTurns_other _ same]
    exact congrArg (waitingTurns · _) (waitingAttempts_none empty)

end System

end Dispatcher

end AiProtocol
