import AiProtocol.Dispatcher.Order
import AiProtocol.Library.Rest

/-!
# The dispatcher comes to rest

Between two submissions, at a fixed time and with a fixed policy, the dispatcher has finitely much
to do: a request is attempted five times at most.  When none of its own steps is possible, nothing
is performed, every permit was given back, and whoever still waits for a reply waits for its pause
or for a policy, and not beyond its deadline.
-/

namespace AiProtocol

namespace Dispatcher

open Labelled

/-- The dispatcher moves by itself: no caller, policy or operator does, and no time passes. -/
def Event.internal : Event → Bool
  | .tick _ | .policy _ | .pause | .stop | .refuse .. | .accept .. | .disconnect _ | .hangUp _ =>
      false
  | _ => true

/-! ## Weights -/

/-- What is still to be done for a request, its attempt in progress apart. -/
def Connection.weight : Connection → Nat
  | .trying number => 16 * (6 - number)
  | .awaiting number => 16 * (5 - number) + 2
  | .pausing number _ => 16 * (5 - number) + 1
  | .absent | .refused _ | .replied _ | .vanished => 0

/-- What is still to be done for the attempt of the executor. -/
def Executor.weight : Executor → Nat
  | .waiting _ => 10
  | .granted _ => 9
  | .checked _ => 8
  | .declined => 2
  | .idle | .closing => 1
  | .stopped => 0

/-- What is still to be done for an HTTP attempt. -/
def Stage.weight : Stage → Nat
  | .sending => 4
  | .returned _ => 3
  | .marked _ => 2
  | .released _ => 1

/-- What is still to be done for some HTTP attempts. -/
def runningWeight (running : List HttpTask) : Nat :=
  (running.map fun task => task.stage.weight).sum

/-- What is still to be done in a dispatcher with these requests. -/
def weight (requests : List RequestId) (dispatcher : Dispatcher) : Nat :=
  load Connection.weight requests dispatcher.connections + 10 * dispatcher.queue.length +
    dispatcher.executor.weight + runningWeight dispatcher.running

/-- A request is attempted five times at most. -/
def Connection.Numbered : Connection → Prop
  | .trying number | .awaiting number => number ≤ 5
  | .pausing number _ => number < 5
  | _ => True

/-- All requests with something to be done are among these, and in their first five attempts. -/
structure Staffed (requests : List RequestId) (dispatcher : Dispatcher) : Prop where
  /-- Nobody else is on the way. -/
  known : ∀ request, (dispatcher.connections request).weight ≠ 0 → request ∈ requests
  /-- Attempts are counted. -/
  numbered : ∀ request, (dispatcher.connections request).Numbered

section

variable {settings : Settings} {before after dispatcher : Dispatcher} {event : Event}
  {trace : List Event} {requests : List RequestId}

@[simp] theorem runningWeight_append (front back : List HttpTask) :
    runningWeight (front ++ back) = runningWeight front + runningWeight back := by
  simp [runningWeight]

@[simp] theorem runningWeight_cons (task : HttpTask) (running : List HttpTask) :
    runningWeight (task :: running) = task.stage.weight + runningWeight running := by
  simp [runningWeight]

/-- With a result a request is over, or it pauses before another attempt. -/
theorem resume_connections (dispatcher : Dispatcher) (request : RequestId) (number : Nat)
    (result : Result) : ∃ connection,
      (dispatcher.resume request number result).connections =
          Function.update dispatcher.connections request connection ∧
        ((∃ reply, connection = .replied reply) ∨
          number ≠ 5 ∧ ∃ moment, connection = .pausing number moment) := by
  unfold Dispatcher.resume
  cases result with
  | error error => exact ⟨_, rfl, .inl ⟨_, rfl⟩⟩
  | ok response =>
      dsimp only
      split
      · exact ⟨_, rfl, .inl ⟨_, rfl⟩⟩
      · exact ⟨_, rfl, .inl ⟨_, rfl⟩⟩
      · rename_i seconds paused
        exact ⟨_, rfl, .inr ⟨(of_verdict_pause paused).2, _, rfl⟩⟩

/-- A request which is on the way has something to be done. -/
theorem Staffed.busy (staffed : Staffed requests before) {request : RequestId}
    (busy : (∃ number, before.connections request = .trying number) ∨
      (∃ number, before.connections request = .awaiting number) ∨
        ∃ number moment, before.connections request = .pausing number moment) :
    1 ≤ (before.connections request).weight := by
  have numbered := staffed.numbered request
  rcases busy with ⟨number, trying⟩ | ⟨number, awaiting⟩ | ⟨number, moment, pausing⟩
  · rw [trying] at numbered ⊢
    have limit : number ≤ 5 := numbered
    simp only [Connection.weight]
    omega
  · rw [awaiting, Connection.weight]
    omega
  · rw [pausing, Connection.weight]
    omega

theorem weight_connection (staffed : Staffed requests before) {request : RequestId}
    {connection : Connection}
    (connections : after.connections = Function.update before.connections request connection)
    (lighter : connection.weight + 1 ≤ (before.connections request).weight)
    (queue : after.queue = before.queue) (executor : after.executor = before.executor)
    (running : after.running = before.running) :
    after.weight requests + 1 ≤ before.weight requests := by
  have lighter' : connection.weight ≤ (before.connections request).weight := by omega
  have paid := load_update (staffed.known request (by omega)) rfl lighter'
  rw [weight, weight, connections, queue, executor, running]
  omega

/-- Every step of the dispatcher loses weight. -/
theorem weight_step (staffed : Staffed requests before) (step : Step settings before event after)
    (internal : event.internal = true) : after.weight requests + 1 ≤ before.weight requests := by
  cases step with
  | tick | policy | pause | stop | full | refuse | accept | disconnect | hangUp => cases internal
  | enqueue request number attempt trying isOpen room made =>
      have limit : number ≤ 5 := by
        have numbered := staffed.numbered request
        rwa [trying] at numbered
      have heavy : (before.connections request).weight = 16 * (6 - number) := by
        rw [trying, Connection.weight]
      have lighter : (Connection.awaiting number).weight ≤ (before.connections request).weight := by
        rw [heavy, Connection.weight]
        omega
      have paid := load_update (staffed.known request (by omega)) rfl lighter
      rw [heavy, Connection.weight] at paid
      simp only [weight, List.length_append, List.length_singleton]
      omega
  | reject request number trying stopped =>
      exact weight_connection staffed rfl (staffed.busy (.inl ⟨number, trying⟩)) rfl rfl rfl
  | receive request number result awaiting sent =>
      obtain ⟨connection, connections, settled⟩ :=
        resume_connections before request number result
      refine weight_connection staffed connections ?_ (by simp) (by simp) (by simp)
      rcases settled with ⟨reply, rfl⟩ | ⟨-, moment, rfl⟩
      · exact staffed.busy (.inr (.inl ⟨number, awaiting⟩))
      · rw [awaiting, Connection.weight, Connection.weight]
  | lose request number awaiting dropped =>
      exact weight_connection staffed rfl (staffed.busy (.inr (.inl ⟨number, awaiting⟩)))
        rfl rfl rfl
  | wake request number moment pausing due =>
      refine weight_connection staffed rfl ?_ rfl rfl rfl
      rw [pausing, Connection.weight, Connection.weight]
      omega
  | expire request busy due =>
      exact weight_connection staffed rfl (staffed.busy busy) rfl rfl rfl
  | take attempt rest idle next =>
      simp only [weight, idle, next, Executor.weight, List.length_cons]
      omega
  | skip attempt waiting | overdue attempt waiting | halt attempt error waiting
  | acquire attempt gate waiting =>
      simp only [weight, waiting, Executor.weight]
      omega
  | check attempt granted | declineClosed attempt granted =>
      simp only [weight, granted, Executor.weight]
      omega
  | decline attempt checked refused =>
      simp only [weight, checked, Executor.weight]
      omega
  | yield declined =>
      simp only [weight, declined, Executor.weight]
      omega
  | begin attempt progress checked begun =>
      simp only [weight, checked, Executor.weight, runningWeight, List.map_append, List.map_cons,
        List.map_nil, List.sum_append, List.sum_cons, List.sum_nil, Stage.weight]
      omega
  | «return» front back attempt result sending =>
      simp only [weight, sending, runningWeight_append, runningWeight_cons, Stage.weight]
      omega
  | mark front back attempt result returned =>
      simp only [weight, returned, runningWeight_append, runningWeight_cons, Stage.weight]
      omega
  | release front back attempt result marked =>
      simp only [weight, marked, runningWeight_append, runningWeight_cons, Stage.weight]
      omega
  | reply front back attempt result released =>
      simp only [weight, released, runningWeight_append, runningWeight_cons, Stage.weight]
      omega
  | close done =>
      have heavy : before.executor.weight = 1 := by
        rcases done with ⟨closing, -⟩ | ⟨-, -, idle | closing⟩
        · rw [closing, Executor.weight]
        · rw [idle, Executor.weight]
        · rw [closing, Executor.weight]
      simp only [weight, List.length_nil]
      rw [heavy, Executor.weight]
      omega

/-- A step moves one connection task at most; it starts one only when it accepts a submission. -/
theorem connections_step (numbered : ∀ request, (before.connections request).Numbered)
    (step : Step settings before event after) :
    after.connections = before.connections ∨ ∃ request connection,
      after.connections = Function.update before.connections request connection ∧
        connection.Numbered ∧ (connection.weight ≠ 0 →
          (before.connections request).weight ≠ 0 ∨
            ∃ deadline, event = .accept request deadline) := by
  cases step with
  | full request | refuse request | reject request | lose request | expire request
  | disconnect request =>
      exact .inr ⟨request, _, rfl, trivial, fun busy => absurd rfl busy⟩
  | accept request =>
      refine .inr ⟨request, _, rfl, ?_, fun _ => .inr ⟨_, rfl⟩⟩
      simp [Connection.Numbered]
  | enqueue request number attempt trying isOpen room made =>
      have limit : number ≤ 5 := by
        have before_numbered := numbered request
        rwa [trying] at before_numbered
      refine .inr ⟨request, _, rfl, limit, fun _ => .inl ?_⟩
      rw [trying, Connection.weight]
      omega
  | receive request number result awaiting sent =>
      have limit : number ≤ 5 := by
        have before_numbered := numbered request
        rwa [awaiting] at before_numbered
      obtain ⟨connection, connections, settled⟩ := resume_connections before request number result
      refine .inr ⟨request, connection, connections, ?_, fun _ => .inl ?_⟩
      · rcases settled with ⟨reply, rfl⟩ | ⟨fewer, moment, rfl⟩
        · trivial
        · exact Nat.lt_of_le_of_ne limit fewer
      · rw [awaiting, Connection.weight]
        omega
  | wake request number moment pausing due =>
      have limit : number < 5 := by
        have before_numbered := numbered request
        rwa [pausing] at before_numbered
      refine .inr ⟨request, _, rfl, limit, fun _ => .inl ?_⟩
      rw [pausing, Connection.weight]
      omega
  | _ => exact .inl rfl

theorem numbered_step (numbered : ∀ request, (before.connections request).Numbered)
    (step : Step settings before event after) (request : RequestId) :
    (after.connections request).Numbered := by
  rcases connections_step numbered step with same | ⟨moved, connection, connections, limit, -⟩
  · rw [same]
    exact numbered request
  · rw [connections]
    by_cases own : request = moved
    · rwa [own, Function.update_self]
    · rw [Function.update_of_ne own]
      exact numbered request

theorem busy_step (numbered : ∀ request, (before.connections request).Numbered)
    (step : Step settings before event after) {request : RequestId}
    (busy : (after.connections request).weight ≠ 0) :
    (before.connections request).weight ≠ 0 ∨ ∃ deadline, event = .accept request deadline := by
  rcases connections_step numbered step with same | ⟨moved, connection, connections, -, started⟩
  · exact .inl (same ▸ busy)
  · rw [connections] at busy
    by_cases own : request = moved
    · subst own
      exact started (by rwa [Function.update_self] at busy)
    · rw [Function.update_of_ne own] at busy
      exact .inl busy

theorem Staffed.step (staffed : Staffed requests before) (step : Step settings before event after)
    (internal : event.internal = true) : Staffed requests after where
  known request busy := by
    rcases busy_step staffed.numbered step busy with already | ⟨deadline, rfl⟩
    · exact staffed.known request already
    · cases internal
  numbered := numbered_step staffed.numbered step

/-- The requests which were accepted. -/
def acceptedRequests (trace : List Event) : List RequestId :=
  trace.filterMap fun event =>
    match event with
    | .accept request _ => some request
    | _ => none

theorem staffed_run (run : Run settings start trace dispatcher) :
    Staffed (acceptedRequests trace) dispatcher := by
  have begun : Staffed (acceptedRequests []) start :=
    ⟨fun request busy => absurd rfl busy, fun request => trivial⟩
  refine run.invariantTrace (fun trace dispatcher => Staffed (acceptedRequests trace) dispatcher)
    begun ?_
  intro trace before after event earlier staffed step
  refine ⟨fun request busy => ?_, numbered_step staffed.numbered step⟩
  rw [acceptedRequests, List.filterMap_append]
  rcases busy_step staffed.numbered step busy with already | ⟨deadline, rfl⟩
  · exact List.mem_append_left _ (staffed.known request already)
  · exact List.mem_append_right _ (List.mem_singleton.mpr rfl)

/-! ## Who is in charge of an attempt -/

/-- The attempts which wait or are performed. -/
def inHand (dispatcher : Dispatcher) : List AttemptId :=
  dispatcher.waitingAttempts.map Attempt.id ++ dispatcher.running.map fun task => task.attempt.id

/-- A result which is awaited and not there yet is on its way. -/
def Attended (dispatcher : Dispatcher) : Prop :=
  ∀ request number, dispatcher.connections request = .awaiting number →
    dispatcher.outcomes (request, number) = .unset → (request, number) ∈ dispatcher.inHand

/-- A request awaits only what it has queued. -/
theorem awaiting_step (step : Step settings before event after) {request : RequestId}
    {number : Nat} (awaiting : after.connections request = .awaiting number) :
    before.connections request = .awaiting number ∨
      ∃ attempt : Attempt, event = .enqueue attempt ∧ attempt.id = (request, number) := by
  have moved : ∀ {other : RequestId} {connection : Connection},
      (∀ awaited, connection ≠ .awaiting awaited) →
        Function.update before.connections other connection request = .awaiting number →
          before.connections request = .awaiting number := by
    intro other connection left awaited
    by_cases own : request = other
    · rw [own, Function.update_self] at awaited
      exact absurd awaited (left number)
    · rwa [Function.update_of_ne own] at awaited
  cases step with
  | full | refuse | accept | reject | lose | wake | expire | disconnect =>
      exact .inl (moved (by simp) awaiting)
  | enqueue holder awaited attempt trying isOpen room made =>
      by_cases own : request = holder
      · subst own
        obtain rfl : awaited = number := by simpa using awaiting
        exact .inr ⟨attempt, rfl, by rw [made]; rfl⟩
      · exact .inl (by simpa [Function.update_of_ne own] using awaiting)
  | receive holder awaited result _ _ =>
      obtain ⟨connection, connections, settled⟩ := resume_connections before holder awaited result
      rw [connections] at awaiting
      refine .inl (moved ?_ awaiting)
      rcases settled with ⟨reply, rfl⟩ | ⟨-, moment, rfl⟩ <;> simp
  | _ => exact .inl awaiting

private theorem unset_step (step : Step settings before event after) {id : AttemptId}
    (unset : after.outcomes id = .unset) : before.outcomes id = .unset := by
  have settled : ∀ {other : AttemptId} {outcome : Outcome}, outcome ≠ .unset →
      Function.update before.outcomes other outcome id = .unset →
        before.outcomes id = .unset := by
    intro other outcome set unset
    by_cases own : id = other
    · rw [own, Function.update_self] at unset
      exact absurd unset set
    · rwa [Function.update_of_ne own] at unset
  cases step with
  | skip | overdue | halt | declineClosed | decline | reply => exact settled (by simp) unset
  | receive holder number result =>
      unfold Dispatcher.resume at unset
      split at unset
      · exact unset
      · split at unset <;> exact unset
  | close =>
      dsimp only at unset
      split at unset
      · cases unset
      · exact unset
  | _ => exact unset

/-- What is in hand stays in hand until its result channel is settled. -/
theorem inHand_step (step : Step settings before event after) {id : AttemptId}
    (held : id ∈ before.inHand) (unset : after.outcomes id = .unset) : id ∈ after.inHand := by
  have waits : ∀ {attempt : Attempt}, before.executor.attempt = some attempt →
      id = attempt.id ∨ id ∈ before.queue.map Attempt.id ++
        before.running.map fun task => task.attempt.id := by
    intro attempt held_by
    rw [inHand, waitingAttempts_some held_by] at held
    simpa using held
  have told : ∀ {attempt : Attempt} {outcome : Outcome}, outcome ≠ .unset →
      Function.update before.outcomes attempt.id outcome id = .unset → id ≠ attempt.id := by
    rintro attempt outcome set unset rfl
    rw [Function.update_self] at unset
    exact set unset
  cases step with
  | enqueue =>
      simp only [inHand, waitingAttempts, List.map_append, List.mem_append] at held ⊢
      exact held.imp_left fun waiting => waiting.imp_right .inl
  | take attempt rest idle next =>
      rw [inHand, waitingAttempts_none (by rw [idle]; rfl), next] at held
      exact held
  | skip attempt waiting | overdue attempt waiting | halt attempt error waiting =>
      exact (waits (by rw [waiting]; rfl)).resolve_left (told (by simp) unset)
  | acquire attempt gate waiting =>
      rw [inHand, waitingAttempts_some (by rw [waiting]; rfl)] at held
      exact held
  | check attempt granted =>
      rw [inHand, waitingAttempts_some (by rw [granted]; rfl)] at held
      exact held
  | declineClosed attempt granted =>
      exact (waits (by rw [granted]; rfl)).resolve_left (told (by simp) unset)
  | decline attempt checked =>
      exact (waits (by rw [checked]; rfl)).resolve_left (told (by simp) unset)
  | yield declined =>
      rw [inHand, waitingAttempts_none (by rw [declined]; rfl)] at held
      exact held
  | begin attempt progress checked begun =>
      simp only [inHand, waitingAttempts, Executor.attempt, List.map_append, List.map_cons,
        List.mem_append, Option.toList_none, List.nil_append, List.map_nil, List.mem_cons,
        List.not_mem_nil, or_false]
      rcases waits (by rw [checked]; rfl) with rfl | elsewhere
      · exact .inr (.inr rfl)
      · rcases List.mem_append.mp elsewhere with queued | performed
        · exact .inl queued
        · exact .inr (.inl performed)
  | «return» front back attempt result sending =>
      simpa [inHand, waitingAttempts, sending] using held
  | mark front back attempt result returned =>
      simpa [inHand, waitingAttempts, returned] using held
  | release front back attempt result marked =>
      simpa [inHand, waitingAttempts, marked] using held
  | reply front back attempt result released =>
      have other := told (by simp) unset
      simpa [inHand, waitingAttempts, released, other] using held
  | receive holder number result =>
      simpa [inHand, waitingAttempts] using held
  | close done =>
      have empty : before.executor.attempt = none := by
        rcases done with ⟨closing, -⟩ | ⟨-, -, idle | closing⟩
        · rw [closing]; rfl
        · rw [idle]; rfl
        · rw [closing]; rfl
      rw [inHand, waitingAttempts_none empty] at held
      refine (List.mem_append.mp held).resolve_left fun queued => ?_
      obtain ⟨attempt, member, same⟩ := List.mem_map.mp queued
      dsimp only at unset
      split at unset
      · cases unset
      · rename_i unqueued
        exact unqueued (List.any_eq_true.mpr ⟨attempt, member, decide_eq_true same⟩)
  | _ => exact held

theorem Attended.step (attended : before.Attended) (step : Step settings before event after) :
    after.Attended := by
  intro request number awaiting unset
  rcases awaiting_step step awaiting with already | ⟨attempt, rfl, same⟩
  · exact inHand_step step (attended request number already (unset_step step unset)) unset
  · cases step with
    | enqueue holder awaited attempt trying isOpen room made =>
        rw [← same, inHand, waitingAttempts]
        simp

theorem attended_run (run : Run settings start trace dispatcher) : dispatcher.Attended :=
  run.invariant Attended Attended.step nofun

private theorem abandoned_run (run : Run settings start trace dispatcher)
    (stopped : dispatcher.executor = .stopped) : dispatcher.queue = [] := by
  refine run.invariant (fun dispatcher => dispatcher.executor = .stopped → dispatcher.queue = [])
    ?_ (fun _ => rfl) stopped
  intro before after event abandoned step stopped
  cases step with
  | enqueue request number attempt trying isOpen => exact absurd stopped isOpen
  | receive request number result =>
      rw [resume_executor] at stopped
      rw [resume_queue]
      exact abandoned stopped
  | close => rfl
  | take | skip | overdue | acquire | halt | check | declineClosed | decline | yield | begin =>
      cases stopped
  | _ => exact abandoned stopped

private theorem Gate.apply_roomy {gate gate' : Gate} {policy : Policy}
    (applied : gate.apply policy = .ok gate') : 0 < gate'.maximum := by
  rw [(Gate.apply_eq_ok applied).1]
  unfold Gate.apply at applied
  split at applied
  · cases applied
  · rename_i valid
    simp only [not_or, not_not] at valid
    exact valid.2.2.2.2.1.1

private theorem ready_run (run : Run settings start trace dispatcher)
    (ready : dispatcher.gate.ready = true) : 0 < dispatcher.gate.maximum := by
  refine run.invariant (fun dispatcher => dispatcher.gate.ready = true →
    0 < dispatcher.gate.maximum) ?_ nofun ready
  intro before after event roomy step ready
  cases step with
  | policy policy gate applied => exact Gate.apply_roomy applied
  | acquire attempt gate waiting acquired =>
      obtain ⟨room, rfl⟩ := Gate.acquire_eq_ok acquired
      exact roomy ready
  | receive request number result =>
      rw [resume_gate] at ready ⊢
      exact roomy ready
  | pause => cases ready
  | _ => exact roomy ready

/-! ## Rest -/

/-- An attempt waits at the executor for a policy, and not beyond its deadline. -/
def Unready (dispatcher : Dispatcher) : Prop :=
  dispatcher.gate.ready = false ∧ dispatcher.gate.stopped = false ∧
    ∃ attempt, dispatcher.executor = .waiting attempt ∧ ¬dispatcher.Closed attempt ∧
      dispatcher.clock < attempt.deadline

/-- Nothing more happens to a request. -/
def Connection.Over : Connection → Prop
  | .absent | .refused _ | .replied _ | .vanished => True
  | .trying _ | .awaiting _ | .pausing .. => False

/-- A dispatcher with nothing left to do by itself. -/
structure Resting (dispatcher : Dispatcher) : Prop where
  /-- Nothing is performed. -/
  running : dispatcher.running = []
  /-- Every permit was given back. -/
  permits : dispatcher.gate.active = 0
  /-- Attempts wait for a policy only. -/
  waiting : dispatcher.waitingAttempts = [] ∨ dispatcher.Unready
  /-- Whoever has no reply waits for its pause or for a policy, and not beyond its deadline. -/
  connections : ∀ request, (dispatcher.connections request).Over ∨
    dispatcher.clock < dispatcher.deadlines request ∧
      (dispatcher.Unready ∨ ∃ number moment,
        dispatcher.connections request = .pausing number moment ∧ dispatcher.clock < moment)

/-- None of the steps of the dispatcher is possible. -/
abbrev Still (settings : Settings) (dispatcher : Dispatcher) : Prop :=
  Stuck (Step settings) (fun event => event.internal) dispatcher

theorem Still.running (still : dispatcher.Still settings) : dispatcher.running = [] := by
  cases performed : dispatcher.running with
  | nil => rfl
  | cons task back =>
      obtain ⟨attempt, stage⟩ := task
      cases stage with
      | sending =>
          exact absurd rfl
            (still _ _ (.return dispatcher [] back attempt (.error "network_error") performed))
      | returned result =>
          exact absurd rfl (still _ _ (.mark dispatcher [] back attempt result performed))
      | marked result =>
          exact absurd rfl (still _ _ (.release dispatcher [] back attempt result performed))
      | released result =>
          exact absurd rfl (still _ _ (.reply dispatcher [] back attempt result performed))

theorem Still.unheld (still : dispatcher.Still settings) :
    dispatcher.executor.permit = none := by
  cases executor : dispatcher.executor with
  | granted attempt =>
      by_cases closed : dispatcher.Closed attempt
      · exact absurd rfl (still _ _ (.declineClosed dispatcher attempt executor closed))
      · exact absurd rfl (still _ _ (.check dispatcher attempt executor closed))
  | checked attempt =>
      cases begun : (dispatcher.progress attempt.request).begin attempt.deadline
          dispatcher.clock with
      | none => exact absurd rfl (still _ _ (.decline dispatcher attempt executor begun))
      | some progress =>
          exact absurd rfl (still _ _ (.begin dispatcher attempt progress executor begun))
  | declined => exact absurd rfl (still _ _ (.yield dispatcher executor))
  | _ => rfl

theorem Still.permits (still : dispatcher.Still settings)
    (run : Run settings start trace dispatcher) : dispatcher.gate.active = 0 := by
  rw [counts_run run, Dispatcher.permits, still.unheld, still.running]
  rfl

/-- The executor waits for a policy, or it has nothing to do. -/
theorem Still.executor (still : dispatcher.Still settings)
    (run : Run settings start trace dispatcher) :
    dispatcher.Unready ∨ dispatcher.waitingAttempts = [] ∧ dispatcher.queue = [] := by
  have unused := still.permits run
  cases executor : dispatcher.executor with
  | idle =>
      have emptied : dispatcher.queue = [] := by
        cases next : dispatcher.queue with
        | nil => rfl
        | cons attempt rest => exact absurd rfl (still _ _ (.take dispatcher _ _ executor next))
      exact .inr ⟨(waitingAttempts_none (by rw [executor]; rfl)).trans emptied, emptied⟩
  | waiting attempt =>
      have isOpen : ¬dispatcher.Closed attempt := fun closed =>
        absurd rfl (still _ _ (.skip dispatcher attempt executor closed))
      have early : dispatcher.clock < attempt.deadline := by
        by_contra late
        exact absurd rfl (still _ _ (.overdue dispatcher attempt executor (Nat.not_lt.mp late)))
      cases acquired : dispatcher.gate.acquire with
      | some granted =>
          cases granted with
          | error error =>
              exact absurd rfl (still _ _ (.halt dispatcher attempt error executor acquired))
          | ok gate =>
              exact absurd rfl (still _ _ (.acquire dispatcher attempt gate executor acquired))
      | none =>
          unfold Gate.acquire at acquired
          split at acquired
          · cases acquired
          · rename_i running
            split at acquired
            · cases acquired
            · rename_i full
              refine .inl ⟨?_, by simpa using running, attempt, executor, isOpen, early⟩
              cases ready : dispatcher.gate.ready with
              | false => rfl
              | true =>
                  have room := ready_run run ready
                  exact absurd ⟨ready, unused ▸ room⟩ full
  | granted | checked | declined =>
      have unheld := still.unheld
      rw [executor] at unheld
      cases unheld
  | closing =>
      exact absurd rfl (still _ _ (.close dispatcher (.inl ⟨executor, still.running⟩)))
  | stopped =>
      have emptied := abandoned_run run executor
      exact .inr ⟨(waitingAttempts_none (by rw [executor]; rfl)).trans emptied, emptied⟩

/-- Who waits for a result waits for its attempt. -/
theorem Still.awaiting (still : dispatcher.Still settings)
    (run : Run settings start trace dispatcher) {request : RequestId} {number : Nat}
    (awaiting : dispatcher.connections request = .awaiting number) : dispatcher.Unready := by
  cases outcome : dispatcher.outcomes (request, number) with
  | sent result =>
      exact absurd rfl (still _ _ (.receive dispatcher request number result awaiting outcome))
  | dropped => exact absurd rfl (still _ _ (.lose dispatcher request number awaiting outcome))
  | unset =>
      refine (still.executor run).resolve_right fun ⟨nobody, _⟩ => ?_
      have held := attended_run run request number awaiting outcome
      rw [inHand, nobody, still.running] at held
      cases held

/-- Who has an attempt to queue waits for room. -/
theorem Still.trying (still : dispatcher.Still settings) (roomy : 0 < settings.capacity)
    (run : Run settings start trace dispatcher) {request : RequestId} {number : Nat}
    (trying : dispatcher.connections request = .trying number) : dispatcher.Unready := by
  refine (still.executor run).resolve_right fun ⟨_, empty⟩ => ?_
  by_cases stopped : dispatcher.executor = .stopped
  · exact still _ _ (.reject dispatcher request number trying stopped) rfl
  · refine still _ _ (.enqueue dispatcher request number _ trying stopped ?_ rfl) rfl
    rwa [empty, List.length_nil]

/-- A dispatcher which cannot go on by itself is done. -/
theorem Still.resting (still : dispatcher.Still settings) (roomy : 0 < settings.capacity)
    (run : Run settings start trace dispatcher) : dispatcher.Resting where
  running := still.running
  permits := still.permits run
  waiting := (still.executor run).symm.imp_left And.left
  connections := by
    intro request
    have early : ((∃ number, dispatcher.connections request = .trying number) ∨
        (∃ number, dispatcher.connections request = .awaiting number) ∨
          ∃ number moment, dispatcher.connections request = .pausing number moment) →
        dispatcher.clock < dispatcher.deadlines request := by
      intro busy
      by_contra late
      exact still _ _ (.expire dispatcher request busy (Nat.not_lt.mp late)) rfl
    cases connection : dispatcher.connections request with
    | absent | refused | replied | vanished => exact .inl trivial
    | trying number =>
        exact .inr ⟨early (.inl ⟨number, connection⟩), .inl (still.trying roomy run connection)⟩
    | awaiting number =>
        exact .inr ⟨early (.inr (.inl ⟨number, connection⟩)),
          .inl (still.awaiting run connection)⟩
    | pausing number moment =>
        refine .inr ⟨early (.inr (.inr ⟨number, moment, connection⟩)),
          .inr ⟨number, moment, rfl, ?_⟩⟩
        by_contra late
        exact still _ _
          (.wake dispatcher request number moment connection (Nat.not_lt.mp late)) rfl

/-- The dispatcher always comes to rest.  In every state it can reach, the steps it can take by
itself are bounded in number; when none of them is possible, nothing is performed, every permit was
given back, and who has no reply waits for its pause or for a policy, and not beyond its deadline;
and some of them lead there. -/
theorem settles_down (roomy : 0 < settings.capacity) (run : Run settings start trace dispatcher) :
    (∃ bound, ∀ more later, Run settings dispatcher more later → (∀ event ∈ more, event.internal) →
      more.length ≤ bound) ∧
    (dispatcher.Still settings → dispatcher.Resting) ∧
    ∃ more later, Run settings dispatcher more later ∧ (∀ event ∈ more, event.internal) ∧
      later.Resting := by
  have staffed := staffed_run run
  obtain ⟨bound, more, later, continued, internal, still⟩ :=
    Execution.rests (Staffed (acceptedRequests trace)) (fun event : Event => event.internal)
      (weight (acceptedRequests trace))
      (fun alive allowed step => ⟨alive.step step allowed, weight_step alive step allowed⟩) staffed
  exact ⟨⟨_, bound⟩, fun still => still.resting roomy run,
    more, later, continued, internal, Still.resting still roomy (run.trans continued)⟩

/-- With its policy an attempt which waited goes on until the dispatcher rests. -/
theorem settles_down_sample : ∃ dispatcher : Dispatcher,
    dispatcher.gate.ready = true ∧ dispatcher.executor = .waiting taskAttempt ∧
      ∃ more later, Run .single dispatcher more later ∧ (∀ event ∈ more, event.internal) ∧
        later.Resting :=
  ⟨_, rfl, rfl, (settles_down (by decide) (waitingTask_run.tail (.policy _ frugal _ rfl))).2.2⟩

end

end Dispatcher

end AiProtocol
