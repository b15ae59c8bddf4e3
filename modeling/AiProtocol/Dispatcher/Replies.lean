import AiProtocol.Dispatcher.Coherence

/-!
# Replies of the dispatcher

What one step may do to a request, and from it what a reply says about all the attempts of its
request, at the time of the reply and forever after.
-/

namespace AiProtocol

namespace Dispatcher

variable {settings : Settings} {before after : Dispatcher} {event : Event} {request : RequestId}

/-! ## What a step may do to a request -/

/-- The event begins an attempt of a request. -/
def Event.begins (request : RequestId) : Event → Bool
  | .begin attempt => attempt.request = request
  | _ => false

/-- The connection task works on a job. -/
def Busy (dispatcher : Dispatcher) (request : RequestId) : Prop :=
  (∃ number, dispatcher.connections request = .trying number) ∨
    (∃ number, dispatcher.connections request = .awaiting number) ∨
      ∃ number moment, dispatcher.connections request = .pausing number moment

theorem Busy.accepted (busy : before.Busy request) : before.connections request ≠ .absent := by
  rcases busy with ⟨number, trying⟩ | ⟨number, awaiting⟩ | ⟨number, moment, pausing⟩
  · simp [trying]
  · simp [awaiting]
  · simp [pausing]

/-- What may become of the record of a request. -/
inductive Progressed (request : RequestId) (before : Dispatcher) (event : Event)
    (progress : Progress) : Prop
  | same (equal : progress = before.progress request) (idle : event.begins request = false)
  | closed (equal : progress = (before.progress request).close)
      (idle : event.begins request = false)
  | denied (equal : progress = (before.progress request).deny) (idle : event.begins request = false)
  | fresh (absent : before.connections request = .absent) (equal : progress = .default)
      (idle : event.begins request = false)
  | begun (attempt : Attempt) (started : event = .begin attempt) (own : attempt.request = request)
      (checked : before.executor = .checked attempt)
      (begun : (before.progress request).begin attempt.deadline before.clock = some progress)

theorem Progressed.update {holder : RequestId} {progress : Progress}
    (own : Progressed holder before event progress) (idle : ∀ other ≠ holder,
      event.begins other = false) :
    Progressed request before event
      (Function.update before.progress holder progress request) := by
  by_cases same : request = holder
  · subst same
    rwa [Function.update_self]
  · rw [Function.update_of_ne same]
    exact .same rfl (idle request same)

theorem progress_step (step : Step settings before event after) (request : RequestId) :
    Progressed request before event (after.progress request) := by
  cases step with
  | accept accepted frame payload remaining fresh admitted =>
      exact Progressed.update (.fresh fresh rfl rfl) fun _ _ => rfl
  | reject holder number trying stopped => exact .update (.closed rfl rfl) fun _ _ => rfl
  | receive holder number result awaiting sent =>
      unfold Dispatcher.resume
      split
      · exact .update (.closed rfl rfl) fun _ _ => rfl
      · split
        · exact .same rfl rfl
        · exact .update (.closed rfl rfl) fun _ _ => rfl
        · exact .same rfl rfl
  | lose holder number awaiting dropped => exact .update (.closed rfl rfl) fun _ _ => rfl
  | expire holder busy due => exact .update (.closed rfl rfl) fun _ _ => rfl
  | disconnect holder busy => exact .update (.closed rfl rfl) fun _ _ => rfl
  | hangUp holder reply replied => exact .update (.closed rfl rfl) fun _ _ => rfl
  | begin attempt progress checked begun =>
      refine .update (.begun attempt rfl rfl checked begun) fun other different => ?_
      simpa [Event.begins] using different.symm
  | mark front back attempt result returned =>
      cases result with
      | error => exact .same rfl rfl
      | ok response =>
          simp only
          split
          · exact .update (.denied rfl rfl) fun _ _ => rfl
          · exact .same rfl rfl
  | _ => exact .same rfl rfl

/-- What may become of the connection task of a request. -/
inductive Connected (request : RequestId) (before after : Dispatcher) : Prop
  | same (equal : after.connections request = before.connections request)
  | opened (absent : before.connections request = .absent)
      (opened : after.connections request = .trying 1 ∨
        ∃ reply, after.connections request = .refused reply)
  | moved (busy : before.Busy request) (moved : after.Busy request)
  | vanished (busy : before.Busy request) (vanished : after.connections request = .vanished)
  | failed (busy : before.Busy request) (error : String) (status : Option Nat) (body : Option Json)
      (failed : after.connections request =
        .replied { (before.progress request).failure error with status, body })
      (closed : after.progress request = (before.progress request).close)
  | completed (number : Nat) (status : Nat) (body : Option Json)
      (awaiting : before.connections request = .awaiting number)
      (settled : before.outcomes (request, number) ≠ .unset)
      (completed : after.connections request = .replied
        { ok := true
          code := "completed"
          execution := "completed"
          attempts := some (before.progress request).attempts
          status := some status
          body })

theorem Connected.other {holder : RequestId} {connection : Connection}
    (connections : after.connections = Function.update before.connections holder connection)
    (own : Connected holder before after) : Connected request before after := by
  by_cases same : request = holder
  · subst same
    exact own
  · exact .same (by rw [connections, Function.update_of_ne same])

theorem connected_fail (busy : before.Busy request) (error : String)
    (response : Option HttpReply) : Connected request before (before.fail request error response) :=
  .failed busy error _ _ (Function.update_self _ _ _) (Function.update_self _ _ _)

theorem connection_step (step : Step settings before event after) (request : RequestId) :
    Connected request before after := by
  cases step with
  | full refused fresh =>
      exact .other rfl (.opened fresh (.inr ⟨_, Function.update_self _ _ _⟩))
  | refuse refused frame reply fresh _ =>
      exact .other rfl (.opened fresh (.inr ⟨_, Function.update_self _ _ _⟩))
  | accept accepted frame payload remaining fresh _ =>
      exact .other rfl (.opened fresh (.inl (Function.update_self _ _ _)))
  | enqueue holder number attempt trying isOpen room made =>
      exact .other rfl (.moved (.inl ⟨number, trying⟩)
        (.inr (.inl ⟨number, Function.update_self _ _ _⟩)))
  | reject holder number trying stopped =>
      exact .other rfl (connected_fail (.inl ⟨number, trying⟩) _ _)
  | receive holder number result awaiting sent =>
      have busy : before.Busy holder := .inr (.inl ⟨number, awaiting⟩)
      unfold Dispatcher.resume
      split
      · exact .other rfl (connected_fail busy _ _)
      · split
        · exact .other rfl (.completed number _ _ awaiting (by simp [sent])
            (Function.update_self _ _ _))
        · exact .other rfl (connected_fail busy _ _)
        · exact .other rfl (.moved busy (.inr (.inr ⟨_, _, Function.update_self _ _ _⟩)))
  | lose holder number awaiting dropped =>
      exact .other rfl (connected_fail (.inr (.inl ⟨number, awaiting⟩)) _ _)
  | wake holder number moment pausing due =>
      exact .other rfl (.moved (.inr (.inr ⟨number, moment, pausing⟩))
        (.inl ⟨_, Function.update_self _ _ _⟩))
  | expire holder busy due => exact .other rfl (connected_fail busy _ _)
  | disconnect holder busy => exact .other rfl (.vanished busy (Function.update_self _ _ _))
  | _ => exact .same rfl

theorem begin_step {attempt : Attempt} (step : Step settings before (.begin attempt) after) :
    attempt ∈ before.waitingAttempts ∧ before.clock < attempt.deadline := by
  cases step with
  | begin attempt progress checked begun =>
      refine ⟨?_, (Progress.begin_eq_some.mp begun).2.1⟩
      rw [waitingAttempts_some (by rw [checked]; rfl)]
      exact List.mem_cons_self

/-- The attempts which did not begin are old ones, or the one `job` just queued. -/
theorem waiting_step (step : Step settings before event after) {attempt : Attempt}
    (member : attempt ∈ after.waitingAttempts) :
    attempt ∈ before.waitingAttempts ∨
      before.connections attempt.request = .trying attempt.number ∧
        attempt.deadline = before.deadlines attempt.request := by
  have dropped : attempt ∈ before.queue → attempt ∈ before.waitingAttempts :=
    List.mem_append_right _
  cases step with
  | enqueue holder number queued trying isOpen room made =>
      rcases List.mem_append.mp member with held | inside
      · exact .inl (List.mem_append_left _ held)
      · rcases List.mem_append.mp inside with old | new
        · exact .inl (dropped old)
        · obtain rfl := List.mem_singleton.mp new
          subst made
          exact .inr ⟨trying, rfl⟩
  | receive holder number result awaiting sent =>
      refine .inl ?_
      unfold Dispatcher.resume at member
      split at member
      · exact member
      · split at member <;> exact member
  | take taken rest idle next =>
      rw [waitingAttempts_none (by rw [idle]; rfl), next]
      exact .inl member
  | skip | overdue | halt | declineClosed | decline | yield | begin => exact .inl (dropped member)
  | acquire acquired gate waiting =>
      rw [waitingAttempts_some (by rw [waiting]; rfl)]
      exact .inl member
  | check checked granted =>
      rw [waitingAttempts_some (by rw [granted]; rfl)]
      exact .inl member
  | close => cases member
  | _ => exact .inl member

theorem deadline_step (step : Step settings before event after) (request : RequestId) :
    after.deadlines request = before.deadlines request ∧
        (∀ deadline, event ≠ .accept request deadline) ∨
      before.connections request = .absent ∧
        event = .accept request (after.deadlines request) := by
  cases step with
  | accept accepted frame payload remaining fresh _ =>
      by_cases same : request = accepted
      · subst same
        exact .inr ⟨fresh, by simp⟩
      · refine .inl ⟨Function.update_of_ne same _ _, ?_⟩
        rintro deadline ⟨⟩
        exact same rfl
  | receive holder number result awaiting sent =>
      refine .inl ⟨?_, nofun⟩
      unfold Dispatcher.resume
      split
      · rfl
      · split <;> rfl
  | _ => exact .inl ⟨rfl, nofun⟩

theorem accepted_step (step : Step settings before event after) {request : RequestId}
    (accepted : before.connections request ≠ .absent ∨
      ∃ deadline, event = .accept request deadline) :
    after.connections request ≠ .absent := by
  cases connection_step step request with
  | same equal =>
      rw [equal]
      rcases accepted with known | ⟨deadline, rfl⟩
      · exact known
      · cases step with
        | accept => simp [← equal]
  | opened absent opened => rcases opened with trying | ⟨reply, refused⟩ <;> simp [*]
  | moved busy moved => exact moved.accepted
  | vanished busy vanished => simp [vanished]
  | failed busy error status body failed => simp [failed]
  | completed number status body awaiting settled completed => simp [completed]

private theorem cancellation_step (step : Step settings before event after) {request : RequestId}
    (cancelled : event = .disconnect request ∨ event = .hangUp request) :
    (after.progress request).closed = true := by
  cases step with
  | disconnect holder busy =>
      obtain rfl : holder = request := by simpa using cancelled
      simp [Progress.close]
  | hangUp holder reply replied =>
      obtain rfl : holder = request := by simpa using cancelled
      simp [Progress.close]
  | _ => simp at cancelled

/-! ## What a reply says -/

/-- An event of the composition begins an attempt of a request. -/
def SystemEvent.begins (request : RequestId) : SystemEvent → Bool
  | .dispatcher event => event.begins request
  | .remote _ _ => false

/-- The gateway executes an attempt of a request. -/
def SystemEvent.executes (request : RequestId) : SystemEvent → Bool
  | .remote attempt .execute => attempt.1 = request
  | _ => false

/-- What is behind the reply of a request. -/
structure Final (dispatcher : Dispatcher) (request : RequestId) (reply : Reply) : Prop where
  /-- It counts the attempts. -/
  attempts : reply.attempts = some (dispatcher.progress request).attempts
  /-- No other attempt will begin. -/
  final : (dispatcher.progress request).closed = true ∨
    ∀ attempt ∈ dispatcher.waitingAttempts, attempt.request ≠ request
  /-- Failures close the progress. -/
  failed : reply.ok = false → (dispatcher.progress request).closed = true
  /-- Certainty is on record. -/
  unstarted : reply.execution = "not_started" →
    (dispatcher.progress request).mayHaveExecuted = false ∧
      (dispatcher.progress request).closed = true

/-- The books of a request. -/
structure Books (trace : List SystemEvent) (system : System) (request : RequestId) : Prop where
  /-- The progress counts the attempts which began. -/
  count : (system.dispatcher.progress request).attempts = trace.countP (·.begins request)
  /-- Attempts carry the deadline of their request. -/
  due : ∀ attempt ∈ system.dispatcher.waitingAttempts, attempt.request = request →
    attempt.deadline = system.dispatcher.deadlines request
  /-- The deadline is the one it was accepted with. -/
  accepted : ∀ deadline, .dispatcher (.accept request deadline) ∈ trace →
    system.dispatcher.connections request ≠ .absent ∧
      system.dispatcher.deadlines request = deadline
  /-- Cancellation is final. -/
  cancelled : .dispatcher (.disconnect request) ∈ trace ∨ .dispatcher (.hangUp request) ∈ trace →
    (system.dispatcher.progress request).closed = true
  /-- The reply is final. -/
  replied : ∀ reply, system.dispatcher.connections request = .replied reply →
    system.dispatcher.Final request reply

namespace Progressed

variable {progress : Progress}

theorem idle_of_closed (progressed : Progressed request before event progress)
    (closed : (before.progress request).closed = true) : event.begins request = false := by
  cases progressed with
  | begun attempt started own checked begun =>
      rw [(Progress.begin_eq_some.mp begun).1] at closed
      cases closed
  | _ => assumption

theorem idle_of_waiting (progressed : Progressed request before event progress)
    (none : ∀ attempt ∈ before.waitingAttempts, attempt.request ≠ request) :
    event.begins request = false := by
  cases progressed with
  | begun attempt started own checked begun =>
      refine absurd own (none attempt ?_)
      rw [waitingAttempts_some (by rw [checked]; rfl)]
      exact List.mem_cons_self
  | _ => assumption

/-- While nothing begins certainty only grows. -/
theorem quiet (progressed : Progressed request before event progress)
    (idle : event.begins request = false) (known : before.connections request ≠ .absent) :
    progress.attempts = (before.progress request).attempts ∧
      ((before.progress request).mayHaveExecuted = false → progress.mayHaveExecuted = false) ∧
        ((before.progress request).closed = true → progress.closed = true) := by
  cases progressed with
  | same equal => rw [equal]; exact ⟨rfl, id, id⟩
  | closed equal => rw [equal]; exact ⟨rfl, id, fun _ => rfl⟩
  | denied equal => rw [equal]; exact ⟨rfl, fun _ => rfl, id⟩
  | fresh absent => exact absurd absent known
  | begun attempt started own =>
      rw [started, ← own] at idle
      simp [Event.begins] at idle

/-- Every attempt is counted when it begins. -/
theorem counted (progressed : Progressed request before event progress)
    (fresh : before.connections request = .absent → before.progress request = .default) :
    progress.attempts =
      (before.progress request).attempts + if event.begins request then 1 else 0 := by
  cases progressed with
  | same equal idle => rw [equal, idle]; rfl
  | closed equal idle => rw [equal, idle]; rfl
  | denied equal idle => rw [equal, idle]; rfl
  | fresh absent equal idle => rw [equal, idle, fresh absent]; rfl
  | begun attempt started own checked begun =>
      obtain ⟨-, -, rfl⟩ := Progress.begin_eq_some.mp begun
      rw [started, ← own]
      simp [Event.begins]

end Progressed

theorem waiting_none (step : Step settings before event after)
    (untried : ∀ number, before.connections request ≠ .trying number)
    (none : ∀ attempt ∈ before.waitingAttempts, attempt.request ≠ request) :
    ∀ attempt ∈ after.waitingAttempts, attempt.request ≠ request := by
  intro attempt member own
  rcases waiting_step step member with old | ⟨trying, -⟩
  · exact none attempt old own
  · rw [own] at trying
    exact untried attempt.number trying

/-- Replies stay final. -/
theorem Final.step {reply : Reply} (final : before.Final request reply)
    (replied : before.connections request = .replied reply)
    (step : Step settings before event after) : after.Final request reply := by
  obtain ⟨attempts, stops, failed, unstarted⟩ := final
  have progressed := progress_step step request
  have idle : event.begins request = false :=
    stops.elim progressed.idle_of_closed progressed.idle_of_waiting
  obtain ⟨counted, certain, closed⟩ := progressed.quiet idle (by simp [replied])
  refine ⟨attempts.trans (by rw [counted]), ?_, fun failure => closed (failed failure),
    fun certainty => ⟨certain (unstarted certainty).1, closed (unstarted certainty).2⟩⟩
  exact stops.imp closed (waiting_none step (by simp [replied]))

/-- Replies are final from the beginning. -/
theorem final_of_replied {reply : Reply} (step : Step settings before event after)
    (alone : ∀ number, before.connections request = .awaiting number →
      before.outcomes (request, number) ≠ .unset →
        ∀ attempt ∈ before.waitingAttempts, attempt.request ≠ request)
    (same : before.connections request = .replied reply → before.Final request reply)
    (replied : after.connections request = .replied reply) : after.Final request reply := by
  cases connection_step step request with
  | same equal =>
      have already := equal.symm.trans replied
      exact (same already).step already step
  | opened absent opened =>
      rw [replied] at opened
      simp at opened
  | moved busy moved =>
      unfold Busy at moved
      rw [replied] at moved
      simp at moved
  | vanished busy vanished =>
      rw [replied] at vanished
      cases vanished
  | failed busy error status body failed closed =>
      obtain rfl : _ = reply := Connection.replied.inj (failed.symm.trans replied)
      refine ⟨by rw [closed]; rfl, .inl (by rw [closed]; rfl), fun _ => by rw [closed]; rfl,
        fun unstarted => ?_⟩
      rw [closed]
      refine ⟨?_, rfl⟩
      simpa [Progress.failure, Reply.error, Progress.close] using unstarted
  | completed number status body awaiting settled completed =>
      obtain rfl : _ = reply := Connection.replied.inj (completed.symm.trans replied)
      have none := alone number awaiting settled
      have progressed := progress_step step request
      obtain ⟨counted, -⟩ :=
        progressed.quiet (progressed.idle_of_waiting none) (by simp [awaiting])
      refine ⟨by rw [counted], .inr (waiting_none step (by simp [awaiting]) none), nofun, ?_⟩
      intro unstarted
      simp at unstarted

/-! ## Runs -/

section Runs

variable {trace : List SystemEvent} {system : System}

theorem SystemStep.dispatches {before after : System}
    (step : SystemStep settings before (.dispatcher event) after) :
    Step settings before.dispatcher event after.dispatcher := by
  cases step <;> assumption

theorem SystemStep.remotely {before after : System} {attempt : AttemptId}
    {event : Exchange.Event HttpReply}
    (step : SystemStep settings before (.remote attempt event) after) :
    after.dispatcher = before.dispatcher ∧
      Exchange.Calls HttpReply.Denies before.exchanges attempt event after.exchanges := by
  cases step with
  | remote attempt event exchanges delivered calls => exact ⟨rfl, calls⟩

theorem Books.remote {before after : System} {id : AttemptId} {event : Exchange.Event HttpReply}
    (books : Books trace before request) (same : after.dispatcher = before.dispatcher) :
    Books (trace ++ [.remote id event]) after request := by
  obtain ⟨count, due, accepted, cancelled, replied⟩ := books
  refine ⟨?_, by rwa [same], ?_, ?_, by rwa [same]⟩
  · rw [same, count, List.countP_append]
    rfl
  · simpa [same] using accepted
  · simpa [same] using cancelled

theorem Books.step {before after : System} (books : Books trace before request)
    (coherent : before.Coherent request)
    (step : Step settings before.dispatcher event after.dispatcher) :
    Books (trace ++ [.dispatcher event]) after request := by
  obtain ⟨count, due, accepted, cancelled, replied⟩ := books
  have progressed := progress_step step request
  have untouched := fun absent => (coherent.idle (.inl absent)).2.1
  refine ⟨?_, fun attempt member own => ?_, fun deadline member => ?_, fun cancel => ?_,
    fun reply => final_of_replied step ?_ (replied reply)⟩
  · rw [progressed.counted untouched, count, List.countP_append, List.countP_singleton]
    rfl
  · rcases deadline_step step request with ⟨kept, -⟩ | ⟨absent, -⟩
    · rw [kept]
      rcases waiting_step step member with old | ⟨-, made⟩
      · exact due attempt old own
      · rw [made, own]
    · have none := waiting_of_turns (coherent.idle (.inl absent)).1
      exact absurd own (waiting_none step (by simp [absent]) none attempt member)
  · rcases List.mem_append.mp member with old | new
    · obtain ⟨known, made⟩ := accepted deadline old
      refine ⟨accepted_step step (.inl known), ?_⟩
      rcases deadline_step step request with ⟨kept, -⟩ | ⟨absent, -⟩
      · exact kept.trans made
      · exact absurd absent known
    · obtain rfl : .accept request deadline = event := by simpa using new
      refine ⟨accepted_step step (.inr ⟨deadline, rfl⟩), ?_⟩
      rcases deadline_step step request with ⟨-, other⟩ | ⟨-, made⟩
      · exact absurd rfl (other deadline)
      · exact (Event.accept.inj made).2.symm
  · by_cases old : SystemEvent.dispatcher (.disconnect request) ∈ trace ∨
        SystemEvent.dispatcher (.hangUp request) ∈ trace
    · have closed := cancelled old
      refine (progressed.quiet (progressed.idle_of_closed closed) fun absent => ?_).2.2 closed
      rw [untouched absent] at closed
      cases closed
    · refine cancellation_step step ?_
      simp only [List.mem_append, List.mem_singleton, SystemEvent.dispatcher.injEq] at cancel
      tauto
  · intro number awaiting settled
    exact waitingTurns_eq_nil.mp
      (coherent.of_connection (connectionTurns_settled awaiting settled)).2.1

theorem books_run (run : SystemRun settings .start trace system) (request : RequestId) :
    Books trace system request := by
  refine run.invariantTrace (fun trace system => Books trace system request) ?_ ?_
  · refine ⟨rfl, ?_, ?_, ?_, ?_⟩ <;>
      simp [System.start, Dispatcher.start, waitingAttempts, Executor.attempt]
  · intro trace before after event earlier books step
    cases event with
    | dispatcher event =>
        exact books.step (System.coherent_run earlier request) step.dispatches
    | remote attempt event => exact books.remote step.remotely.1

theorem connection_run {before after : System} {trace : List SystemEvent}
    (run : SystemRun settings before trace after)
    (known : before.dispatcher.connections request ≠ .absent)
    (idle : ¬before.dispatcher.Busy request) :
    after.dispatcher.connections request = before.dispatcher.connections request := by
  refine run.invariant (fun system => system.dispatcher.connections request =
    before.dispatcher.connections request) ?_ rfl
  intro middle after event same step
  rw [← same] at known ⊢
  unfold Busy at idle
  rw [← same] at idle
  cases event with
  | remote attempt event => rw [step.remotely.1]
  | dispatcher event =>
      cases connection_step step.dispatches request with
      | same equal => exact equal
      | opened absent => exact absurd absent known
      | completed number status body awaiting => exact absurd (.inr (.inl ⟨number, awaiting⟩)) idle
      | _ => exact absurd ‹_› idle

theorem replied_run {before after : System} {trace : List SystemEvent} {reply : Reply}
    (run : SystemRun settings before trace after)
    (replied : before.dispatcher.connections request = .replied reply) :
    after.dispatcher.connections request = .replied reply :=
  (connection_run run (by simp [replied]) (by simp [Busy, replied])).trans replied

theorem refused_run {before after : System} {trace : List SystemEvent} {reply : Reply}
    (run : SystemRun settings before trace after)
    (refused : before.dispatcher.connections request = .refused reply) :
    after.dispatcher.connections request = .refused reply :=
  (connection_run run (by simp [refused]) (by simp [Busy, refused])).trans refused

theorem SystemStep.executed {before after : System} {event : SystemEvent} {id : AttemptId}
    (step : SystemStep settings before event after)
    (executed : (before.exchanges id).executed = true) : (after.exchanges id).executed = true := by
  cases step with
  | begin attempt after step =>
      by_cases same : id = attempt.id
      · subst same
        simpa using executed
      · simpa [Function.update_of_ne same] using executed
  | remote attempt event exchanges delivered calls =>
      exact (calls.executed id).1.mpr (.inl executed)
  | _ => exact executed

theorem once_run (run : SystemRun settings .start trace system) {left right : Nat}
    (first : (system.exchanges (request, left)).executed = true)
    (second : (system.exchanges (request, right)).executed = true) : left = right :=
  (System.coherent_run run request).single.executed
    (fun number => System.exchanges_run run (request, number)) first second

/-- Executions are on record at the gateway, and there is one at most. -/
theorem executed_run (run : SystemRun settings .start trace system) (request : RequestId) :
    trace.countP (·.executes request) ≤ 1 ∧
      (0 < trace.countP (·.executes request) →
        ∃ number, (system.exchanges (request, number)).executed = true) := by
  refine run.invariantTrace (fun trace system => trace.countP (·.executes request) ≤ 1 ∧
      (0 < trace.countP (·.executes request) →
        ∃ number, (system.exchanges (request, number)).executed = true)) (by simp) ?_
  rintro trace before after event earlier ⟨once, recorded⟩ step
  rw [List.countP_append, List.countP_singleton]
  cases executes : event.executes request with
  | false =>
      refine ⟨by simpa using once, fun some => ?_⟩
      obtain ⟨number, executed⟩ := recorded (by simpa using some)
      exact ⟨number, step.executed executed⟩
  | true =>
      obtain ⟨number, rfl⟩ : ∃ number, event = .remote (request, number) .execute := by
        unfold SystemEvent.executes at executes
        split at executes
        · rename_i id
          obtain rfl : id.1 = request := by simpa using executes
          exact ⟨id.2, rfl⟩
        · cases executes
      obtain ⟨now, first⟩ := step.remotely.2.executed (request, number)
      have executed := now.mpr (.inr ⟨rfl, rfl⟩)
      have none : trace.countP (·.executes request) = 0 := by
        by_contra some
        obtain ⟨other, already⟩ := recorded (Nat.pos_of_ne_zero some)
        obtain rfl := once_run (earlier.tail step) (step.executed already) executed
        rw [first rfl] at already
        cases already
      exact ⟨by simp [none], fun _ => ⟨number, executed⟩⟩

private theorem unexecuted_run (run : SystemRun settings .start trace system)
    (certain : ∀ number, (system.exchanges (request, number)).sent = true →
      (system.exchanges (request, number)).Denied HttpReply.Denies) :
    trace.countP (·.executes request) = 0 := by
  by_contra some
  obtain ⟨number, executed⟩ := (executed_run run request).2 (Nat.pos_of_ne_zero some)
  have sound := System.exchanges_run run (request, number)
  rw [sound.honest (certain number (sound.sent executed))] at executed
  cases executed

/-! ## The contract -/

/-- The request was refused or answered. -/
def Answered (dispatcher : Dispatcher) (request : RequestId) (reply : Reply) : Prop :=
  dispatcher.connections request = .refused reply ∨ dispatcher.connections request = .replied reply

/-- `Progress::failure` or `Cancellation` ran for the request. -/
def Ended (trace : List SystemEvent) (system : System) (request : RequestId) : Prop :=
  (∃ reply, system.dispatcher.connections request = .replied reply ∧ reply.ok = false) ∨
    .dispatcher (.disconnect request) ∈ trace ∨ .dispatcher (.hangUp request) ∈ trace

theorem framed_execution {reply : Reply} {oversized : Bool}
    (certain : (reply.framed oversized).execution = "not_started") :
    reply.execution = "not_started" := by
  unfold Reply.framed at certain
  split at certain
  · simp [Reply.error] at certain
  · exact certain

private theorem framed_attempts {reply : Reply} {attempts : Nat} (oversized : Bool)
    (counted : reply.attempts = some attempts) :
    (reply.framed oversized).attempts = some attempts := by
  unfold Reply.framed
  split
  · simp [Reply.error, counted]
  · exact counted

/-- No attempt begins once the progress is closed. -/
theorem closed_run {more : List SystemEvent} {later : System}
    (run : SystemRun settings .start trace system) (future : SystemRun settings system more later)
    (closed : (system.dispatcher.progress request).closed = true) :
    more.countP (·.begins request) = 0 := by
  refine (future.invariantTrace (fun more later =>
    (later.dispatcher.progress request).closed = true ∧
    more.countP (·.begins request) = 0) ⟨closed, rfl⟩ ?_).2
  rintro more before after event earlier ⟨closed, none⟩ step
  rw [List.countP_append, none, List.countP_singleton]
  cases event with
  | remote attempt event => exact ⟨by rwa [step.remotely.1], rfl⟩
  | dispatcher event =>
      have progressed := progress_step step.dispatches request
      have idle := progressed.idle_of_closed closed
      refine ⟨(progressed.quiet idle fun absent => ?_).2.2 closed,
        by simp [SystemEvent.begins, idle]⟩
      have coherent := System.coherent_run (run.trans earlier) request
      rw [(coherent.idle (.inl absent)).2.1] at closed
      cases closed

private theorem answered_run {more : List SystemEvent} {later : System} {reply : Reply}
    (run : SystemRun settings .start trace system) (future : SystemRun settings system more later)
    (answered : system.dispatcher.Answered request reply)
    (certain : reply.execution = "not_started") :
    (trace ++ more).countP (·.executes request) = 0 := by
  have whole := run.trans future
  have coherent := System.coherent_run whole request
  refine unexecuted_run whole fun number sent => ?_
  rcases answered with refused | replied
  · obtain ⟨-, -, unsent, -⟩ := coherent.idle (.inr ⟨reply, refused_run future refused⟩)
    rw [unsent number] at sent
    cases sent
  · have final := (books_run whole request).replied reply (replied_run future replied)
    exact coherent.clear (final.unstarted certain).1 number sent

/-- At most one attempt of a request is executed, and its reply is true forever: no execution
follows a reply with certainty, no attempt begins after a failure or a cancellation or at the
deadline, and the attempts are those which ever began. -/
theorem dispatch_contract (settings : Settings) {trace more : List SystemEvent}
    {system later : System} (run : SystemRun settings .start trace system)
    (future : SystemRun settings system more later) (request : RequestId) :
    (trace ++ more).countP (·.executes request) ≤ 1 ∧
      (∀ reply oversized, system.dispatcher.Answered request reply →
        (reply.framed oversized).execution = "not_started" →
          (trace ++ more).countP (·.executes request) = 0) ∧
      (Ended trace system request → more.countP (·.begins request) = 0) ∧
      (∀ reply oversized, system.dispatcher.connections request = .replied reply →
        (reply.framed oversized).attempts = some ((trace ++ more).countP (·.begins request))) ∧
      ∀ deadline attempt after, .dispatcher (.accept request deadline) ∈ trace →
        attempt.request = request →
          SystemStep settings system (.dispatcher (.begin attempt)) after →
            system.dispatcher.clock < deadline := by
  have whole := run.trans future
  have books := books_run run request
  refine ⟨(executed_run whole request).1, fun reply oversized answered certain =>
    answered_run run future answered (framed_execution certain), fun ended => ?_,
    fun reply oversized replied => ?_, fun deadline attempt after accepted own step => ?_⟩
  · refine closed_run run future ?_
    rcases ended with ⟨reply, replied, failure⟩ | cancelled
    · exact (books.replied reply replied).failed failure
    · exact books.cancelled cancelled
  · have final := (books_run whole request).replied reply (replied_run future replied)
    exact framed_attempts oversized (by rw [final.attempts, (books_run whole request).count])
  · obtain ⟨member, early⟩ := begin_step step.dispatches
    rwa [books.due attempt member own, (books.accepted deadline accepted).2] at early

def Settings.single : Settings where
  routes := [("/documents", "/documents")]
  tokens := ["credential"]
  capacity := 1

/-- An operation denied by the gateway is answered with certainty after one attempt. -/
theorem dispatch_contract_sample : ∃ (trace : List SystemEvent) (system : System) (reply : Reply),
    SystemRun .single .start trace system ∧ system.dispatcher.connections 0 = .replied reply ∧
      reply.execution = "not_started" ∧ reply.attempts = some 1 ∧
        trace.countP (·.begins 0) = 1 ∧ trace.countP (·.executes 0) = 0 := by
  have begun : SystemRun .single .start [] _ := .refl _
  have accepted := begun.tail (.dispatcher _ _ _ rfl (.accept _ 0
    { request := some
        { id := "task", token := "credential", operation := "/documents", params := .null }
      remaining := some 1000 } _ 1000 rfl rfl))
  have queued := (accepted.tail (.dispatcher _ _ _ rfl (.enqueue _ 0 1 _ rfl nofun
    (by decide) rfl))).tail (.dispatcher _ _ _ rfl (.take _ _ [] rfl rfl))
  have granted := (queued.tail (.dispatcher _ _ _ rfl (.policy _
    { version := 3, principalId := "owner", clientClass := "agent", policyRevision := 1
      refreshAfterMs := 1000, outstanding := 0
      limits := { scope := "principal", maxOutstanding := 1 } } _ rfl))).tail
    (.dispatcher _ _ _ rfl (.acquire _ _ _ rfl rfl))
  have sent := (granted.tail
    (.dispatcher _ _ _ rfl (.check _ _ rfl (fun closed => closed rfl)))).tail
    (.begin _ _ _ (.begin _ _ _ rfl rfl))
  have denied := (sent.tail (.remote _ (0, 1)
    (.answer { status := 404, retryAfter := none, body := none }) _ nofun
    (.step _ _ _ _ (.answer _ _ rfl rfl fun _ => rfl)))).tail
    (.answered _ _ { status := 404, retryAfter := none, body := none } _ rfl
      (.return _ [] [] _ _ rfl))
  have told := (((denied.tail (.dispatcher _ _ _ rfl (.mark _ [] [] _ _ rfl))).tail
    (.dispatcher _ _ _ rfl (.release _ [] [] _ _ rfl))).tail
    (.dispatcher _ _ _ rfl (.reply _ [] [] _ _ rfl))).tail
    (.dispatcher _ _ _ rfl (.receive _ 0 1 _ rfl rfl))
  obtain ⟨-, certain, -, counted, -⟩ := dispatch_contract .single told (.refl _) 0
  let reply : Reply :=
    { ok := false, code := "Operation HTTP status 404", execution := "not_started"
      attempts := some 1, status := some 404, body := none }
  have count := counted reply false rfl
  have none := certain reply false (.inr rfl) rfl
  rw [List.append_nil] at count none
  exact ⟨_, _, reply, told, rfl, rfl, rfl, (Option.some.inj count).symm, none⟩

end Runs

end Dispatcher

end AiProtocol
