import AiProtocol.Dispatcher.Permits

/-!
# Order and drain

The executor decides on the attempts in the order in which the queue received them.  What it does
not begin was refused by its receiver or its progress, or found the gate stopped, and nothing begins
once a stopped gate has no permit in circulation.
-/

namespace AiProtocol

namespace Dispatcher

/-- The attempt which the queue receives. -/
def Event.queued : Event → Option Attempt
  | .enqueue attempt => some attempt
  | _ => none

/-- The attempt which begins. -/
def Event.begun : Event → Option Attempt
  | .begin attempt => some attempt
  | _ => none

/-- The attempt which does not begin. -/
def Event.skipped : Event → Option Attempt
  | .skip attempt | .overdue attempt | .halt attempt | .decline attempt => some attempt
  | _ => none

/-- The attempt on which the executor decides. -/
def Event.decided (event : Event) : Option Attempt :=
  event.begun <|> event.skipped

/-- The transport returns from an attempt. -/
def Event.returns (id : AttemptId) : Event → Bool
  | .return attempt _ => attempt.id = id
  | _ => false

/-- The permit of an attempt is dropped. -/
def Event.releases (id : AttemptId) : Event → Bool
  | .release attempt => attempt.id = id
  | _ => false

/-- The executor obtains a permit. -/
def Event.acquires : Event → Bool
  | .acquire _ => true
  | _ => false

/-- The executor passes its permit on or drops it. -/
def Event.disposes : Event → Bool
  | .begin _ => true
  | .yield => true
  | _ => false

/-- An attempt is begun. -/
def Event.performs : Event → Bool
  | .begin _ => true
  | _ => false

/-- The transport works on the attempt. -/
def HttpTask.inFlight (task : HttpTask) : Bool :=
  match task.stage with
  | .sending => true
  | _ => false

/-- The receiver of an attempt is closed or its progress refuses it. -/
def Refuses (dispatcher : Dispatcher) (attempt : Attempt) : Prop :=
  dispatcher.Closed attempt ∨
    (dispatcher.progress attempt.request).begin attempt.deadline dispatcher.clock = none

/-- The executor decided on the attempts which the queue received first, and the others wait in
order, except for those which the queue dropped when it was closed. -/
def Lined (trace : List Event) (dispatcher : Dispatcher) : Prop :=
  ∃ dropped, trace.filterMap Event.queued =
      trace.filterMap Event.decided ++ (dispatcher.waitingAttempts ++ dropped) ∧
    (dropped ≠ [] → dispatcher.executor = .stopped ∧ dispatcher.queue = [])

variable {settings : Settings} {before after dispatcher later : Dispatcher} {event : Event}
  {trace more : List Event} {request : RequestId} {attempt : Attempt}

/-! ## Any transport -/

/-- The calls of the attempts in flight wait for their answers. -/
structure Fits (exchanges : AttemptId → Exchange HttpReply) (dispatcher : Dispatcher) : Prop where
  /-- The gateway executed nothing. -/
  unexecuted : ∀ id, (exchanges id).executed = false
  /-- They were sent. -/
  sent : ∀ task ∈ dispatcher.running, task.inFlight → (exchanges task.attempt.id).sent = true
  /-- They were not answered. -/
  unanswered : ∀ task ∈ dispatcher.running, task.inFlight →
    (exchanges task.attempt.id).answer = none

/-- Only begun attempts join those in flight. -/
theorem flight_step (step : Step settings before event after) (quiet : event.performs = false)
    {task : HttpTask} (member : task ∈ after.running) (flying : task.inFlight) :
    task ∈ before.running := by
  have moved : ∀ {front back : List HttpTask} {moved : HttpTask}, moved.inFlight = false →
      task ∈ front ++ moved :: back → task ∈ front ++ back := by
    intro front back moved landed inside
    rcases List.mem_append.mp inside with early | here
    · exact List.mem_append_left _ early
    · rcases List.mem_cons.mp here with rfl | late
      · rw [landed] at flying
        cases flying
      · exact List.mem_append_right _ late
  have kept : ∀ {front back : List HttpTask} {other : HttpTask}, task ∈ front ++ back →
      task ∈ front ++ other :: back := by
    intro front back other inside
    rcases List.mem_append.mp inside with early | late
    · exact List.mem_append_left _ early
    · exact List.mem_append_right _ (List.mem_cons_of_mem _ late)
  cases step with
  | receive holder number result awaiting sent => rwa [resume_running] at member
  | begin => cases quiet
  | «return» front back attempt result sending =>
      rw [sending]
      exact kept (moved rfl member)
  | mark front back attempt result returned =>
      rw [returned]
      exact kept (moved rfl member)
  | release front back attempt result marked =>
      rw [marked]
      exact kept (moved rfl member)
  | reply front back attempt result released =>
      rw [released]
      exact kept member
  | _ => exact member

section Fits

variable {exchanges : AttemptId → Exchange HttpReply}

theorem Fits.step (fits : Fits exchanges before) (step : Step settings before event after)
    (quiet : event.performs = false) : Fits exchanges after where
  unexecuted := fits.unexecuted
  sent task member flying := fits.sent task (flight_step step quiet member flying) flying
  unanswered task member flying :=
    fits.unanswered task (flight_step step quiet member flying) flying

theorem Fits.begin (fits : Fits exchanges before)
    (sound : Exchange.Sound HttpReply.Denies (exchanges attempt.id))
    (unsent : (exchanges attempt.id).sent = false)
    (step : Step settings before (.begin attempt) after) :
    Fits (Function.update exchanges attempt.id { exchanges attempt.id with sent := true })
      after := by
  have blank : (exchanges attempt.id).answer = none := by
    cases told : (exchanges attempt.id).answer with
    | none => rfl
    | some response =>
        rw [sound.answered response told] at unsent
        cases unsent
  have known : ∀ task ∈ after.running, task.attempt.id ≠ attempt.id → task ∈ before.running := by
    intro task member different
    cases step with
    | begin attempt progress checked begun =>
        rcases List.mem_append.mp member with old | new
        · exact old
        · obtain rfl := List.mem_singleton.mp new
          exact absurd rfl different
  constructor
  · intro id
    by_cases same : id = attempt.id
    · rw [same, Function.update_self]
      exact fits.unexecuted _
    · rw [Function.update_of_ne same]
      exact fits.unexecuted id
  · intro task member flying
    by_cases same : task.attempt.id = attempt.id
    · rw [same, Function.update_self]
    · rw [Function.update_of_ne same]
      exact fits.sent task (known task member same) flying
  · intro task member flying
    by_cases same : task.attempt.id = attempt.id
    · rw [same, Function.update_self]
      exact blank
    · rw [Function.update_of_ne same]
      exact fits.unanswered task (known task member same) flying

/-- An answer belongs to the attempt in flight which returns with it. -/
theorem Fits.answer {response : HttpReply} (fits : Fits exchanges before)
    (coherent : ({ dispatcher := before, exchanges } : System).Coherent attempt.request)
    (step : Step settings before (.return attempt (.ok response)) after) :
    Exchange.Calls HttpReply.Denies exchanges attempt.id (.answer response)
        (Function.update exchanges attempt.id
          { exchanges attempt.id with answer := some response }) ∧
      Fits (Function.update exchanges attempt.id
        { exchanges attempt.id with answer := some response }) after := by
  cases step with
  | «return» front back attempt result sending =>
      have member : { attempt, stage := .sending } ∈ before.running := by
        rw [sending]
        exact List.mem_append_right _ List.mem_cons_self
      obtain ⟨-, -, -, early, late⟩ := coherent.of_running sending
      have alone : ∀ task ∈ front ++ { attempt, stage := .returned (.ok response) } :: back,
          task.inFlight → task.attempt.id ≠ attempt.id ∧ task ∈ before.running := by
        intro task inside flying
        have foreign : ∀ tasks : List HttpTask, runningTurns tasks attempt.request = [] →
            task ∈ tasks → task.attempt.id ≠ attempt.id := by
          intro tasks none held same
          simp only [runningTurns, List.map_eq_nil_iff, List.filter_eq_nil_iff,
            decide_eq_true_eq] at none
          exact none task held (congrArg Prod.fst same)
        rw [sending]
        rcases List.mem_append.mp inside with held | held
        · exact ⟨foreign front early held, List.mem_append_left _ held⟩
        · rcases List.mem_cons.mp held with rfl | held
          · cases flying
          · exact ⟨foreign back late held,
              List.mem_append_right _ (List.mem_cons_of_mem _ held)⟩
      constructor
      · apply Exchange.Calls.step
        exact .answer _ _ (fits.sent _ member rfl) (fits.unanswered _ member rfl)
          fun _ => fits.unexecuted _
      · constructor
        · intro id
          by_cases same : id = attempt.id
          · rw [same, Function.update_self]
            exact fits.unexecuted _
          · rw [Function.update_of_ne same]
            exact fits.unexecuted id
        · intro task inside flying
          obtain ⟨different, held⟩ := alone task inside flying
          rw [Function.update_of_ne different]
          exact fits.sent task held flying
        · intro task inside flying
          obtain ⟨different, held⟩ := alone task inside flying
          rw [Function.update_of_ne different]
          exact fits.unanswered task held flying

end Fits

/-- Over any transport the dispatcher behaves as in front of a gateway which executes nothing. -/
theorem system_run (run : Run settings start trace dispatcher) :
    ∃ (path : List SystemEvent) (exchanges : AttemptId → Exchange HttpReply),
      SystemRun settings .start path { dispatcher, exchanges } ∧ Fits exchanges dispatcher := by
  refine run.invariantTrace (fun _ dispatcher =>
    ∃ (path : List SystemEvent) (exchanges : AttemptId → Exchange HttpReply),
      SystemRun settings .start path { dispatcher, exchanges } ∧ Fits exchanges dispatcher)
    ⟨[], _, .refl _, fun _ => rfl, nofun, nofun⟩ ?_
  rintro trace before after event - ⟨path, exchanges, along, fits⟩ step
  cases event with
  | begin attempt =>
      have coherent := System.coherent_run along attempt.request
      have unsent : (exchanges attempt.id).sent = false := by
        cases step with
        | begin attempt progress checked begun => exact coherent.unsent checked
      exact ⟨_, _, along.tail (.begin _ attempt after step),
        fits.begin (System.exchanges_run along attempt.id) unsent step⟩
  | «return» attempt result =>
      cases result with
      | error error =>
          exact ⟨_, _, along.tail (.lost _ attempt error after step), fits.step step rfl⟩
      | ok response =>
          obtain ⟨calls, fits⟩ := fits.answer (System.coherent_run along attempt.request) step
          have told := along.tail (.remote _ attempt.id (.answer response) _ nofun calls)
          exact ⟨_, _, told.tail (.answered _ attempt response after (by simp) step), fits⟩
  | _ => exact ⟨_, _, along.tail (.dispatcher _ _ after rfl step), fits.step step rfl⟩

/-! ## The line -/

/-- The attempts in line move on: the queue may receive one, the executor may decide on one, and
those behind may be dropped. -/
def Shifted (before : Dispatcher) (event : Event) (after : Dispatcher) : Prop :=
  ∃ dropped, before.waitingAttempts ++ event.queued.toList =
      event.decided.toList ++ (after.waitingAttempts ++ dropped) ∧
    (dropped ≠ [] → after.executor = .stopped ∧ after.queue = [])

theorem Shifted.same (same : after.waitingAttempts = before.waitingAttempts)
    (unqueued : event.queued = none) (undecided : event.decided = none) :
    Shifted before event after := by
  refine ⟨[], ?_, fun some => absurd rfl some⟩
  rw [same, unqueued, undecided]
  simp

theorem Shifted.decide (held : before.executor.attempt = some attempt)
    (empty : after.executor.attempt = none) (same : after.queue = before.queue)
    (unqueued : event.queued = none) (decided : event.decided = some attempt) :
    Shifted before event after := by
  refine ⟨[], ?_, fun some => absurd rfl some⟩
  rw [waitingAttempts_some held, waitingAttempts_none empty, same, unqueued, decided]
  simp

private theorem shifted_step (step : Step settings before event after) :
    Shifted before event after := by
  cases step with
  | enqueue holder number attempt trying isOpen room made =>
      refine ⟨[], ?_, fun some => absurd rfl some⟩
      simp [waitingAttempts, Event.queued, Event.decided, Event.begun, Event.skipped]
  | receive holder number result awaiting sent =>
      exact Shifted.same (by rw [waitingAttempts, resume_executor, resume_queue]; rfl) rfl rfl
  | take attempt rest idle next =>
      refine Shifted.same ?_ rfl rfl
      exact ((waitingAttempts_none (by rw [idle]; rfl)).trans next).symm
  | skip attempt waiting closed => exact .decide (by rw [waiting]; rfl) rfl rfl rfl rfl
  | overdue attempt waiting due => exact .decide (by rw [waiting]; rfl) rfl rfl rfl rfl
  | acquire attempt gate waiting acquired =>
      refine Shifted.same ?_ rfl rfl
      rw [waitingAttempts, waitingAttempts, waiting]
      rfl
  | halt attempt error waiting stopped => exact .decide (by rw [waiting]; rfl) rfl rfl rfl rfl
  | check attempt granted isOpen =>
      refine Shifted.same ?_ rfl rfl
      rw [waitingAttempts, waitingAttempts, granted]
      rfl
  | declineClosed attempt granted closed => exact .decide (by rw [granted]; rfl) rfl rfl rfl rfl
  | decline attempt checked refused => exact .decide (by rw [checked]; rfl) rfl rfl rfl rfl
  | yield declined =>
      refine Shifted.same ?_ rfl rfl
      rw [waitingAttempts, waitingAttempts, declined]
      rfl
  | begin attempt progress checked begun => exact .decide (by rw [checked]; rfl) rfl rfl rfl rfl
  | close done =>
      refine ⟨before.queue, ?_, fun _ => ⟨rfl, rfl⟩⟩
      have empty : before.executor.attempt = none := by
        rcases done with ⟨closing, -⟩ | ⟨-, -, idle | closing⟩
        · rw [closing]; rfl
        · rw [idle]; rfl
        · rw [closing]; rfl
      rw [waitingAttempts_none empty]
      simp [waitingAttempts, Executor.attempt, Event.queued, Event.decided, Event.begun,
        Event.skipped]
  | _ => exact Shifted.same rfl rfl rfl

/-- An executor which left its loop takes nothing. -/
theorem closed_step (step : Step settings before event after)
    (left : before.executor = .closing ∨ before.executor = .stopped) :
    (after.executor = .closing ∨ after.executor = .stopped) ∧ event.decided = none ∧
      ∀ attempt, event ≠ .take attempt := by
  cases step with
  | receive holder number result awaiting sent =>
      rw [resume_executor]
      exact ⟨left, rfl, nofun⟩
  | take attempt rest idle next => simp [idle] at left
  | skip attempt waiting closed => simp [waiting] at left
  | overdue attempt waiting due => simp [waiting] at left
  | acquire attempt gate waiting acquired => simp [waiting] at left
  | halt attempt error waiting stopped => simp [waiting] at left
  | check attempt granted isOpen => simp [granted] at left
  | declineClosed attempt granted closed => simp [granted] at left
  | decline attempt checked refused => simp [checked] at left
  | yield declined => simp [declined] at left
  | begin attempt progress checked begun => simp [checked] at left
  | close done => exact ⟨.inr rfl, rfl, nofun⟩
  | _ => exact ⟨left, rfl, nofun⟩

private theorem stopped_step (step : Step settings before event after)
    (stopped : before.executor = .stopped) :
    after.executor = .stopped ∧ after.queue = before.queue ∧ event.queued = none := by
  cases step with
  | enqueue holder number attempt trying isOpen room made => exact absurd stopped isOpen
  | receive holder number result awaiting sent =>
      rw [resume_executor, resume_queue]
      exact ⟨stopped, rfl, rfl⟩
  | take attempt rest idle next => simp [idle] at stopped
  | skip attempt waiting closed => simp [waiting] at stopped
  | overdue attempt waiting due => simp [waiting] at stopped
  | acquire attempt gate waiting acquired => simp [waiting] at stopped
  | halt attempt error waiting halted => simp [waiting] at stopped
  | check attempt granted isOpen => simp [granted] at stopped
  | declineClosed attempt granted closed => simp [granted] at stopped
  | decline attempt checked refused => simp [checked] at stopped
  | yield declined => simp [declined] at stopped
  | begin attempt progress checked begun => simp [checked] at stopped
  | close done => simp [stopped] at done
  | _ => exact ⟨stopped, rfl, rfl⟩

theorem Lined.step (lined : Lined trace before) (step : Step settings before event after) :
    Lined (trace ++ [event]) after := by
  have collected : ∀ select : Event → Option Attempt,
      (trace ++ [event]).filterMap select = trace.filterMap select ++ (select event).toList := by
    intro select
    rw [List.filterMap_append]
    cases chosen : select event <;> simp [chosen]
  obtain ⟨dropped, order, gone⟩ := lined
  by_cases none : dropped = []
  · obtain ⟨lost, moved, closed⟩ := shifted_step step
    refine ⟨lost, ?_, closed⟩
    rw [collected, collected, order, none, List.append_nil, List.append_assoc, moved]
    simp
  · obtain ⟨stopped, empty⟩ := gone none
    obtain ⟨still, same, unqueued⟩ := stopped_step step stopped
    obtain ⟨-, undecided, -⟩ := closed_step step (.inr stopped)
    refine ⟨dropped, ?_, fun _ => ⟨still, same.trans empty⟩⟩
    rw [collected, collected, unqueued, undecided, order, waitingAttempts, waitingAttempts, stopped,
      still, same]
    simp

private theorem lined_run (run : Run settings start trace dispatcher) : Lined trace dispatcher :=
  run.invariantTrace Lined ⟨[], rfl, fun some => absurd rfl some⟩ fun _ lined step =>
    lined.step step

private theorem begun_sublist (trace : List Event) :
    (trace.filterMap Event.begun).Sublist (trace.filterMap Event.decided) := by
  induction trace with
  | nil => exact .slnil
  | cons event trace induction =>
      rw [List.filterMap_cons, List.filterMap_cons, Event.decided]
      cases event.begun with
      | some attempt => exact induction.cons_cons attempt
      | none =>
          cases event.skipped with
          | some attempt => exact induction.cons attempt
          | none => exact induction

private theorem order_run (run : Run settings start trace dispatcher) :
    (trace.filterMap Event.begun).Sublist (trace.filterMap Event.queued) := by
  obtain ⟨dropped, order, -⟩ := lined_run run
  rw [order]
  exact (begun_sublist trace).trans (List.sublist_append_left _ _)

/-! ## Receivers -/

/-- A receiver with an attempt in line closes together with its progress. -/
theorem leave_step (step : Step settings before event after) {number : Nat}
    (awaiting : before.connections request = .awaiting number)
    (unset : before.outcomes (request, number) = .unset) :
    after.connections request = .awaiting number ∨ (after.progress request).closed = true := by
  have away : ∀ {holder : RequestId} {connection : Connection} {progress : Progress},
      (request = holder → progress.closed = true) →
        Function.update before.connections holder connection request = .awaiting number ∨
          (Function.update before.progress holder progress request).closed = true := by
    intro holder connection progress closed
    by_cases same : request = holder
    · refine .inr ?_
      rw [← same, Function.update_self]
      exact closed same
    · rw [Function.update_of_ne same]
      exact .inl awaiting
  have other : ∀ {holder : RequestId} {connection : Connection}, request ≠ holder →
      Function.update before.connections holder connection request = .awaiting number := by
    intro holder connection different
    rwa [Function.update_of_ne different]
  cases step with
  | full refused fresh =>
      exact .inl (other (by rintro rfl; rw [fresh] at awaiting; cases awaiting))
  | refuse refused frame reply fresh _ =>
      exact .inl (other (by rintro rfl; rw [fresh] at awaiting; cases awaiting))
  | accept accepted frame payload remaining fresh _ =>
      exact .inl (other (by rintro rfl; rw [fresh] at awaiting; cases awaiting))
  | enqueue holder tried attempt trying isOpen room made =>
      exact .inl (other (by rintro rfl; rw [trying] at awaiting; cases awaiting))
  | wake holder paused moment pausing due =>
      exact .inl (other (by rintro rfl; rw [pausing] at awaiting; cases awaiting))
  | reject holder tried trying stopped => exact away fun _ => rfl
  | lose holder lost found dropped => exact away fun _ => rfl
  | expire holder busy due => exact away fun _ => rfl
  | disconnect holder busy => exact away fun _ => rfl
  | receive holder received result found sent =>
      have different : request ≠ holder := by
        rintro rfl
        obtain rfl : received = number := by simpa [found] using awaiting
        rw [sent] at unset
        cases unset
      refine .inl ?_
      unfold Dispatcher.resume
      split
      · exact other different
      · split <;> exact other different
  | _ => exact .inl awaiting

/-- Between its checks and `begin` the receiver of an attempt is open, or its progress closed. -/
theorem checked_run (run : Run settings start trace dispatcher)
    (checked : dispatcher.executor = .checked attempt) (closed : dispatcher.Closed attempt) :
    (dispatcher.progress attempt.request).closed = true := by
  refine run.invariantTrace (fun _ dispatcher => ∀ attempt, dispatcher.executor = .checked attempt →
    dispatcher.Closed attempt → (dispatcher.progress attempt.request).closed = true)
      nofun ?_ attempt
    checked closed
  intro trace before after event earlier held step attempt checked closed
  obtain ⟨path, exchanges, along, -⟩ := system_run earlier
  have same : before.executor = .checked attempt ∨
      event = .check attempt ∧ after.connections = before.connections := by
    cases step with
    | receive => rw [resume_executor] at checked; exact .inl checked
    | check checked' granted isOpen => cases checked; exact .inr ⟨rfl, rfl⟩
    | close => cases checked
    | _ => first | exact .inl checked | cases checked
  rcases same with same | ⟨rfl, kept⟩
  · have coherent := System.coherent_run along attempt.request
    obtain ⟨⟨-, -, unset⟩, -⟩ := coherent.of_checked same
    by_cases before_closed : before.Closed attempt
    · have shut := held attempt same before_closed
      have progressed := progress_step step attempt.request
      have idle := progressed.idle_of_closed shut
      refine (progressed.quiet idle fun absent => ?_).2.2 shut
      rw [(coherent.idle (.inl absent)).2.1] at shut
      cases shut
    · have left := leave_step step (not_not.mp before_closed) (unset attempt.number le_rfl)
      exact left.resolve_left closed
  · cases step with
    | check attempt granted isOpen => exact absurd closed isOpen

private theorem begun_run (run : Run settings start trace dispatcher)
    (step : Step settings dispatcher (.begin attempt) after) : ¬dispatcher.Refuses attempt := by
  cases step with
  | begin attempt progress checked begun =>
      rintro (closed | refused)
      · have shut := checked_run run checked closed
        rw [(Progress.begin_eq_some.mp begun).1] at shut
        cases shut
      · rw [refused] at begun
        cases begun

private theorem begin_overdue {progress : Progress} {deadline now : Nat} (late : deadline ≤ now) :
    progress.begin deadline now = none := by
  unfold Progress.begin
  rw [if_pos (.inr late)]

private theorem skipped_step (step : Step settings dispatcher event after)
    (skipped : event.skipped = some attempt) :
    dispatcher.Refuses attempt ∨ event = .halt attempt ∧ dispatcher.gate.stopped = true := by
  cases step with
  | skip refused waiting closed => cases skipped; exact .inl (.inl closed)
  | overdue refused waiting due => cases skipped; exact .inl (.inr (begin_overdue due))
  | declineClosed refused granted closed => cases skipped; exact .inl (.inl closed)
  | decline refused checked refusal => cases skipped; exact .inl (.inr refusal)
  | halt halted error waiting stopped =>
      cases skipped
      refine .inr ⟨rfl, ?_⟩
      unfold Gate.acquire at stopped
      split at stopped
      · assumption
      · split at stopped <;> cases stopped
  | _ => cases skipped

/-! ## Permits -/

theorem permits_run (run : Run settings start trace dispatcher) (selects : Permit → Bool) :
    (Ledger.issued Event.permitMovement trace).countP selects =
      dispatcher.permits.countP selects +
        (Ledger.redeemed Event.permitMovement trace).countP selects := by
  have balanced := Ledger.balance permits Event.permitMovement (fun _ step => moves_step step) run
    selects
  have none : start.permits.countP selects = 0 := rfl
  omega

/-- An attempt in flight holds a permit. -/
theorem inFlight_le (dispatcher : Dispatcher) :
    dispatcher.running.countP HttpTask.inFlight ≤ dispatcher.permits.length := by
  have each : ∀ running : List HttpTask,
      running.countP HttpTask.inFlight ≤ (running.filterMap HttpTask.permit).length := by
    intro running
    induction running with
    | nil => exact le_rfl
    | cons task running induction =>
        rw [filterMap_permit, List.countP_cons, List.length_append]
        cases stage : task.stage <;>
          simp only [HttpTask.inFlight, HttpTask.permit, stage, Option.toList, List.length_cons,
            List.length_nil] <;>
          simp <;> omega
  rw [permits, List.length_append]
  have flying := each dispatcher.running
  omega

private theorem countP_executor (running : List HttpTask) :
    (running.filterMap HttpTask.permit).countP (fun permit => permit = .executor) = 0 := by
  induction running with
  | nil => rfl
  | cons task running induction =>
      rw [filterMap_permit, List.countP_append, induction]
      cases stage : task.stage <;> simp [HttpTask.permit, stage]

/-- The executor drops every permit it obtains, unless it begins an attempt with it. -/
theorem acquires_run (run : Run settings start trace dispatcher) :
    trace.countP Event.acquires =
      dispatcher.executor.permit.toList.length + trace.countP Event.disposes := by
  have balanced := permits_run run fun permit => permit = .executor
  have issued : (Ledger.issued Event.permitMovement trace).countP
      (fun permit => permit = .executor) = trace.countP Event.acquires := by
    apply Ledger.countP_issued
    intro event
    cases event <;> rfl
  have redeemed : (Ledger.redeemed Event.permitMovement trace).countP
      (fun permit => permit = .executor) = trace.countP Event.disposes := by
    apply Ledger.countP_redeemed
    intro event
    cases event <;> rfl
  have held : dispatcher.permits.countP (fun permit => permit = .executor) =
      dispatcher.executor.permit.toList.length := by
    rw [permits, List.countP_append, countP_executor]
    cases dispatcher.executor <;> rfl
  omega

private theorem releases_run (run : Run settings start trace dispatcher) (id : AttemptId) :
    trace.countP (Event.releases id) ≤ trace.countP (Event.returns id) := by
  have balanced := permits_run run fun permit => permit = .returned id
  have issued : (Ledger.issued Event.permitMovement trace).countP
      (fun permit => permit = .returned id) = trace.countP (Event.returns id) := by
    apply Ledger.countP_issued
    intro event
    cases event <;> simp [Event.permitMovement, Event.returns]
  have redeemed : (Ledger.redeemed Event.permitMovement trace).countP
      (fun permit => permit = .returned id) = trace.countP (Event.releases id) := by
    apply Ledger.countP_redeemed
    intro event
    cases event <;> simp [Event.permitMovement, Event.releases]
  omega

/-! ## Callers which vanished -/

theorem vanished_step (step : Step settings before event after)
    (vanished : event = .disconnect request ∨ before.connections request = .vanished ∧
      (before.progress request).closed = true) :
    after.connections request = .vanished ∧ (after.progress request).closed = true := by
  rcases vanished with rfl | ⟨vanished, closed⟩
  · cases step with
    | disconnect holder busy => simp [Progress.close]
  · constructor
    · cases connection_step step request with
      | same equal => exact equal.trans vanished
      | opened absent => simp [vanished] at absent
      | vanished busy gone => exact gone
      | completed number status body awaiting => simp [vanished] at awaiting
      | moved busy | failed busy => simp [Busy, vanished] at busy
    · have progressed := progress_step step request
      exact (progressed.quiet (progressed.idle_of_closed closed) (by simp [vanished])).2.2 closed

private theorem vanished_run (run : Run settings start trace dispatcher)
    (disconnected : .disconnect request ∈ trace) :
    dispatcher.connections request = .vanished ∧
      (dispatcher.progress request).closed = true := by
  refine run.invariantTrace (fun trace dispatcher => .disconnect request ∈ trace →
    dispatcher.connections request = .vanished ∧ (dispatcher.progress request).closed = true)
    nofun ?_ disconnected
  intro trace before after event earlier held step member
  apply vanished_step step
  rcases List.mem_append.mp member with old | new
  · exact .inr (held old)
  · exact .inl (List.mem_singleton.mp new).symm

/-- No attempt of a caller which disconnected is queued or begins. -/
theorem vanished_future (future : Run settings dispatcher more later)
    (vanished : dispatcher.connections request = .vanished)
    (closed : (dispatcher.progress request).closed = true) :
    ∀ event ∈ more, ∀ attempt, attempt.request = request → event.queued ≠ some attempt ∧
      event.begun ≠ some attempt := by
  refine (future.invariantTrace (fun more later =>
    (later.connections request = .vanished ∧ (later.progress request).closed = true) ∧
      ∀ event ∈ more, ∀ attempt, attempt.request = request → event.queued ≠ some attempt ∧
        event.begun ≠ some attempt) ⟨⟨vanished, closed⟩, nofun⟩ ?_).2
  rintro more before after event - ⟨⟨vanished, closed⟩, none⟩ step
  refine ⟨vanished_step step (.inr ⟨vanished, closed⟩), fun other member attempt own => ?_⟩
  rcases List.mem_append.mp member with old | new
  · exact none other old attempt own
  · obtain rfl := List.mem_singleton.mp new
    constructor
    · intro queued
      cases step with
      | enqueue holder number attempt trying isOpen room made =>
          obtain rfl : attempt.request = holder := by rw [made]
          cases queued
          rw [own, vanished] at trying
          cases trying
      | _ => cases queued
    · intro begun
      have idle := (progress_step step request).idle_of_closed closed
      cases other with
      | begin begun_attempt =>
          cases begun
          simp [Event.begins, own] at idle
      | _ => cases begun

/-! ## Shutdown -/

theorem gate_step (step : Step settings before event after)
    (stopped : event = .stop ∨ before.gate.stopped = true) : after.gate.stopped = true := by
  rcases stopped with rfl | stopped
  · cases step with
    | stop => rfl
  · cases step with
    | policy policy gate applied => rw [(Gate.apply_eq_ok applied).2.2]; exact stopped
    | acquire attempt gate waiting acquired => rw [(Gate.acquire_eq_ok acquired).2]; exact stopped
    | receive holder number result awaiting sent => rw [resume_gate]; exact stopped
    | stop => rfl
    | _ => exact stopped

private theorem stopped_run (run : Run settings start trace dispatcher) (stop : .stop ∈ trace) :
    dispatcher.gate.stopped = true := by
  refine run.invariantTrace (fun trace dispatcher => .stop ∈ trace →
    dispatcher.gate.stopped = true) nofun ?_ stop
  intro trace before after event earlier held step member
  apply gate_step step
  rcases List.mem_append.mp member with old | new
  · exact .inr (held old)
  · exact .inl (List.mem_singleton.mp new).symm

private theorem drained_step (step : Step settings before event after)
    (stopped : before.gate.stopped = true) (drained : before.permits = []) :
    after.permits = [] ∧ event.begun = none := by
  have moved := moves_step step
  rw [drained] at moved
  have kept : event.permitMovement = .none → after.permits = [] := by
    intro still
    rw [still] at moved
    exact List.Perm.nil_eq moved |>.symm
  cases step with
  | acquire attempt gate waiting acquired =>
      unfold Gate.acquire at acquired
      rw [if_pos stopped] at acquired
      cases acquired
  | yield declined => simp [permits, declined, Executor.permit] at drained
  | begin attempt progress checked begun => simp [permits, checked, Executor.permit] at drained
  | «return» front back attempt result sending =>
      simp [permits, sending, HttpTask.permit] at drained
  | release front back attempt result marked =>
      simp [permits, marked, HttpTask.permit] at drained
  | _ => exact ⟨kept rfl, rfl⟩

theorem drained_run (future : Run settings dispatcher more later)
    (stopped : dispatcher.gate.stopped = true) (drained : dispatcher.permits = []) :
    later.permits = [] ∧ ∀ event ∈ more, event.begun = none := by
  refine (future.invariantTrace (fun more later => later.gate.stopped = true ∧
    later.permits = [] ∧ ∀ event ∈ more, event.begun = none) ⟨stopped, drained, nofun⟩ ?_).2
  rintro more before after event - ⟨stopped, drained, none⟩ step
  obtain ⟨still, idle⟩ := drained_step step stopped drained
  refine ⟨gate_step step (.inr stopped), still, fun other member => ?_⟩
  rcases List.mem_append.mp member with old | new
  · exact none other old
  · obtain rfl := List.mem_singleton.mp new
    exact idle

private theorem halted_run (run : Run settings start trace dispatcher)
    (halted : .halt attempt ∈ trace) :
    dispatcher.executor = .closing ∨ dispatcher.executor = .stopped := by
  refine run.invariantTrace (fun trace dispatcher => .halt attempt ∈ trace →
    dispatcher.executor = .closing ∨ dispatcher.executor = .stopped) nofun ?_ halted
  intro trace before after event earlier held step member
  rcases List.mem_append.mp member with old | new
  · exact (closed_step step (held old)).1
  · obtain rfl := List.mem_singleton.mp new
    cases step with
    | halt => exact .inl rfl

theorem halted_future (future : Run settings dispatcher more later)
    (left : dispatcher.executor = .closing ∨ dispatcher.executor = .stopped) :
    ∀ event ∈ more, event.decided = none ∧ ∀ attempt, event ≠ .take attempt := by
  refine (future.invariantTrace (fun more later =>
    (later.executor = .closing ∨ later.executor = .stopped) ∧
      ∀ event ∈ more, event.decided = none ∧ ∀ attempt, event ≠ .take attempt) ⟨left, nofun⟩ ?_).2
  rintro more before after event - ⟨left, none⟩ step
  obtain ⟨still, idle⟩ := closed_step step left
  refine ⟨still, fun other member => ?_⟩
  rcases List.mem_append.mp member with old | new
  · exact none other old
  · obtain rfl := List.mem_singleton.mp new
    exact idle

/-! ## The contract -/

/-- Attempts begin in the order in which the queue received them, except for those refused by their
receiver or progress and those which found the gate stopped, after which none is taken.  Permits are
dropped by attempts which do not begin and after the transport returned, attempts in flight are
among the active ones, callers which vanished have no further attempt, and a stopped gate without
active attempts stays so. -/
theorem dispatch_order (run : Run settings start trace dispatcher)
    (future : Run settings dispatcher more later) :
    (trace.filterMap Event.begun).Sublist (trace.filterMap Event.queued) ∧
      Lined trace dispatcher ∧
      (∀ event after attempt, Step settings dispatcher event after →
        (event.skipped = some attempt → dispatcher.Refuses attempt ∨
          event = .halt attempt ∧ dispatcher.gate.stopped = true) ∧
        (event.begun = some attempt → ¬dispatcher.Refuses attempt)) ∧
      (∀ attempt, .halt attempt ∈ trace → ∀ event ∈ more,
        event.decided = none ∧ ∀ attempt, event ≠ .take attempt) ∧
      trace.countP Event.acquires =
        dispatcher.executor.permit.toList.length + trace.countP Event.disposes ∧
      dispatcher.gate.active = dispatcher.permits.length ∧
      dispatcher.running.countP HttpTask.inFlight ≤ dispatcher.gate.active ∧
      (∀ id, trace.countP (Event.releases id) ≤ trace.countP (Event.returns id)) ∧
      (∀ request, .disconnect request ∈ trace → ∀ event ∈ more, ∀ attempt,
        attempt.request = request → event.queued ≠ some attempt ∧ event.begun ≠ some attempt) ∧
      (.stop ∈ trace → dispatcher.gate.active = 0 →
        dispatcher.running.countP HttpTask.inFlight = 0 ∧
          later.running.countP HttpTask.inFlight = 0 ∧ ∀ event ∈ more, event.begun = none) := by
  have counts := counts_run run
  have flying : dispatcher.running.countP HttpTask.inFlight ≤ dispatcher.gate.active := by
    rw [counts]
    exact inFlight_le dispatcher
  refine ⟨order_run run, lined_run run, fun event after attempt step => ⟨skipped_step step, ?_⟩,
    fun attempt halted => halted_future future (halted_run run halted), acquires_run run, counts,
    flying, releases_run run, fun request disconnected => ?_, fun stop drained => ?_⟩
  · intro begun
    cases event with
    | begin other =>
        obtain rfl : other = attempt := Option.some.inj begun
        exact begun_run run step
    | _ => cases begun
  · obtain ⟨vanished, closed⟩ := vanished_run run disconnected
    exact vanished_future future vanished closed
  · have none : dispatcher.permits = [] := List.length_eq_zero_iff.mp (counts.symm.trans drained)
    obtain ⟨still, idle⟩ := drained_run future (stopped_run run stop) none
    have landed := inFlight_le later
    rw [still] at landed
    exact ⟨by omega, Nat.le_zero.mp landed, idle⟩

def task : Request where
  id := "task"
  token := "credential"
  operation := "/documents"
  params := .null

def taskAttempt : Attempt where
  request := 0
  payload := task
  deadline := 1000
  number := 1

def frugal : Policy where
  version := 3
  principalId := "owner"
  clientClass := "agent"
  policyRevision := 1
  refreshAfterMs := 1000
  outstanding := 0
  limits := { scope := "principal", maxOutstanding := 1 }

def waitingTask : Dispatcher where
  clock := 0
  gate := .default
  connections := Function.update start.connections 0 (.awaiting 1)
  payloads := Function.update start.payloads 0 task
  deadlines := Function.update start.deadlines 0 1000
  progress := start.progress
  outcomes := start.outcomes
  queue := []
  executor := .waiting taskAttempt
  running := []

theorem waitingTask_run :
    Run .single start [.accept 0 1000, .enqueue taskAttempt, .take taskAttempt] waitingTask := by
  have accepted : Run .single start [.accept 0 1000] _ :=
    .single (.accept start 0 { request := some task, remaining := some 1000 } task 1000 rfl rfl)
  have queued := accepted.tail (.enqueue _ 0 1 taskAttempt rfl nofun (by decide) rfl)
  have taken := queued.tail (.take _ taskAttempt [] rfl rfl)
  simpa [waitingTask, start] using taken

/-- A caller vanishes while its attempt is in flight, and the dispatcher shuts down. -/
theorem dispatch_order_sample : ∃ (trace : List Event) (dispatcher : Dispatcher),
    Run .single start trace dispatcher ∧ .disconnect 0 ∈ trace ∧ .stop ∈ trace ∧
      trace.filterMap Event.begun = [taskAttempt] ∧
        ∀ more later, Run .single dispatcher more later → ∀ event ∈ more, event.begun = none := by
  have granted := (waitingTask_run.tail (.policy _ frugal _ rfl)).tail
    (.acquire _ taskAttempt _ rfl rfl)
  have begun := (granted.tail (.check _ taskAttempt rfl fun closed => closed rfl)).tail
    (.begin _ taskAttempt _ rfl rfl)
  have vanished := begun.tail (.disconnect _ 0 (.inr (.inl ⟨1, rfl⟩)))
  have returned := vanished.tail (.return _ [] [] taskAttempt (.error "network_error") rfl)
  have released := (returned.tail (.mark _ [] [] _ _ rfl)).tail (.release _ [] [] _ _ rfl)
  have stopped := released.tail (.stop _)
  refine ⟨_, _, stopped, by simp, by simp, rfl, fun more later future => ?_⟩
  obtain ⟨-, -, -, -, -, -, -, -, -, drain⟩ := dispatch_order stopped future
  exact (drain (by simp) rfl).2.2

/-- An attempt with an open receiver and a willing progress never begins once the gate is stopped.
-/
theorem dispatch_order_stopped : ∃ (trace : List Event) (dispatcher after : Dispatcher),
    Run .single start trace dispatcher ∧ ¬dispatcher.Refuses taskAttempt ∧
      Step .single dispatcher (.halt taskAttempt) after ∧
        ∀ more later, Run .single after more later → .begin taskAttempt ∉ more := by
  have stopped := waitingTask_run.tail (.stop _)
  refine ⟨_, _, _, stopped, ?_, .halt _ taskAttempt "Client stopped" rfl rfl, ?_⟩
  · rintro (closed | refused)
    · exact closed rfl
    · cases refused
  · intro more later future begun
    have idle := halted_future future (.inl rfl) _ begun
    cases idle.1

end Dispatcher

end AiProtocol
