import AiProtocol.Gateway.Accounting
import AiProtocol.Gateway.Served

/-!
# Closure and disposal

Closing turns every later section of `enqueue` away.  The scheduler returns from a closed gateway
whose queues and executions are gone, and dropping a gateway withdraws what still waits.
-/

namespace AiProtocol

/-- The event belongs to a section of `enqueue` which passed its closing check. -/
def Event.passes {Action : Type} : Event Action → Bool
  | .enter .. | .exhausted _ | .acquire .. | .overflow _ | .refuse _ | .push .. => true
  | _ => false

namespace Gateway

variable {Action : Type}

/-- The gateway is closed and no section of `enqueue` is going on. -/
def Shut (gateway : Gateway Action) : Prop :=
  gateway.closing = true ∧ gateway.lock.caller = none

theorem Shut.step {config : Config Action} {before after : Gateway Action} {event : Event Action}
    (shut : before.Shut) (step : Step config before event after) :
    after.Shut ∧ event.passes = false := by
  obtain ⟨closing, none⟩ := shut
  cases step with
  | enter call identity action closed submitted free isOpen =>
      rw [closing] at isOpen
      cases isOpen
  | exhausted _ _ _ holds | acquire _ _ _ _ holds | overflow _ _ _ _ holds | refuse _ holds
  | push _ _ _ _ _ holds =>
      rw [holds] at none
      cases none
  | pop later observe popped =>
      refine ⟨⟨closing, ?_⟩, rfl⟩
      dsimp only
      split <;> rfl
  | perform effect rest next =>
      cases effect <;> exact ⟨⟨closing, none⟩, rfl⟩
  | scan | saturated | spawn | finish | park | reject | inspect | unlock =>
      exact ⟨⟨closing, rfl⟩, rfl⟩
  | close | drop => exact ⟨⟨rfl, none⟩, rfl⟩
  | _ => exact ⟨⟨closing, none⟩, rfl⟩

/-- A shut gateway stays shut and admits nothing. -/
theorem Shut.run {config : Config Action} {before after : Gateway Action}
    {trace : List (Event Action)} (shut : before.Shut) (run : Run config before trace after) :
    after.Shut ∧ ∀ event ∈ trace, event.passes = false := by
  refine run.invariantTrace (fun trace later => later.Shut ∧
    ∀ event ∈ trace, event.passes = false) ⟨shut, by simp⟩ ?_
  rintro trace middle later event - ⟨shut, idle⟩ step
  obtain ⟨still, absent⟩ := shut.step step
  refine ⟨still, fun other member => ?_⟩
  rcases List.mem_append.mp member with earlier | newest
  · exact idle other earlier
  · obtain rfl := List.mem_singleton.mp newest
    exact absent

/-! ## The destructor -/

/-- A gateway which is being disposed of was dropped, and is closed. -/
def Dropped (trace : List (Event Action)) (gateway : Gateway Action) : Prop :=
  gateway.disposal ≠ .alive → .drop ∈ trace ∧ gateway.closing = true

theorem Dropped.step {config : Config Action} {trace : List (Event Action)}
    {before after : Gateway Action} {event : Event Action} (dropped : Dropped trace before)
    (step : Step config before event after) : Dropped (trace ++ [event]) after := by
  have still : before.disposal ≠ .alive → .drop ∈ trace ++ [event] ∧ before.closing = true :=
    fun disposed => ⟨List.mem_append_left _ (dropped disposed).1, (dropped disposed).2⟩
  cases step with
  | drop => exact fun _ => ⟨by simp, rfl⟩
  | close => exact fun disposed => ⟨(still disposed).1, rfl⟩
  | abort closed => exact fun _ => still (by simp [closed])
  | defer aborting => exact fun _ => still (by simp [aborting])
  | reject aborting => exact fun _ => still (by rcases aborting with same | same <;> simp [same])
  | perform effect => cases effect <;> exact still
  | _ => exact still

theorem dropped_run {config : Config Action} {gateway : Gateway Action}
    {trace : List (Event Action)} (run : Run config (start config) trace gateway) :
    Dropped trace gateway :=
  run.invariantTrace Dropped (fun disposed => absurd rfl disposed) fun _ => Dropped.step

/-- Once the pending jobs were rejected, nothing waits or is handed over. -/
structure Emptied (gateway : Gateway Action) : Prop where
  /-- Only the destructor rejects. -/
  rejecting : gateway.lock = .rejecting → gateway.disposal = .cleared
  /-- Nothing can follow. -/
  cleared : gateway.disposal = .cleared →
    gateway.Shut ∧ (∀ job, gateway.lock ≠ .handing job) ∧ gateway.queues.jobs = []

theorem Emptied.step {config : Config Action} {trace : List (Event Action)}
    {before after : Gateway Action} {event : Event Action} (emptied : before.Emptied)
    (dropped : Dropped trace before) (step : Step config before event after) : after.Emptied := by
  obtain ⟨rejecting, cleared⟩ := emptied
  have shut : before.disposal = .cleared → after.Shut ∧ event.passes = false :=
    fun done => (cleared done).1.step step
  cases step with
  | enter | exhausted | acquire | overflow | refuse | push =>
      exact ⟨nofun, fun done => absurd (shut done).2 nofun⟩
  | perform effect =>
      cases effect <;> exact ⟨rejecting, cleared⟩
  | scan closed =>
      refine ⟨nofun, fun done => ⟨(shut done).1, nofun, ?_⟩⟩
      rw [Queues.maintain_jobs, (cleared done).2.2]
      rfl
  | pop later observe popped holds idle room observes returned =>
      subst returned
      obtain ⟨left, selected⟩ := Queues.popNext_mem before.queues observe
      refine ⟨?_, fun done => ?_⟩
      · dsimp only
        split <;> exact nofun
      · rw [(cleared done).2.2] at left selected
        refine ⟨(shut done).1, ?_, List.eq_nil_iff_forall_not_mem.mpr fun job member =>
          absurd (left job member) List.not_mem_nil⟩
        dsimp only
        split
        · rename_i handed same
          exact absurd (selected handed same) List.not_mem_nil
        · exact nofun
  | spawn job holds => exact ⟨nofun, fun done => absurd holds ((cleared done).2.1 job)⟩
  | saturated | finish | park | inspect =>
      exact ⟨nofun, fun done => ⟨(shut done).1, nofun, (cleared done).2.2⟩⟩
  | unlock =>
      exact ⟨nofun, fun done => ⟨(shut done).1, nofun, (cleared done).2.2⟩⟩
  | close free => exact ⟨rejecting, fun done => ⟨(shut done).1, (cleared done).2⟩⟩
  | drop alive => exact ⟨fun holds => absurd (rejecting holds) (by simp [alive]), nofun⟩
  | abort closed => exact ⟨fun holds => absurd (rejecting holds) (by simp [closed]), nofun⟩
  | defer aborting => exact ⟨fun holds => absurd (rejecting holds) (by simp [aborting]), nofun⟩
  | reject aborting free =>
      have disposed : before.disposal ≠ .alive := by
        rcases aborting with same | same <;> simp [same]
      exact ⟨fun _ => rfl, fun _ => ⟨⟨(dropped disposed).2, rfl⟩, nofun, rfl⟩⟩
  | _ => exact ⟨rejecting, cleared⟩

theorem emptied_run {config : Config Action} {gateway : Gateway Action}
    {trace : List (Event Action)} (run : Run config (start config) trace gateway) :
    gateway.Emptied :=
  run.invariantTrace (fun _ gateway => gateway.Emptied) ⟨nofun, nofun⟩
    fun earlier emptied step => emptied.step (dropped_run earlier) step

theorem rejected_run {config : Config Action} {gateway : Gateway Action}
    {trace : List (Event Action)} (run : Run config (start config) trace gateway)
    {call : ReplyId} (rejected : .perform (.answer call gatewayClosed) ∈ trace) :
    .drop ∈ trace := by
  obtain ⟨front, back, before, after, rfl, earlier, step, -⟩ := run.step_of_mem rejected
  cases step with
  | perform effect rest next =>
      have member : Effect.answer call gatewayClosed ∈ before.todo := by simp [next]
      rcases (orderly_run earlier).answer member with ⟨rejecting, -⟩ | expired
      · have cleared := (emptied_run earlier).rejecting rejecting
        exact List.mem_append_left _ (dropped_run earlier (by simp [cleared])).1
      · exact absurd expired (by decide)

private theorem drop_of_rejected {config : Config Action} {gateway : Gateway Action}
    {trace : List (Event Action)} (run : Run config (start config) trace gateway)
    {call : ReplyId} (rejected : .rejected ∈ dispositions trace call) : .drop ∈ trace := by
  obtain ⟨⟨reply, disposition⟩, listed, rfl⟩ := List.mem_map.mp rejected
  obtain ⟨event, member, disposed⟩ := List.mem_filterMap.mp (List.mem_filter.mp listed).1
  cases event with
  | perform effect =>
      cases effect with
      | answer reply response =>
          simp only [Event.disposition, Option.some.injEq, Prod.mk.injEq, ite_eq_left_iff,
            reduceCtorEq, imp_false, not_not] at disposed
          obtain ⟨rfl, rfl⟩ := disposed
          exact rejected_run run member
      | _ => simp [Event.disposition] at disposed
  | _ => simp [Event.disposition] at disposed

private theorem drop_of_answer {config : Config Action} (truthful : config.Truthful)
    {gateway : Gateway Action} {trace : List (Event Action)}
    (run : Run config (start config) trace gateway) {call : ReplyId}
    (accepted : trace.countP (Event.accepts call) = 1)
    (answered : gateway.calls call = .answered gatewayClosed) : .drop ∈ trace := by
  rcases (provenance_run truthful run).answers call _ answered with
    ⟨-, unaccepted⟩ | (⟨-, handled⟩ | ⟨withdrawn, -⟩) | lost
  · omega
  · exact absurd handled.not_refused.1 (by decide)
  · exact rejected_run run withdrawn
  · exact absurd lost (by decide)

private theorem performed_run {config : Config Action} {before after : Gateway Action}
    {trace : List (Event Action)} (idle : before.Idle) (run : Run config before trace after)
    {effect : Effect} (member : effect ∈ before.todo) :
    effect ∈ after.todo ∨ .perform effect ∈ trace := by
  refine (run.invariantTrace (fun trace later => later.Idle ∧
    (effect ∈ later.todo ∨ .perform effect ∈ trace)) ⟨idle, .inl member⟩ ?_).2
  rintro trace middle later event - ⟨idle, pending | performed⟩ step
  · refine ⟨idle.step step, ?_⟩
    have busy : middle.todo ≠ [] := List.ne_nil_of_mem pending
    cases step with
    | perform next rest todo =>
        rw [todo] at pending
        rcases List.mem_cons.mp pending with rfl | remaining
        · exact .inr (by simp)
        · exact .inl remaining
    | enter _ _ _ _ _ free | scan _ _ free | reject _ free => exact absurd (idle free) busy
    | overflow | pop => exact absurd ‹_› busy
    | _ => exact .inl pending
  · exact ⟨idle.step step, .inr (List.mem_append_left _ performed)⟩

/-- A reply told by a section stays in its channel. -/
theorem told_run {config : Config Action} {gateway : Gateway Action}
    {trace : List (Event Action)} (run : Run config (start config) trace gateway)
    {call : ReplyId} {response : Response}
    (told : .perform (.answer call response) ∈ trace) : gateway.channels call = .sent response := by
  revert told
  refine run.invariantTrace (fun trace gateway => .perform (.answer call response) ∈ trace →
    gateway.channels call = .sent response) nofun ?_
  intro trace before after event earlier sent step told
  rcases List.mem_append.mp told with settled | newest
  · -- another write would be the second one
    have first : 0 < trace.countP (Event.writes call) :=
      List.countP_pos_iff.mpr ⟨_, settled, by simp [Event.writes]⟩
    have once := writes_once (earlier.tail step) call
    rw [List.countP_append, List.countP_singleton] at once
    have silent : event.writes call = false := by
      by_contra writes
      rw [if_pos (by simpa using writes)] at once
      omega
    have still := sent settled
    have other : ∀ reply channel, reply ≠ call →
        Function.update before.channels reply channel call = .sent response := by
      intro reply channel ne
      rw [Function.update_of_ne ne.symm, still]
    cases step with
    | perform effect =>
        cases effect with
        | release => exact still
        | discard reply permit | answer reply told =>
            exact other reply _ (by simpa [Event.writes] using silent)
    | send | hangUp => exact other _ _ (by simpa [Event.writes] using silent)
    | _ => exact still
  · obtain rfl := List.mem_singleton.mp newest
    cases step with
    | perform => exact Function.update_self _ _ _

/-! ## The end of the scheduler -/

/-- After the scheduler returned there is no work, and there will be none. -/
structure Retired (gateway : Gateway Action) : Prop where
  /-- The gateway is closed and nobody is entering. -/
  shut : gateway.Shut
  /-- Nothing waits. -/
  queues : gateway.queues.jobs = []
  /-- Nothing runs. -/
  running : gateway.running = []
  /-- Nobody is disposing of work. -/
  todo : gateway.todo = []
  /-- No section of the scheduler is going on. -/
  lock : gateway.lock = .free ∨ gateway.lock = .rejecting ∨ gateway.lock = .inspecting

theorem Retired.step {config : Config Action} {before after : Gateway Action}
    {event : Event Action} (retired : before.Retired) (returned : before.scheduler = .returned)
    (step : Step config before event after) : after.Retired := by
  obtain ⟨shut, queues, running, todo, lock⟩ := retired
  have stillShut := shut.step step
  have outside : ∀ {holder : Section Action}, before.lock = holder →
      holder = .free ∨ holder = .rejecting ∨ holder = .inspecting := by
    rintro _ rfl
    exact lock
  cases step with
  | enter | exhausted | acquire | overflow | refuse | push => exact absurd stillShut.2 nofun
  | perform effect rest next =>
      rw [todo] at next
      cases next
  | pop _ _ _ holds | saturated holds | spawn _ holds | finish holds | park holds =>
      exact absurd (outside holds) (by simp)
  | reap awake | scan _ awake | wakeNotified _ awake | wakeJoined _ _ _ _ awake
  | wakeTimer _ awake =>
      rw [returned] at awake
      cases awake
  | complete _ _ _ _ spawned | fail _ _ _ spawned | giveBack _ _ _ _ spawned
  | send _ _ _ _ spawned | hangUp _ _ _ spawned => simp [running] at spawned
  | reject =>
      have interactive : before.queues.interactive = [] := (List.append_eq_nil_iff.mp queues).1
      have agents : before.queues.agents = [] := (List.append_eq_nil_iff.mp queues).2
      exact ⟨stillShut.1, rfl, running, by simp [Queues.rejectPending, interactive, agents],
        .inr (.inl rfl)⟩
  | inspect => exact ⟨stillShut.1, queues, running, todo, .inr (.inr rfl)⟩
  | unlock => exact ⟨stillShut.1, queues, running, todo, .inl rfl⟩
  | cancel asked awaiting => simp [returned] at awaiting
  | _ => exact ⟨stillShut.1, queues, running, todo, lock⟩

/-- A gateway whose scheduler returned has retired. -/
theorem retired_run {config : Config Action} {gateway : Gateway Action}
    {trace : List (Event Action)} (run : Run config (start config) trace gateway)
    (returned : gateway.scheduler = .returned) : gateway.Retired := by
  revert returned
  refine run.invariant (fun gateway => gateway.scheduler = .returned → gateway.Retired) ?_ nofun
  intro before after event retired step returned
  by_cases already : before.scheduler = .returned
  · exact (retired already).step already step
  · cases step with
    | finish holds idle drained =>
        obtain ⟨closing, running, queues⟩ := drained
        exact ⟨⟨closing, rfl⟩, queues, running, idle, .inl rfl⟩
    | perform effect => cases effect <;> exact absurd returned already
    | reap | scan | park | wakeNotified | wakeJoined | wakeTimer | cancel => simp at returned
    | _ => exact absurd returned already

/-- Nobody holds a permit when nothing waits, runs or is in hand. -/
theorem outstanding_of_idle {config : Config Action} {gateway : Gateway Action}
    {trace : List (Event Action)} (run : Run config (start config) trace gateway)
    (queues : gateway.queues.jobs = [])
    (finished : ∀ execution ∈ gateway.running, execution.isFinished)
    (empty : (permits Action).inHand gateway = []) (budget : BudgetRef) :
    (gateway.budgets budget).outstanding = 0 := by
  rw [outstanding_run run budget, queuedOn, queues, inHandOn, empty]
  have none : gateway.executingOn budget = 0 := by
    refine List.countP_eq_zero.mpr fun execution member => ?_
    have ticketless := (permits Action).finished execution (finished execution member)
    simp [show execution.ticket = Option.none from ticketless]
  rw [none]
  rfl

/-- The abort of the scheduler and `reject_pending` have taken effect. -/
structure Disposed (gateway : Gateway Action) : Prop where
  /-- `reject_pending` ran. -/
  cleared : gateway.disposal = .cleared
  /-- All its callers were told. -/
  told : gateway.todo = []
  /-- The scheduler is gone. -/
  stopped : gateway.scheduler = .aborted ∨ gateway.scheduler = .returned
  /-- So are its executions. -/
  dropped : ∀ execution ∈ gateway.running, execution.isFinished

/-- A disposed gateway holds nothing and stays shut. -/
theorem Disposed.holds {config : Config Action} {gateway : Gateway Action}
    {trace : List (Event Action)} (run : Run config (start config) trace gateway)
    (disposed : gateway.Disposed) :
    gateway.Shut ∧ gateway.queues.jobs = [] ∧
      ∀ budget, (gateway.budgets budget).outstanding = 0 := by
  obtain ⟨shut, empty, queues⟩ := (emptied_run run).cleared disposed.cleared
  refine ⟨shut, queues, outstanding_of_idle run queues disposed.dropped ?_⟩
  rw [Custody.inHand, disposed.told]
  have caller := shut.2
  cases holds : gateway.lock with
  | placing => simp [holds, Section.caller] at caller
  | handing job => exact absurd holds (empty job)
  | _ => rfl

private theorem withdrawn_run {config : Config Action} {waiting rejected gateway : Gateway Action}
    {front back : List (Event Action)} (earlier : Run config (start config) front waiting)
    (step : Step config waiting .reject rejected) (later : Run config rejected back gateway)
    (told : gateway.todo = []) {job : Job Action} (member : job ∈ waiting.queues.jobs) :
    gateway.channels job.reply = .sent gatewayClosed ∧
      ∀ event ∈ front ++ .reject :: back, event.executes job.reply = false := by
  have started := earlier.tail step
  have run : Run config (start config) (front ++ .reject :: back) gateway := by
    simpa using started.trans later
  have pending : .answer job.reply gatewayClosed ∈ rejected.todo := by
    cases step
    rw [Queues.rejectPending, ← List.flatMap_append]
    exact List.mem_flatMap.mpr ⟨job, member, by simp [Queues.rejection]⟩
  have answered : .perform (.answer job.reply gatewayClosed) ∈ back :=
    (performed_run (idle_run started) later pending).resolve_left (by simp [told])
  have withdrawn : .perform (.answer job.reply gatewayClosed) ∈ front ++ .reject :: back :=
    List.mem_append_right _ (List.mem_cons_of_mem _ answered)
  refine ⟨told_run run withdrawn, fun event executed => ?_⟩
  by_contra executes
  exact executes_excludes run executed (by simpa using executes) withdrawn
    (by simp [Event.disposes, Event.disposition]) rfl

end Gateway

open Gateway in
/-- Closure and drain.  After `close` no section of `enqueue` passes its check, and those which are
turned away change no budget and no queue.  In a gateway which was not dropped, accepted work is
never withdrawn.  The scheduler returns only from a closed gateway without work or permits, all of
whose accepted operations have their disposition, and nothing is admitted from then on.  In a
dropped gateway, once the abort and `reject_pending` have taken effect, nothing waits, no permit is
held and nothing is admitted; what still waited was answered `gateway_closed` and never executed,
while an operation which was handed off is never answered as not started. -/
theorem closure_and_drain (deployment : Deployment) {gateway : Gateway TaskAction}
    {trace : List (Event TaskAction)}
    (run : Run deployment.config (start deployment.config) trace gateway) :
    (∀ front back, trace = front ++ .close :: back →
      gateway.closing = true ∧ ∀ event ∈ back, event.passes = false) ∧
    (∀ call after, Step deployment.config gateway (.turnAway call) after →
      after.calls call = .answered gatewayClosed ∧ after.budgets = gateway.budgets ∧
        after.queues = gateway.queues) ∧
    (.drop ∉ trace → ∀ call, .rejected ∉ dispositions trace call ∧
      (trace.countP (Event.accepts call) = 1 → gateway.calls call ≠ .answered gatewayClosed)) ∧
    (gateway.scheduler = .returned →
      gateway.closing = true ∧ gateway.queues.jobs = [] ∧ gateway.running = [] ∧
        (∀ budget, (gateway.budgets budget).outstanding = 0) ∧
        (∀ call, trace.countP (Event.accepts call) = 1 →
          ∃ disposition, dispositions trace call = [disposition]) ∧
        ∀ back later, Run deployment.config gateway back later →
          ∀ event ∈ back, event.passes = false) ∧
    (gateway.Disposed →
      gateway.queues.jobs = [] ∧ (∀ budget, (gateway.budgets budget).outstanding = 0) ∧
        (∀ back later, Run deployment.config gateway back later →
          ∀ event ∈ back, event.passes = false) ∧
        ∀ front back waiting rejected, trace = front ++ .reject :: back →
          Run deployment.config (start deployment.config) front waiting →
            Step deployment.config waiting .reject rejected →
              Run deployment.config rejected back gateway →
                ∀ job ∈ waiting.queues.jobs, gateway.channels job.reply = .sent gatewayClosed ∧
                  ∀ event ∈ trace, event.executes job.reply = false) ∧
    ∀ call, (∃ event ∈ trace, event.executes call) → ∀ response,
      gateway.calls call = .answered response → response.Handled ∧ response.notStarted = false := by
  refine ⟨?_, ?_, ?_, ?_, ?_, ?_⟩
  · rintro front back rfl
    obtain ⟨before, earlier, rest⟩ := run.split
    obtain ⟨closed, step, later⟩ := rest.uncons
    have shut : closed.Shut := by
      cases step with
      | close free => exact ⟨rfl, by rw [free]; rfl⟩
    exact ⟨(shut.run later).1.1, (shut.run later).2⟩
  · rintro call after ⟨⟩
    exact ⟨move_calls_self _ _ _, rfl, rfl⟩
  · intro alive call
    exact ⟨fun rejected => alive (drop_of_rejected run rejected), fun accepted answered =>
      alive (drop_of_answer deployment.truthful run accepted answered)⟩
  · intro returned
    obtain ⟨shut, queues, running, todo, lock⟩ := retired_run run returned
    have empty : ∀ {Ticket : Type} (custody : Custody TaskAction Ticket),
        custody.inHand gateway = [] := by
      intro Ticket custody
      rcases lock with lock | lock | lock <;> simp [Custody.inHand, Custody.ofSection, todo, lock]
    refine ⟨shut.1, queues, running, outstanding_of_idle run queues (by simp [running])
      (empty _), fun call accepted => ?_, fun back later continued => (shut.run continued).2⟩
    have none : (operations TaskAction).held gateway = [] := by
      simp [Custody.held, Custody.queued, Custody.executing, queues, running, empty]
    have balance := operations_balance run call
    rw [none, ← length_dispositions, List.countP_nil, accepted, Nat.zero_add] at balance
    exact List.length_eq_one_iff.mp balance.symm
  · intro disposed
    obtain ⟨shut, queues, budgets⟩ := disposed.holds run
    refine ⟨queues, budgets, fun back later continued => (shut.run continued).2, ?_⟩
    rintro front back waiting rejected rfl earlier step later job member
    exact withdrawn_run earlier step later disposed.told member
  · rintro call ⟨event, member, executes⟩ response answered
    rcases truth_of_answer deployment.truthful run answered with ⟨-, unexecuted⟩ | handled
    · rw [unexecuted event member] at executes
      cases executes
    · exact ⟨handled, handled.not_refused.1⟩

open Gateway in
/-- A gateway which is closed behind an accepted job. -/
theorem echoing_retires : ∃ (trace : List (Event TaskAction)) (gateway : Gateway TaskAction),
    Run Deployment.echoing.config (start Deployment.echoing.config) trace gateway ∧
      gateway.scheduler = .returned ∧ (∃ event ∈ trace, event.accepts 0) ∧
      (∃ event ∈ trace, event.executes 0) ∧ gateway.calls 0 = .answered echoed ∧
      gateway.calls 1 = .answered gatewayClosed := by
  obtain ⟨job, front, accepted, reply, action, admits⟩ :=
    (ready_start Deployment.echoing.config).admits 0 rfl rfl Deployment.echoing_decides rfl
      (by decide) (by decide)
  have others := admits.others 1
  rw [reply] at others
  have closed := ((admits.run.tail (.submit _ 1 echoer echo ((others (by decide)).trans rfl)
    Deployment.echoing_decides fun rejected =>
      absurd (admits.rejectOnce.symm.trans rejected.2) Bool.false_ne_true)).tail
    (.close _ admits.waits.lock)).tail
    (.turnAway _ 1 echoer echo (move_calls_self accepted 1 _) admits.waits.lock rfl)
  have elsewhere : job.reply ≠ 1 := by simp [reply]
  have produced : Deployment.echoing.config.executes job.action echoed := by
    rw [action]
    exact Deployment.echoing_executes
  obtain ⟨middle, answered, serves⟩ :=
    ((admits.waits.move elsewhere (.submitted echoer echo)).close.move elsewhere
      (.answered gatewayClosed)).served produced
  obtain ⟨back, retired, returning, returned, same⟩ := serves.ready.retires serves.closing
  obtain ⟨pushing, pushed, accepts⟩ := admits.accepted
  obtain ⟨spawning, spawned, executes⟩ := serves.executed
  rw [reply] at accepts executes
  refine ⟨_, retired, (closed.trans serves.run).trans returning, returned,
    ⟨pushing, by simp [pushed], accepts⟩, ⟨spawning, by simp [spawned], executes⟩, ?_, ?_⟩
  · rw [same, ← reply]
    exact serves.answered
  · rw [same, serves.others 1 elsewhere.symm]
    exact move_calls_self _ _ _

open Gateway in
private theorem echoing_withdraws : ∃ (front back : List (Event TaskAction))
    (waiting rejected gateway : Gateway TaskAction),
    Run Deployment.echoing.config (start Deployment.echoing.config) front waiting ∧
      Step Deployment.echoing.config waiting .reject rejected ∧
      Run Deployment.echoing.config rejected back gateway ∧ gateway.Disposed ∧
      waiting.queues.jobs.map Job.reply = [0, 1] := by
  have begun : Run Deployment.echoing.config (start Deployment.echoing.config) [] _ := .refl _
  have accepted := ((((begun.tail
    (.submit _ 0 echoer echo rfl Deployment.echoing_decides nofun)).tail
    (.enter _ 0 _ _ (fun _ => false) rfl rfl rfl nofun)).tail
    (.acquire _ 0 _ _ _ rfl rfl rfl)).tail
    (.push _ 0 _ _ _ _ rfl rfl (by decide) rfl)).tail (.reap _ rfl)
  have entered := (accepted.tail
    (.submit _ 1 echoer echo rfl Deployment.echoing_decides nofun)).tail
    (.enter _ 1 _ _ (fun _ => false) rfl rfl rfl nofun)
  -- the lock is taken, so that `reject_pending` is left to the cleanup task
  have deferred := ((entered.tail (.drop _ rfl)).tail (.abort _ rfl)).tail (.defer _ rfl)
  have waiting := (deferred.tail (.acquire _ 1 _ _ _ rfl rfl rfl)).tail
    (.push _ 1 _ _ _ _ rfl rfl (by decide) rfl)
  refine ⟨_, _, _, _, _, waiting, .reject _ (.inr rfl) rfl, (((((Labelled.Execution.refl _).tail
    (.perform _ _ _ rfl)).tail (.perform _ _ _ rfl)).tail (.perform _ _ _ rfl)).tail
    (.perform _ _ _ rfl)).tail (.unlock _ (.inl rfl) rfl) |>.tail
    (.cancel _ ⟨nofun, nofun⟩ (.inl rfl)), ⟨rfl, rfl, .inl rfl, nofun⟩, rfl⟩

open Gateway in
/-- The accepted job is executed and the later request turned away; the jobs of the dropped gateway
are withdrawn. -/
theorem closure_and_drain_sample :
    (∃ (trace : List (Event TaskAction)) (gateway : Gateway TaskAction),
      Run Deployment.echoing.config (start Deployment.echoing.config) trace gateway ∧
        (∃ event ∈ trace, event.executes 0) ∧ gateway.calls 0 = .answered echoed ∧
        echoed.Handled ∧ gateway.calls 1 = .answered gatewayClosed ∧
        (∃ disposition, dispositions trace 0 = [disposition]) ∧
        (gateway.budgets 7).outstanding = 0 ∧
        ∀ back later, Run Deployment.echoing.config gateway back later →
          ∀ event ∈ back, event.passes = false) ∧
    ∃ (trace : List (Event TaskAction)) (gateway : Gateway TaskAction),
      Run Deployment.echoing.config (start Deployment.echoing.config) trace gateway ∧
        (gateway.budgets 7).outstanding = 0 ∧
        ∀ call ∈ [0, 1], gateway.channels call = .sent gatewayClosed ∧
          ∀ event ∈ trace, event.executes call = false := by
  constructor
  · obtain ⟨trace, gateway, run, returned, accepted, executed, answered, refused⟩ :=
      echoing_retires
    obtain ⟨-, -, -, retired, -, handled⟩ := closure_and_drain Deployment.echoing run
    obtain ⟨-, -, -, budgets, disposed, shut⟩ := retired returned
    have once : trace.countP (Event.accepts 0) = 1 :=
      Nat.le_antisymm (accepts_once run 0).1 (List.countP_pos_iff.mpr accepted)
    exact ⟨trace, gateway, run, executed, answered, (handled 0 executed echoed answered).1, refused,
      disposed 0 once, budgets 7, shut⟩
  · obtain ⟨front, back, waiting, rejected, gateway, earlier, step, later, disposed, replies⟩ :=
      echoing_withdraws
    have run : Run Deployment.echoing.config (start Deployment.echoing.config)
        (front ++ .reject :: back) gateway := by
      rw [List.append_cons]
      exact (earlier.tail step).trans later
    obtain ⟨-, -, -, -, withdraws, -⟩ := closure_and_drain Deployment.echoing run
    obtain ⟨-, budgets, -, withdrawn⟩ := withdraws disposed
    refine ⟨_, gateway, run, budgets 7, fun call member => ?_⟩
    rw [← replies] at member
    obtain ⟨job, waits, rfl⟩ := List.mem_map.mp member
    exact withdrawn front back waiting rejected rfl earlier step later job waits

end AiProtocol
