import AiProtocol.Gateway.Certainty

/-!
# An idle gateway

A gateway in which nothing waits and nothing is executed takes a request in, executes it and answers
it, and is idle again.  Until the next limit change or shutdown this can be repeated at will.
-/

namespace AiProtocol

namespace Queues

variable {Action : Type}

theorem maintain_of_empty {queues : Queues Action} (empty : queues.jobs = [])
    (closed : ReplyId → Bool) (now : Nat) : queues.maintain closed now = (queues, []) := by
  obtain ⟨interactive, agents, _, _, _⟩ := queues
  obtain ⟨rfl, rfl⟩ : interactive = [] ∧ agents = [] := List.append_eq_nil_iff.mp empty
  rfl

theorem maintain_push {queues : Queues Action} (empty : queues.jobs = [])
    (clientClass : ClientClass) {job : Job Action} {closed : ReplyId → Bool} {now : Nat}
    (waits : closed job.reply = false)
    (early : now < job.deadline) :
    (queues.push clientClass job).maintain closed now = (queues.push clientClass job, []) := by
  obtain ⟨interactive, agents⟩ := List.append_eq_nil_iff.mp empty
  have late : ¬job.deadline ≤ now := Nat.not_le.mpr early
  cases clientClass <;>
    simp [maintain, push, set, get, sweep, interactive, agents, waits, late]

private theorem popNext_push {queues : Queues Action} (empty : queues.jobs = [])
    (clientClass : ClientClass)
    {job : Job Action} {observe : Nat → Observation}
    (waits : (observe 0).closed job.reply = false)
    (stays : (observe 0).closedAtPop job.reply = false) (early : (observe 0).now < job.deadline)
    (timely : (observe 0).handoff < job.deadline) :
    ∃ left : Queues Action, left.jobs = [] ∧
      (queues.push clientClass job).popNext observe =
        { queues := left, effects := [], job := some (clientClass, job) } := by
  obtain ⟨interactive, agents⟩ := List.append_eq_nil_iff.mp empty
  have late : ¬job.deadline ≤ (observe 0).handoff := Nat.not_le.mpr timely
  have maintained := maintain_push empty clientClass waits early
  have selected : (queues.push clientClass job).selectedClass = clientClass := by
    cases clientClass <;>
      simp [push, set, get, selectedClass, selectsInteractive, interactive, agents]
  have here : (queues.push clientClass job).get clientClass = [job] := by
    cases clientClass <;> simp [push, set, get, interactive, agents]
  simp only [popNext, popTurns, maintained, selected, here, stays, Bool.false_eq_true,
    ↓reduceIte, late]
  refine ⟨_, ?_, rfl⟩
  cases clientClass <;> simp [push, set, get, jobs, interactive, agents]

private theorem popNext_of_empty {queues : Queues Action} (empty : queues.jobs = [])
    (observe : Nat → Observation) : ∃ left : Queues Action, left.jobs = [] ∧
      queues.popNext observe = { queues := left, effects := [], job := none } := by
  obtain ⟨interactive, agents⟩ := List.append_eq_nil_iff.mp empty
  have none : queues.get queues.selectedClass = [] := by
    cases queues.selectedClass
    · exact agents
    · exact interactive
  refine ⟨{ queues with interactiveStreak := 0 }, empty, ?_⟩
  simp only [popNext, popTurns, maintain_of_empty empty, none]

end Queues

namespace Gateway

variable {Action : Type} {config : Config Action} {gateway : Gateway Action}

/-- Nothing waits, nothing is executed, and the scheduler is awake. -/
structure Ready (gateway : Gateway Action) : Prop where
  /-- Nobody holds the queue lock. -/
  lock : gateway.lock = .free
  /-- No section has anything left to do. -/
  todo : gateway.todo = []
  /-- Nothing waits. -/
  queues : gateway.queues.jobs = []
  /-- Nothing is executed. -/
  running : gateway.running = []
  /-- The scheduler is at the top of its loop. -/
  scheduler : gateway.scheduler = .awake

/-- One job waits, nothing is executed, and the scheduler is awake. -/
structure Waits (gateway : Gateway Action) (job : Job Action) : Prop where
  /-- Nobody holds the queue lock. -/
  lock : gateway.lock = .free
  /-- No section has anything left to do. -/
  todo : gateway.todo = []
  /-- The job waits alone. -/
  queued : ∃ (others : Queues Action) (clientClass : ClientClass), others.jobs = [] ∧
    gateway.queues = others.push clientClass job
  /-- Nothing is executed. -/
  running : gateway.running = []
  /-- The scheduler is at the top of its loop. -/
  scheduler : gateway.scheduler = .awake
  /-- Its caller waits for it. -/
  caller : gateway.calls job.reply = .waiting
  /-- It has not expired. -/
  early : gateway.clock < job.deadline

theorem Waits.move {job : Job Action} (waits : gateway.Waits job) {call : ReplyId}
    (different : job.reply ≠ call) (phase : Call Action) : (gateway.move call phase).Waits job :=
  { waits with caller := (move_calls_ne _ _ different).trans waits.caller }

theorem Waits.close {job : Job Action} (waits : gateway.Waits job) :
    Waits { gateway with closing := true, notified := true } job :=
  { waits with }

theorem ready_start (config : Config Action) : (start config).Ready :=
  ⟨rfl, rfl, rfl, rfl, rfl⟩

theorem limits_pos (config : Config Action) :
    0 < config.settings.executionLimit ∧ 0 < config.settings.queueCapacity := by
  have valid := config.settings_valid
  unfold RuntimeSettings.validate at valid
  split at valid
  · cases valid
  · omega

/-- A run in which a request is admitted. -/
structure Admits (config : Config Action) (before : Gateway Action) (identity : ClientIdentity)
    (job : Job Action) (trace : List (Event Action)) (after : Gateway Action) : Prop where
  /-- It is a run. -/
  run : Run config before trace after
  /-- The job waits. -/
  waits : after.Waits job
  /-- It was accepted. -/
  accepted : ∃ event ∈ trace, event.accepts job.reply
  /-- The other requests stay where they were. -/
  others : ∀ other ≠ job.reply, after.calls other = before.calls other
  /-- One permit was taken. -/
  budgets : after.budgets = Function.update before.budgets identity.budget
    { before.budgets identity.budget with
      outstanding := (before.budgets identity.budget).outstanding + 1 }
  /-- It owns the permit. -/
  permit : job.permit = identity.budget
  /-- Admission stays as it was. -/
  closing : after.closing = before.closing
  /-- So does the test-only rejection. -/
  rejectOnce : after.rejectOnce = before.rejectOnce

/-- A run in which a request is executed and answered. -/
structure Serves (config : Config Action) (before : Gateway Action) (call : ReplyId)
    (response : Response) (trace : List (Event Action)) (after : Gateway Action) : Prop where
  /-- It is a run. -/
  run : Run config before trace after
  /-- The gateway is idle at its end. -/
  ready : after.Ready
  /-- The request was executed. -/
  executed : ∃ event ∈ trace, event.executes call
  /-- It was answered. -/
  answered : after.calls call = .answered response
  /-- The other requests stay where they were. -/
  others : ∀ other ≠ call, after.calls other = before.calls other
  /-- Admission stays as it was. -/
  closing : after.closing = before.closing
  /-- So does the test-only rejection. -/
  rejectOnce : after.rejectOnce = before.rejectOnce

/-- An open idle gateway with room for a request admits it. -/
theorem Ready.admits (ready : gateway.Ready) (call : ReplyId) {identity : ClientIdentity}
    {action : Action} (isOpen : gateway.closing = false) (fresh : gateway.calls call = .absent)
    (decided : config.decides (.enqueue identity action)) (passed : gateway.rejectOnce = false)
    (room : (gateway.budgets identity.budget).outstanding <
      (gateway.budgets identity.budget).maximum)
    (patient : 0 < config.queueSettings.forClass identity.clientClass) :
    ∃ job trace after, job.reply = call ∧ job.action = action ∧
      Admits config gateway identity job trace after := by
  obtain ⟨lock, todo, queues, running, scheduler⟩ := ready
  have permit := Snapshot.tryAcquireObserved_eq_some.mpr ⟨room, rfl⟩
  have kept := Queues.maintain_of_empty queues (fun _ => false) gateway.clock
  have submitted : Run config gateway [_] _ := .single
    (.submit gateway call identity action fresh decided fun rejected => by simp [passed] at rejected)
  have entered := submitted.tail (.enter _ call identity action (fun _ => false)
    (move_calls_self _ _ _) lock isOpen nofun)
  -- the scan finds nothing
  let swept := gateway.queues.maintain (fun _ => false) gateway.clock
  have idle : swept.2 = [] := congrArg Prod.snd kept
  have empty : swept.1.takeOrder.2.jobs = [] :=
    (congrArg (fun swept => swept.1.jobs) kept).trans queues
  have acquired := entered.tail (.acquire _ call identity action _ rfl idle permit)
  have space : (swept.1.get identity.clientClass).length < config.settings.queueCapacity := by
    have none : swept.1.get identity.clientClass = [] := by
      obtain ⟨interactive, agents⟩ := List.append_eq_nil_iff.mp empty
      cases identity.clientClass
      · exact agents
      · exact interactive
    rw [none]
    exact (limits_pos config).2
  let job : Job Action :=
    { reply := call
      action
      permit := identity.budget
      acceptedAt := gateway.clock
      maxWait := config.queueSettings.forClass identity.clientClass
      order := swept.1.takeOrder.1 }
  have pushed := acquired.tail (.push _ call identity action _ job rfl idle space rfl)
  have waiting := pushed.tail (.notify _ call (move_calls_self _ _ _))
  refine ⟨job, _, _, rfl, rfl, waiting, ⟨rfl, idle, ⟨_, _, empty, rfl⟩, running, scheduler,
    move_calls_self _ _ _, Nat.lt_add_of_pos_right patient⟩,
    ⟨.push call identity.clientClass job, by simp, by simp [Event.accepts]⟩, ?_, rfl, rfl, rfl,
    rfl⟩
  intro other different
  have distinct : other ≠ call := different
  simp [move, distinct]

/-- The scheduler ends its turn when nothing waits. -/
theorem drained_run {before : Gateway Action} {trace : List (Event Action)}
    (run : Run config before trace gateway) (holds : gateway.lock = .scanning)
    (idle : gateway.todo = []) (empty : gateway.queues.jobs = []) :
    ∃ event left, left.jobs = [] ∧ Run config before (trace ++ [event])
      { gateway with lock := .drained, queues := left } := by
  rcases Nat.lt_or_ge gateway.running.length config.settings.executionLimit with room | full
  · let observe : Nat → Queues.Observation := fun _ =>
      ⟨gateway.clock, fun _ => false, fun _ => false, gateway.clock⟩
    obtain ⟨left, nothing, popped⟩ := Queues.popNext_of_empty empty observe
    have step := Step.pop gateway gateway.clock observe _ holds idle room
      ⟨le_rfl, fun _ => le_rfl, fun _ => le_rfl, fun _ => le_rfl, nofun, nofun⟩ popped.symm
    rw [← idle] at step
    exact ⟨_, left, nothing, run.tail step⟩
  · exact ⟨_, gateway.queues, empty, run.tail (.saturated gateway holds idle full)⟩

/-- A job which waits alone is executed and answered, also by a closed gateway.  The run is one turn
of the scheduler and the execution. -/
theorem Waits.served {job : Job Action} {response : Response} (waits : gateway.Waits job)
    (produced : config.executes job.action response) :
    ∃ trace after, Serves config gateway job.reply response trace after := by
  obtain ⟨lock, todo, ⟨others, clientClass, empty, queued⟩, running, scheduler, caller, early⟩ :=
    waits
  have reaped : Run config gateway [_] _ := .single (.reap gateway scheduler)
  have found := reaped.tail (.scan _ (fun _ => false) rfl lock nofun)
  have stays : gateway.queues.maintain (fun _ => false) gateway.clock = (gateway.queues, []) := by
    rw [queued]
    exact Queues.maintain_push empty clientClass rfl early
  let observe : Nat → Queues.Observation := fun _ =>
    ⟨gateway.clock, fun _ => false, fun _ => false, gateway.clock⟩
  obtain ⟨left, none, popped⟩ : ∃ left : Queues Action, left.jobs = [] ∧
      (gateway.queues.maintain (fun _ => false) gateway.clock).1.popNext observe =
        { queues := left, effects := [], job := some (clientClass, job) } := by
    rw [stays, queued]
    exact Queues.popNext_push empty clientClass rfl rfl early early
  have free : gateway.running.length < config.settings.executionLimit := by
    rw [running]
    exact (limits_pos config).1
  have selected := found.tail (.pop _ gateway.clock observe _ rfl (congrArg Prod.snd stays)
    ((List.length_filter_le _ _).trans_lt free)
    ⟨le_rfl, fun _ => le_rfl, fun _ => le_rfl, fun _ => le_rfl, nofun, nofun⟩ popped.symm)
  have spawned := selected.tail (.spawn _ job rfl rfl)
  obtain ⟨event, rest, nothing, drained⟩ := drained_run spawned rfl rfl none
  have parked := drained.tail (.park _ rfl rfl fun drained =>
    List.append_ne_nil_of_right_ne_nil _ (List.cons_ne_nil _ _) drained.2.1)
  have completed := parked.tail (.complete _ _ [] (.spawned job) response rfl rfl produced)
  have released := completed.tail (.giveBack _ _ [] _ _ rfl rfl)
  have sent := released.tail (.send _ _ [] _ response rfl rfl)
  have received := sent.tail (.receive _ job.reply response caller (Function.update_self _ _ _))
  have joined := received.tail (.wakeJoined _ _ _ [] _ rfl rfl rfl)
  have nobody : (gateway.running.filter fun execution => !execution.isFinished) ++ [] = [] := by
    rw [running]
    rfl
  exact ⟨_, _, joined, ⟨rfl, rfl, nothing, nobody, rfl⟩,
    ⟨.spawn job, by simp, by simp [Event.executes]⟩, move_calls_self _ _ _,
    fun other different => move_calls_ne _ _ different, rfl, rfl⟩

/-- An open idle gateway with room for a request executes and answers it. -/
theorem Ready.serves (ready : gateway.Ready) (call : ReplyId) {identity : ClientIdentity}
    {action : Action} {response : Response} (isOpen : gateway.closing = false)
    (fresh : gateway.calls call = .absent)
    (decided : config.decides (.enqueue identity action)) (passed : gateway.rejectOnce = false)
    (room : (gateway.budgets identity.budget).outstanding <
      (gateway.budgets identity.budget).maximum)
    (patient : 0 < config.queueSettings.forClass identity.clientClass)
    (produced : config.executes action response) :
    ∃ trace after, Serves config gateway call response trace after := by
  obtain ⟨job, front, middle, rfl, rfl, admits⟩ :=
    ready.admits call isOpen fresh decided passed room patient
  obtain ⟨back, after, serves⟩ := admits.waits.served produced
  obtain ⟨event, member, executes⟩ := serves.executed
  exact ⟨front ++ back, after, admits.run.trans serves.run, serves.ready,
    ⟨event, List.mem_append_right _ member, executes⟩, serves.answered,
    fun other different => (serves.others other different).trans (admits.others other different),
    serves.closing.trans admits.closing, serves.rejectOnce.trans admits.rejectOnce⟩

/-- The scheduler of a closed idle gateway returns. -/
theorem Ready.retires (ready : gateway.Ready) (closed : gateway.closing = true) :
    ∃ trace after, Run config gateway trace after ∧ after.scheduler = .returned ∧
      after.calls = gateway.calls := by
  obtain ⟨lock, todo, queues, running, scheduler⟩ := ready
  have kept := Queues.maintain_of_empty queues (fun _ => false) gateway.clock
  have reaped : Run config gateway [_] _ := .single (.reap gateway scheduler)
  have found := reaped.tail (.scan _ (fun _ => false) rfl lock nofun)
  have idle : (gateway.queues.maintain (fun _ => false) gateway.clock).2 = [] :=
    congrArg Prod.snd kept
  have empty : (gateway.queues.maintain (fun _ => false) gateway.clock).1.jobs = [] :=
    (congrArg (fun swept => swept.1.jobs) kept).trans queues
  have nobody : (gateway.running.filter fun execution => !execution.isFinished) = [] := by
    rw [running]
    rfl
  obtain ⟨event, rest, nothing, drained⟩ := drained_run found rfl idle empty
  exact ⟨_, _, drained.tail (.finish _ rfl idle ⟨closed, nobody, nothing⟩), rfl, rfl⟩

end Gateway

end AiProtocol
