import Mathlib.Order.Nat
import AiProtocol.Gateway.Closure
import AiProtocol.Gateway.Expiry

/-!
# Wakeups of the scheduler

The scheduler scans the queues under their lock and then waits for a stored notification, a finished
execution or the nearest deadline.  When it parked, either all executors were taken or nothing was
left to wait for; whatever changes that afterwards notifies it.
-/

namespace AiProtocol

/-- The scheduler holds the queue lock. -/
def Section.isScan {Action : Type} : Section Action → Bool
  | .scanning | .handing _ | .drained => true
  | _ => false

/-- The clock of a scan of the scheduler. -/
def Event.scanClock {Action : Type} : Event Action → Option Nat
  | .scan _ now => some now
  | _ => none

namespace Gateway

variable {Action : Type}

/-- The clock of the latest scan of the scheduler. -/
def lastScan (trace : List (Event Action)) : Option Nat :=
  (trace.filterMap Event.scanClock).getLast?

theorem lastScan_append (trace : List (Event Action)) (event : Event Action) :
    lastScan (trace ++ [event]) = event.scanClock.or (lastScan trace) := by
  unfold lastScan
  rw [List.filterMap_append]
  cases clock : event.scanClock with
  | none => simp [clock]
  | some now => simp [clock]

/-- A section of the scheduler belongs to the scheduler. -/
def Scans (gateway : Gateway Action) : Prop :=
  gateway.lock.isScan → gateway.scheduler = .locked

theorem Scans.step {config : Config Action} {before after : Gateway Action} {event : Event Action}
    (scans : before.Scans) (step : Step config before event after) : after.Scans := by
  have elsewhere : before.scheduler ≠ .locked → before.lock.isScan → False :=
    fun other holds => other (scans holds)
  cases step with
  | perform effect => cases effect <;> exact scans
  | reap awake => exact fun holds => (elsewhere (by simp [awake]) holds).elim
  | wakeNotified _ parked | wakeJoined _ _ _ _ parked | wakeTimer _ parked =>
      exact fun holds => (elsewhere (by simp [parked]) holds).elim
  | cancel asked awaiting =>
      refine fun holds => (elsewhere ?_ holds).elim
      rcases awaiting with reaped | ⟨deadline, parked⟩
      · simp [reaped]
      · simp [parked]
  | scan => exact fun _ => rfl
  | pop later observe popped holds | spawn job holds | saturated holds =>
      exact fun _ => scans (by rw [holds]; rfl)
  | enter | exhausted | acquire | overflow | refuse | push | finish | park | reject | inspect
  | unlock => exact nofun
  | _ => exact scans

theorem scans_run {config : Config Action} {gateway : Gateway Action} {trace : List (Event Action)}
    (run : Run config (start config) trace gateway) : gateway.Scans :=
  run.invariant Scans Scans.step nofun

/-- There are never too many executions, and there is room for the job in hand. -/
def Bounded (config : Config Action) (gateway : Gateway Action) : Prop :=
  gateway.running.length ≤ config.settings.executionLimit ∧
    ∀ job, gateway.lock = .handing job →
      gateway.running.length < config.settings.executionLimit

theorem Bounded.step {config : Config Action} {before after : Gateway Action}
    {event : Event Action} (scans : before.Scans) (bounded : before.Bounded config)
    (step : Step config before event after) : after.Bounded config := by
  obtain ⟨limit, room⟩ := bounded
  cases step with
  | perform effect => cases effect <;> exact ⟨limit, room⟩
  | pop later observe popped holds idle space =>
      exact ⟨limit, fun _ _ => space⟩
  | spawn job holds =>
      refine ⟨?_, nofun⟩
      rw [List.length_append]
      exact room job holds
  | reap awake =>
      refine ⟨(List.length_filter_le _ _).trans limit, fun job holds => ?_⟩
      have locked := scans (by rw [show before.lock = .handing job from holds]; rfl)
      simp [awake] at locked
  | wakeJoined _ front back _ parked joined =>
      have fewer : (front ++ back).length ≤ before.running.length := by simp [joined]
      refine ⟨fewer.trans limit, fun job holds => ?_⟩
      have locked := scans (by rw [show before.lock = .handing job from holds]; rfl)
      simp [parked] at locked
  | complete _ _ _ _ spawned | fail _ _ _ spawned | giveBack _ _ _ _ spawned
  | send _ _ _ _ spawned | hangUp _ _ _ spawned =>
      simp only [Bounded, spawned, List.length_append, List.length_cons] at limit room ⊢
      exact ⟨limit, room⟩
  | enter | exhausted | acquire | overflow | refuse | push | scan | saturated | finish | park
  | reject | inspect | unlock => exact ⟨limit, nofun⟩
  | _ => exact ⟨limit, room⟩

theorem bounded_run {config : Config Action} {gateway : Gateway Action}
    {trace : List (Event Action)} (run : Run config (start config) trace gateway) :
    gateway.Bounded config :=
  run.invariantTrace (fun _ gateway => gateway.Bounded config) ⟨Nat.zero_le _, nofun⟩
    fun earlier bounded step => bounded.step (scans_run earlier) step

/-- All executors are taken or nothing waits. -/
def Exhausted (config : Config Action) (gateway : Gateway Action) : Prop :=
  config.settings.executionLimit ≤ gateway.running.length ∨ gateway.queues.jobs = []

private theorem exhausted_step {config : Config Action} {before after : Gateway Action}
    {event : Event Action} (scans : before.Scans)
    (exhausted : before.lock = .drained → before.Exhausted config)
    (step : Step config before event after) :
    after.lock = .drained → after.Exhausted config := by
  cases step with
  | perform effect => cases effect <;> exact exhausted
  | pop later observe popped holds idle space observes returned =>
      subst returned
      intro drained
      refine .inr (Queues.popNext_none ?_)
      revert drained
      dsimp only
      split
      · exact nofun
      · intro _
        assumption
  | saturated holds idle full => exact fun _ => .inl full
  | reap awake =>
      intro holds
      have locked := scans (by rw [show before.lock = .drained from holds]; rfl)
      simp [awake] at locked
  | wakeJoined _ front back _ parked joined =>
      intro holds
      have locked := scans (by rw [show before.lock = .drained from holds]; rfl)
      simp [parked] at locked
  | complete _ _ _ _ spawned | fail _ _ _ spawned | giveBack _ _ _ _ spawned
  | send _ _ _ _ spawned | hangUp _ _ _ spawned =>
      simp only [Exhausted, spawned, List.length_append, List.length_cons] at exhausted ⊢
      exact exhausted
  | enter | exhausted | acquire | overflow | refuse | push | scan | spawn | finish | park | reject
  | inspect | unlock => exact nofun
  | _ => exact exhausted

private theorem exhausted_run {config : Config Action} {gateway : Gateway Action}
    {trace : List (Event Action)} (run : Run config (start config) trace gateway) :
    gateway.lock = .drained → gateway.Exhausted config :=
  run.invariantTrace (fun _ gateway => gateway.lock = .drained → gateway.Exhausted config) nofun
    fun earlier exhausted step => exhausted_step (scans_run earlier) exhausted step

/-! ## Timers -/

/-- Jobs left by a scan expire after it, and so does the timer armed for them. -/
structure Fresh (trace : List (Event Action)) (gateway : Gateway Action) : Prop where
  /-- Jobs left so far. -/
  left : gateway.lock.isScan → ∃ now, lastScan trace = some now ∧
    ∀ job ∈ gateway.queues.jobs, now < job.deadline
  /-- The armed timer. -/
  armed : ∀ armed, gateway.scheduler = .parked armed → ∃ now, lastScan trace = some now ∧
    ∀ deadline, armed = some deadline → now < deadline

theorem Fresh.step {config : Config Action} {trace : List (Event Action)}
    {before after : Gateway Action} {event : Event Action} (fresh : Fresh trace before)
    (step : Step config before event after) : Fresh (trace ++ [event]) after := by
  obtain ⟨left, armed⟩ := fresh
  refine ⟨?_, ?_⟩
  · rw [lastScan_append]
    cases step with
    | perform effect => cases effect <;> exact left
    | scan closed =>
        refine fun _ => ⟨_, rfl, fun job member => ?_⟩
        rw [Queues.maintain_jobs] at member
        have survives := (List.mem_filter.mp member).2
        simp only [Queues.survives, Bool.and_eq_true, decide_eq_true_eq] at survives
        exact survives.2
    | pop later observe popped holds idle space observes returned =>
        subst returned
        intro _
        obtain ⟨now, scanned, later⟩ := left (by rw [holds]; rfl)
        exact ⟨now, scanned, fun job member =>
          later job ((Queues.popNext_mem before.queues observe).1 job member)⟩
    | saturated holds | spawn _ holds => exact fun _ => left (by rw [holds]; rfl)
    | enter | exhausted | acquire | overflow | refuse | push | finish | park | reject | inspect
    | unlock =>
        intro holds
        cases holds
    | _ => exact left
  · rw [lastScan_append]
    cases step with
    | perform effect => cases effect <;> exact armed
    | scan | reap | wakeNotified | wakeJoined | wakeTimer | finish | cancel =>
        intro armed holds
        cases holds
    | park holds =>
        rintro _ ⟨⟩
        obtain ⟨now, scanned, later⟩ := left (by rw [holds]; rfl)
        refine ⟨now, scanned, fun deadline nearest => ?_⟩
        obtain ⟨⟨job, member, rfl⟩, -⟩ := Queues.nextDeadline_eq_some.mp nearest
        exact later job member
    | _ => exact armed

private theorem fresh_run {config : Config Action} {gateway : Gateway Action}
    {trace : List (Event Action)}
    (run : Run config (start config) trace gateway) : Fresh trace gateway :=
  run.invariantTrace Fresh ⟨by simp [start, Section.isScan], by simp [start]⟩ fun _ => Fresh.step

/-! ## The parked scheduler -/

/-- A wake source of the parked scheduler is pending, or will be once a pusher notifies. -/
def Stirring (gateway : Gateway Action) : Prop :=
  gateway.notified = true ∨ (∃ execution ∈ gateway.running, execution.isFinished) ∨
    ∃ call, gateway.calls call = .pushed

/-- Nothing is left to do before the timer fires. -/
structure Settled (config : Config Action) (armed : Option Nat) (gateway : Gateway Action) :
    Prop where
  /-- There is no executor or no job. -/
  exhausted : gateway.Exhausted config
  /-- The timer precedes every deadline. -/
  covered : ∀ job ∈ gateway.queues.jobs, ∃ deadline, armed = some deadline ∧ deadline ≤ job.deadline
  /-- There is a reason not to return. -/
  work : ¬gateway.Drained

private theorem pushed_move {gateway : Gateway Action} {caller : ReplyId}
    (other : gateway.calls caller ≠ .pushed) (phase : Call Action) :
    (∃ call, gateway.calls call = .pushed) →
      ∃ call, (gateway.move caller phase).calls call = .pushed := by
  rintro ⟨call, pushed⟩
  refine ⟨call, ?_⟩
  rw [move_calls_ne, pushed]
  rintro rfl
  exact other pushed

private theorem finished_progress {front back : List (Execution Action)}
    {execution execution' : Execution Action} (unfinished : execution.isFinished = false) :
    (∃ other ∈ front ++ execution :: back, other.isFinished) →
      ∃ other ∈ front ++ execution' :: back, other.isFinished := by
  rintro ⟨other, member, finished⟩
  refine ⟨other, ?_, finished⟩
  simp only [List.mem_append, List.mem_cons] at member ⊢
  rcases member with early | rfl | late
  · exact .inl early
  · rw [unfinished] at finished
    cases finished
  · exact .inr (.inr late)

/-- Wake sources stay until the scheduler wakes. -/
theorem Stirring.step {config : Config Action} {before after : Gateway Action}
    {event : Event Action} (stirring : before.Stirring) (inside : before.Inside)
    (step : Step config before event after) {armed : Option Nat}
    (parked : after.scheduler = .parked armed) : after.Stirring := by
  have moved : ∀ caller phase, before.calls caller ≠ .pushed →
      (before.move caller phase).Stirring := fun caller phase other =>
    stirring.imp_right (Or.imp_right (pushed_move other phase))
  have entered : ∀ caller, before.lock.caller = some caller → before.calls caller ≠ .pushed := by
    intro caller holds
    rw [inside caller holds]
    exact nofun
  cases step with
  | submit caller _ _ fresh | refuseTest caller _ _ fresh | respond caller _ fresh =>
      exact moved caller _ (by simp [fresh])
  | leave caller awaiting =>
      refine moved caller _ ?_
      rcases awaiting with ⟨identity, action, submitted⟩ | waiting
      · simp [submitted]
      · simp [waiting]
  | turnAway caller _ _ submitted | enter caller _ _ _ submitted =>
      exact moved caller _ (by simp [submitted])
  | exhausted caller _ _ holds | refuse caller holds =>
      exact moved caller _ (entered caller (by rw [holds]; rfl))
  | push caller => exact .inr (.inr ⟨caller, move_calls_self _ _ _⟩)
  | notify | close => exact .inl rfl
  | receive caller _ awaiting | lose caller awaiting => exact moved caller _ (by simp [awaiting])
  | perform effect => cases effect <;> exact stirring
  | reap | scan | finish | wakeNotified | wakeJoined | wakeTimer | cancel => simp at parked
  | spawn =>
      refine stirring.imp_right (Or.imp_left ?_)
      rintro ⟨execution, member, finished⟩
      exact ⟨execution, List.mem_append_left _ member, finished⟩
  | complete front back execution _ spawned progress | fail front back execution spawned progress
  | giveBack front back execution _ spawned progress =>
      refine stirring.imp_right (Or.imp_left ?_)
      rw [spawned]
      exact finished_progress (by simp [Execution.isFinished, progress])
  | send | hangUp =>
      exact .inr (.inl ⟨_, List.mem_append_right _ List.mem_cons_self, rfl⟩)
  | _ => exact stirring

/-- What unsettles a parked scheduler wakes it. -/
theorem Settled.step {config : Config Action} {before after : Gateway Action} {event : Event Action}
    {armed : Option Nat}
    (settled : before.Settled config armed) (scans : before.Scans)
    (parked : before.scheduler = .parked armed) (alive : before.disposal = .alive)
    (kept : event ≠ .drop) (step : Step config before event after)
    (still : after.scheduler = .parked armed) : after.Stirring ∨ after.Settled config armed := by
  obtain ⟨exhausted, covered, work⟩ := settled
  have unlocked : ∀ holder : Section Action, before.lock = holder → holder.isScan → False := by
    rintro _ rfl holds
    have locked := scans holds
    simp [parked] at locked
  cases step with
  | push caller => exact .inl (.inr (.inr ⟨caller, move_calls_self _ _ _⟩))
  | notify | close => exact .inl (.inl rfl)
  | send | hangUp =>
      exact .inl (.inr (.inl ⟨_, List.mem_append_right _ List.mem_cons_self, rfl⟩))
  | drop => exact absurd rfl kept
  | reject aborting => simp [alive] at aborting
  | pop _ _ _ holds | saturated holds | spawn _ holds | finish holds | park holds =>
      exact (unlocked _ holds rfl).elim
  | reap awake | scan _ awake => simp [parked] at awake
  | enter caller identity action closed submitted free isOpen =>
      refine .inr ⟨exhausted.imp_right fun empty => ?_, fun job member => covered job ?_,
        fun drained => ?_⟩
      · rw [Queues.maintain_jobs, empty]
        rfl
      · rw [Queues.maintain_jobs] at member
        exact List.mem_of_mem_filter member
      · have closing : before.closing = true := drained.1
        rw [isOpen] at closing
        cases closing
  | complete _ _ _ _ spawned | fail _ _ _ spawned | giveBack _ _ _ _ spawned =>
      refine .inr ⟨?_, covered, fun drained => by simpa using drained.2.1⟩
      simpa [Exhausted, spawned] using exhausted
  | wakeNotified | wakeJoined | wakeTimer => simp at still
  | perform effect => cases effect <;> exact .inr ⟨exhausted, covered, work⟩
  | _ => exact .inr ⟨exhausted, covered, work⟩

private theorem settled_park {config : Config Action} {gateway : Gateway Action}
    (exhausted : gateway.Exhausted config) (work : ¬gateway.Drained) :
    Settled config gateway.queues.nextDeadline
      { gateway with lock := .free, scheduler := .parked gateway.queues.nextDeadline } := by
  refine ⟨exhausted, fun job member => ?_, work⟩
  cases nearest : gateway.queues.nextDeadline with
  | none =>
      have empty : gateway.queues.jobs = [] := Queues.nextDeadline_eq_none.mp nearest
      exact absurd member (by simp [empty])
  | some deadline => exact ⟨deadline, rfl, (Queues.nextDeadline_eq_some.mp nearest).2 job member⟩

/-- The parked scheduler of a gateway which was not dropped misses nothing. -/
theorem watchful_run {config : Config Action} {gateway : Gateway Action}
    {trace : List (Event Action)} (run : Run config (start config) trace gateway)
    (alive : .drop ∉ trace) {armed : Option Nat} (parked : gateway.scheduler = .parked armed) :
    gateway.Stirring ∨ gateway.Settled config armed := by
  revert alive parked
  refine run.invariantTrace (fun trace gateway => .drop ∉ trace →
    gateway.scheduler = .parked armed → gateway.Stirring ∨ gateway.Settled config armed)
    (by simp [start]) ?_
  intro trace before after event earlier watchful step alive parked
  have undropped : .drop ∉ trace := fun member => alive (List.mem_append_left _ member)
  have kept : event ≠ .drop := by
    rintro rfl
    exact alive (by simp)
  have undisposed : before.disposal = .alive := by
    by_contra disposed
    exact undropped (dropped_run earlier disposed).1
  by_cases already : before.scheduler = .parked armed
  · rcases watchful undropped already with stirring | settled
    · exact .inl (stirring.step (inside_run earlier) step parked)
    · exact settled.step (scans_run earlier) already undisposed kept step parked
  · cases step with
    | park holds idle work =>
        obtain rfl := Scheduler.parked.inj parked
        exact .inr (settled_park (exhausted_run earlier holds) work)
    | perform effect => cases effect <;> exact absurd parked already
    | reap | scan | finish | wakeNotified | wakeJoined | wakeTimer | cancel => simp at parked
    | _ => exact absurd parked already

/-- A wake source of the parked scheduler is pending or due. -/
def Roused (armed : Option Nat) (gateway : Gateway Action) : Prop :=
  gateway.notified = true ∨ (∃ execution ∈ gateway.running, execution.isFinished) ∨
    ∃ deadline, armed = some deadline ∧ deadline ≤ gateway.clock

private theorem roused_iff {config : Config Action} {gateway : Gateway Action} {armed : Option Nat}
    (parked : gateway.scheduler = .parked armed) :
    gateway.Roused armed ↔
      ∃ event after, Step config gateway event after ∧ after.scheduler = .awake := by
  constructor
  · rintro (notified | ⟨execution, member, finished⟩ | ⟨deadline, rfl, due⟩)
    · exact ⟨_, _, .wakeNotified gateway armed parked notified, rfl⟩
    · obtain ⟨front, back, joined⟩ := List.append_of_mem member
      have progress : execution.progress = .finished := by
        cases stage : execution.progress <;> simp [Execution.isFinished, stage] at finished ⊢
      exact ⟨_, _, .wakeJoined gateway armed front back execution parked joined progress, rfl⟩
    · exact ⟨_, _, .wakeTimer gateway deadline parked due, rfl⟩
  · rintro ⟨event, after, step, awake⟩
    have asleep : gateway.scheduler ≠ .awake := by simp [parked]
    cases step with
    | wakeNotified _ _ notified => exact .inl notified
    | wakeJoined deadline front back execution _ joined finished =>
        exact .inr (.inl ⟨execution, by simp [joined], by simp [Execution.isFinished, finished]⟩)
    | wakeTimer deadline same due =>
        rw [parked] at same
        exact .inr (.inr ⟨deadline, Scheduler.parked.inj same, due⟩)
    | perform effect => cases effect <;> exact absurd awake asleep
    | reap | scan | finish | park | cancel => simp at awake
    | _ => exact absurd awake asleep

/-- No lost wakeup and work conservation.  When the scheduler is parked and every pusher has
notified it, it is roused if there is a live job and a free executor, an expired job, or nothing
left of a closed gateway.  A scan ends with all executors taken or with empty queues, there are
never more executions than executors, and a timer is armed for the nearest deadline of the jobs left
by a scan, which lies after that scan. -/
theorem no_lost_wakeup {config : Config Action} {gateway : Gateway Action}
    {trace : List (Event Action)} (run : Run config (start config) trace gateway) :
    (∀ armed, .drop ∉ trace → gateway.scheduler = .parked armed →
      (∀ call, gateway.calls call ≠ .pushed) →
      ((∃ job ∈ gateway.queues.jobs, gateway.clock < job.deadline ∧
            gateway.calls job.reply ≠ .left) ∧
          (gateway.running.countP fun execution => !execution.isFinished) <
            config.settings.executionLimit ∨
        (∃ job ∈ gateway.queues.jobs, job.deadline ≤ gateway.clock) ∨
        gateway.closing = true ∧ gateway.queues.jobs = [] ∧
          ∀ execution ∈ gateway.running, execution.isFinished) →
      gateway.Roused armed ∧
        ∃ event after, Step config gateway event after ∧ after.scheduler = .awake) ∧
    (gateway.lock = .drained →
      config.settings.executionLimit ≤ gateway.running.length ∨ gateway.queues.jobs = []) ∧
    gateway.running.length ≤ config.settings.executionLimit ∧
    (∀ after, Step config gateway .park after → ∃ armed, after.scheduler = .parked armed ∧
      (armed = none ↔ gateway.queues.jobs = []) ∧
      ∀ deadline, armed = some deadline →
        (∃ job ∈ gateway.queues.jobs, job.deadline = deadline) ∧
          ∀ job ∈ gateway.queues.jobs, deadline ≤ job.deadline) ∧
    ∀ armed, gateway.scheduler = .parked armed → ∃ now, lastScan trace = some now ∧
      ∀ deadline, armed = some deadline → now < deadline := by
  refine ⟨?_, exhausted_run run, (bounded_run run).1, ?_, (fresh_run run).armed⟩
  · intro armed alive parked quiet work
    suffices roused : gateway.Roused armed from ⟨roused, (roused_iff parked).mp roused⟩
    rcases watchful_run run alive parked with (notified | finished | ⟨call, pushed⟩) | settled
    · exact .inl notified
    · exact .inr (.inl finished)
    · exact absurd pushed (quiet call)
    by_cases finished : ∃ execution ∈ gateway.running, execution.isFinished
    · exact .inr (.inl finished)
    rcases work with ⟨⟨job, member, -⟩, room⟩ | ⟨job, member, expired⟩ | ⟨closing, empty, joined⟩
    · have all : (gateway.running.countP fun execution => !execution.isFinished) =
          gateway.running.length := by
        refine List.countP_eq_length.mpr fun execution held => ?_
        by_contra joined
        exact finished ⟨execution, held, by simpa using joined⟩
      rcases settled.exhausted with full | empty
      · omega
      · simp [empty] at member
    · obtain ⟨deadline, same, earlier⟩ := settled.covered job member
      exact .inr (.inr ⟨deadline, same, earlier.trans expired⟩)
    · refine absurd ⟨closing, ?_, empty⟩ settled.work
      exact List.eq_nil_iff_forall_not_mem.mpr fun execution held =>
        finished ⟨execution, held, joined execution held⟩
  · rintro after ⟨⟩
    exact ⟨_, rfl, Queues.nextDeadline_eq_none, fun deadline => Queues.nextDeadline_eq_some.mp⟩

/-- A job pushed behind the back of the parked scheduler wakes it. -/
theorem no_lost_wakeup_sample :
    ∃ gateway : Gateway Unit, gateway.queues.jobs.length = 1 ∧
      gateway.scheduler = .parked none ∧ gateway.Roused none := by
  have begun : Run (.arbitrary 1) (start (.arbitrary 1)) [] _ := .refl _
  have unseen : ∀ {seen : Prop}, false = true → seen := fun seen => absurd seen Bool.false_ne_true
  have parked := (((begun.tail (.reap _ rfl)).tail
    (.scan _ (fun _ => false) rfl rfl fun _ => unseen)).tail
    (.pop _ 0 (fun _ => ⟨0, fun _ => false, fun _ => false, 0⟩) _ rfl rfl (by decide)
      ⟨le_rfl, fun _ => le_rfl, fun _ => le_rfl, fun _ => le_rfl, fun _ _ => unseen,
        fun _ _ => unseen⟩ rfl)).tail
    (.park _ rfl rfl fun drained => unseen drained.1)
  have run := ((((parked.tail
    (.submit _ 0 ⟨"reader", .agent, [], 7⟩ () rfl trivial fun test => unseen test.2)).tail
    (.enter _ 0 _ _ (fun _ => false) rfl rfl rfl fun _ => unseen)).tail
    (.acquire _ 0 _ _ _ rfl rfl rfl)).tail
    (.push _ 0 _ _ _ _ rfl rfl (by decide) rfl)).tail (.notify _ 0 rfl)
  have roused := ((no_lost_wakeup run).1 none (by simp) rfl ?_ ?_).1
  · exact ⟨_, rfl, rfl, roused⟩
  · intro call pushed
    by_cases same : call = 0
    · subst same
      have waiting : Call.waiting = Call.pushed := pushed
      cases waiting
    · simp [move, Function.update_of_ne same, start] at pushed
  · exact .inl ⟨⟨_, List.mem_append_right _ List.mem_cons_self, by decide, by rintro ⟨⟩⟩, by decide⟩

end Gateway

end AiProtocol
