import AiProtocol.Gateway.Wakeup
import AiProtocol.Library.Rest

/-!
# The gateway comes to rest

Between two requests and at a fixed time the gateway has finitely much to do, and it never stops
before it is done: when none of its own steps is possible, every request was answered and nothing is
held.  Requests, jobs and executions weigh what is still to be done for them, and every step of the
gateway loses weight.
-/

namespace AiProtocol

/-- The gateway moves by itself: no client, reader or operator does, and no time passes outside
`pop_next`. -/
def Event.internal {Action : Type} : Event Action → Bool
  | .tick _ | .resize .. | .submit .. | .respond .. | .leave _ | .inspect | .close | .drop => false
  | _ => true

/-! ## Weights -/

/-- What is still to be done for a request. -/
def Call.weight {Action : Type} : Call Action → Nat
  | .submitted _ _ => 26
  | .entered => 22
  | .pushed => 7
  | .waiting => 1
  | .absent | .answered _ | .left => 0

/-- What is still to be done in a section, with the work of another scan. -/
def Section.weight {Action : Type} (again : Nat) : Section Action → Nat
  | .handing _ => 12 + again
  | .scanning => 3 + again
  | .drained => 2 + again
  | .admitting .. => 3
  | .placing .. => 2
  | .rejecting | .inspecting => 1
  | .free | .refusing _ => 0

/-- What is still to be done before the scheduler parks again. -/
def Scheduler.weight (clock : Nat) : Scheduler → Nat
  | .awake => 5
  | .reaped => 4
  | .parked (some deadline) => if deadline ≤ clock then 6 else 1
  | .parked none => 1
  | .locked | .returned | .aborted => 0

/-- What is still to be done for an execution. -/
def Progress.weight : Progress → Nat
  | .running => 8
  | .done _ => 7
  | .released _ => 6
  | .finished => 5

/-- What is still to be done for the destructor. -/
def Disposal.weight : Disposal → Nat
  | .closed => 4
  | .aborting => 3
  | .deferred => 2
  | .alive | .cleared => 0

/-- What is still to be done for a job: a job which is not due can come due during a scan. -/
def Job.weight {Action : Type} (clock : Nat) (job : Job Action) : Nat :=
  10 + if clock < job.deadline then 6 else 0

namespace Queues

variable {Action : Type}

/-- What is still to be done for some jobs. -/
def weight (clock : Nat) (jobs : List (Job Action)) : Nat :=
  (jobs.map (Job.weight clock)).sum

/-- Another scan is to be done if a job came due. -/
def overdue (clock : Nat) (jobs : List (Job Action)) : Nat :=
  if ∃ job ∈ jobs, job.deadline ≤ clock then 5 else 0

theorem weight_perm (clock : Nat) {jobs jobs' : List (Job Action)} (same : jobs.Perm jobs') :
    weight clock jobs = weight clock jobs' :=
  (same.map _).sum_eq

@[simp] theorem weight_append (clock : Nat) (front back : List (Job Action)) :
    weight clock (front ++ back) = weight clock front + weight clock back := by
  simp [weight]

@[simp] theorem weight_cons (clock : Nat) (job : Job Action) (jobs : List (Job Action)) :
    weight clock (job :: jobs) = job.weight clock + weight clock jobs := by
  simp [weight]

theorem length_le_weight (clock : Nat) (jobs : List (Job Action)) :
    10 * jobs.length ≤ weight clock jobs := by
  induction jobs with
  | nil => simp
  | cons job jobs induction =>
      rw [weight_cons, List.length_cons, Job.weight]
      omega

theorem weight_later {clock later : Nat} (passed : clock ≤ later) (jobs : List (Job Action)) :
    weight later jobs ≤ weight clock jobs := by
  induction jobs with
  | nil => simp [weight]
  | cons job jobs induction =>
      rw [weight_cons, weight_cons, Job.weight, Job.weight]
      split <;> split <;> omega

private theorem weight_due {clock later : Nat} (passed : clock ≤ later) {jobs : List (Job Action)}
    {job : Job Action} (member : job ∈ jobs) (early : clock < job.deadline)
    (late : job.deadline ≤ later) : weight later jobs + 6 ≤ weight clock jobs := by
  obtain ⟨front, back, rfl⟩ := List.append_of_mem member
  have first := weight_later passed front
  have last := weight_later passed back
  have live : job.weight clock = 16 := by simp [Job.weight, early]
  have due : job.weight later = 10 := by simp [Job.weight, Nat.not_lt.mpr late]
  simp only [weight_append, weight_cons]
  omega

private theorem overdue_le (clock : Nat) (jobs : List (Job Action)) : overdue clock jobs ≤ 5 := by
  unfold overdue
  split <;> omega

private theorem weight_overdue {clock later : Nat} (passed : clock ≤ later)
    {fewer jobs : List (Job Action)} (subset : ∀ job ∈ fewer, job ∈ jobs) :
    weight later fewer + overdue later fewer ≤ weight clock fewer + overdue clock jobs := by
  have lighter := weight_later passed fewer
  by_cases due : ∃ job ∈ fewer, job.deadline ≤ later
  · obtain ⟨job, member, late⟩ := due
    have bound := overdue_le later fewer
    by_cases early : clock < job.deadline
    · have paid := weight_due passed member early late
      omega
    · have already : overdue clock jobs = 5 :=
        if_pos ⟨job, subset job member, Nat.not_lt.mp early⟩
      omega
  · have none : overdue later fewer = 0 := if_neg due
    omega

theorem length_performed (thrown : List (Job Action × Fate)) :
    (performed thrown).length ≤ 2 * thrown.length := by
  induction thrown with
  | nil => simp [performed]
  | cons entry thrown induction =>
      have block : (entry.2.effects entry.1).length ≤ 2 := by
        cases entry.2 <;> simp [Fate.effects, expiry]
      simp only [performed, List.flatMap_cons, List.length_append, List.length_cons] at *
      omega

theorem maintain_weight (queues : Queues Action) (closed : ReplyId → Bool) (now clock : Nat) :
    weight clock (queues.maintain closed now).1.jobs + (queues.maintain closed now).2.length ≤
      weight clock queues.jobs := by
  have thrown := length_performed (queues.scanned closed now)
  have heavy := length_le_weight clock ((queues.scanned closed now).map Prod.fst)
  rw [List.length_map] at heavy
  rw [weight_perm clock (scanned_perm queues closed now), weight_append, performed_scanned]
  omega

private theorem maintain_overdue (queues : Queues Action) (closed : ReplyId → Bool) (now : Nat) :
    overdue now (queues.maintain closed now).1.jobs = 0 := by
  apply if_neg
  rintro ⟨job, member, late⟩
  rw [maintain_jobs] at member
  have live : survives closed now job = true := (List.mem_filter.mp member).2
  simp only [survives, Bool.and_eq_true, decide_eq_true_eq] at live
  omega

private theorem popNext_weight (queues : Queues Action) (observe : Nat → Observation)
    {clock later : Nat}
    (passed : clock ≤ later) :
    weight later (queues.popNext observe).queues.jobs +
        overdue later (queues.popNext observe).queues.jobs +
        (queues.popNext observe).effects.length + 10 * (queues.popNext observe).selected.length ≤
      weight clock queues.jobs + overdue clock queues.jobs := by
  obtain ⟨last, loop⟩ := popNext_loop queues observe
  obtain ⟨thrown, account⟩ := loop.account
  have parts := weight_perm clock account.jobs
  have aged := weight_overdue passed (popNext_mem queues observe).1
  have selected := length_le_weight clock (queues.popNext observe).selected
  have heavy := length_le_weight clock (thrown.map Prod.fst)
  have short := length_performed thrown
  rw [List.length_map] at heavy
  rw [account.effects]
  simp only [weight_append] at parts
  omega

end Queues

namespace Gateway

variable {Action : Type} {config : Config Action} {before after gateway : Gateway Action}
  {event : Event Action} {trace : List (Event Action)}

/-- What is still to be done for some callers. -/
def callersWeight (callers : List ReplyId) (calls : ReplyId → Call Action) : Nat :=
  (callers.map fun call => (calls call).weight).sum

/-- What is still to be done for some executions. -/
def runningWeight (running : List (Execution Action)) : Nat :=
  (running.map fun execution => execution.progress.weight).sum

/-- What is still to be done in a gateway with these callers. -/
def weight (callers : List ReplyId) (gateway : Gateway Action) : Nat :=
  callersWeight callers gateway.calls + Queues.weight gateway.clock gateway.queues.jobs +
    gateway.lock.weight (Queues.overdue gateway.clock gateway.queues.jobs) + gateway.todo.length +
    gateway.scheduler.weight gateway.clock + 5 * gateway.notified.toNat +
    runningWeight gateway.running + gateway.disposal.weight

/-- All requests with something to be done are among the callers. -/
structure Staffed (callers : List ReplyId) (gateway : Gateway Action) : Prop where
  /-- The holder of the lock is in its section. -/
  inside : gateway.Inside
  /-- Nothing is left to do when the lock is free. -/
  idle : gateway.Idle
  /-- The scheduler holds the lock during its scans. -/
  scans : gateway.Scans
  /-- Nobody else is on the way. -/
  known : ∀ call, (gateway.calls call).weight ≠ 0 → call ∈ callers

private theorem callersWeight_update {callers : List ReplyId} {calls : ReplyId → Call Action}
    {call : ReplyId} {phase now : Call Action} (known : call ∈ callers) (here : calls call = now)
    (lighter : phase.weight ≤ now.weight) :
    callersWeight callers (Function.update calls call phase) + now.weight ≤
      callersWeight callers calls + phase.weight :=
  Labelled.load_update known here lighter

/-- Only submitted requests have something to do. -/
theorem busy_step (inside : before.Inside) (step : Step config before event after) {call : ReplyId}
    (busy : (after.calls call).weight ≠ 0) :
    (before.calls call).weight ≠ 0 ∨
      ∃ identity action, event = .submit call identity action := by
  have moved : ∀ {caller : ReplyId} {phase now : Call Action}, before.calls caller = now →
      now.weight ≠ 0 → ((before.move caller phase).calls call).weight ≠ 0 →
        (before.calls call).weight ≠ 0 := by
    rintro caller phase now rfl heavy later
    by_cases same : call = caller
    · rwa [same]
    · rwa [move_calls_ne _ _ same] at later
  have settled : ∀ {caller : ReplyId} {phase : Call Action}, phase.weight = 0 →
      ((before.move caller phase).calls call).weight ≠ 0 → (before.calls call).weight ≠ 0 := by
    intro caller phase done later
    by_cases same : call = caller
    · subst same
      rw [move_calls_self] at later
      exact absurd done later
    · rwa [move_calls_ne _ _ same] at later
  cases step with
  | submit caller identity action =>
      by_cases same : call = caller
      · exact .inr ⟨identity, action, by rw [same]⟩
      · rw [move_calls_ne _ _ same] at busy
        exact .inl busy
  | refuseTest | respond | leave | turnAway | exhausted | refuse | receive | lose =>
      exact .inl (settled rfl busy)
  | enter caller _ _ _ submitted => exact .inl (moved submitted (by simp [Call.weight]) busy)
  | push caller _ _ _ _ holds =>
      exact .inl (moved (inside caller (by rw [holds]; rfl)) (by simp [Call.weight]) busy)
  | notify caller pushed => exact .inl (moved pushed (by simp [Call.weight]) busy)
  | perform effect => exact .inl (by simpa using busy)
  | _ => exact .inl busy

theorem Staffed.step {callers : List ReplyId} (staffed : Staffed callers before)
    (step : Step config before event after) (internal : event.internal = true) :
    Staffed callers after where
  inside := staffed.inside.step step
  idle := staffed.idle.step step
  scans := staffed.scans.step step
  known call busy := by
    rcases busy_step staffed.inside step busy with earlier | ⟨identity, action, rfl⟩
    · exact staffed.known call earlier
    · cases internal

theorem runningWeight_progress {running front back : List (Execution Action)}
    {execution : Execution Action} (progress : Progress)
    (spawned : running = front ++ execution :: back)
    (lighter : progress.weight + 1 ≤ execution.progress.weight) :
    runningWeight (front ++ { execution with progress } :: back) + 1 ≤ runningWeight running := by
  subst spawned
  simp only [runningWeight, List.map_append, List.map_cons, List.sum_append, List.sum_cons]
  omega

private theorem runningWeight_filter (running : List (Execution Action))
    (keeps : Execution Action → Bool) :
    runningWeight (running.filter keeps) ≤ runningWeight running := by
  induction running with
  | nil => simp
  | cons execution running induction =>
      simp only [runningWeight, List.filter_cons] at induction ⊢
      split <;> simp only [List.map_cons, List.sum_cons] <;> omega

private theorem weight_park (clock : Nat) (queues : Queues Action) :
    Scheduler.weight clock (.parked queues.nextDeadline) ≤
      1 + Queues.overdue clock queues.jobs := by
  cases nearest : queues.nextDeadline with
  | none => simp [Scheduler.weight]
  | some deadline =>
      obtain ⟨job, member, rfl⟩ := (Queues.nextDeadline_eq_some.mp nearest).1
      simp only [Scheduler.weight]
      split
      · rename_i due
        rw [Queues.overdue, if_pos ⟨job, member, due⟩]
      · omega

theorem weight_parked (clock : Nat) (armed : Option Nat) :
    1 ≤ Scheduler.weight clock (.parked armed) := by
  cases armed with
  | none => exact le_rfl
  | some deadline =>
      simp only [Scheduler.weight]
      split <;> omega

/-- Every step of the gateway loses weight. -/
theorem weight_step {callers : List ReplyId} (staffed : Staffed callers before)
    (step : Step config before event after) (internal : event.internal = true) :
    after.weight callers + 1 ≤ before.weight callers := by
  have entered : ∀ call, before.lock.caller = some call → before.calls call = .entered :=
    staffed.inside
  have moved : ∀ (phase : Call Action) {call : ReplyId} {now : Call Action},
      before.calls call = now → now.weight ≠ 0 → phase.weight ≤ now.weight →
        callersWeight callers (Function.update before.calls call phase) + now.weight ≤
          callersWeight callers before.calls + phase.weight := by
    rintro phase call now rfl busy lighter
    exact callersWeight_update (staffed.known call busy) rfl lighter
  cases step with
  | tick | resize | submit | refuseTest | respond | leave | inspect | close | drop => cases internal
  | turnAway call identity action submitted free =>
      have paid : _ + 26 ≤ _ + 0 := moved (.answered gatewayClosed) submitted
        (by simp [Call.weight]) (Nat.zero_le _)
      simp only [weight, move]
      omega
  | enter call identity action closed submitted free =>
      have paid : _ + 26 ≤ _ + 22 := moved .entered submitted (by simp [Call.weight])
        (by simp [Call.weight])
      have scanned := Queues.maintain_weight before.queues closed before.clock before.clock
      simp only [weight, move, free, staffed.idle free, Section.weight, List.length_nil]
      omega
  | perform effect rest next =>
      cases effect <;> simp only [weight, perform, next, List.length_cons] <;> omega
  | exhausted call identity action holds =>
      have paid : _ + 22 ≤ _ + 0 := moved (.answered (overloaded "budget_exhausted" "1"))
        (entered call (by rw [holds]; rfl)) (by simp [Call.weight]) (Nat.zero_le _)
      simp only [weight, move, holds, Section.weight]
      omega
  | acquire call identity action observed holds =>
      simp only [weight, holds, Section.weight]
      omega
  | overflow call identity action observed holds idle =>
      simp only [weight, holds, idle, Section.weight, List.length_cons, List.length_nil,
        Queues.takeOrder, Queues.jobs]
      omega
  | refuse call holds =>
      have paid : _ + 22 ≤ _ + 0 := moved (.answered (overloaded "queue_full" "1"))
        (entered call (by rw [holds]; rfl)) (by simp [Call.weight]) (Nat.zero_le _)
      simp only [weight, move, holds, Section.weight]
      omega
  | push call identity action observed job holds =>
      have paid : _ + 22 ≤ _ + 7 := moved .pushed (entered call (by rw [holds]; rfl))
        (by simp [Call.weight]) (by simp [Call.weight])
      have added := Queues.weight_perm before.clock
        (Custody.jobs_push before.queues identity.clientClass job)
      have heavy : job.weight before.clock ≤ 16 := by
        rw [Job.weight]
        split <;> omega
      rw [Queues.weight_cons] at added
      simp only [weight, move, holds, Section.weight, added]
      omega
  | notify call pushed =>
      have paid : _ + 7 ≤ _ + 1 := moved .waiting pushed (by simp [Call.weight])
        (by simp [Call.weight])
      simp only [weight, move, Bool.toNat_true]
      omega
  | receive call response awaiting =>
      have paid : _ + 1 ≤ _ + 0 := moved (.answered response) awaiting (by simp [Call.weight])
        (Nat.zero_le _)
      simp only [weight, move]
      omega
  | lose call awaiting =>
      have paid : _ + 1 ≤ _ + 0 := moved (.answered internalError) awaiting (by simp [Call.weight])
        (Nat.zero_le _)
      simp only [weight, move]
      omega
  | reap awake =>
      have fewer := runningWeight_filter before.running fun execution => !execution.isFinished
      simp only [weight, awake, Scheduler.weight]
      omega
  | scan closed reaped free =>
      have scanned := Queues.maintain_weight before.queues closed before.clock before.clock
      have timely := Queues.maintain_overdue before.queues closed before.clock
      simp only [weight, reaped, free, staffed.idle free, timely, Section.weight, Scheduler.weight,
        List.length_nil]
      omega
  | pop later observe popped holds idle room observes returned =>
      subst returned
      have passed : before.clock ≤ later := observes.start.trans
        ((observes.handoff 0).trans (observes.finish 0))
      have paid := Queues.popNext_weight before.queues observe passed
      have locked : before.scheduler = .locked := staffed.scans (by rw [holds]; rfl)
      simp only [weight, holds, idle, locked, Section.weight, Scheduler.weight, List.length_nil]
      cases selected : (before.queues.popNext observe).job <;>
        simp only [Queues.Popped.selected, selected, Option.toList_none, Option.toList_some,
          List.map_nil, List.map_cons, List.length_nil, List.length_cons] at paid ⊢ <;>
        omega
  | saturated holds =>
      simp only [weight, holds, Section.weight]
      omega
  | spawn job holds =>
      simp only [weight, holds, Section.weight, runningWeight, Execution.spawned, List.map_append,
        List.map_cons, List.map_nil, List.sum_append, List.sum_cons, List.sum_nil, Progress.weight]
      omega
  | finish holds =>
      simp only [weight, holds, Section.weight, Scheduler.weight]
      omega
  | park holds =>
      have timer := weight_park before.clock before.queues
      simp only [weight, holds, Section.weight]
      omega
  | wakeNotified armed parked notified =>
      have rested := weight_parked before.clock armed
      simp only [weight, parked, notified, Bool.toNat_true, Bool.toNat_false,
        Scheduler.weight] at rested ⊢
      omega
  | wakeJoined armed front back execution parked joined finished =>
      have rested := weight_parked before.clock armed
      have awake : Scheduler.weight before.clock .awake = 5 := rfl
      simp only [weight, parked, awake, joined, runningWeight, List.map_append, List.map_cons,
        List.sum_append, List.sum_cons, finished, Progress.weight]
      omega
  | wakeTimer deadline parked due =>
      simp only [weight, parked, Scheduler.weight, due, if_true]
      omega
  | complete front back execution response spawned progress =>
      have paid := runningWeight_progress (.done (some response)) spawned
        (by simp [progress, Progress.weight])
      simp only [weight]
      omega
  | fail front back execution spawned progress =>
      have paid := runningWeight_progress (.done none) spawned
        (by simp [progress, Progress.weight])
      simp only [weight]
      omega
  | giveBack front back execution response spawned progress =>
      have paid := runningWeight_progress (.released response) spawned
        (by simp [progress, Progress.weight])
      simp only [weight]
      omega
  | send front back execution response spawned progress
  | hangUp front back execution spawned progress =>
      have paid := runningWeight_progress .finished spawned
        (by simp [progress, Progress.weight])
      simp only [weight]
      omega
  | abort closed =>
      simp only [weight, closed, Disposal.weight]
      omega
  | reject aborting free =>
      have rejected : before.queues.rejectPending.2.length = 2 * before.queues.jobs.length := by
        simp [Queues.rejectPending, Queues.rejection, Queues.jobs, List.length_flatMap]
        omega
      have heavy := Queues.length_le_weight before.clock before.queues.jobs
      have empty : Queues.weight before.clock before.queues.rejectPending.1.jobs = 0 := rfl
      have disposed : 2 ≤ before.disposal.weight := by
        rcases aborting with same | same <;> simp [same, Disposal.weight]
      have cleared : Disposal.weight .cleared = 0 := rfl
      simp only [weight, free, staffed.idle free, rejected, empty, cleared, Section.weight,
        List.length_nil]
      omega
  | defer aborting =>
      simp only [weight, aborting, Disposal.weight]
      omega
  | cancel asked awaiting =>
      have resting : 1 ≤ before.scheduler.weight before.clock := by
        rcases awaiting with reaped | ⟨armed, parked⟩
        · simp [reaped, Scheduler.weight]
        · rw [parked]
          exact weight_parked _ _
      have gone : Scheduler.weight before.clock .aborted = 0 := rfl
      simp only [weight, gone]
      omega
  | unlock holds =>
      rcases holds with holds | holds <;> simp only [weight, holds, Section.weight] <;> omega

/-! ## Who is left -/

/-- Requests in their locked phase hold the lock. -/
def Holds (gateway : Gateway Action) : Prop :=
  ∀ call, gateway.calls call = .entered → gateway.lock.caller = some call

theorem Holds.move {gateway : Gateway Action} (holds : gateway.Holds) (caller : ReplyId)
    {phase : Call Action} (outside : phase ≠ .entered) :
    ∀ call, (gateway.move caller phase).calls call = .entered →
      gateway.lock.caller = some call := by
  intro call entered
  rcases calls_of_move entered with earlier | ⟨-, same⟩
  · exact holds call earlier
  · exact absurd same outside

/-- Leaving the locked phase leaves nobody inside. -/
theorem Holds.leave {gateway : Gateway Action} (holds : gateway.Holds) {caller : ReplyId}
    (own : gateway.lock.caller = some caller) (phase : Call Action) (outside : phase ≠ .entered) :
    ∀ call, (gateway.move caller phase).calls call ≠ .entered := by
  intro call entered
  rcases calls_of_move entered with earlier | ⟨-, same⟩
  · obtain rfl : caller = call := Option.some.inj (own.symm.trans (holds call earlier))
    rw [move_calls_self] at entered
    exact outside entered
  · exact outside same

theorem Holds.step (holds : before.Holds) (step : Step config before event after) :
    after.Holds := by
  have vacant : ∀ {holder : Section Action}, before.lock = holder → holder.caller = none →
      ∀ call, before.calls call ≠ .entered := by
    rintro _ rfl none call entered
    rw [holds call entered] at none
    cases none
  cases step with
  | submit caller | refuseTest caller | respond caller | leave caller | turnAway caller
  | notify caller | receive caller | lose caller => exact holds.move caller nofun
  | enter caller identity action closed submitted free =>
      intro call entered
      rcases calls_of_move entered with earlier | ⟨rfl, -⟩
      · exact absurd earlier (vacant free rfl call)
      · rfl
  | perform effect =>
      intro call entered
      change (before.perform effect).lock.caller = some call
      rw [perform_lock]
      exact holds call (by simpa using entered)
  | exhausted caller _ _ own | refuse caller own =>
      exact fun call entered =>
        absurd entered (holds.leave (by rw [own]; rfl) (.answered _) nofun call)
  | push caller _ _ _ _ own =>
      exact fun call entered =>
        absurd entered (holds.leave (by rw [own]; rfl) .pushed nofun call)
  | acquire caller identity action observed own =>
      exact fun call entered => (congrArg Section.caller own).symm.trans (holds call entered)
  | overflow caller identity action observed own =>
      exact fun call entered => (congrArg Section.caller own).symm.trans (holds call entered)
  | scan _ _ free | reject _ free | inspect free =>
      exact fun call entered => absurd entered (vacant free rfl call)
  | pop _ _ _ own | saturated own | spawn _ own | finish own | park own =>
      exact fun call entered => absurd entered (vacant own rfl call)
  | unlock own =>
      rcases own with own | own <;>
        exact fun call entered => absurd entered (vacant own rfl call)
  | _ => exact holds

private theorem holds_run (run : Run config (start config) trace gateway) : gateway.Holds :=
  run.invariant Holds Holds.step nofun

/-- A locked scheduler is in its section. -/
theorem locked_run (run : Run config (start config) trace gateway)
    (locked : gateway.scheduler = .locked) : gateway.lock.isScan = true := by
  revert locked
  refine run.invariant (fun gateway => gateway.scheduler = .locked →
    gateway.lock.isScan = true) ?_ nofun
  intro before after event scans step locked
  have occupied : ∀ {holder : Section Action}, before.lock = holder → holder.isScan = false →
      before.scheduler ≠ .locked := by
    rintro _ rfl other already
    rw [scans already] at other
    cases other
  cases step with
  | enter _ _ _ _ _ free | reject _ free | inspect free => exact absurd locked (occupied free rfl)
  | exhausted _ _ _ own | acquire _ _ _ _ own | overflow _ _ _ _ own | refuse _ own
  | push _ _ _ _ _ own => exact absurd locked (occupied own rfl)
  | unlock own =>
      rcases own with own | own <;> exact absurd locked (occupied own rfl)
  | perform effect =>
      change (before.perform effect).lock.isScan = true
      rw [perform_lock]
      cases effect <;> exact scans locked
  | pop => dsimp only; split <;> rfl
  | scan | saturated | spawn => rfl
  | reap | finish | park | wakeNotified | wakeJoined | wakeTimer | cancel => cases locked
  | _ => exact scans locked

private theorem alive_run (run : Run config (start config) trace gateway)
    (alive : gateway.disposal = .alive) : .drop ∉ trace := by
  revert alive
  refine run.invariantTrace (fun trace gateway => gateway.disposal = .alive → .drop ∉ trace)
    nofun ?_
  intro trace before after event _ kept step alive
  rw [List.mem_append, List.mem_singleton, not_or]
  cases step with
  | drop | abort | reject | defer => cases alive
  | perform effect => cases effect <;> exact ⟨kept alive, nofun⟩
  | _ => exact ⟨kept alive, nofun⟩

private theorem aborted_run (run : Run config (start config) trace gateway)
    (aborted : gateway.scheduler = .aborted) : gateway.disposal ≠ .alive := by
  revert aborted
  refine run.invariant (fun gateway => gateway.scheduler = .aborted →
    gateway.disposal ≠ .alive) ?_ nofun
  intro before after event kept step aborted
  cases step with
  | cancel asked => exact asked.1
  | drop | abort | reject | defer => exact nofun
  | perform effect => cases effect <;> exact kept aborted
  | reap | scan | finish | park | wakeNotified | wakeJoined | wakeTimer => cases aborted
  | _ => exact kept aborted

private theorem executionLimit_pos (config : Config Action) :
    0 < config.settings.executionLimit := by
  have valid := config.settings_valid
  unfold RuntimeSettings.validate at valid
  split at valid
  · cases valid
  · rename_i bounds
    omega

/-- The sender of a request which waits for its reply is somewhere. -/
def Attended (gateway : Gateway Action) : Prop :=
  ∀ call, gateway.calls call = .pushed ∨ gateway.calls call = .waiting →
    gateway.channels call = .unset → call ∈ (senders Action).held gateway

/-- Settling one result channel leaves the senders of the unsettled ones. -/
theorem Attended.settle (attended : before.Attended) {reply call : ReplyId} {channel : Channel}
    (phase : before.calls call = .pushed ∨ before.calls call = .waiting)
    (unset : Function.update before.channels reply channel call = .unset)
    (told : channel ≠ .unset) :
    List.count call [reply] = 0 ∧ call ∈ (senders Action).held before := by
  have other : call ≠ reply := by
    rintro rfl
    rw [Function.update_self] at unset
    exact told unset
  rw [Function.update_of_ne other] at unset
  exact ⟨List.count_singleton.trans (if_neg (by simpa using other.symm)),
    attended call phase unset⟩

theorem Attended.step (attended : before.Attended) (idle : before.Idle)
    (step : Step config before event after) : after.Attended := by
  intro call phase unset
  have moves := Ledger.moves_iff_count.mp (senders_step idle step) call
  suffices kept : event.senderMovement.redeemed.count call = 0 ∧
      (0 < event.senderMovement.issued.count call ∨ call ∈ (senders Action).held before) by
    apply List.count_pos_iff.mp
    rcases kept with ⟨none, issued | held⟩
    · omega
    · have earlier := List.count_pos_iff.mpr held
      omega
  have moved : ∀ {caller : ReplyId} (now : Call Action), now ≠ .pushed → now ≠ .waiting →
      ((before.move caller now).calls call = .pushed ∨
          (before.move caller now).calls call = .waiting) →
        before.channels call = .unset → call ∈ (senders Action).held before := by
    intro caller now unpushed unwaiting phase unset
    apply attended call ?_ unset
    rcases phase with pushed | waiting
    · rcases calls_of_move pushed with earlier | ⟨-, same⟩
      · exact .inl earlier
      · exact absurd same unpushed
    · rcases calls_of_move waiting with earlier | ⟨-, same⟩
      · exact .inr earlier
      · exact absurd same unwaiting
  cases step with
  | submit => exact ⟨rfl, .inr (moved (.submitted _ _) (by simp) (by simp) phase unset)⟩
  | refuseTest | respond | turnAway | exhausted | refuse | receive | lose =>
      exact ⟨rfl, .inr (moved (.answered _) (by simp) (by simp) phase unset)⟩
  | leave => exact ⟨rfl, .inr (moved .left (by simp) (by simp) phase unset)⟩
  | enter => exact ⟨rfl, .inr (moved .entered (by simp) (by simp) phase unset)⟩
  | push caller identity action observed job holds _ _ accepted =>
      refine ⟨rfl, ?_⟩
      by_cases same : call = caller
      · subst same
        exact .inl (by simp [Event.senderMovement, accepted])
      · have earlier : before.calls call = .pushed ∨ before.calls call = .waiting :=
          phase.imp (Eq.trans (move_calls_ne before .pushed same).symm)
            (Eq.trans (move_calls_ne before .pushed same).symm)
        exact .inr (attended call earlier unset)
  | notify caller pushed =>
      refine ⟨rfl, .inr (attended call ?_ unset)⟩
      by_cases same : call = caller
      · exact .inl (same ▸ pushed)
      · exact phase.imp (Eq.trans (move_calls_ne before .waiting same).symm)
          (Eq.trans (move_calls_ne before .waiting same).symm)
  | perform effect =>
      cases effect with
      | release => exact ⟨rfl, .inr (attended call phase unset)⟩
      | discard reply permit | answer reply response =>
          exact (attended.settle phase unset (by simp)).imp_right .inr
  | send | hangUp => exact (attended.settle phase unset (by simp)).imp_right .inr
  | _ => exact ⟨rfl, .inr (attended call phase unset)⟩

theorem attended_run (run : Run config (start config) trace gateway) : gateway.Attended :=
  run.invariantTrace (fun _ gateway => gateway.Attended) (by rintro call (_ | _) <;> contradiction)
    fun earlier attended step => attended.step (idle_run earlier) step

/-! ## Rest -/

/-- A gateway with nothing left to do. -/
structure Resting (gateway : Gateway Action) : Prop where
  /-- Nobody holds the lock. -/
  lock : gateway.lock = .free
  /-- Nothing waits. -/
  queues : gateway.queues.jobs = []
  /-- Nothing is executed. -/
  running : ∀ execution ∈ gateway.running, execution.isFinished
  /-- Every permit was given back. -/
  permits : ∀ budget, (gateway.budgets budget).outstanding = 0
  /-- Nobody waits for a response. -/
  calls : ∀ call, gateway.calls call = .absent ∨ gateway.calls call = .left ∨
    ∃ response, gateway.calls call = .answered response

/-- None of the steps of the gateway is possible. -/
def Stuck (config : Config Action) (gateway : Gateway Action) : Prop :=
  ∀ event after, Step config gateway event after → ¬event.internal = true

/-- Nobody gets stuck in a section. -/
theorem Stuck.lock (stuck : gateway.Stuck config) :
    gateway.lock = .free ∧ gateway.todo = [] := by
  have performed : gateway.todo = [] := by
    cases left : gateway.todo with
    | nil => rfl
    | cons effect rest => exact absurd rfl (stuck _ _ (.perform gateway effect rest left))
  refine ⟨?_, performed⟩
  cases holds : gateway.lock with
  | free => rfl
  | admitting call identity action =>
      cases room : (gateway.budgets identity.budget).tryAcquireObserved with
      | none => exact absurd rfl (stuck _ _ (.exhausted gateway call _ _ holds performed room))
      | some observed =>
          exact absurd rfl (stuck _ _ (.acquire gateway call _ _ observed holds performed room))
  | placing call identity action observed =>
      by_cases room : (gateway.queues.get identity.clientClass).length <
          config.settings.queueCapacity
      · exact absurd rfl (stuck _ _ (.push gateway call _ _ _ _ holds performed room rfl))
      · exact absurd rfl (stuck _ _
          (.overflow gateway call _ _ _ holds performed (Nat.not_lt.mp room)))
  | refusing call => exact absurd rfl (stuck _ _ (.refuse gateway call holds performed))
  | scanning =>
      by_cases room : gateway.running.length < config.settings.executionLimit
      · let observe : Nat → Queues.Observation := fun _ =>
          { now := gateway.clock, closed := fun _ => false, closedAtPop := fun _ => false
            handoff := gateway.clock }
        have observes : gateway.Observes gateway.clock observe :=
          ⟨le_rfl, fun _ => le_rfl, fun _ => le_rfl, fun _ => le_rfl, fun _ _ => nofun,
            fun _ _ => nofun⟩
        exact absurd rfl (stuck _ _ (.pop gateway _ observe _ holds performed room observes rfl))
      · exact absurd rfl (stuck _ _ (.saturated gateway holds performed (Nat.not_lt.mp room)))
  | handing job => exact absurd rfl (stuck _ _ (.spawn gateway job holds performed))
  | drained =>
      by_cases drained : gateway.Drained
      · exact absurd rfl (stuck _ _ (.finish gateway holds performed drained))
      · exact absurd rfl (stuck _ _ (.park gateway holds performed drained))
  | rejecting => exact absurd rfl (stuck _ _ (.unlock gateway (.inl holds) performed))
  | inspecting => exact absurd rfl (stuck _ _ (.unlock gateway (.inr holds) performed))

/-- Nor in its execution. -/
theorem Stuck.running (stuck : gateway.Stuck config) :
    ∀ execution ∈ gateway.running, execution.isFinished := by
  intro execution member
  obtain ⟨front, back, spawned⟩ := List.append_of_mem member
  cases progress : execution.progress with
  | running =>
      exact absurd rfl (stuck _ _ (.fail gateway front back execution spawned progress))
  | done response =>
      exact absurd rfl (stuck _ _ (.giveBack gateway front back execution _ spawned progress))
  | released response =>
      cases response with
      | none => exact absurd rfl (stuck _ _ (.hangUp gateway front back execution spawned progress))
      | some response =>
          exact absurd rfl
            (stuck _ _ (.send gateway front back execution response spawned progress))
  | finished => simp [Execution.isFinished, progress]

/-- A parked scheduler which cannot wake has nothing left. -/
theorem Stuck.parked (stuck : gateway.Stuck config)
    (run : Run config (start config) trace gateway) (alive : .drop ∉ trace) {armed : Option Nat}
    (parked : gateway.scheduler = .parked armed) : gateway.queues.jobs = [] := by
  have joined : gateway.running = [] := by
    cases running : gateway.running with
    | nil => rfl
    | cons execution back =>
        have finished := stuck.running execution (by simp [running])
        have progress : execution.progress = .finished := by
          cases stage : execution.progress <;> simp [Execution.isFinished, stage] at finished ⊢
        exact absurd rfl
          (stuck _ _ (.wakeJoined gateway armed [] back execution parked running progress))
  rcases watchful_run run alive parked with
    (notified | ⟨execution, member, -⟩ | ⟨call, pushed⟩) | settled
  · exact absurd rfl (stuck _ _ (.wakeNotified gateway armed parked notified))
  · rw [joined] at member
    cases member
  · exact absurd rfl (stuck _ _ (.notify gateway call pushed))
  · rcases settled.exhausted with full | empty
    · have room := executionLimit_pos config
      rw [joined, List.length_nil] at full
      omega
    · exact empty

/-- A scheduler which cannot go on left no job behind. -/
theorem Stuck.queues (stuck : gateway.Stuck config)
    (run : Run config (start config) trace gateway) : gateway.queues.jobs = [] := by
  obtain ⟨free, performed⟩ := stuck.lock
  cases disposal : gateway.disposal with
  | closed => exact absurd rfl (stuck _ _ (.abort gateway disposal))
  | aborting => exact absurd rfl (stuck _ _ (.reject gateway (.inl disposal) free))
  | deferred => exact absurd rfl (stuck _ _ (.reject gateway (.inr disposal) free))
  | cleared => exact ((emptied_run run).cleared disposal).2.2
  | alive =>
      cases scheduler : gateway.scheduler with
      | awake => exact absurd rfl (stuck _ _ (.reap gateway scheduler))
      | reaped =>
          exact absurd rfl
            (stuck _ _ (.scan gateway (fun _ => false) scheduler free fun _ => nofun))
      | locked =>
          have scanning := locked_run run scheduler
          rw [free] at scanning
          cases scanning
      | returned => exact (retired_run run scheduler).queues
      | aborted => exact absurd disposal (aborted_run run scheduler)
      | parked armed => exact stuck.parked run (alive_run run disposal) scheduler

/-- Nobody is left waiting for a response. -/
theorem Stuck.calls (stuck : gateway.Stuck config)
    (run : Run config (start config) trace gateway) (call : ReplyId) :
    gateway.calls call = .absent ∨ gateway.calls call = .left ∨
      ∃ response, gateway.calls call = .answered response := by
  obtain ⟨free, performed⟩ := stuck.lock
  cases phase : gateway.calls call with
  | absent => exact .inl rfl
  | left => exact .inr (.inl rfl)
  | answered response => exact .inr (.inr ⟨response, rfl⟩)
  | submitted identity action =>
      cases closing : gateway.closing with
      | true => exact absurd rfl (stuck _ _ (.turnAway gateway call _ _ phase free closing))
      | false =>
          exact absurd rfl
            (stuck _ _ (.enter gateway call _ _ (fun _ => false) phase free closing fun _ => nofun))
  | entered =>
      have holder := holds_run run call phase
      rw [free] at holder
      cases holder
  | pushed => exact absurd rfl (stuck _ _ (.notify gateway call phase))
  | waiting =>
      cases channel : gateway.channels call with
      | sent response => exact absurd rfl (stuck _ _ (.receive gateway call response phase channel))
      | dropped => exact absurd rfl (stuck _ _ (.lose gateway call phase channel))
      | unset =>
          -- the sender would wait, be in hand or execute
          have held := attended_run run call (.inr phase) channel
          rw [Custody.held, Custody.inHand_of_free _ (idle_run run) free, Custody.queued,
            stuck.queues run, Custody.executing, List.map_nil, List.nil_append,
            List.append_nil] at held
          obtain ⟨execution, member, sender⟩ := List.mem_filterMap.mp held
          rw [(senders Action).finished execution (stuck.running execution member)] at sender
          cases sender

/-- A gateway which cannot go on by itself is done. -/
theorem Stuck.resting (stuck : gateway.Stuck config)
    (run : Run config (start config) trace gateway) : gateway.Resting where
  lock := stuck.lock.1
  queues := stuck.queues run
  running := stuck.running
  permits := outstanding_of_idle run (stuck.queues run) stuck.running
    (Custody.inHand_of_free _ (idle_run run) stuck.lock.1)
  calls := stuck.calls run

/-- The requests which were submitted. -/
def submittedCalls (trace : List (Event Action)) : List ReplyId :=
  trace.filterMap fun event =>
    match event with
    | .submit call _ _ => some call
    | _ => none

theorem staffed_run (run : Run config (start config) trace gateway) :
    Staffed (submittedCalls trace) gateway where
  inside := inside_run run
  idle := idle_run run
  scans := scans_run run
  known := by
    refine run.invariantTrace (fun trace gateway => ∀ call, (gateway.calls call).weight ≠ 0 →
      call ∈ submittedCalls trace) (fun call busy => absurd rfl busy) ?_
    intro trace before after event earlier known step call busy
    rw [submittedCalls, List.filterMap_append]
    rcases busy_step (inside_run earlier) step busy with already | ⟨identity, action, rfl⟩
    · exact List.mem_append_left _ (known call already)
    · exact List.mem_append_right _ (List.mem_singleton.mpr rfl)

/-- The gateway always comes to rest.  In every state it can reach, the steps it can take by itself
are bounded in number; when none of them is possible, nothing waits or is executed, every permit was
given back, and every request which did not leave was answered; and some of them lead there. -/
theorem comes_to_rest (run : Run config (start config) trace gateway) :
    (∃ bound, ∀ more later, Run config gateway more later → (∀ event ∈ more, event.internal) →
      more.length ≤ bound) ∧
    (gateway.Stuck config → gateway.Resting) ∧
    ∃ more later, Run config gateway more later ∧ (∀ event ∈ more, event.internal) ∧
      later.Resting := by
  have staffed := staffed_run run
  obtain ⟨bound, more, later, continued, internal, stuck⟩ :=
    Labelled.Execution.rests (Staffed (submittedCalls trace))
      (fun event : Event Action => event.internal) (weight (submittedCalls trace))
      (fun alive allowed step => ⟨alive.step step allowed, weight_step alive step allowed⟩) staffed
  exact ⟨⟨_, bound⟩, fun stuck => stuck.resting run,
    more, later, continued, internal, Stuck.resting stuck (run.trans continued)⟩

/-- A request which was just accepted is answered without any further event. -/
theorem comes_to_rest_sample :
    ∃ gateway : Gateway Unit, gateway.calls 0 = .waiting ∧
      ∃ more later, Run (.arbitrary 1) gateway more later ∧ (∀ event ∈ more, event.internal) ∧
        later.Resting := by
  have begun : Run (.arbitrary 1) (start (.arbitrary 1)) [] _ := .refl _
  have run := ((((begun.tail (.submit _ 0 ⟨"reader", .agent, [], 7⟩ () rfl trivial nofun)).tail
    (.enter _ 0 _ _ (fun _ => false) rfl rfl rfl fun _ => nofun)).tail
    (.acquire _ 0 _ _ _ rfl rfl rfl)).tail
    (.push _ 0 _ _ _ _ rfl rfl (by decide) rfl)).tail (.notify _ 0 rfl)
  exact ⟨_, rfl, (comes_to_rest run).2.2⟩

end Gateway

end AiProtocol
