import AiProtocol.Library.Ledger
import AiProtocol.Gateway.QueueRun
import AiProtocol.Gateway.Machine

/-!
# Custody

An accepted operation passes from a queue through the hands of the lock holder to an execution.  A
custody reads something off the operation wherever it is (its permit, say, or its sender); what is
read off the whole gateway then changes only when an operation is accepted, handed over or let go.
-/

namespace AiProtocol

/-- The change of the queues made by a step. -/
def Event.queueEvents {Action : Type} : Event Action → List (QueueEvent Action)
  | .enter _ closed now => [.scan closed now]
  | .scan closed now => [.scan closed now]
  | .overflow _ => [.refuse]
  | .push _ clientClass job => [.accept clientClass job]
  | .pop observe popped => [.pop observe popped]
  | .reject => [.reject]
  | _ => []

theorem Step.queueRun {Action : Type} {config : Config Action} {before after : Gateway Action}
    {event : Event Action} (step : Step config before event after) :
    QueueRun before.queues event.queueEvents after.queues := by
  cases step with
  | enter => exact .single (.scan _ _ _)
  | scan => exact .single (.scan _ _ _)
  | overflow => exact .single (.refuse _)
  | push _ _ _ _ job _ _ _ accepted => exact .single (.accept _ _ job (by rw [accepted]))
  | pop later observe popped _ _ _ _ returned =>
      subst returned
      exact .single (.pop _ observe)
  | reject => exact .single (.reject _)
  | perform effect rest next => cases effect <;> exact .refl _
  | _ => exact .refl _

theorem Run.queueRun {Action : Type} {config : Config Action} {before after : Gateway Action}
    {trace : List (Event Action)} (run : Run config before trace after) :
    QueueRun before.queues (trace.flatMap Event.queueEvents) after.queues :=
  run.simulate Gateway.queues Event.queueEvents fun _ step => step.queueRun

/-- Something read off an operation in a queue, among the actions of a section and in execution. -/
structure Custody (Action Ticket : Type) extends Queues.Reading Action Ticket where
  /-- The ticket of an execution. -/
  ofExecution : Execution Action → Option Ticket
  /-- A finished execution has none. -/
  finished : ∀ execution, execution.isFinished → ofExecution execution = none

namespace Gateway

variable {Action : Type}

/-- Nothing is left to do when the lock is free. -/
def Idle (gateway : Gateway Action) : Prop :=
  gateway.lock = .free → gateway.todo = []

theorem Idle.step {config : Config Action} {before after : Gateway Action} {event : Event Action}
    (idle : before.Idle) (step : Step config before event after) : after.Idle := by
  cases step with
  | perform effect rest next =>
      intro free
      have free : before.lock = .free := by cases effect <;> exact free
      rw [idle free] at next
      cases next
  | pop later observe popped => intro free; revert free; dsimp only; split <;> exact nofun
  | _ => first | exact idle | (intro _; assumption) | exact nofun

theorem idle_run {config : Config Action} {gateway : Gateway Action} {trace : List (Event Action)}
    (run : Run config (start config) trace gateway) : gateway.Idle :=
  run.invariant Idle Idle.step fun _ => rfl

/-- The actions left to the holder of the lock are those of its section. -/
def Orderly (gateway : Gateway Action) : Prop :=
  match gateway.lock with
  | .refusing call => gateway.todo = [] ∨ ∃ budget, gateway.todo = [.release call budget]
  | .rejecting => Queues.Agenda gatewayClosed gateway.todo
  | _ => Queues.Agenda queueTimeout gateway.todo

theorem orderly_nil {gateway : Gateway Action} (idle : gateway.todo = []) : gateway.Orderly := by
  unfold Orderly
  rw [idle]
  split
  · exact .inl rfl
  · exact .start .nil
  · exact .start .nil

theorem Orderly.step {config : Config Action} {before after : Gateway Action} {event : Event Action}
    (orderly : before.Orderly) (idle : before.Idle) (step : Step config before event after) :
    after.Orderly := by
  cases step with
  | enter => exact .start (Queues.maintain_disposals _ _ _)
  | scan => exact .start (Queues.maintain_disposals _ _ _)
  | reject => exact .start (Queues.rejectPending_disposals _)
  | pop later observe popped holds idle room observes returned =>
      subst returned
      have agenda := Queues.Agenda.start (Queues.popNext_disposals before.queues observe)
      cases selected : (before.queues.popNext observe).job <;>
        simpa only [Orderly, selected] using agenda
  | overflow => exact .inr ⟨_, rfl⟩
  | perform effect rest next =>
      have same : (before.perform effect).lock = before.lock := by cases effect <;> rfl
      unfold Orderly at orderly ⊢
      dsimp only
      rw [same]
      cases holds : before.lock <;> simp only [holds, next] at orderly ⊢
      case refusing call =>
        obtain ⟨budget, single⟩ := orderly.resolve_left (List.cons_ne_nil _ _)
        exact .inl (List.cons.inj single).2
      all_goals exact orderly.rest
  | exhausted | acquire | refuse | push | saturated | spawn | finish | park | unlock =>
      exact orderly_nil ‹_›
  | inspect free => exact orderly_nil (idle free)
  | _ => exact orderly

theorem orderly_run {config : Config Action} {gateway : Gateway Action}
    {trace : List (Event Action)} (run : Run config (start config) trace gateway) :
    gateway.Orderly :=
  run.invariantTrace (fun _ gateway => gateway.Orderly) (orderly_nil rfl)
    fun earlier orderly step => orderly.step (idle_run earlier) step

/-- The answers a section has left tell what the section is. -/
theorem Orderly.answer {gateway : Gateway Action} (orderly : gateway.Orderly) {reply : ReplyId}
    {told : Response} (member : .answer reply told ∈ gateway.todo) :
    gateway.lock = .rejecting ∧ told = gatewayClosed ∨ told = queueTimeout := by
  unfold Orderly at orderly
  split at orderly
  · rcases orderly with idle | ⟨budget, single⟩
    · simp [idle] at member
    · simp [single] at member
  · exact .inl ⟨‹_›, orderly.honest member⟩
  · exact .inr (orderly.honest member)

end Gateway

namespace Custody

variable {Action Ticket : Type} (custody : Custody Action Ticket)

/-- The ticket in the hand of the holder of the lock.  An acquired permit counts as one to release,
which is what becomes of it unless it goes into a job. -/
def ofSection : Section Action → Option Ticket
  | .placing call identity _ _ => custody.ofEffect (.release call identity.budget)
  | .handing job => some (custody.ofJob job)
  | _ => none

/-- The tickets of the waiting jobs. -/
def queued (gateway : Gateway Action) : List Ticket :=
  gateway.queues.jobs.map custody.ofJob

/-- The tickets of the executions. -/
def executing (gateway : Gateway Action) : List Ticket :=
  gateway.running.filterMap custody.ofExecution

/-- The tickets the holder of the lock has in hand or is about to dispose of. -/
def inHand (gateway : Gateway Action) : List Ticket :=
  (custody.ofSection gateway.lock).toList ++ gateway.todo.filterMap custody.ofEffect

/-- All tickets. -/
def held (gateway : Gateway Action) : List Ticket :=
  custody.queued gateway ++ custody.executing gateway ++ custody.inHand gateway

/-- The tickets which come and go with an event; a ticket can do both. -/
def movement : Event Action → Ledger.Movement Ticket
  | .acquire call budget => ⟨(custody.ofEffect (.release call budget)).toList, []⟩
  | .push call _ job =>
      ⟨[custody.ofJob job], (custody.ofEffect (.release call job.permit)).toList⟩
  | .perform effect => ⟨[], (custody.ofEffect effect).toList⟩
  | .spawn job => ⟨(custody.ofExecution (.spawned job)).toList, [custody.ofJob job]⟩
  | .complete execution response =>
      ⟨(custody.ofExecution { execution with progress := .done (some response) }).toList,
        (custody.ofExecution execution).toList⟩
  | .fail execution =>
      ⟨(custody.ofExecution { execution with progress := .done none }).toList,
        (custody.ofExecution execution).toList⟩
  | .giveBack execution =>
      match execution.progress with
      | .done response =>
          ⟨(custody.ofExecution { execution with progress := .released response }).toList,
            (custody.ofExecution execution).toList⟩
      | _ => .none
  | .send execution _ => ⟨[], (custody.ofExecution execution).toList⟩
  | .hangUp execution => ⟨[], (custody.ofExecution execution).toList⟩
  | _ => .none

theorem held_eq (gateway : Gateway Action) :
    custody.held gateway = gateway.queues.jobs.map custody.ofJob ++
      gateway.running.filterMap custody.ofExecution ++
        ((custody.ofSection gateway.lock).toList ++
          gateway.todo.filterMap custody.ofEffect) := rfl

theorem inHand_of_free {gateway : Gateway Action} (idle : gateway.Idle)
    (free : gateway.lock = .free) : custody.inHand gateway = [] := by
  rw [inHand, free, idle free]
  rfl

theorem jobs_push (queues : Queues Action) (clientClass : ClientClass) (job : Job Action) :
    (queues.takeOrder.2.push clientClass job).jobs.Perm (job :: queues.jobs) := by
  cases clientClass with
  | agent =>
      change (queues.interactive ++ (queues.agents ++ [job])).Perm _
      rw [← List.append_assoc]
      exact List.perm_append_singleton job _
  | interactive =>
      change ((queues.interactive ++ [job]) ++ queues.agents).Perm _
      rw [List.append_assoc]
      exact List.perm_middle

private theorem filterMap_joined (running : List (Execution Action)) :
    (running.filter fun execution => !execution.isFinished).filterMap custody.ofExecution =
      running.filterMap custody.ofExecution := by
  induction running with
  | nil => rfl
  | cons execution running induction =>
      cases joined : execution.isFinished
      · simp [joined, induction, List.filterMap_cons]
      · simp [joined, induction, custody.finished execution joined]

private theorem count_progress [BEq Ticket] (ticket : Ticket) (front back : List (Execution Action))
    (execution execution' : Execution Action) :
    (custody.ofExecution execution').toList.count ticket +
        ((front ++ execution :: back).filterMap custody.ofExecution).count ticket =
      (custody.ofExecution execution).toList.count ticket +
        ((front ++ execution' :: back).filterMap custody.ofExecution).count ticket := by
  have single : ∀ execution : Execution Action,
      ((front ++ execution :: back).filterMap custody.ofExecution).count ticket =
        (front.filterMap custody.ofExecution).count ticket +
          ((custody.ofExecution execution).toList.count ticket +
            (back.filterMap custody.ofExecution).count ticket) := by
    intro execution
    rw [List.filterMap_append, List.count_append, ← List.singleton_append, List.filterMap_append,
      List.count_append]
    cases kept : custody.ofExecution execution <;> simp [kept]
  rw [single, single]
  omega

theorem count_held_progress [BEq Ticket] (ticket : Ticket) {before after : Gateway Action}
    {front back : List (Execution Action)} {execution execution' : Execution Action}
    (spawned : before.running = front ++ execution :: back)
    (progressed : after.running = front ++ execution' :: back)
    (queues : after.queues = before.queues) (lock : after.lock = before.lock)
    (todo : after.todo = before.todo) :
    (custody.ofExecution execution').toList.count ticket + (custody.held before).count ticket =
      (custody.ofExecution execution).toList.count ticket + (custody.held after).count ticket := by
  have moved := custody.count_progress ticket front back execution execution'
  simp only [held_eq, spawned, progressed, queues, lock, todo, List.count_append]
  omega

/-- Every step moves tickets as its event says. -/
theorem moves_step {config : Config Action} {before after : Gateway Action} {event : Event Action}
    (idle : before.Idle) (step : Step config before event after) :
    Ledger.Moves (custody.held before) (custody.movement event) (custody.held after) := by
  classical
  rw [Ledger.moves_iff_count]
  intro ticket
  have scan := fun closed now =>
    (custody.maintain_perm before.queues closed now).count_eq ticket
  simp only [List.count_append] at scan
  cases step with
  | enter call identity action closed submitted free =>
      have scanned := scan closed before.clock
      simp only [held_eq, movement, Gateway.move, free, idle free, ofSection, List.count_append,
        Ledger.Movement.issued_none, Ledger.Movement.redeemed_none, Option.toList_none,
        List.filterMap_nil, List.count_nil]
      omega
  | scan closed reaped free =>
      have scanned := scan closed before.clock
      simp only [held_eq, movement, free, idle free, ofSection, List.count_append,
        Ledger.Movement.issued_none, Ledger.Movement.redeemed_none, Option.toList_none,
        List.filterMap_nil, List.count_nil]
      omega
  | perform effect rest next =>
      have same : (before.perform effect).queues = before.queues ∧
          (before.perform effect).running = before.running ∧
            (before.perform effect).lock = before.lock := by
        cases effect <;> exact ⟨rfl, rfl, rfl⟩
      cases taken : custody.ofEffect effect with
      | none => simp [held_eq, movement, next, same, taken]
      | some moved =>
          simp only [held_eq, movement, next, same, taken, List.count_append, List.filterMap_cons,
            Option.toList_some, List.count_cons, List.count_nil]
          omega
  | acquire call identity action observed holds =>
      simp only [held_eq, movement, holds, ofSection, List.count_append, Option.toList_none,
        List.count_nil]
      omega
  | overflow call identity action observed holds idle =>
      have same : before.queues.takeOrder.2.jobs = before.queues.jobs := rfl
      cases taken : custody.ofEffect (.release call identity.budget) <;>
        simp [held_eq, movement, holds, idle, same, ofSection, taken]
  | push call identity action observed job holds idle room accepted =>
      have pushed := ((jobs_push before.queues identity.clientClass job).map custody.ofJob).count_eq
        ticket
      rw [List.map_cons, List.count_cons] at pushed
      have same : job.permit = identity.budget := by rw [accepted]
      simp only [held_eq, movement, Gateway.move, holds, idle, same, ofSection, List.count_append,
        Option.toList_none, List.filterMap_nil, List.count_cons, List.count_nil]
      omega
  | pop later observe popped holds idle room observes returned =>
      have taken := (custody.popNext_perm before.queues observe).count_eq ticket
      rw [← returned] at taken
      cases selected : popped.job <;>
        simp only [held_eq, movement, holds, idle, selected, ofSection, Queues.Popped.selected,
          Ledger.Movement.issued_none, Ledger.Movement.redeemed_none, List.count_append,
          Option.toList_none, Option.toList_some, List.filterMap_nil, List.map_cons, List.map_nil,
          List.count_nil] at taken ⊢ <;> omega
  | spawn job holds idle =>
      cases kept : custody.ofExecution (.spawned job) <;>
        simp only [held_eq, movement, holds, idle, kept, ofSection, List.count_append,
          Option.toList_none, Option.toList_some, List.filterMap_nil, List.filterMap_cons,
          List.filterMap_append, List.count_nil] <;> omega
  | reap awake => simp [held_eq, movement, filterMap_joined]
  | wakeJoined deadline front back execution parked joined finished =>
      have none : custody.ofExecution execution = Option.none :=
        custody.finished execution (by simp [Execution.isFinished, finished])
      simp [held_eq, movement, joined, none]
  | complete front back execution response spawned progress
    | fail front back execution spawned progress =>
      exact custody.count_held_progress ticket spawned rfl rfl rfl rfl
  | giveBack front back execution response spawned progress =>
      simp only [movement, progress]
      exact custody.count_held_progress ticket spawned rfl rfl rfl rfl
  | send front back execution response spawned progress
    | hangUp front back execution spawned progress =>
      have nothing :
          [] = (custody.ofExecution { execution with progress := .finished }).toList := by
        rw [custody.finished _ rfl]
        rfl
      simp only [movement]
      rw [nothing]
      exact custody.count_held_progress ticket spawned rfl rfl rfl rfl
  | reject aborting free =>
      have drained := (custody.rejectPending_perm before.queues).count_eq ticket
      have empty : before.queues.rejectPending.1.jobs = [] := rfl
      simp only [held_eq, movement, free, idle free, empty, ofSection, List.count_append,
        Ledger.Movement.issued_none, Ledger.Movement.redeemed_none, Option.toList_none,
        List.filterMap_nil, List.map_nil, List.count_nil]
      omega
  | exhausted call identity action holds | refuse call holds | saturated holds | finish holds
  | park holds => simp [held_eq, movement, Gateway.move, holds, ofSection]
  | inspect free => simp [held_eq, movement, free, ofSection]
  | unlock holds =>
      rcases holds with holds | holds <;> simp [held_eq, movement, holds, ofSection]
  | _ => rfl

end Custody

end AiProtocol
