import AiProtocol.Gateway.Consistency

/-!
# Where jobs come from

Whatever waits, is handed over or executes carries the action its own request was submitted with,
for the identity it was submitted for: it waits in the queue of the class of this identity, and owns
a permit of its budget.
-/

namespace AiProtocol

namespace Queues

variable {Action : Type}

/-- A pop leaves and returns jobs of the class they were waiting in. -/
theorem popNext_get (queues : Queues Action) (observe : Nat → Observation) :
    (∀ clientClass, ∀ job ∈ (queues.popNext observe).queues.get clientClass,
      job ∈ queues.get clientClass) ∧
      ∀ selected, (queues.popNext observe).job = some selected →
        selected.2 ∈ queues.get selected.1 := by
  obtain ⟨swept, kept, outcome⟩ : ∃ swept : Queues Action,
      (∀ clientClass, ∀ job ∈ swept.get clientClass, job ∈ queues.get clientClass) ∧
        Outcome observe swept (queues.popNext observe) := by
    refine popNext_outcome
      (fun later => ∀ clientClass, ∀ job ∈ later.get clientClass, job ∈ queues.get clientClass)
      ?_ ?_ fun _ _ member => member
    · intro turn later kept clientClass job member
      rw [maintain_get] at member
      exact kept clientClass job (List.mem_of_mem_filter member)
    · intro turn later front rest head _ kept clientClass job member
      rcases clientClass.eq_or_eq_other later.selectedClass with rfl | rfl
      · rw [get_set_self] at member
        apply kept
        rw [head]
        exact List.mem_cons_of_mem _ member
      · rw [get_set_other] at member
        exact kept _ job member
  generalize queues.popNext observe = popped at outcome ⊢
  cases outcome with
  | idle => exact ⟨by simpa using kept, nofun⟩
  | select _ job rest _ front =>
      constructor
      · intro clientClass other member
        rw [get_withStreak] at member
        rcases clientClass.eq_or_eq_other swept.selectedClass with rfl | rfl
        · rw [get_set_self] at member
          apply kept
          rw [front]
          exact List.mem_cons_of_mem _ member
        · rw [get_set_other] at member
          exact kept _ other member
      · rintro _ ⟨⟩
        apply kept
        rw [front]
        exact List.mem_cons_self

end Queues

/-- A request was submitted with this action, for an identity of this class and budget. -/
def Submits {Action : Type} (trace : List (Event Action)) (call : ReplyId)
    (clientClass : ClientClass) (action : Action) (permit : BudgetRef) : Prop :=
  ∃ identity, .submit call identity action ∈ trace ∧ identity.clientClass = clientClass ∧
    identity.budget = permit

/-- What the holder of the lock has in hand was submitted. -/
def Section.Submitted {Action : Type} (trace : List (Event Action)) : Section Action → Prop
  | .admitting call identity action => .submit call identity action ∈ trace
  | .placing call identity action _ => .submit call identity action ∈ trace
  | .handing job => ∃ clientClass, Submits trace job.reply clientClass job.action job.permit
  | _ => True

theorem Submits.mono {Action : Type} {trace : List (Event Action)} {call : ReplyId}
    {clientClass : ClientClass} {action : Action} {permit : BudgetRef}
    (submits : Submits trace call clientClass action permit) (event : Event Action) :
    Submits (trace ++ [event]) call clientClass action permit := by
  obtain ⟨identity, member, same⟩ := submits
  exact ⟨identity, List.mem_append_left _ member, same⟩

theorem Section.Submitted.mono {Action : Type} {trace : List (Event Action)}
    {lock : Section Action} (submitted : lock.Submitted trace) (event : Event Action) :
    lock.Submitted (trace ++ [event]) := by
  cases lock with
  | admitting | placing => exact List.mem_append_left _ submitted
  | handing job =>
      obtain ⟨clientClass, submits⟩ := submitted
      exact ⟨clientClass, submits.mono event⟩
  | _ => trivial

namespace Gateway

variable {Action : Type} {config : Config Action}

/-- All work of a gateway was submitted. -/
structure Submitted (trace : List (Event Action)) (gateway : Gateway Action) : Prop where
  /-- Requests for the lock. -/
  submitted : ∀ call identity action, gateway.calls call = .submitted identity action →
    .submit call identity action ∈ trace
  /-- The holder of the lock. -/
  holder : gateway.lock.Submitted trace
  /-- Waiting jobs, by the queue of their class. -/
  waiting : ∀ clientClass, ∀ job ∈ gateway.queues.get clientClass,
    Submits trace job.reply clientClass job.action job.permit
  /-- Executions. -/
  running : ∀ execution ∈ gateway.running, ∃ clientClass,
    Submits trace execution.reply clientClass execution.action execution.permit

variable {gateway : Gateway Action} {trace : List (Event Action)}

theorem Submitted.mono (submitted : gateway.Submitted trace) (event : Event Action) :
    gateway.Submitted (trace ++ [event]) where
  submitted call identity action waits :=
    List.mem_append_left _ (submitted.submitted call identity action waits)
  holder := submitted.holder.mono event
  waiting clientClass job member := (submitted.waiting clientClass job member).mono event
  running execution member := by
    obtain ⟨clientClass, submits⟩ := submitted.running execution member
    exact ⟨clientClass, submits.mono event⟩

theorem Submitted.move (submitted : gateway.Submitted trace) (call : ReplyId)
    (phase : Call Action)
    (told : ∀ identity action, phase = .submitted identity action →
      .submit call identity action ∈ trace) :
    (gateway.move call phase).Submitted trace where
  submitted other identity action waits := by
    rcases calls_of_move waits with earlier | ⟨rfl, moved⟩
    · exact submitted.submitted other identity action earlier
    · exact told identity action moved
  holder := submitted.holder
  waiting := submitted.waiting
  running := submitted.running

theorem Submitted.maintain (submitted : gateway.Submitted trace)
    (closed : ReplyId → Bool) (now : Nat) : ∀ clientClass,
      ∀ job ∈ (gateway.queues.maintain closed now).1.get clientClass,
        Submits trace job.reply clientClass job.action job.permit := by
  intro clientClass job member
  rw [Queues.maintain_get] at member
  exact submitted.waiting clientClass job (List.mem_of_mem_filter member)

theorem Submitted.step {before after : Gateway Action} {event : Event Action}
    (submitted : before.Submitted trace) (known : event ∈ trace)
    (step : Step config before event after) : after.Submitted trace := by
  cases step with
  | submit call identity action fresh decided =>
      apply submitted.move call
      rintro _ _ ⟨⟩
      exact known
  | refuseTest call identity action =>
      have moved := submitted.move call (.answered (overloaded "test_rejection" "2")) (by simp)
      exact { moved with }
  | respond | leave | turnAway => exact submitted.move _ _ (by simp)
  | enter call identity action closed waits =>
      have moved := submitted.move call .entered (by simp)
      exact
        { submitted := moved.submitted
          holder := submitted.submitted call identity action waits
          waiting := submitted.maintain closed before.clock
          running := submitted.running }
  | perform effect => cases effect <;> exact { submitted with }
  | exhausted call =>
      have moved := submitted.move call (.answered (overloaded "budget_exhausted" "1")) (by simp)
      exact { moved with holder := trivial }
  | acquire call identity action observed holds =>
      have told := submitted.holder
      rw [holds] at told
      exact { submitted with holder := told }
  | overflow =>
      exact { submitted with holder := trivial, waiting := by simpa using submitted.waiting }
  | refuse call =>
      have moved := submitted.move call (.answered (overloaded "queue_full" "1")) (by simp)
      exact { moved with holder := trivial }
  | push call identity action observed job holds idle room accepted =>
      have moved := submitted.move call .pushed (by simp)
      have told := submitted.holder
      rw [holds] at told
      refine { moved with holder := trivial, waiting := ?_ }
      intro clientClass other member
      rcases clientClass.eq_or_eq_other identity.clientClass with rfl | rfl
      · simp only [Queues.push, Queues.get_set_self, Queues.get_takeOrder, List.mem_append,
          List.mem_singleton] at member
        rcases member with earlier | rfl
        · exact submitted.waiting _ other earlier
        · subst accepted
          exact ⟨identity, told, rfl, rfl⟩
      · simp only [Queues.push, Queues.get_set_other, Queues.get_takeOrder] at member
        exact submitted.waiting _ other member
  | notify call =>
      have moved := submitted.move call .waiting (by simp)
      exact { moved with }
  | receive | lose => exact submitted.move _ _ (by simp)
  | reap =>
      refine { submitted with running := ?_ }
      intro execution member
      exact submitted.running execution (List.mem_of_mem_filter member)
  | scan closed =>
      exact { submitted with holder := trivial, waiting := submitted.maintain closed before.clock }
  | pop later observe popped holds idle room observes returned =>
      subst returned
      obtain ⟨left, taken⟩ := before.queues.popNext_get observe
      refine { submitted with holder := ?_, waiting := ?_ }
      · cases popped : (before.queues.popNext observe).job with
        | none => trivial
        | some selected =>
            exact ⟨selected.1, submitted.waiting selected.1 selected.2 (taken selected popped)⟩
      · intro clientClass job member
        exact submitted.waiting clientClass job (left clientClass job member)
  | spawn job holds =>
      have told := submitted.holder
      rw [holds] at told
      refine { submitted with holder := trivial, running := ?_ }
      intro execution member
      rcases List.mem_append.mp member with earlier | added
      · exact submitted.running execution earlier
      · obtain rfl := List.mem_singleton.mp added
        exact told
  | wakeJoined deadline front back execution parked joined =>
      refine { submitted with running := ?_ }
      intro other member
      apply submitted.running
      rw [joined]
      rcases List.mem_append.mp member with early | late
      · exact List.mem_append_left _ early
      · exact List.mem_append_right _ (List.mem_cons_of_mem _ late)
  | complete front back execution response spawned
    | giveBack front back execution response spawned
    | send front back execution response spawned
    | fail front back execution spawned
    | hangUp front back execution spawned =>
      exact { submitted with running := forall_progress submitted.running spawned id }
  | reject =>
      refine { submitted with holder := trivial, waiting := ?_ }
      intro clientClass job member
      cases clientClass <;> cases member
  | saturated | finish | park | inspect | unlock => exact { submitted with holder := trivial }
  | _ => exact { submitted with }

theorem submitted_run (run : Run config (start config) trace gateway) :
    gateway.Submitted trace := by
  refine run.invariantTrace Submitted ?_ ?_
  · exact
      { submitted := nofun
        holder := trivial
        waiting := by rintro ⟨⟩ <;> exact nofun
        running := nofun }
  · intro trace before after event earlier submitted step
    exact (submitted.mono event).step (List.mem_append_right _ List.mem_cons_self) step

theorem submit_step {before after : Gateway Action} {event : Event Action}
    (step : Step config before event after) {call : ReplyId} {identity : ClientIdentity}
    {action : Action} (submits : event = .submit call identity action) :
    before.calls call = .absent ∧ after.calls call = .submitted identity action ∧
      config.decides (.enqueue identity action) := by
  subst submits
  cases step with
  | submit _ _ _ fresh decided => exact ⟨fresh, move_calls_self _ _ _, decided⟩

/-- A request is submitted once, as a handler decided. -/
theorem submit_run (run : Run config (start config) trace gateway) {call : ReplyId} :
    (gateway.calls call = .absent → ∀ identity action, .submit call identity action ∉ trace) ∧
      ∀ identity action, .submit call identity action ∈ trace →
        config.decides (.enqueue identity action) ∧
          ∀ identity' action', .submit call identity' action' ∈ trace →
            identity' = identity ∧ action' = action := by
  refine run.invariantTrace (fun trace gateway =>
    (gateway.calls call = .absent → ∀ identity action, .submit call identity action ∉ trace) ∧
      ∀ identity action, .submit call identity action ∈ trace →
        config.decides (.enqueue identity action) ∧
          ∀ identity' action', .submit call identity' action' ∈ trace →
            identity' = identity ∧ action' = action) ⟨fun _ _ _ => nofun, nofun⟩ ?_
  rintro trace before after event earlier ⟨absent, once⟩ step
  have inside := inside_run earlier
  refine ⟨fun fresh identity action member => ?_, fun identity action member => ?_⟩
  · have still : before.calls call = .absent := by
      have stage := stage_step inside step call
      rw [fresh] at stage
      cases phase : before.calls call <;> simp [phase, Call.stage] at stage
      rfl
    rcases List.mem_append.mp member with early | late
    · exact absent still identity action early
    · have now := (submit_step step (List.mem_singleton.mp late).symm).2.1
      rw [fresh] at now
      cases now
  · rcases List.mem_append.mp member with early | late
    · refine ⟨(once identity action early).1, fun identity' action' other => ?_⟩
      rcases List.mem_append.mp other with early' | late'
      · exact (once identity action early).2 identity' action' early'
      · have fresh := (submit_step step (List.mem_singleton.mp late').symm).1
        exact absurd early (absent fresh identity action)
    · have submits := (List.mem_singleton.mp late).symm
      obtain ⟨fresh, -, decided⟩ := submit_step step submits
      refine ⟨decided, fun identity' action' other => ?_⟩
      rcases List.mem_append.mp other with early' | late'
      · exact absurd early' (absent fresh identity' action')
      · obtain ⟨-, same, same'⟩ := Event.submit.inj
          ((List.mem_singleton.mp late').trans submits)
        exact ⟨same, same'⟩

end Gateway

end AiProtocol
