import AiProtocol.Gateway.Accounting

/-!
# Permits before replies

Whatever is told to a request is told after its permit was dropped: an answered request holds none.
-/

namespace AiProtocol

/-- The event drops the permit of a request. -/
def Event.redeems {Action : Type} (call : ReplyId) (event : Event Action) : Bool :=
  event.permitMovement.redeemed.any fun ticket => ticket.1 = call

namespace Gateway

variable {Action : Type} {config : Config Action} {before after gateway : Gateway Action}
  {event : Event Action} {trace : List (Event Action)} {call : ReplyId}

/-- The permit of a request was dropped. -/
def Redeemed (trace : List (Event Action)) (call : ReplyId) : Prop :=
  ∃ event ∈ trace, event.redeems call

theorem Redeemed.mono (redeemed : Redeemed trace call) (event : Event Action) :
    Redeemed (trace ++ [event]) call := by
  obtain ⟨dropped, member, redeems⟩ := redeemed
  exact ⟨dropped, List.mem_append_left _ member, redeems⟩

theorem redeemed_now (redeems : event.redeems call) : Redeemed (trace ++ [event]) call :=
  ⟨event, List.mem_append_right _ List.mem_cons_self, redeems⟩

/-- Nothing is told before its permit was dropped. -/
structure Paid (trace : List (Event Action)) (gateway : Gateway Action) : Prop where
  /-- Answers which come next in a section. -/
  todo : ∀ call response rest, gateway.todo = .answer call response :: rest → Redeemed trace call
  /-- A full queue. -/
  refusing : ∀ call, gateway.lock = .refusing call → gateway.todo = [] → Redeemed trace call
  /-- Executions without their permit. -/
  running : ∀ execution ∈ gateway.running, execution.ticket = none → Redeemed trace execution.reply
  /-- Result channels. -/
  channels : ∀ call, gateway.channels call ≠ .unset → Redeemed trace call
  /-- Responses. -/
  answered : ∀ call response, gateway.calls call = .answered response →
    Redeemed trace call ∨ trace.countP (Event.acquires call) = 0

/-- Sections do not start with an answer. -/
theorem Disposals.head {response told : Response} {rest effects : List Effect}
    (disposals : Queues.Disposals response effects) :
    effects ≠ .answer call told :: rest := by
  cases disposals <;> simp

/-- In a section an answer follows the drop of its permit. -/
theorem Agenda.released {response told : Response} {effect : Effect} {rest : List Effect}
    (agenda : Queues.Agenda response (effect :: .answer call told :: rest)) :
    ∃ budget, effect = .release call budget := by
  cases agenda with
  | start disposals =>
      cases disposals with
      | discard reply permit later => exact absurd rfl (Disposals.head later)
      | answer reply permit later => exact ⟨permit, rfl⟩
  | answer reply later => exact absurd rfl (Disposals.head later)

/-- Answers which come next follow the drop of their permit. -/
theorem todo_step (orderly : before.Orderly) (paid : Paid trace before)
    (step : Step config before event after) {told : Response} {rest : List Effect}
    (next : after.todo = .answer call told :: rest) : Redeemed (trace ++ [event]) call := by
  have kept : before.todo = .answer call told :: rest → Redeemed (trace ++ [event]) call :=
    fun same => (paid.todo call told rest same).mono event
  cases step with
  | enter caller identity action closed =>
      exact absurd next (Disposals.head (Queues.maintain_disposals _ _ _))
  | scan closed => exact absurd next (Disposals.head (Queues.maintain_disposals _ _ _))
  | reject => exact absurd next (Disposals.head (Queues.rejectPending_disposals _))
  | pop later observe popped holds idle room observes returned =>
      subst returned
      exact absurd next (Disposals.head (Queues.popNext_disposals before.queues observe))
  | overflow => cases next
  | perform effect remaining first =>
      obtain rfl : remaining = .answer call told :: rest := next
      have released : ∃ budget, effect = .release call budget := by
        unfold Orderly at orderly
        rw [first] at orderly
        split at orderly
        · rcases orderly with none | ⟨budget, single⟩ <;> simp_all
        · exact Agenda.released orderly
        · exact Agenda.released orderly
      obtain ⟨budget, rfl⟩ := released
      exact redeemed_now (by simp [Event.redeems, Event.permitMovement])
  | _ => exact kept next

private theorem refusing_step (orderly : before.Orderly) (paid : Paid trace before)
    (step : Step config before event after) (refusing : after.lock = .refusing call)
    (idle : after.todo = []) : Redeemed (trace ++ [event]) call := by
  cases step with
  | perform effect rest next =>
      have holds : before.lock = .refusing call := (perform_lock before effect).symm.trans refusing
      simp only [Orderly, holds, next] at orderly
      obtain ⟨budget, single⟩ := orderly.resolve_left (List.cons_ne_nil _ _)
      obtain ⟨rfl, -⟩ := List.cons.inj single
      exact redeemed_now (by simp [Event.redeems, Event.permitMovement])
  | overflow => cases idle
  | pop later observe popped => revert refusing; dsimp only; split <;> simp
  | enter | exhausted | acquire | refuse | push | scan | saturated | spawn | finish | park | reject
  | inspect | unlock => cases refusing
  | _ => exact (paid.refusing call refusing idle).mono _

private theorem running_step (paid : Paid trace before) (step : Step config before event after) :
    ∀ execution ∈ after.running, execution.ticket = none →
      Redeemed (trace ++ [event]) execution.reply := by
  have kept : ∀ execution ∈ before.running, execution.ticket = none →
      Redeemed (trace ++ [event]) execution.reply :=
    fun execution member none => (paid.running execution member none).mono event
  cases step with
  | reap => exact fun execution member => kept execution (List.mem_of_mem_filter member)
  | spawn job =>
      intro execution member none
      rcases List.mem_append.mp member with earlier | newest
      · exact kept execution earlier none
      · obtain rfl := List.mem_singleton.mp newest
        cases none
  | wakeJoined deadline front back execution parked joined =>
      intro other member
      refine kept other ?_
      rw [joined]
      rcases List.mem_append.mp member with early | late
      · exact List.mem_append_left _ early
      · exact List.mem_append_right _ (List.mem_cons_of_mem _ late)
  | complete front back execution response spawned progress =>
      exact forall_progress kept spawned fun _ none => by cases none
  | fail front back execution spawned progress =>
      exact forall_progress kept spawned fun _ none => by cases none
  | giveBack front back execution response spawned progress =>
      exact forall_progress kept spawned fun _ _ =>
        redeemed_now (by simp [Event.redeems, Event.permitMovement])
  | send front back execution response spawned progress =>
      exact forall_progress kept spawned fun earlier _ =>
        earlier (by simp [Execution.ticket, progress])
  | hangUp front back execution spawned progress =>
      exact forall_progress kept spawned fun earlier _ =>
        earlier (by simp [Execution.ticket, progress])
  | perform effect =>
      intro execution member
      exact kept execution (by simpa using member)
  | _ => exact kept

private theorem channel_step (paid : Paid trace before) (step : Step config before event after)
    (set : after.channels call ≠ .unset) : Redeemed (trace ++ [event]) call := by
  have kept : before.channels call ≠ .unset → Redeemed (trace ++ [event]) call :=
    fun already => (paid.channels call already).mono event
  have told : ∀ {reply : ReplyId} {channel : Channel}, Redeemed (trace ++ [event]) reply →
      Function.update before.channels reply channel call ≠ .unset →
        Redeemed (trace ++ [event]) call := by
    intro reply channel redeemed now
    by_cases same : call = reply
    · rwa [same]
    · rw [Function.update_of_ne same] at now
      exact kept now
  have spent : ∀ {execution : Execution Action}, execution ∈ before.running →
      execution.ticket = none → Redeemed (trace ++ [event]) execution.reply :=
    fun member none => (paid.running _ member none).mono event
  cases step with
  | perform effect rest next =>
      cases effect with
      | discard reply permit =>
          exact told (redeemed_now (by simp [Event.redeems, Event.permitMovement])) set
      | release reply permit => exact kept set
      | answer reply response => exact told ((paid.todo reply response rest next).mono _) set
  | send front back execution response spawned progress =>
      refine told (spent ?_ (by simp [Execution.ticket, progress])) set
      rw [spawned]
      exact List.mem_append_right _ List.mem_cons_self
  | hangUp front back execution spawned progress =>
      refine told (spent ?_ (by simp [Execution.ticket, progress])) set
      rw [spawned]
      exact List.mem_append_right _ List.mem_cons_self
  | _ => exact kept set

private theorem answered_paid (earlier : Run config (start config) trace before)
    (paid : Paid trace before)
    (step : Step config before event after) {response : Response}
    (answered : after.calls call = .answered response) :
    Redeemed (trace ++ [event]) call ∨ (trace ++ [event]).countP (Event.acquires call) = 0 := by
  -- whoever is answered is not inside the section, where permits are taken
  have idle : event.acquires call = false := by
    cases step with
    | acquire caller identity action observed holds =>
        have entered := inside_run earlier caller (by rw [holds]; rfl)
        simp only [Event.acquires, decide_eq_false_iff_not]
        rintro rfl
        rw [show before.calls caller = .answered response from answered] at entered
        cases entered
    | _ => rfl
  have unacquired : trace.countP (Event.acquires call) = 0 →
      (trace ++ [event]).countP (Event.acquires call) = 0 := by
    intro none
    rw [List.countP_append, none, List.countP_singleton, idle]
    rfl
  have unspent : before.Unspent call → (trace ++ [event]).countP (Event.acquires call) = 0 :=
    fun fresh => unacquired ((acquires_run earlier call).2 fresh)
  rcases answering_of_step step answered with already | answering
  · rcases paid.answered call response already with redeemed | none
    · exact .inl (redeemed.mono event)
    · exact .inr (unacquired none)
  · cases answering with
    | test fresh => exact .inr (unspent (.inl (by simp [fresh, Call.stage])))
    | decided _ fresh => exact .inr (unspent (.inl (by simp [fresh, Call.stage])))
    | closed identity action submitted =>
        exact .inr (unspent (.inl (by simp [submitted, Call.stage])))
    | exhausted identity action holds => exact .inr (unspent (.inr ⟨identity, action, holds⟩))
    | full holds idle => exact .inl ((paid.refusing call holds idle).mono _)
    | received _ sent => exact .inl ((paid.channels call (by simp [sent])).mono _)
    | lost dropped => exact .inl ((paid.channels call (by simp [dropped])).mono _)

private theorem paid_start : Paid [] (start config) where
  todo _ _ _ next := by simp [start] at next
  refusing _ refusing := by simp [start] at refusing
  running _ member := by simp [start] at member
  channels _ set := absurd rfl set
  answered _ _ answered := by simp [start] at answered

private theorem paid_run (run : Run config (start config) trace gateway) : Paid trace gateway := by
  refine run.invariantTrace Paid paid_start ?_
  intro trace before after event earlier paid step
  exact
    { todo := fun call told rest => todo_step (orderly_run earlier) paid step
      refusing := fun call => refusing_step (orderly_run earlier) paid step
      running := running_step paid step
      channels := fun call => channel_step paid step
      answered := fun call response => answered_paid earlier paid step }

private theorem held_of_redeemed (run : Run config (start config) trace gateway)
    (redeemed : Redeemed trace call) (budget : BudgetRef) : (call, budget) ∉ gateway.held := by
  have balance := Ledger.balance held Event.permitMovement
    (fun earlier step => permits_step (idle_run earlier) step) run (fun ticket => ticket.1 = call)
  have issued : (Ledger.issued Event.permitMovement trace).countP (fun ticket => ticket.1 = call) =
      trace.countP (Event.acquires call) := by
    apply Ledger.countP_issued
    intro event
    cases event with
    | acquire => simp [Event.permitMovement, Event.acquires, List.countP_singleton]
    | perform effect => cases effect <;> rfl
    | _ => rfl
  have dropped : 0 < (Ledger.redeemed Event.permitMovement trace).countP
      fun ticket => ticket.1 = call := by
    obtain ⟨event, member, redeems⟩ := redeemed
    obtain ⟨ticket, inside, own⟩ := List.any_eq_true.mp redeems
    exact List.countP_pos_iff.mpr ⟨ticket, List.mem_flatMap.mpr ⟨event, member, inside⟩, own⟩
  have once := acquires_once run call
  intro member
  have held : 0 < gateway.held.countP fun ticket => ticket.1 = call :=
    List.countP_pos_iff.mpr ⟨_, member, by simp⟩
  have empty : ((start config).held.countP fun ticket => ticket.1 = call) = 0 := rfl
  omega

theorem answered_free (run : Run config (start config) trace gateway) {response : Response}
    (answered : gateway.calls call = .answered response) (budget : BudgetRef) :
    (call, budget) ∉ gateway.held := by
  rcases (paid_run run).answered call response answered with redeemed | none
  · exact held_of_redeemed run redeemed budget
  · intro member
    have balance := (permits_balance run call budget).1
    have issued := issued_permits trace call budget
    have held := List.count_pos_iff.mpr member
    omega

end Gateway

end AiProtocol
