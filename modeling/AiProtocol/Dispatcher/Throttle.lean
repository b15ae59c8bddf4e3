import Mathlib.Data.List.Nodup
import AiProtocol.Dispatcher.Order
import AiProtocol.Gateway.Admission
import AiProtocol.Gateway.Settlement

/-!
# One dispatcher in front of one gateway

A dispatcher which carries all traffic of one budget, over a transport which loses nothing.  Every
permit of the budget belongs to an attempt in flight, and every attempt in flight holds a permit of
the gate, so that the gateway never runs out of the permits the gate allows.
-/

namespace AiProtocol

namespace Gateway

variable {Action : Type} {config : Config Action} {before after gateway : Gateway Action}
  {event : Event Action} {trace : List (Event Action)} {call : ReplyId} {budget : BudgetRef}

/-- A request holds a permit of a budget, or may still take one. -/
def Asks (budget : BudgetRef) (gateway : Gateway Action) (call : ReplyId) : Prop :=
  (∃ identity action, identity.budget = budget ∧
      (gateway.calls call = .submitted identity action ∨
        gateway.lock = .admitting call identity action)) ∨
    (call, budget) ∈ gateway.held

theorem submitted_step (step : Step config before event after) {identity : ClientIdentity}
    {action : Action} (submitted : after.calls call = .submitted identity action) :
    before.calls call = .submitted identity action ∨
      event = .submit call identity action ∧ before.calls call = .absent := by
  have moved : ∀ (caller : ReplyId) (phase : Call Action),
      phase ≠ .submitted identity action →
        (before.move caller phase).calls call = .submitted identity action →
          before.calls call = .submitted identity action := by
    intro caller phase other now
    rcases calls_of_move now with earlier | ⟨-, same⟩
    · exact earlier
    · exact absurd same other
  cases step with
  | submit caller asked wanted fresh =>
      rcases calls_of_move submitted with earlier | ⟨rfl, same⟩
      · exact .inl earlier
      · obtain ⟨rfl, rfl⟩ := Call.submitted.inj same
        exact .inr ⟨rfl, fresh⟩
  | refuseTest caller asked wanted fresh => exact .inl (moved caller (.answered _) nofun submitted)
  | respond caller told fresh => exact .inl (moved caller (.answered told) nofun submitted)
  | leave caller => exact .inl (moved caller .left nofun submitted)
  | turnAway caller => exact .inl (moved caller (.answered gatewayClosed) nofun submitted)
  | enter caller => exact .inl (moved caller .entered nofun submitted)
  | perform effect => exact .inl (by simpa using submitted)
  | exhausted caller => exact .inl (moved caller (.answered _) nofun submitted)
  | refuse caller => exact .inl (moved caller (.answered _) nofun submitted)
  | push caller => exact .inl (moved caller .pushed nofun submitted)
  | notify caller => exact .inl (moved caller .waiting nofun submitted)
  | receive caller told => exact .inl (moved caller (.answered told) nofun submitted)
  | lose caller => exact .inl (moved caller (.answered internalError) nofun submitted)
  | _ => exact .inl submitted

theorem admitting_step (step : Step config before event after) {identity : ClientIdentity}
    {action : Action} (admitting : after.lock = .admitting call identity action) :
    before.lock = .admitting call identity action ∨
      before.calls call = .submitted identity action := by
  cases step with
  | enter caller asked wanted closed submitted =>
      obtain ⟨rfl, rfl, rfl⟩ : _ ∧ _ ∧ _ := by simpa using admitting
      exact .inr submitted
  | perform effect rest next => exact .inl ((perform_lock before effect).symm.trans admitting)
  | pop later observe popped => revert admitting; dsimp only; split <;> exact nofun
  | exhausted | acquire | overflow | refuse | push | scan | saturated | spawn | finish | park
  | reject | inspect | unlock => cases admitting
  | _ => exact .inl admitting

/-- Requests ask for permits from their submission on. -/
theorem asks_step (idle : before.Idle) (step : Step config before event after)
    (asks : after.Asks budget call) : before.Asks budget call ∨
      ∃ identity action, event = .submit call identity action ∧ identity.budget = budget := by
  rcases asks with ⟨identity, action, own, submitted | admitting⟩ | holds
  · rcases submitted_step step submitted with earlier | ⟨rfl, -⟩
    · exact .inl (.inl ⟨identity, action, own, .inl earlier⟩)
    · exact .inr ⟨identity, action, rfl, own⟩
  · rcases admitting_step step admitting with earlier | submitted
    · exact .inl (.inl ⟨identity, action, own, .inr earlier⟩)
    · exact .inl (.inl ⟨identity, action, own, .inl submitted⟩)
  · refine .inl ?_
    have moved : (call, budget) ∈ event.permitMovement.issued ++ before.held :=
      (permits_step idle step).mem_iff.mpr (List.mem_append_right _ holds)
    rcases List.mem_append.mp moved with issued | held
    · cases step with
      | acquire caller identity action observed admitting =>
          obtain ⟨rfl, rfl⟩ : call = caller ∧ budget = identity.budget := by
            simpa [Event.permitMovement] using issued
          exact .inl ⟨identity, action, rfl, .inr admitting⟩
      | perform effect => cases effect <;> cases issued
      | _ => cases issued
    · exact .inr held

theorem asks_answered (run : Run config (start config) trace gateway) {response : Response}
    (answered : gateway.calls call = .answered response) : ¬gateway.Asks budget call := by
  rintro (⟨identity, action, -, submitted | admitting⟩ | holds)
  · rw [answered] at submitted
    cases submitted
  · have entered := inside_run run call (by rw [admitting]; rfl)
    rw [answered] at entered
    cases entered
  · exact answered_free run answered budget holds

theorem known_run (run : Run config (start config) trace gateway) {identity : ClientIdentity}
    {action : Action} (submitted : .submit call identity action ∈ trace) :
    gateway.calls call ≠ .absent := by
  refine run.invariantTrace (fun trace gateway => .submit call identity action ∈ trace →
    gateway.calls call ≠ .absent) nofun ?_ submitted
  intro trace before after event earlier held step member absent
  have forward := stage_step (inside_run earlier) step call
  rw [absent] at forward
  rcases List.mem_append.mp member with old | new
  · have known := held old
    cases reached : before.calls call <;> simp [reached, Call.stage] at forward known
  · obtain rfl := List.mem_singleton.mp new
    cases step with
    | submit => simp at absent

/-- A request is submitted for one identity. -/
theorem submitted_unique (run : Run config (start config) trace gateway)
    {left right : ClientIdentity} {action action' : Action}
    (first : .submit call left action ∈ trace) (second : .submit call right action' ∈ trace) :
    left = right := by
  refine run.invariantTrace (fun trace _ => ∀ left right action action',
    .submit call left action ∈ trace → .submit call right action' ∈ trace → left = right)
    (fun _ _ _ _ => nofun) ?_ left right action action' first second
  intro trace before after event earlier held step left right action action' first second
  have fresh : ∀ identity action, event = .submit call identity action →
      before.calls call = .absent := by
    rintro identity action rfl
    cases step with
    | submit caller identity action fresh => exact fresh
  rcases List.mem_append.mp first with early | now
  · rcases List.mem_append.mp second with again | late
    · exact held left right action action' early again
    · exact absurd (fresh _ _ (List.mem_singleton.mp late).symm) (known_run earlier early)
  · rcases List.mem_append.mp second with early | late
    · exact absurd (fresh _ _ (List.mem_singleton.mp now).symm) (known_run earlier early)
    · have same := (List.mem_singleton.mp now).trans (List.mem_singleton.mp late).symm
      exact (Event.submit.inj same).2.1

/-- Requests which wait for their permit were submitted. -/
theorem asked_run (run : Run config (start config) trace gateway) {identity : ClientIdentity}
    {action : Action} (asks : gateway.calls call = .submitted identity action ∨
      gateway.lock = .admitting call identity action) :
    .submit call identity action ∈ trace := by
  refine run.invariantTrace (fun trace gateway => gateway.calls call = .submitted identity action ∨
      gateway.lock = .admitting call identity action → .submit call identity action ∈ trace)
    (by simp [start]) ?_ asks
  intro trace before after event _ held step asks
  rcases asks with submitted | admitting
  · rcases submitted_step step submitted with earlier | ⟨rfl, -⟩
    · exact List.mem_append_left _ (held (.inl earlier))
    · exact List.mem_append_right _ List.mem_cons_self
  · exact List.mem_append_left _ (held (admitting_step step admitting).symm)

private theorem nodup_held (run : Run config (start config) trace gateway) :
    gateway.held.Nodup := by
  apply List.nodup_iff_count_le_one.mpr
  rintro ⟨call, budget⟩
  have balance := permits_balance run call budget
  omega

/-- The requests which hold a permit of a budget. -/
def holders (budget : BudgetRef) (gateway : Gateway Action) : List ReplyId :=
  (gateway.held.filter fun ticket => ticket.2 = budget).map Prod.fst

theorem mem_holders : call ∈ gateway.holders budget ↔ (call, budget) ∈ gateway.held := by
  simp [holders]

theorem nodup_holders (run : Run config (start config) trace gateway) (budget : BudgetRef) :
    (gateway.holders budget).Nodup := by
  apply List.Nodup.map_on
  · rintro ⟨left, leftBudget⟩ leftMember ⟨right, rightBudget⟩ rightMember same
    obtain ⟨-, rfl⟩ : _ ∧ leftBudget = budget := by simpa using leftMember
    obtain ⟨-, rfl⟩ : _ ∧ rightBudget = leftBudget := by simpa using rightMember
    exact congrArg (·, rightBudget) same
  · exact (nodup_held run).filter _

theorem length_holders (run : Run config (start config) trace gateway) (budget : BudgetRef) :
    (gateway.holders budget).length = (gateway.budgets budget).outstanding := by
  rw [holders, List.length_map, ← List.countP_eq_length_filter, balanced_run run budget]

theorem admitting_holds (run : Run config (start config) trace gateway) {identity : ClientIdentity}
    {action : Action} (admitting : gateway.lock = .admitting call identity action)
    (budget : BudgetRef) : (call, budget) ∉ gateway.held := by
  have none := (acquires_run run call).2 (.inr ⟨identity, action, admitting⟩)
  have balance := (permits_balance run call budget).1
  have issued := issued_permits trace call budget
  intro member
  have held := List.count_pos_iff.mpr member
  omega

theorem maximum_step (step : Step config before event after)
    (constant : event.changes budget = false) :
    (after.budgets budget).maximum = (before.budgets budget).maximum := by
  rcases adjusted_step step budget with ⟨adjusted, -⟩ | ⟨maximum, rfl, resized⟩
  · generalize after.budgets budget = observed at adjusted
    cases adjusted <;> rfl
  · rw [resized, Snapshot.setMaximum_maximum]
    simp only [Event.changes, decide_true, Bool.true_and, decide_eq_false_iff_not,
      not_not] at constant
    exact constant.symm

end Gateway

namespace Dispatcher

/-! ## The composition -/

/-- How a dispatcher and a gateway are connected. -/
structure Wiring (Action : Type) where
  /-- Configuration of the dispatcher. -/
  settings : Settings
  /-- Configuration of the gateway. -/
  config : Config Action
  /-- The budget whose traffic the dispatcher carries. -/
  budget : BudgetRef
  /-- The request of an attempt at the gateway. -/
  callOf : AttemptId → ReplyId
  /-- How clients read the bytes of a body. -/
  parse : List UInt8 → Option Json

/-- A dispatcher and a gateway. -/
structure Pair (Action : Type) where
  /-- The dispatcher. -/
  dispatcher : Dispatcher
  /-- The gateway. -/
  gateway : Gateway Action

/-- An event of the composition. -/
inductive PairEvent (Action : Type) where
  /-- The dispatcher moves. -/
  | dispatcher (event : Event)
  /-- The gateway moves. -/
  | gateway (event : AiProtocol.Event Action)

/-- The event depends on nothing at the gateway. -/
def Event.isLocal : Event → Bool
  | .policy _ => false
  | .return _ _ => false
  | _ => true

/-- A request belongs to an attempt in flight. -/
def Flies (dispatcher : Dispatcher) (callOf : AttemptId → ReplyId) (call : ReplyId) : Prop :=
  ∃ task ∈ dispatcher.running, task.inFlight ∧ callOf task.attempt.id = call

/-- One step of the composition: policies tell the ceiling of the budget, which does not change,
attempts return with the answer of the gateway, and requests on the budget are attempts in flight.
-/
inductive PairStep {Action : Type} (wiring : Wiring Action) :
    Pair Action → PairEvent Action → Pair Action → Prop
  | dispatcher (pair : Pair Action) (event : Event) (after : Dispatcher)
      (own : event.isLocal = true) (step : Step wiring.settings pair.dispatcher event after) :
      PairStep wiring pair (.dispatcher event) { pair with dispatcher := after }
  | policy (pair : Pair Action) (policy : Policy) (after : Dispatcher)
      (published : policy.limits.maxOutstanding = (pair.gateway.budgets wiring.budget).maximum)
      (step : Step wiring.settings pair.dispatcher (.policy policy) after) :
      PairStep wiring pair (.dispatcher (.policy policy)) { pair with dispatcher := after }
  | return (pair : Pair Action) (attempt : Attempt) (response : Response) (after : Dispatcher)
      (answered : pair.gateway.calls (wiring.callOf attempt.id) = .answered response)
      (step : Step wiring.settings pair.dispatcher
        (.return attempt (.ok (response.wire wiring.parse))) after) :
      PairStep wiring pair (.dispatcher (.return attempt (.ok (response.wire wiring.parse))))
        { pair with dispatcher := after }
  | gateway (pair : Pair Action) (event : AiProtocol.Event Action) (after : Gateway Action)
      (constant : event.changes wiring.budget = false)
      (carried : ∀ call identity action, event = .submit call identity action →
        identity.budget = wiring.budget → pair.dispatcher.Flies wiring.callOf call)
      (step : AiProtocol.Step wiring.config pair.gateway event after) :
      PairStep wiring pair (.gateway event) { pair with gateway := after }

/-- A run of the composition. -/
abbrev PairRun {Action : Type} (wiring : Wiring Action) := Labelled.Execution (PairStep wiring)

/-- The composition before anything happened. -/
def Pair.start {Action : Type} (wiring : Wiring Action) : Pair Action where
  dispatcher := .start
  gateway := .start wiring.config

/-- What the dispatcher did. -/
def PairEvent.ofDispatcher {Action : Type} : PairEvent Action → List Event
  | .dispatcher event => [event]
  | .gateway _ => []

/-- What the gateway did. -/
def PairEvent.ofGateway {Action : Type} : PairEvent Action → List (AiProtocol.Event Action)
  | .dispatcher _ => []
  | .gateway event => [event]

variable {Action : Type} {wiring : Wiring Action} {path : List (PairEvent Action)}
  {before after pair : Pair Action} {call : ReplyId}

private theorem dispatcher_run (run : PairRun wiring (.start wiring) path pair) :
    Run wiring.settings start (path.flatMap PairEvent.ofDispatcher) pair.dispatcher := by
  refine run.simulate Pair.dispatcher PairEvent.ofDispatcher ?_
  intro trace before after event earlier step
  cases step with
  | dispatcher event after own step => exact .single step
  | policy policy after published step => exact .single step
  | «return» attempt response after answered step => exact .single step
  | gateway => exact .refl _

theorem gateway_run (run : PairRun wiring (.start wiring) path pair) :
    AiProtocol.Run wiring.config (Gateway.start wiring.config) (path.flatMap PairEvent.ofGateway)
      pair.gateway := by
  refine run.simulate Pair.gateway PairEvent.ofGateway ?_
  intro trace before after event earlier step
  cases step with
  | gateway event after constant carried step => exact .single step
  | _ => exact .refl _

/-! ## Permits and attempts -/

/-- Attempts stay in flight until they return. -/
theorem flight_kept {settings : Settings} {before after : Dispatcher} {event : Event}
    (step : Step settings before event after) {task : HttpTask} (member : task ∈ before.running)
    (flying : task.inFlight) :
    task ∈ after.running ∨ ∃ result, event = .return task.attempt result := by
  have kept : ∀ {front back : List HttpTask} {moved : HttpTask} (moved' : HttpTask),
      task ∈ front ++ moved :: back → task = moved ∨ task ∈ front ++ moved' :: back := by
    intro front back moved moved' inside
    rcases List.mem_append.mp inside with early | here
    · exact .inr (List.mem_append_left _ early)
    · rcases List.mem_cons.mp here with same | late
      · exact .inl same
      · exact .inr (List.mem_append_right _ (List.mem_cons_of_mem _ late))
  cases step with
  | receive holder number result awaiting sent =>
      rw [resume_running]
      exact .inl member
  | begin => exact .inl (List.mem_append_left _ member)
  | «return» front back attempt result sending =>
      rw [sending] at member
      rcases kept { attempt, stage := .returned result } member with rfl | still
      · exact .inr ⟨result, rfl⟩
      · exact .inl still
  | mark front back attempt result returned =>
      rw [returned] at member
      exact .inl ((kept { attempt, stage := .marked result } member).resolve_left
        (by rintro rfl; cases flying))
  | release front back attempt result marked =>
      rw [marked] at member
      exact .inl ((kept { attempt, stage := .released result } member).resolve_left
        (by rintro rfl; cases flying))
  | reply front back attempt result released =>
      rw [released] at member
      rcases List.mem_append.mp member with early | here
      · exact .inl (List.mem_append_left _ early)
      · rcases List.mem_cons.mp here with rfl | late
        · cases flying
        · exact .inl (List.mem_append_right _ late)
  | _ => exact .inl member

/-- Whoever asks for a permit of the budget is an attempt in flight. -/
def Carried (wiring : Wiring Action) (pair : Pair Action) : Prop :=
  ∀ call, pair.gateway.Asks wiring.budget call → pair.dispatcher.Flies wiring.callOf call

theorem Carried.step (earlier : PairRun wiring (.start wiring) path before)
    (carried : Carried wiring before) {event : PairEvent Action}
    (step : PairStep wiring before event after) : Carried wiring after := by
  intro call asks
  cases step with
  | dispatcher event after own step =>
      obtain ⟨task, member, flying, same⟩ := carried call asks
      rcases flight_kept step member flying with still | ⟨result, rfl⟩
      · exact ⟨task, still, flying, same⟩
      · cases own
  | policy policy after published step =>
      obtain ⟨task, member, flying, same⟩ := carried call asks
      rcases flight_kept step member flying with still | ⟨result, returned⟩
      · exact ⟨task, still, flying, same⟩
      · cases returned
  | «return» attempt response after answered step =>
      obtain ⟨task, member, flying, same⟩ := carried call asks
      rcases flight_kept step member flying with still | ⟨result, returned⟩
      · exact ⟨task, still, flying, same⟩
      · obtain ⟨rfl, -⟩ := Event.return.inj returned
        rw [same] at answered
        have settled : ¬before.gateway.Asks wiring.budget call :=
          Gateway.asks_answered (gateway_run earlier) answered
        exact absurd asks settled
  | gateway event after constant fresh step =>
      rcases Gateway.asks_step (Gateway.idle_run (gateway_run earlier)) step asks with
        already | ⟨identity, action, submitted, own⟩
      · exact carried call already
      · exact fresh call identity action submitted own

theorem carried_run (run : PairRun wiring (.start wiring) path pair) : Carried wiring pair := by
  refine run.invariantTrace (fun _ pair => Carried wiring pair) ?_ fun earlier carried step =>
    carried.step earlier step
  rintro call (⟨identity, action, -, submitted | admitting⟩ | holds)
  · cases submitted
  · cases admitting
  · cases holds

theorem calls_le {dispatcher : Dispatcher} {callOf : AttemptId → ReplyId} {calls : List ReplyId}
    (nodup : calls.Nodup) (flying : ∀ call ∈ calls, dispatcher.Flies callOf call) :
    calls.length ≤ dispatcher.running.countP HttpTask.inFlight := by
  have subset : calls ⊆ (dispatcher.running.filter HttpTask.inFlight).map
      fun task => callOf task.attempt.id := by
    intro call member
    obtain ⟨task, inside, flies, same⟩ := flying call member
    exact List.mem_map.mpr ⟨task, List.mem_filter.mpr ⟨inside, flies⟩, same⟩
  have short := (List.subperm_of_subset nodup subset).length_le
  rwa [List.length_map, ← List.countP_eq_length_filter] at short


theorem outstanding_le (run : PairRun wiring (.start wiring) path pair) :
    (pair.gateway.budgets wiring.budget).outstanding ≤
      pair.dispatcher.running.countP HttpTask.inFlight := by
  rw [← Gateway.length_holders (gateway_run run) wiring.budget]
  apply calls_le (Gateway.nodup_holders (gateway_run run) wiring.budget)
  intro call member
  exact carried_run run call (.inr (Gateway.mem_holders.mp member))

private theorem outstanding_lt (run : PairRun wiring (.start wiring) path pair)
    {identity : ClientIdentity}
    {action : Action} (admitting : pair.gateway.lock = .admitting call identity action)
    (own : identity.budget = wiring.budget) :
    (pair.gateway.budgets wiring.budget).outstanding <
      pair.dispatcher.running.countP HttpTask.inFlight := by
  rw [← Gateway.length_holders (gateway_run run) wiring.budget]
  have fresh : call ∉ pair.gateway.holders wiring.budget := by
    rw [Gateway.mem_holders]
    exact Gateway.admitting_holds (gateway_run run) admitting wiring.budget
  have nodup := List.nodup_cons.mpr
    ⟨fresh, Gateway.nodup_holders (gateway_run run) wiring.budget⟩
  have flying : ∀ other ∈ call :: pair.gateway.holders wiring.budget,
      pair.dispatcher.Flies wiring.callOf other := by
    intro other member
    rcases List.mem_cons.mp member with same | holds
    · rw [same]
      exact carried_run run call (.inl ⟨identity, action, own, .inr admitting⟩)
    · exact carried_run run other (.inr (Gateway.mem_holders.mp holds))
  exact calls_le nodup flying

theorem gate_bound {settings : Settings} {before after : Dispatcher} {event : Event}
    (step : Step settings before event after) {ceiling : Nat}
    (published : ∀ policy, event = .policy policy → policy.limits.maxOutstanding = ceiling)
    (bound : before.gate.maximum ≤ ceiling ∧ before.gate.active ≤ ceiling) :
    after.gate.maximum ≤ ceiling ∧ after.gate.active ≤ ceiling := by
  have released : before.gate.release.active ≤ before.gate.active := Nat.sub_le _ _
  cases step with
  | policy policy gate applied =>
      obtain ⟨maximum, active, -⟩ := Gate.apply_eq_ok applied
      rw [maximum, active, published policy rfl]
      exact ⟨le_rfl, bound.2⟩
  | acquire attempt gate waiting acquired =>
      obtain ⟨room, rfl⟩ := Gate.acquire_eq_ok acquired
      exact ⟨bound.1, room.trans_le bound.1⟩
  | yield declined => exact ⟨bound.1, released.trans bound.2⟩
  | release front back attempt result marked => exact ⟨bound.1, released.trans bound.2⟩
  | receive holder number result awaiting sent =>
      rw [resume_gate]
      exact bound
  | _ => exact bound

/-- The ceiling of the budget bounds the gate. -/
structure Bounded (wiring : Wiring Action) (pair : Pair Action) : Prop where
  /-- The ceiling does not change. -/
  ceiling : (pair.gateway.budgets wiring.budget).maximum = wiring.config.maximum wiring.budget
  /-- The gate knows it, or nothing. -/
  gate : pair.dispatcher.gate.maximum ≤ wiring.config.maximum wiring.budget ∧
    pair.dispatcher.gate.active ≤ wiring.config.maximum wiring.budget

theorem Bounded.step {event : PairEvent Action} (bounded : Bounded wiring before)
    (step : PairStep wiring before event after) : Bounded wiring after := by
  obtain ⟨ceiling, gate⟩ := bounded
  cases step with
  | dispatcher event after own step =>
      refine ⟨ceiling, gate_bound step ?_ gate⟩
      rintro policy rfl
      cases own
  | policy policy after published step =>
      refine ⟨ceiling, gate_bound step ?_ gate⟩
      rintro _ ⟨rfl⟩
      exact published.trans ceiling
  | «return» attempt response after answered step =>
      exact ⟨ceiling, gate_bound step nofun gate⟩
  | gateway event after constant carried step =>
      exact ⟨(Gateway.maximum_step step constant).trans ceiling, gate⟩

theorem bounded_run (run : PairRun wiring (.start wiring) path pair) : Bounded wiring pair :=
  run.invariant (Bounded wiring) Bounded.step ⟨rfl, Nat.zero_le _, Nat.zero_le _⟩

private theorem active_run (run : PairRun wiring (.start wiring) path pair) :
    pair.dispatcher.running.countP HttpTask.inFlight ≤ pair.dispatcher.gate.active := by
  rw [counts_run (dispatcher_run run)]
  exact inFlight_le pair.dispatcher

/-- A dispatcher which carries all traffic of a budget never throttles itself: the budget is used by
no more requests than the gate counts active attempts, those stay below the ceiling, and no request
on the budget is ever told that it is exhausted. -/
theorem sole_dispatcher (run : PairRun wiring (.start wiring) path pair) :
    (pair.gateway.budgets wiring.budget).outstanding ≤ pair.dispatcher.gate.active ∧
      pair.dispatcher.gate.active ≤ wiring.config.maximum wiring.budget ∧
      ∀ call identity action, .gateway (.submit call identity action) ∈ path →
        identity.budget = wiring.budget → .gateway (.exhausted call) ∉ path := by
  refine ⟨(outstanding_le run).trans (active_run run), (bounded_run run).gate.2, ?_⟩
  intro call identity action submitted own exhausted
  obtain ⟨front, back, middle, next, rfl, earlier, step, -⟩ := run.step_of_mem exhausted
  cases step with
  | gateway event after constant carried step =>
      cases step with
      | exhausted caller asked wanted admitting idle full =>
          have whole := gateway_run run
          have later := List.mem_flatMap_of_mem submitted
            (show .submit call identity action ∈ PairEvent.ofGateway _ from List.mem_cons_self)
          rw [List.flatMap_append] at whole later
          have before := Gateway.asked_run (gateway_run earlier) (.inr admitting)
          obtain rfl : asked = identity :=
            Gateway.submitted_unique whole (List.mem_append_left _ before) later
          have room := outstanding_lt earlier admitting own
          have bound := (active_run earlier).trans (bounded_run earlier).gate.2
          rw [own, Snapshot.tryAcquireObserved_eq_none, (bounded_run earlier).ceiling] at full
          omega

def Wiring.single : Wiring Unit where
  settings := .single
  config := .arbitrary 1
  budget := 7
  callOf := Prod.fst
  parse _ := none

/-- An attempt in flight holds the only permits of the gate and of the budget. -/
theorem sole_dispatcher_sample : ∃ (path : List (PairEvent Unit)) (pair : Pair Unit),
    PairRun .single (.start .single) path pair ∧
      (pair.gateway.budgets 7).outstanding = 1 ∧ pair.dispatcher.gate.active = 1 ∧
        .gateway (.exhausted 0) ∉ path := by
  have begun : PairRun .single (.start .single) [] _ := .refl _
  have accepted := begun.tail (.dispatcher _ _ _ rfl
    (.accept _ 0 { request := some task, remaining := some 1000 } task 1000 rfl rfl))
  have taken := (accepted.tail (.dispatcher _ _ _ rfl
    (.enqueue _ 0 1 taskAttempt rfl nofun (by decide) rfl))).tail
    (.dispatcher _ _ _ rfl (.take _ taskAttempt [] rfl rfl))
  have granted := (taken.tail (.policy _ frugal _ rfl (.policy _ frugal _ rfl))).tail
    (.dispatcher _ _ _ rfl (.acquire _ taskAttempt _ rfl rfl))
  have sent := (granted.tail (.dispatcher _ _ _ rfl
    (.check _ taskAttempt rfl fun closed => closed rfl))).tail
    (.dispatcher _ _ _ rfl (.begin _ taskAttempt _ rfl rfl))
  have submitted := sent.tail (.gateway _ (.submit 0 ⟨"owner", .agent, [], 7⟩ ()) _ rfl ?_
    (.submit _ 0 ⟨"owner", .agent, [], 7⟩ () rfl trivial nofun))
  · have entered := submitted.tail (.gateway _ (.enter 0 (fun _ => false) 0) _ rfl nofun
      (.enter _ 0 _ _ (fun _ => false) rfl rfl rfl nofun))
    have held := entered.tail (.gateway _ (.acquire 0 7) _ rfl nofun
      (.acquire _ 0 ⟨"owner", .agent, [], 7⟩ () _ rfl rfl rfl))
    obtain ⟨-, -, never⟩ := sole_dispatcher held
    exact ⟨_, _, held, rfl, rfl, never 0 ⟨"owner", .agent, [], 7⟩ () (by simp) rfl⟩
  · rintro call identity action ⟨rfl, rfl, rfl⟩ -
    exact ⟨{ attempt := taskAttempt, stage := .sending }, List.mem_singleton.mpr rfl, rfl, rfl⟩

end Dispatcher

end AiProtocol
