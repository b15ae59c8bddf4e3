import AiProtocol.EndToEnd.Relay
import AiProtocol.Sdk.Certainty

/-!
# The Python client in front of the gateway

The client makes its calls of the gateway itself, or submits them to a dispatcher in front of the
gateway.  Either way the gateway executes a call at most once, nothing that was reported as not
started, and exactly once what returned a value.
-/

namespace AiProtocol

namespace Sdk

open Labelled Network

variable {settings : Settings}

/-! ## Values -/

/-- An answer from which a call takes a value. -/
def Answer.Yields (value : Json) : Answer → Prop
  | .response answer => answer.isSuccess = true ∧ answer.body = some value
  | .reply answer => answer.ok = true ∧ answer.body.getD .null = value

namespace Attempts

/-- One of the attempts was answered with a value. -/
def Yields (attempts : Attempts) (value : Json) : Prop :=
  ∃ number answer, (attempts number).answer = some answer ∧ answer.Yields value

/-- No answer is lost. -/
def Keeps (before after : Attempts) : Prop :=
  ∀ number answer, (before number).answer = some answer → (after number).answer = some answer

theorem keeps_afterSend (attempts : Attempts) (call : Call) :
    attempts.Keeps (attempts.afterSend call) := by
  intro number answer answered
  unfold afterSend
  split
  · by_cases same : number = call.number
    · subst same
      rwa [Function.update_self]
    · rwa [Function.update_of_ne same]
  · exact answered

end Attempts

/-- A value which is returned was answered. -/
def Ending.Backed (attempts : Attempts) (ending : Ending) : Prop :=
  ∀ value, ending = .returned value → attempts.Yields value

/-- What leaves an attempt was answered to it. -/
def Outcome.Backed (attempts : Attempts) : Outcome → Prop
  | .response answer => ∃ number, attempts.Answered number answer
  | .ended ending => ending.Backed attempts

/-- What a call brings was answered to one of its attempts. -/
def Call.Backed (attempts : Attempts) (call : Call) : Prop :=
  match call.point with
  | .hangingUp result => (result.outcome call).Backed attempts
  | .lockLeave outcome => outcome.Backed attempts
  | .done ending => ending.Backed attempts
  | _ => True

section Values

variable {attempts before after : Attempts} {call : Call} {client : Client}

theorem Outcome.Backed.keep {outcome : Outcome} (backed : outcome.Backed before)
    (keeps : before.Keeps after) : outcome.Backed after := by
  cases outcome with
  | response response =>
      obtain ⟨number, answered⟩ := backed
      exact ⟨number, keeps number _ answered⟩
  | ended ending =>
      intro value returned
      obtain ⟨number, answer, answered, yields⟩ := backed value returned
      exact ⟨number, answer, keeps number answer answered, yields⟩

theorem Call.Backed.keep (backed : call.Backed before) (keeps : before.Keeps after) :
    call.Backed after := by
  unfold Call.Backed at backed ⊢
  split at backed
  · exact Outcome.Backed.keep backed keeps
  · exact Outcome.Backed.keep backed keeps
  · rename_i ending _
    have ended : (Outcome.ended ending).Backed before := backed
    exact ended.keep keeps
  · trivial

theorem Call.Backed.of_interruption (interrupt : Interrupt) :
    (call.interruption interrupt).Backed attempts := by
  cases interrupt <;> exact fun _ => nofun

/-- A turn returns the body of a success. -/
theorem conclude_backed (left : Nat) {outcome : Outcome} (backed : outcome.Backed attempts) :
    (call.conclude left outcome).Backed attempts := by
  cases outcome with
  | ended ending => exact backed
  | response response =>
      obtain ⟨number, answered⟩ := backed
      unfold Call.conclude
      dsimp only
      cases turned : turn call.number left response with
      | sleeps seconds => trivial
      | ends ending =>
          rintro value rfl
          refine ⟨number, .response response, answered, ?_⟩
          unfold turn at turned
          split at turned
          · rename_i success
            cases body : response.body with
            | none => simp [body] at turned
            | some content =>
                obtain rfl : content = value := by simpa [body] using turned
                exact ⟨success, body⟩
          · exfalso
            split at turned
            · simp at turned
            · split at turned
              · simp at turned
              · split at turned <;> simp at turned

theorem leave_backed (left : Nat) {outcome : Outcome} (backed : outcome.Backed attempts) :
    (leave settings client call left outcome).call.Backed attempts := by
  have concluded : (call.conclude left outcome).Backed attempts := conclude_backed left backed
  unfold leave
  split
  · exact concluded
  · split
    · exact backed
    · exact concluded

private theorem attempt_backed (surroundings : Surroundings) (descriptor : Json) :
    (attempt settings client call surroundings descriptor).call.Backed attempts := by
  unfold attempt
  cases settings.validates descriptor call.params with
  | error error => exact leave_backed _ fun _ => nofun
  | ok valid =>
      cases valid with
      | false => exact leave_backed _ fun _ => nofun
      | true =>
          dsimp only
          split
          · cases surroundings.prelude with
            | refused code => exact leave_backed _ fun _ => nofun
            | raised error => exact leave_backed _ fun _ => nofun
            | connects => trivial
          · trivial

theorem check_backed (surroundings : Surroundings) :
    (check settings client call surroundings).call.Backed attempts := by
  unfold check
  split
  · exact fun _ => nofun
  · split
    · split
      · exact fun _ => nofun
      · dsimp only
        split
        · exact fun _ => nofun
        · exact attempt_backed surroundings _
    · trivial

private theorem enter_backed (surroundings : Surroundings) :
    (enter settings client call surroundings).call.Backed attempts := by
  unfold enter
  split
  · trivial
  · exact check_backed surroundings

theorem wake_backed (surroundings : Surroundings) (interrupt : Option Interrupt) :
    (wake settings client call surroundings interrupt).call.Backed attempts := by
  unfold wake
  split
  · trivial
  · cases interrupt with
    | none => exact check_backed surroundings
    | some interrupt => exact Call.Backed.of_interruption interrupt

theorem backed_reply {reply : Dispatcher.Reply}
    (answered : reply.ok = true → ∃ number, (attempts number).answer = some (.reply reply)) :
    (Connected.outcome call (.reply reply)).Backed attempts := by
  unfold Connected.outcome
  dsimp only
  split
  · rename_i success
    obtain ⟨number, answered⟩ := answered success
    rintro value ⟨⟩
    exact ⟨number, .reply reply, answered, success, rfl⟩
  · exact fun _ => nofun

/-- A call which goes on brings nothing it was not answered. -/
theorem resume_backed (backed : call.Backed attempts) {surroundings : Surroundings} {input : Input}
    {segment : Segment}
    (resuming : resume settings client call surroundings (attempts call.number).answer input =
      some segment) : segment.call.Backed attempts := by
  cases resumes_of_resume resuming with
  | enters | retries => exact enter_backed surroundings
  | notified => exact wake_backed surroundings none
  | stirred notified interrupt => exact wake_backed surroundings interrupt
  | wakes interrupt => exact wake_backed surroundings interrupt
  | delayed | connects => trivial
  | responds response point answered => exact leave_backed _ ⟨call.number, answered⟩
  | fails | raises => exact leave_backed _ fun _ => nofun
  | unreachable => exact leave_backed _ (backed_reply nofun)
  | replies reply point answered =>
      refine backed_reply fun success => ?_
      split at success
      · rename_i checked
        rw [if_pos checked]
        exact ⟨call.number, answered⟩
      · cases success
  | loses =>
      have lost : (Connected.outcome call
          (.reply (connectionError "dispatcher_response_lost" "unknown"))).Backed attempts :=
        backed_reply nofun
      exact lost
  | fallsOver => exact fun _ => nofun
  | cutOff interrupt => exact Call.Backed.of_interruption interrupt
  | hungUp result point =>
      simp only [Call.Backed, point] at backed
      exact leave_backed _ backed
  | interrupted interrupt => exact leave_backed _ (Call.Backed.of_interruption interrupt)
  | blocked => exact backed
  | settles outcome point =>
      simp only [Call.Backed, point] at backed
      exact conclude_backed _ backed
  | abandons interrupt => exact Call.Backed.of_interruption interrupt

private theorem lasting_backed : Lasting Call.Backed where
  notified {_ call} notify backed := by
    rcases call.notified_eq notify with same | ⟨-, waiting, changed⟩
    · rwa [same]
    · rw [changed]
      trivial
  onward onward backed := backed.keep fun number => (onward number).2

private theorem returned_run {trace : List Event} {system : System}
    (run : Run settings .start trace system)
    {id : Nat} {value : Json} (found : system.calls[id]? = some call)
    (returned : call.point = .done (.returned value)) : (system.attempts id).Yields value := by
  have every : system.Every Call.Backed := by
    refine run.invariant (System.Every Call.Backed) ?_ ⟨by simp [System.start], fun _ _ _ => rfl⟩
    intro before after event every step
    refine every.step lasting_backed step ?_ ?_ ?_
    · intro attempts operation params frames surroundings unsent
      exact (enter_backed surroundings).keep (Attempts.keeps_afterSend attempts _)
    · intro attempts operation params frames ending unsent refusal
      cases refusal <;> (intro value ended; cases ended)
    · intro front back call surroundings input segment here same resuming backed
      exact (resume_backed backed resuming).keep (Attempts.keeps_afterSend _ _)
  have backed := every.calls id call found
  rw [Call.Backed, returned] at backed
  exact backed value rfl

end Values

/-! ## Links -/

private theorem sent_resumed {system : System} (front back : List Call) (segment : Segment)
    (exchange : Nat × Nat) :
    (system.resumed front back segment).exchanges exchange =
      { system.exchanges exchange with
        sent := (system.exchanges exchange).sent ||
          ((system.resumed front back segment).exchanges exchange).sent } := by
  unfold System.resumed
  dsimp only
  split
  · by_cases same : exchange = (front.length, segment.call.number)
    · simp [same]
    · simp [Function.update_of_ne same]
  · simp

/-- The attempts and submissions of the Python client are calls. -/
def client (settings : Settings) :
    Network.Client (Step settings) .start (Nat × Nat) Answer.Denies where
  calls system := system.exchanges
  receive system exchanges := { system with exchanges }
  remote exchange event := .remote exchange event
  fresh := rfl
  calls_receive _ _ := rfl
  receive_receive _ _ _ := rfl
  receive_calls _ := rfl
  happens distinct calls := by
    cases calls with
    | step after acts => exact .remote _ _ _ _ distinct acts
  sends own moves call := by
    cases moves with
    | begin | resume => exact sent_resumed _ _ _ call
    | remote exchange event => exact absurd rfl (own exchange event)
    | refresh | renew => simp [System.refreshed]
    | _ => simp

/-- The event is none of the network. -/
def Event.isOwn : Event → Bool
  | .remote _ _ => false
  | _ => true

theorem ne_remote {event : Event} (own : event.isOwn = true) (exchange : Nat × Nat)
    (happening : Exchange.Event Answer) : event ≠ (client settings).remote exchange happening := by
  rintro rfl
  cases own

section Linked

variable {State Label Request : Type} [DecidableEq Request] {step : State → Label → State → Prop}
  {start : State} {service : Network.Service step start Request Answer.Denies}
  {link : Nat × Nat → Request} {state later : System × State} {trace more : List (Event ⊕ Label)}

theorem linked_exchange
    (run : Labelled.Execution (Linked (client settings) service link) (.start, start) trace state)
    (exchange : Nat × Nat) :
    (state.1.exchanges exchange).executed = (service.view state.2 (link exchange)).executed ∧
      (state.1.exchanges exchange).answer = (service.view state.2 (link exchange)).answer := by
  have agree : state.1.exchanges exchange = Exchange.deliver ((client settings).sent state.1)
      (service.view state.2 ∘ link) exchange :=
    congrFun (Linked.matched_run run).agree exchange
  rw [agree]
  exact ⟨rfl, rfl⟩

theorem linked_once (injective : Function.Injective link)
    (run : Labelled.Execution (Linked (client settings) service link) (.start, start) trace state)
    {id first second : Nat} (left : (service.view state.2 (link (id, first))).executed = true)
    (right : (service.view state.2 (link (id, second))).executed = true) : first = second := by
  obtain ⟨events, gone⟩ := Linked.near_run injective (.refl _) run
  have certain := certain_run gone
  rw [← (linked_exchange run (id, first)).1] at left
  rw [← (linked_exchange run (id, second)).1] at right
  obtain ⟨call, basis⟩ := certain.basis_of_sent ((certain.sound _).sent left)
  rw [certain.last_of_executed basis left, certain.last_of_executed basis right]

theorem linked_unexecuted (injective : Function.Injective link)
    (run : Labelled.Execution (Linked (client settings) service link) (.start, start) trace state)
    (future : Labelled.Execution (Linked (client settings) service link) state more later)
    {id : Nat} {call : Call} {ending : Ending} (found : state.1.calls[id]? = some call)
    (ended : call.point = .done ending) (claimed : ending.NotStarted) (number : Nat) :
    (service.view later.2 (link (id, number))).executed = false := by
  obtain ⟨events, gone⟩ := Linked.near_run injective (.refl _) run
  obtain ⟨events', goes⟩ := Linked.near_run injective run future
  have certain := certain_run (gone.trans goes)
  have still := done_run goes (by rw [found, Option.map_some, ended])
  obtain ⟨final, kept, done⟩ := Option.map_eq_some_iff.mp still
  have aware := (certain.calls id final kept).aware
  simp only [Call.Aware, done] at aware
  rw [← (linked_exchange (run.trans future) (id, number)).1]
  exact certain.unexecuted (aware claimed) number

theorem linked_returned (injective : Function.Injective link)
    (run : Labelled.Execution (Linked (client settings) service link) (.start, start) trace state)
    {id : Nat} {call : Call} {value : Json} (found : state.1.calls[id]? = some call)
    (returned : call.point = .done (.returned value)) :
    ∃ number answer, (service.view state.2 (link (id, number))).answer = some answer ∧
      answer.Yields value := by
  obtain ⟨events, gone⟩ := Linked.near_run injective (.refl _) run
  obtain ⟨number, answer, answered, yields⟩ := returned_run gone found returned
  refine ⟨number, answer, ?_, yields⟩
  rw [← (linked_exchange run (id, number)).2]
  exact answered

end Linked

/-! ## The client and the gateway -/

/-- A Python client and the gateway behind it. -/
abbrev Direct := System × Gateway.Recording TaskAction

section Direct

variable (settings : Settings) (deployment : Deployment) (parse : List UInt8 → Option Json)
  (callOf : Nat × Nat → ReplyId)

/-- The gateway answers the attempts of a Python client. -/
def Direct.service :
    Network.Service (Gateway.RecordedStep deployment.config) ([], Gateway.start deployment.config)
      ReplyId Answer.Denies :=
  (Gateway.service deployment.truthful parse).map Answer.response fun _ => .rfl

/-- A run of a Python client linked to a gateway, which may serve others. -/
abbrev DirectRun :=
  Labelled.Execution (Linked (client settings) (Direct.service deployment parse) callOf)

/-- Before anything happened. -/
abbrev Direct.start : Direct :=
  (.start, [], Gateway.start deployment.config)

/-- How often the gateway executed an attempt. -/
def Direct.executions (direct : Direct) (attempt : Nat × Nat) : Nat :=
  direct.2.1.countP (AiProtocol.Event.executes (callOf attempt))

variable {settings deployment parse callOf} {direct later : Direct}
  {trace more : List (Event ⊕ AiProtocol.Event TaskAction)}

theorem Direct.gateway_run
    (run : DirectRun settings deployment parse callOf (Direct.start deployment) trace direct) :
    AiProtocol.Run deployment.config (Gateway.start deployment.config) direct.2.1 direct.2.2 := by
  obtain ⟨same, gone⟩ := recorded_run (Linked.far_run run)
  rwa [same]

theorem Direct.executed_iff (parse : List UInt8 → Option Json) {attempt : Nat × Nat} :
    (Gateway.exchange parse direct.2.1 direct.2.2 (callOf attempt)).executed = true ↔
      0 < direct.executions callOf attempt := by
  rw [Direct.executions, List.countP_pos_iff]
  exact List.any_eq_true

/-- A call of the Python client and the gateway.  At most one of its attempts is executed, and once;
none is, however the system goes on, once it reported that nothing started; and what it returns is
the body of a successful response of the gateway to the attempt which was executed. -/
theorem direct_truth (injective : Function.Injective callOf)
    (run : DirectRun settings deployment parse callOf (Direct.start deployment) trace direct)
    (future : DirectRun settings deployment parse callOf direct more later) (id : Nat) :
    (∀ number, later.executions callOf (id, number) ≤ 1) ∧
      (∀ first second, 0 < later.executions callOf (id, first) →
        0 < later.executions callOf (id, second) → first = second) ∧
      (∀ call ending, direct.1.calls[id]? = some call → call.point = .done ending →
        ending.NotStarted → ∀ number, later.executions callOf (id, number) = 0) ∧
      ∀ call value, direct.1.calls[id]? = some call → call.point = .done (.returned value) →
        ∃ number response, direct.2.2.calls (callOf (id, number)) = .answered response ∧
          response.isSuccess = true ∧ (response.wire parse).body = some value ∧
            direct.executions callOf (id, number) = 1 := by
  have whole := run.trans future
  refine ⟨fun number => (Gateway.executes_once (Direct.gateway_run whole) _).1,
    fun first second left right => ?_, fun call ending found ended claimed number => ?_,
    fun call value found returned => ?_⟩
  · exact linked_once injective whole ((Direct.executed_iff parse).mpr left)
      ((Direct.executed_iff parse).mpr right)
  · by_contra counted
    have executed : ((Direct.service deployment parse).view later.2
        (callOf (id, number))).executed = true :=
      (Direct.executed_iff parse).mpr (Nat.pos_of_ne_zero counted)
    rw [linked_unexecuted injective run future found ended claimed number] at executed
    cases executed
  · obtain ⟨number, answer, answered, yields⟩ := linked_returned injective run found returned
    obtain ⟨reply, told, rfl⟩ := Option.map_eq_some_iff.mp answered
    obtain ⟨success, body⟩ := yields
    have executed := Gateway.executed_of_success deployment.truthful (Direct.gateway_run run) told
      success
    obtain ⟨response, handled, rfl⟩ := Gateway.answer_exchange.mp told
    have once := (Gateway.executes_once (Direct.gateway_run run) (callOf (id, number))).1
    exact ⟨number, response, handled, success, body,
      Nat.le_antisymm once ((Direct.executed_iff parse).mp executed)⟩

/-- The gateway executes a call, which returns what was answered. -/
theorem direct_truth_sample : ∃ (direct : Direct) (call : Call) (value : Json),
    direct.1.calls[0]? = some call ∧ call.point = .done (.returned value) ∧
      ∃ number response, direct.2.2.calls (Dispatcher.paired (0, number)) = .answered response ∧
        response.isSuccess = true ∧ (response.wire Dispatcher.nullBody).body = some value ∧
          direct.executions Dispatcher.paired (0, number) = 1 := by
  obtain ⟨asking, answer, asked, stored⟩ := informed_steps
  have begun : DirectRun lenient .echoing Dispatcher.nullBody Dispatcher.paired
      (Direct.start .echoing) [] _ := .refl _
  have ready := (begun.tail (.near _ _ _ _ (ne_remote rfl) asked)).tail
    (.near _ _ _ _ (ne_remote rfl) stored)
  have sent := ready.tail (.near _ _ _ _ (ne_remote rfl)
    (.begin informed "search" .null 60 leisure _ (.inl rfl) rfl))
  obtain ⟨history, gateway, serves⟩ := Deployment.echoing_serves (Dispatcher.paired (0, 1))
  have matched := Linked.matched_run sent
  have covers : Exchange.Covers ((client lenient).sent _) (Gateway.exchange Dispatcher.nullBody []
      (Gateway.start Deployment.echoing.config) ∘ Dispatcher.paired) := matched.covers
  have served := sent.trans (Linked.far_runs matched (.refl _) (record_run serves.run [])
    (Gateway.covers_serves Dispatcher.paired_injective covers rfl serves))
  have answer : (Gateway.exchange Dispatcher.nullBody ([] ++ history) gateway
      (Dispatcher.paired (0, 1))).answer = some (echoed.wire Dispatcher.nullBody) :=
    Gateway.answer_exchange.mpr ⟨echoed, serves.answered, rfl⟩
  let call : Call := { roomyCall with attempts := 1, mayHaveExecuted := true, point := .sending }
  let sending : Client := { informed.client with active := 1 }
  let returning := leave lenient sending call leisure.left
    (.response (echoed.wire Dispatcher.nullBody))
  have resuming := congrArg (fun answer => resume lenient sending call leisure
    (answer.map Answer.response) .answered) answer
  have told := served.tail (.near _ _ _ _ (ne_remote rfl)
    (.resume _ [] [] call leisure .answered returning rfl resuming))
  have found : returning.call.point = .done (.returned .null) := rfl
  obtain ⟨-, -, -, truth⟩ := direct_truth Dispatcher.paired_injective told (.refl _) 0
  exact ⟨_, _, .null, rfl, found, truth returning.call .null rfl found⟩

end Direct

/-! ## The client, a dispatcher and the gateway -/

/-- A Python client, its dispatcher and the gateway behind them. -/
abbrev Chain := System × Dispatcher.Relay

section Chain

variable (settings : Settings) (dispatcher : Dispatcher.Settings) (deployment : Deployment)
  (oversized : Dispatcher.Reply → Bool) (parse : List UInt8 → Option Json)
  {callOf : Dispatcher.AttemptId → ReplyId} (injective : Function.Injective callOf)
  (requestOf : Nat × Nat → Dispatcher.RequestId)

/-- A dispatcher in front of a gateway answers the submissions of a Python client. -/
noncomputable def Chain.service :
    Network.Service (Dispatcher.RelayStep dispatcher deployment parse callOf)
      (Dispatcher.Relay.start deployment) Dispatcher.RequestId Answer.Denies :=
  ((Dispatcher.service dispatcher oversized).linked (Dispatcher.client dispatcher)
    (Gateway.service deployment.truthful parse) injective).map Answer.reply fun _ => .rfl

/-- A run of a Python client linked to a dispatcher which is linked to a gateway; both may serve
others. -/
abbrev ChainRun :=
  Labelled.Execution (Linked (client settings)
    (Chain.service dispatcher deployment oversized parse injective) requestOf)

/-- Before anything happened. -/
abbrev Chain.start : Chain :=
  (.start, Dispatcher.Relay.start deployment)

variable {settings dispatcher deployment oversized parse injective requestOf} {chain later : Chain}
  {trace more : List (Event ⊕ (Dispatcher.SystemEvent ⊕ AiProtocol.Event TaskAction))}

theorem Chain.relay_run (run : ChainRun settings dispatcher deployment oversized parse injective
    requestOf (Chain.start deployment) trace chain) :
    ∃ events, Dispatcher.RelayRun dispatcher deployment parse callOf
      (Dispatcher.Relay.start deployment) events chain.2 :=
  ⟨_, Linked.far_run run⟩

theorem Chain.executed_iff (run : ChainRun settings dispatcher deployment oversized parse injective
    requestOf (Chain.start deployment) trace chain) {request : Dispatcher.RequestId} :
    ((Chain.service dispatcher deployment oversized parse injective).view chain.2
        request).executed = true ↔
      ∃ number, 0 < chain.2.executions callOf (request, number) := by
  obtain ⟨events, gone⟩ := Chain.relay_run run
  have same : ((Chain.service dispatcher deployment oversized parse injective).view chain.2
      request).executed = (Dispatcher.exchange oversized chain.2.1 request).executed := rfl
  rw [same, Dispatcher.executed_exchange]
  exact exists_congr fun number => Dispatcher.Relay.executed_iff gone (request, number)

/-- A call of the Python client, through a dispatcher, and the gateway.  The gateway executes one
attempt of all the submissions of the call at most, and once; none, however the system goes on, once
the call reported that nothing started; and what the call returns is the body of a successful
response of the gateway to the attempt which was executed. -/
theorem chain_truth (unshared : Function.Injective requestOf)
    (run : ChainRun settings dispatcher deployment oversized parse injective requestOf
      (Chain.start deployment) trace chain)
    (future : ChainRun settings dispatcher deployment oversized parse injective requestOf
      chain more later) (id : Nat) :
    (∀ attempt, later.2.executions callOf attempt ≤ 1) ∧
      (∀ first second number number',
        0 < later.2.executions callOf (requestOf (id, first), number) →
        0 < later.2.executions callOf (requestOf (id, second), number') →
          first = second ∧ number = number') ∧
      (∀ call ending, chain.1.calls[id]? = some call → call.point = .done ending →
        ending.NotStarted → ∀ submission number,
          later.2.executions callOf (requestOf (id, submission), number) = 0) ∧
      ∀ call value, chain.1.calls[id]? = some call → call.point = .done (.returned value) →
        ∃ submission number response,
          chain.2.2.2.calls (callOf (requestOf (id, submission), number)) = .answered response ∧
            response.isSuccess = true ∧ (response.wire parse).body.getD .null = value ∧
              chain.2.executions callOf (requestOf (id, submission), number) = 1 := by
  have whole := run.trans future
  obtain ⟨events, gone⟩ := Chain.relay_run run
  obtain ⟨events', goes⟩ := Chain.relay_run whole
  refine ⟨Dispatcher.Relay.executions_le goes, fun first second number number' left right => ?_,
    fun call ending found ended claimed submission number => ?_,
    fun call value found returned => ?_⟩
  · obtain rfl : first = second := linked_once unshared whole
      ((Chain.executed_iff whole).mpr ⟨number, left⟩)
      ((Chain.executed_iff whole).mpr ⟨number', right⟩)
    exact ⟨rfl, Dispatcher.Relay.executions_unique injective goes left right⟩
  · by_contra counted
    have executed := (Chain.executed_iff whole).mpr ⟨number, Nat.pos_of_ne_zero counted⟩
    rw [linked_unexecuted unshared run future found ended claimed submission] at executed
    cases executed
  · obtain ⟨submission, answer, answered, yields⟩ := linked_returned unshared run found returned
    obtain ⟨told, replied, rfl⟩ := Option.map_eq_some_iff.mp answered
    obtain ⟨reply, known, rfl⟩ := Option.map_eq_some_iff.mp replied
    obtain ⟨success, body⟩ := yields
    have fits := Dispatcher.framed_of_ok success
    rw [fits] at success body
    rcases Dispatcher.Relay.relays_run injective gone (Dispatcher.reply_eq_some.mp known) with
      silent | ⟨number, response, handled, relays, once⟩
    · rw [silent.ok] at success
      cases success
    · refine ⟨submission, number, response, handled, relays.ok.symm.trans success, ?_, once success⟩
      rw [← relays.body]
      exact body

def relayed : Settings :=
  { lenient with dispatcher := true }

/-- The gateway executes a call, and the dispatcher hands the result to the client. -/
theorem chain_truth_sample : ∃ (chain : Chain) (call : Call) (value : Json),
    chain.1.calls[0]? = some call ∧ call.point = .done (.returned value) ∧
      ∃ submission number response,
        chain.2.2.2.calls (Dispatcher.paired (Dispatcher.paired (0, submission), number)) =
            .answered response ∧ response.isSuccess = true ∧
          (response.wire Dispatcher.nullBody).body.getD .null = value ∧
            chain.2.executions Dispatcher.paired
              (Dispatcher.paired (0, submission), number) = 1 := by
  have begun : ChainRun relayed .echoing .echoing (fun _ => false) Dispatcher.nullBody
      Dispatcher.paired_injective Dispatcher.paired (Chain.start .echoing) [] _ := .refl _
  have asked := begun.tail (.near _ _ _ _ (ne_remote rfl) (.refresh .start .caller 100 nofun nofun))
  have ready := asked.tail (.near _ informed _ _ (ne_remote rfl)
    (.renew _ [] [] { owner := .caller, frames := 100, point := .fetching }
      (.fetched (.ok { status := 200, body := .ok searches }))
      { client := informed.client, point := .done .applied, notify := true } rfl rfl nofun))
  have connecting := ready.tail (.near _ _ _ _ (ne_remote rfl)
    (.begin informed "search" .null 60 leisure _ (.inl rfl) rfl))
  let call : Call := { roomyCall with mayHaveExecuted := true }
  have sent := connecting.tail (.near _ _ _ _ (ne_remote rfl) (.resume _ [] []
    (call.suspend .connecting) leisure .woken _ rfl rfl))
  obtain ⟨events, relay, echoes, replied, others, -⟩ := Dispatcher.echo_run
  have first : Dispatcher.paired (0, 1) = 1 := by decide
  have answer : (Dispatcher.exchange (fun _ => false) relay.1 (Dispatcher.paired (0, 1))).answer =
      some Dispatcher.echoReply := by
    rw [first]
    simp [Dispatcher.exchange, replied, Dispatcher.Connection.reply, Dispatcher.Reply.framed]
  have served := sent.trans (Linked.far_runs (Linked.matched_run sent) (.refl _) echoes ?_)
  · let exchanging := call.suspend .exchanging
    let hangingUp := call.suspend (.hangingUp (.reply Dispatcher.echoReply))
    have resuming := congrArg (fun answer => resume relayed informed.client exchanging leisure
      (answer.map Answer.reply) .answered) answer
    have told := served.tail (.near _ _ _ _ (ne_remote rfl) (.resume _ [] [] exchanging leisure
      .answered { client := informed.client, call := hangingUp, notify := false, granted := none }
      rfl resuming))
    have closed := told.tail (.near _ _ _ _ (ne_remote rfl)
      (.resume _ [] [] hangingUp leisure .woken _ rfl rfl))
    let returned := (leave relayed informed.client hangingUp leisure.left
      (Connected.outcome hangingUp (.reply Dispatcher.echoReply))).call
    have found : returned.point = .done (.returned .null) := rfl
    obtain ⟨-, -, -, truth⟩ := chain_truth Dispatcher.paired_injective closed (.refl _) 0
    exact ⟨_, _, .null, rfl, found, truth returned .null rfl found⟩
  · intro other arrived
    by_cases same : other = (0, 1)
    · rw [same]
      rfl
    · have distinct : Dispatcher.paired other ≠ 1 := fun equal =>
        same (Dispatcher.paired_injective (equal.trans first.symm))
      have heard : (relay.1.dispatcher.connections (Dispatcher.paired other)).heard = true :=
        arrived
      rw [others _ distinct] at heard
      cases heard

end Chain

end Sdk

end AiProtocol
