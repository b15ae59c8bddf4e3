import Mathlib.Data.Nat.Pairing
import AiProtocol.EndToEnd.Dispatcher
import AiProtocol.EndToEnd.Gateway

/-!
# A dispatcher in front of the gateway

Linked to a gateway which also serves others, the dispatcher keeps its contract, and what it relays
is what the gateway answered.
-/

namespace AiProtocol

namespace Dispatcher

open Labelled Network

variable {settings : Settings} {before after : Dispatcher} {event : Event} {request : RequestId}

/-! ## Relayed responses -/

/-- What the transport returned, once it did. -/
def Stage.result : Stage → Option Result
  | .sending => none
  | .returned result | .marked result | .released result => some result

/-- An HTTP task has the result in hand. -/
def Brings (dispatcher : Dispatcher) (id : AttemptId) (response : HttpReply) : Prop :=
  ∃ task ∈ dispatcher.running, task.attempt.id = id ∧ task.stage.result = some (.ok response)

theorem brings_replaced {front back : List HttpTask} {attempt : Attempt} {stage : Stage}
    (running : after.running = front ++ { attempt, stage } :: back) {earlier : Stage}
    (held : before.running = front ++ { attempt, stage := earlier } :: back) {id : AttemptId}
    {response : HttpReply} (brings : after.Brings id response) :
    before.Brings id response ∨ attempt.id = id ∧ stage.result = some (.ok response) := by
  obtain ⟨task, member, own, result⟩ := brings
  rw [running, List.mem_append, List.mem_cons] at member
  rcases member with early | rfl | late
  · exact .inl ⟨task, by rw [held]; exact List.mem_append_left _ early, own, result⟩
  · exact .inr ⟨own, result⟩
  · refine .inl ⟨task, ?_, own, result⟩
    rw [held]
    exact List.mem_append_right _ (List.mem_cons_of_mem _ late)

/-- Results come from the transport. -/
theorem brings_step (step : Step settings before event after) {id : AttemptId}
    {response : HttpReply} (brings : after.Brings id response) :
    before.Brings id response ∨
      ∃ attempt, attempt.id = id ∧ event = .return attempt (.ok response) := by
  cases step with
  | begin attempt progress =>
      obtain ⟨task, member, own, result⟩ := brings
      rcases List.mem_append.mp member with early | newest
      · exact .inl ⟨task, early, own, result⟩
      · obtain rfl := List.mem_singleton.mp newest
        cases result
  | «return» front back attempt result sending =>
      rcases brings_replaced rfl sending brings with earlier | ⟨own, told⟩
      · exact .inl earlier
      · obtain rfl : result = .ok response := Option.some.inj told
        exact .inr ⟨attempt, own, rfl⟩
  | mark front back attempt result returned =>
      rcases brings_replaced rfl returned brings with earlier | ⟨own, told⟩
      · exact .inl earlier
      · refine .inl ⟨{ attempt, stage := .returned result }, ?_, own, told⟩
        rw [returned]
        exact List.mem_append_right _ List.mem_cons_self
  | release front back attempt result marked =>
      rcases brings_replaced rfl marked brings with earlier | ⟨own, told⟩
      · exact .inl earlier
      · refine .inl ⟨{ attempt, stage := .marked result }, ?_, own, told⟩
        rw [marked]
        exact List.mem_append_right _ List.mem_cons_self
  | reply front back attempt result released =>
      obtain ⟨task, member, own, told⟩ := brings
      refine .inl ⟨task, ?_, own, told⟩
      rw [released]
      rcases List.mem_append.mp member with early | late
      · exact List.mem_append_left _ early
      · exact List.mem_append_right _ (List.mem_cons_of_mem _ late)
  | receive holder number result =>
      refine .inl ?_
      unfold Dispatcher.resume at brings
      split at brings
      · exact brings
      · split at brings <;> exact brings
  | _ => exact .inl brings

/-- Outcomes come from HTTP tasks. -/
theorem outcomes_step (step : Step settings before event after) {id : AttemptId}
    {response : HttpReply} (sent : after.outcomes id = .sent (.ok response)) :
    before.outcomes id = .sent (.ok response) ∨ before.Brings id response := by
  have updated : ∀ {holder : AttemptId} {outcome : Outcome},
      Function.update before.outcomes holder outcome id = .sent (.ok response) →
        outcome ≠ .sent (.ok response) → before.outcomes id = .sent (.ok response) := by
    intro holder outcome now other
    by_cases same : id = holder
    · subst same
      rw [Function.update_self] at now
      exact absurd now other
    · rwa [Function.update_of_ne same] at now
  cases step with
  | skip | overdue | halt | declineClosed | decline => exact .inl (updated sent nofun)
  | reply front back attempt result released =>
      by_cases same : id = attempt.id
      · subst same
        obtain rfl : result = .ok response := by simpa using sent
        refine .inr ⟨{ attempt, stage := .released (.ok response) }, ?_, rfl, rfl⟩
        rw [released]
        exact List.mem_append_right _ List.mem_cons_self
      · left
        simpa [Function.update_of_ne same] using sent
  | receive holder number result =>
      refine .inl ?_
      unfold Dispatcher.resume at sent
      split at sent
      · exact sent
      · split at sent <;> exact sent
  | close =>
      dsimp only at sent
      split at sent
      · cases sent
      · exact .inl sent
  | _ => exact .inl sent

/-- A reply passes a response on. -/
structure Reply.Relays (reply : Reply) (response : HttpReply) : Prop where
  /-- Its status. -/
  status : reply.status = some response.status
  /-- Its body. -/
  body : reply.body = response.body
  /-- Successes are successes. -/
  ok : reply.ok = response.isSuccess

theorem framed_of_ok {reply : Reply} {oversized : Bool}
    (success : (reply.framed oversized).ok = true) : reply.framed oversized = reply := by
  unfold Reply.framed at success ⊢
  split at success
  · cases success
  · rename_i fits
    rw [if_neg fits]

/-- A reply which passes no response on reports no success. -/
structure Reply.Silent (reply : Reply) : Prop where
  /-- Without a status. -/
  status : reply.status = none
  /-- Without a body. -/
  body : reply.body = none
  /-- It is a failure. -/
  ok : reply.ok = false

/-- A job which ends with a response passes it on. -/
theorem resume_replied {holder : RequestId} {number : Nat} {response : HttpReply} {reply : Reply}
    (replied : ((before.resume holder number (.ok response)).connections request).reply =
      some reply) :
    (before.connections request).reply = some reply ∨ request = holder ∧ reply.Relays response := by
  have told : ∀ {connection : Connection},
      (Function.update before.connections holder connection request).reply = some reply →
        (∀ told, connection.reply = some told → told.Relays response) →
          (before.connections request).reply = some reply ∨
            request = holder ∧ reply.Relays response := by
    intro connection now relays
    by_cases same : request = holder
    · subst same
      rw [Function.update_self] at now
      exact .inr ⟨rfl, relays reply now⟩
    · rw [Function.update_of_ne same] at now
      exact .inl now
  cases success : response.isSuccess with
  | true =>
      rw [resume, verdict, if_pos success] at replied
      refine told replied ?_
      rintro _ ⟨⟩
      exact ⟨rfl, rfl, success.symm⟩
  | false =>
      cases decided : verdict number response with
      | completed =>
          rw [verdict, if_neg (by simp [success])] at decided
          split at decided
          · cases decided
          · split at decided <;> cases decided
      | failed error =>
          rw [resume, decided] at replied
          refine told replied ?_
          rintro _ ⟨⟩
          exact ⟨rfl, rfl, success.symm⟩
      | pause seconds =>
          rw [resume, decided] at replied
          exact told replied nofun

private theorem silent_of_accept {frame : Frame} {reply : Reply}
    (refused : settings.accept frame = .error reply) : reply.Silent := by
  have error : ∀ {code : String}, Except.error (Reply.error code "not_started" 0) =
      (Except.error reply : Except Reply (Request × Nat)) → reply.Silent := by
    rintro code ⟨⟩
    exact ⟨rfl, rfl, rfl⟩
  unfold Settings.accept at refused
  split at refused
  · exact error refused
  · split at refused
    · exact error refused
    · split at refused
      · split at refused
        · exact error refused
        · split at refused
          · exact error refused
          · cases refused
      · exact error refused

/-- Replies pass on what is in their result channel. -/
theorem replied_step (step : Step settings before event after) {reply : Reply}
    (replied : (after.connections request).reply = some reply) :
    (before.connections request).reply = some reply ∨ reply.Silent ∨
      ∃ number response, before.outcomes (request, number) = .sent (.ok response) ∧
        reply.Relays response := by
  have told : ∀ {holder : RequestId} {connection : Connection},
      (Function.update before.connections holder connection request).reply = some reply →
        (∀ told, connection.reply = some told → told.Silent) →
          (before.connections request).reply = some reply ∨ reply.Silent := by
    intro holder connection now silent
    by_cases same : request = holder
    · subst same
      rw [Function.update_self] at now
      exact .inr (silent reply now)
    · rw [Function.update_of_ne same] at now
      exact .inl now
  have failed : ∀ {holder : RequestId} {error : String},
      ((before.fail holder error none).connections request).reply = some reply →
        (before.connections request).reply = some reply ∨ reply.Silent := by
    intro holder error now
    refine told now ?_
    rintro _ ⟨⟩
    exact ⟨rfl, rfl, rfl⟩
  cases step with
  | accept | enqueue | wake | disconnect => exact (told replied nofun).imp_right .inl
  | full =>
      refine (told replied ?_).imp_right .inl
      rintro _ ⟨⟩
      exact ⟨rfl, rfl, rfl⟩
  | refuse holder frame refusal fresh refused =>
      refine (told replied ?_).imp_right .inl
      rintro _ ⟨⟩
      exact silent_of_accept refused
  | reject | lose | expire => exact (failed replied).imp_right .inl
  | receive holder number result awaiting sent =>
      cases result with
      | error error => exact (failed replied).imp_right .inl
      | ok response =>
          rcases resume_replied replied with earlier | ⟨rfl, relays⟩
          · exact .inl earlier
          · exact .inr (.inr ⟨number, response, sent, relays⟩)
  | _ => exact .inl replied

namespace System

/-- The response is what the gateway answered to an attempt. -/
def Tells (system : System) (id : AttemptId) (response : HttpReply) : Prop :=
  (system.exchanges id).answer = some response

/-- Responses which are passed on were told by the gateway. -/
structure Genuine (system : System) : Prop where
  /-- HTTP tasks have what was told. -/
  running : ∀ id response, system.dispatcher.Brings id response → system.Tells id response
  /-- So have the result channels. -/
  outcomes : ∀ id response, system.dispatcher.outcomes id = .sent (.ok response) →
    system.Tells id response
  /-- Replies pass nothing else on. -/
  replied : ∀ request reply, (system.dispatcher.connections request).reply = some reply →
    reply.Silent ∨ ∃ number response, system.Tells (request, number) response ∧
      reply.Relays response

variable {system system' : System} {trace : List SystemEvent}

theorem tells_step {event : SystemEvent} (step : SystemStep settings system event system')
    {id : AttemptId} {response : HttpReply} (tells : system.Tells id response) :
    system'.Tells id response := by
  cases step with
  | begin attempt =>
      by_cases same : id = attempt.id
      · subst same
        simpa [Tells] using tells
      · simpa [Tells, Function.update_of_ne same] using tells
  | remote attempt event exchanges delivered calls => exact calls.answered tells
  | _ => exact tells

theorem Genuine.step {event : SystemEvent} (genuine : system.Genuine)
    (step : SystemStep settings system event system') : system'.Genuine := by
  obtain ⟨running, outcomes, replied⟩ := genuine
  cases event with
  | remote attempt event =>
      obtain ⟨same, -⟩ := step.remotely
      refine ⟨fun id response brings => tells_step step (running id response (same ▸ brings)),
        fun id response sent => tells_step step (outcomes id response (same ▸ sent)),
        fun request reply told => ?_⟩
      refine (replied request reply (same ▸ told)).imp_right ?_
      rintro ⟨number, response, tells, relays⟩
      exact ⟨number, response, tells_step step tells, relays⟩
  | dispatcher event =>
      refine ⟨fun id response brings => ?_, fun id response sent => ?_,
        fun request reply told => ?_⟩
      · rcases brings_step step.dispatches brings with earlier | ⟨attempt, rfl, rfl⟩
        · exact tells_step step (running id response earlier)
        · cases step with
          | dispatcher _ _ own => cases own
          | answered attempt response after answered => exact answered
      · rcases outcomes_step step.dispatches sent with earlier | brings
        · exact tells_step step (outcomes id response earlier)
        · exact tells_step step (running id response brings)
      · rcases replied_step step.dispatches told with
          earlier | silent | ⟨number, response, sent, relays⟩
        · refine (replied request reply earlier).imp_right ?_
          rintro ⟨number, response, tells, relays⟩
          exact ⟨number, response, tells_step step tells, relays⟩
        · exact .inl silent
        · exact .inr ⟨number, response, tells_step step (outcomes _ response sent), relays⟩

private theorem genuine_run (run : SystemRun settings .start trace system) : system.Genuine := by
  refine run.invariant Genuine Genuine.step ⟨?_, nofun, nofun⟩
  rintro id response ⟨task, member, -⟩
  cases member

end System

/-! ## The link -/

private theorem dispatcher_ne_remote (event : Event) (call : AttemptId)
    (happening : Exchange.Event HttpReply) :
    SystemEvent.dispatcher event ≠ (client settings).remote call happening := by
  change SystemEvent.dispatcher event ≠ .remote call happening
  exact nofun

/-- A dispatcher and the gateway behind it. -/
abbrev Relay := System × Gateway.Recording TaskAction

section Relay

variable (settings : Settings) (deployment : Deployment) (parse : List UInt8 → Option Json)
  (callOf : AttemptId → ReplyId)

/-- One step of a dispatcher linked to a gateway, which may serve others. -/
abbrev RelayStep :=
  Linked (client settings) (Gateway.service deployment.truthful parse) callOf

/-- A run of both. -/
abbrev RelayRun := Labelled.Execution (RelayStep settings deployment parse callOf)

/-- Before anything happened. -/
abbrev Relay.start : Relay :=
  (.start, [], Gateway.start deployment.config)

/-- How often the gateway executed an attempt. -/
def Relay.executions (relay : Relay) (id : AttemptId) : Nat :=
  relay.2.1.countP (AiProtocol.Event.executes (callOf id))

variable {settings deployment parse callOf} {relay later : Relay}
  {trace more : List (SystemEvent ⊕ AiProtocol.Event TaskAction)}

theorem dispatches {system after : System} {recording : Gateway.Recording TaskAction}
    {event : Event} {start : Relay}
    (run : RelayRun settings deployment parse callOf start trace (system, recording))
    (step : SystemStep settings system (.dispatcher event) after) :
    RelayRun settings deployment parse callOf start (trace ++ [.inl (.dispatcher event)])
      (after, recording) :=
  run.tail (.near _ _ _ _ (dispatcher_ne_remote event) step)

/-- The gateway goes its own way. -/
theorem Relay.gateway_run
    (run : RelayRun settings deployment parse callOf (Relay.start deployment) trace relay) :
    AiProtocol.Run deployment.config (Gateway.start deployment.config) relay.2.1 relay.2.2 := by
  obtain ⟨same, gone⟩ := recorded_run (Linked.far_run run)
  rwa [same]

theorem Relay.executed_iff
    (run : RelayRun settings deployment parse callOf (Relay.start deployment) trace relay)
    (id : AttemptId) :
    (relay.1.exchanges id).executed = true ↔ 0 < relay.executions callOf id := by
  have agree := congrFun (Linked.matched_run run).agree id
  have same : (relay.1.exchanges id).executed =
      relay.2.1.any fun event => event.executes (callOf id) :=
    congrArg Exchange.executed agree
  rw [same, Relay.executions, List.countP_pos_iff, List.any_eq_true]

private theorem Relay.answered_iff
    (run : RelayRun settings deployment parse callOf (Relay.start deployment) trace relay)
    {id : AttemptId} {reply : HttpReply} : relay.1.Tells id reply ↔
      (Gateway.exchange parse relay.2.1 relay.2.2 (callOf id)).answer = some reply := by
  have agree : relay.1.exchanges id = Exchange.deliver ((client settings).sent relay.1)
      (Gateway.exchange parse relay.2.1 relay.2.2 ∘ callOf) id :=
    congrFun (Linked.matched_run run).agree id
  rw [System.Tells, agree]
  rfl

theorem Relay.executions_le
    (run : RelayRun settings deployment parse callOf (Relay.start deployment) trace relay)
    (id : AttemptId) : relay.executions callOf id ≤ 1 :=
  (Gateway.executes_once (Relay.gateway_run run) (callOf id)).1

theorem Relay.executions_unique (injective : Function.Injective callOf)
    (run : RelayRun settings deployment parse callOf (Relay.start deployment) trace relay)
    {first second : Nat} (left : 0 < relay.executions callOf (request, first))
    (right : 0 < relay.executions callOf (request, second)) : first = second := by
  obtain ⟨events, gone⟩ := Linked.near_run injective (.refl _) run
  exact once_run gone ((Relay.executed_iff run _).mpr left) ((Relay.executed_iff run _).mpr right)

/-- Replies pass on what the gateway answered, and successes what it executed. -/
theorem Relay.relays_run (injective : Function.Injective callOf)
    (run : RelayRun settings deployment parse callOf (Relay.start deployment) trace relay)
    {reply : Reply} (answered : relay.1.dispatcher.Answered request reply) :
    reply.Silent ∨
      ∃ number response, relay.2.2.calls (callOf (request, number)) = .answered response ∧
        reply.Relays (response.wire parse) ∧
          (reply.ok = true → relay.executions callOf (request, number) = 1) := by
  obtain ⟨events, gone⟩ := Linked.near_run injective (.refl _) run
  refine ((System.genuine_run gone).replied request reply
    (reply_eq_some.mpr answered)).imp_right ?_
  rintro ⟨number, answer, tells, relays⟩
  have told := (Relay.answered_iff run).mp tells
  obtain ⟨response, answered, rfl⟩ := Gateway.answer_exchange.mp told
  refine ⟨number, response, answered, relays, fun success => ?_⟩
  have executed := Gateway.executed_of_success deployment.truthful (Relay.gateway_run run) told
    (relays.ok.symm.trans success)
  have counted : 0 < relay.executions callOf (request, number) := by
    rw [Relay.executions, List.countP_pos_iff]
    exact List.any_eq_true.mp executed
  exact Nat.le_antisymm (Relay.executions_le run _) counted

/-- What a dispatcher tells its callers about the gateway is so.  The gateway executes at most one
attempt of a request, and none for a request which was answered with certainty, however it goes on;
a reply passes on what the gateway answered to one of the attempts, and reports a success only if
the gateway executed that attempt. -/
theorem relays_truth (injective : Function.Injective callOf)
    (run : RelayRun settings deployment parse callOf (Relay.start deployment) trace relay)
    (future : RelayRun settings deployment parse callOf relay more later)
    (request : RequestId) :
    (∀ number, later.executions callOf (request, number) ≤ 1) ∧
      (∀ first second, 0 < later.executions callOf (request, first) →
        0 < later.executions callOf (request, second) → first = second) ∧
      (∀ reply oversized, relay.1.dispatcher.Answered request reply →
        (reply.framed oversized).execution = "not_started" →
          ∀ number, later.executions callOf (request, number) = 0) ∧
      ∀ reply, relay.1.dispatcher.Answered request reply → reply.Silent ∨
        ∃ number response, relay.2.2.calls (callOf (request, number)) = .answered response ∧
          reply.Relays (response.wire parse) ∧
            (reply.ok = true → relay.executions callOf (request, number) = 1) := by
  have whole := run.trans future
  obtain ⟨events, gone⟩ := Linked.near_run injective (.refl _) run
  obtain ⟨events', goes⟩ := Linked.near_run injective run future
  refine ⟨fun number => Relay.executions_le whole _,
    fun first second left right => Relay.executions_unique injective whole left right,
    fun reply oversized answered certain number => ?_,
    fun reply answered => Relay.relays_run injective run answered⟩
  by_contra counted
  have executed := (Relay.executed_iff whole _).mpr (Nat.pos_of_ne_zero counted)
  rw [System.unexecuted_of_certain gone goes answered (framed_execution certain)] at executed
  cases executed

def Settings.echoing : Settings where
  routes := [("echo", "/echo")]
  tokens := ["t"]
  capacity := 1

def nullBody (_ : List UInt8) : Option Json :=
  some .null

/-- Attempts of the dispatcher as requests of the gateway. -/
def paired (id : AttemptId) : ReplyId :=
  Nat.pair id.1 id.2

theorem paired_injective : Function.Injective paired := by
  rintro ⟨first, second⟩ ⟨other, number⟩ same
  exact Prod.ext_iff.mpr (Nat.pair_eq_pair.mp same)

def echoReply : Reply where
  ok := true
  code := "completed"
  execution := "completed"
  attempts := some 1
  status := some 200
  body := some .null

/-- The gateway executes the first attempt of a request, and the dispatcher passes the result on. -/
theorem echo_run : ∃ (trace : List (SystemEvent ⊕ AiProtocol.Event TaskAction)) (relay : Relay),
    RelayRun .echoing .echoing nullBody paired (Relay.start .echoing) trace relay ∧
      relay.1.dispatcher.connections 1 = .replied echoReply ∧
        (∀ other ≠ 1, relay.1.dispatcher.connections other = .absent) ∧
          relay.executions paired (1, 1) = 1 := by
  let task : Request := { id := "task", token := "t", operation := "echo", params := .null }
  let attempt : Attempt :=
    { request := 1, payload := { task with operation := "/echo" }, deadline := 1000, number := 1 }
  have begun : RelayRun .echoing .echoing nullBody paired (Relay.start .echoing) [] _ := .refl _
  have accepted := dispatches begun (.dispatcher _ _ _ rfl (.accept _ 1
    { request := some task, remaining := some 1000 } _ 1000 rfl rfl))
  have queued := dispatches accepted
    (.dispatcher _ _ _ rfl (.enqueue _ 1 1 attempt rfl nofun (by decide) rfl))
  have taken := dispatches queued (.dispatcher _ _ _ rfl (.take _ _ [] rfl rfl))
  have informed := dispatches taken (.dispatcher _ _ _ rfl (.policy _
    { version := 3, principalId := "owner", clientClass := "agent", policyRevision := 1
      refreshAfterMs := 1000, outstanding := 0
      limits := { scope := "principal", maxOutstanding := 1 } } _ rfl))
  have granted := dispatches informed (.dispatcher _ _ _ rfl (.acquire _ _ _ rfl rfl))
  have checked := dispatches granted
    (.dispatcher _ _ _ rfl (.check _ _ rfl fun closed => closed rfl))
  have sent := dispatches checked (.begin _ _ _ (.begin _ _ _ rfl rfl))
  obtain ⟨history, gateway, serves⟩ := Deployment.echoing_serves (paired (1, 1))
  have matched := Linked.matched_run sent
  have served := sent.trans (Linked.far_runs matched (.refl _) (record_run serves.run [])
    (Gateway.covers_serves paired_injective matched.covers rfl serves))
  have answer : (Gateway.exchange nullBody ([] ++ history) gateway (paired (1, 1))).answer =
      some (echoed.wire nullBody) :=
    Gateway.answer_exchange.mpr ⟨echoed, serves.answered, rfl⟩
  have returned := dispatches served (.answered _ attempt (echoed.wire nullBody) _ answer
    (.return _ [] [] _ _ rfl))
  have marked := dispatches returned (.dispatcher _ _ _ rfl (.mark _ [] [] _ _ rfl))
  have released := dispatches marked (.dispatcher _ _ _ rfl (.release _ [] [] _ _ rfl))
  have replied := dispatches released (.dispatcher _ _ _ rfl (.reply _ [] [] _ _ rfl))
  have told := dispatches replied (.dispatcher _ _ _ rfl (.receive _ 1 1 _ rfl rfl))
  refine ⟨_, _, told, rfl, fun other different => ?_,
    Nat.le_antisymm (Relay.executions_le told _) serves.executions_pos⟩
  exact (Function.update_of_ne different _ _).trans
    ((Function.update_of_ne different _ _).trans (Function.update_of_ne different _ _))

/-- The dispatcher reports the success of an attempt which the gateway executed. -/
theorem relays_truth_sample : ∃ (relay : Relay) (reply : Reply),
    relay.1.dispatcher.Answered 1 reply ∧ reply.ok = true ∧
      ∃ number response, relay.2.2.calls (paired (1, number)) = .answered response ∧
        reply.Relays (response.wire nullBody) ∧ relay.executions paired (1, number) = 1 := by
  obtain ⟨trace, relay, run, replied, -⟩ := echo_run
  have answered : relay.1.dispatcher.Answered 1 echoReply := .inr replied
  obtain ⟨-, -, -, truth⟩ := relays_truth paired_injective run (.refl _) 1
  rcases truth echoReply answered with silent | ⟨number, response, handled, relays, once⟩
  · exact absurd silent.ok (by decide)
  · exact ⟨relay, echoReply, answered, rfl, number, response, handled, relays, once rfl⟩

end Relay

end Dispatcher

end AiProtocol
