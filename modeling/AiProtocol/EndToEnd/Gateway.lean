import AiProtocol.Client.Http
import AiProtocol.Library.Network

/-!
# The gateway as a service

The requests of a gateway are the calls of a service, with the history of the gateway as the record
of its executions.  A response which reports success is the result of an execution.
-/

namespace AiProtocol

namespace Gateway

open Labelled Network

variable {Action : Type} {config : Config Action} {before after gateway : Gateway Action}
  {event : Event Action} {trace : List (Event Action)}

/-- A gateway and what happened to it. -/
abbrev Recording (Action : Type) := List (Event Action) × Gateway Action

/-- One step of a gateway which keeps its history. -/
abbrev RecordedStep (config : Config Action) := Recorded (Step config)

/-- A step concerns one request at most. -/
theorem alone_step (step : Step config before event after) :
    ∃ call, ∀ other, other ≠ call →
      after.calls other = before.calls other ∧ event.executes other = false := by
  cases step with
  | submit caller | refuseTest caller | respond caller | leave caller | turnAway caller
  | enter caller | exhausted caller | refuse caller | push caller | notify caller
  | receive caller | lose caller =>
      exact ⟨caller, fun other different => ⟨move_calls_ne before _ different, rfl⟩⟩
  | perform effect =>
      exact ⟨0, fun other _ => ⟨congrFun (perform_calls before effect) other, rfl⟩⟩
  | spawn job =>
      exact ⟨job.reply, fun other different => ⟨rfl, by simpa [Event.executes] using
        different.symm⟩⟩
  | _ => exact ⟨0, fun _ _ => ⟨rfl, rfl⟩⟩

/-- The requests of a gateway are calls. -/
def service (truthful : config.Truthful) (parse : List UInt8 → Option Json) :
    Network.Service (RecordedStep config) ([], start config) ReplyId HttpReply.Denies where
  view state := exchange parse state.1 state.2
  fresh := rfl
  advance {_ _ _ event} run moves := by
    cases moves with
    | step history before after _ step =>
        obtain ⟨rfl, earlier⟩ := recorded_run run
        obtain ⟨call, alone⟩ := alone_step step
        have others : exchange parse (history ++ [event]) after =
            Function.update (exchange parse history before) call
              (exchange parse (history ++ [event]) after call) := by
          funext other
          by_cases same : other = call
          · subst same
            rw [Function.update_self]
          · obtain ⟨kept, idle⟩ := alone other same
            rw [Function.update_of_ne same]
            simp [exchange, kept, idle]
        dsimp only
        rw [others]
        exact Exchange.Runs.of_run (exchange_step truthful parse earlier step call)

/-- A request whose client sent it may go on. -/
theorem covers_move {Call : Type} {link : Call → ReplyId} (injective : Function.Injective link)
    {sent : Call → Bool} {parse : List UInt8 → Option Json} {history : List (Event Action)}
    (covers : Exchange.Covers sent (exchange parse history gateway ∘ link)) (call : Call)
    (own : sent call = true) (event : Event Action) (phase : AiProtocol.Call Action) :
    Exchange.Covers sent
      (exchange parse (history ++ [event]) (gateway.move (link call) phase) ∘ link) := by
  intro other arrived
  by_cases same : other = call
  · rwa [same]
  · have distinct : link other ≠ link call := fun equal => same (injective equal)
    refine covers other ?_
    simpa [exchange, move_calls_ne _ _ distinct] using arrived

/-- A request whose client sent it may be served. -/
theorem covers_serves {Call : Type} {link : Call → ReplyId} (injective : Function.Injective link)
    {sent : Call → Bool} {parse : List UInt8 → Option Json} {history : List (Event Action)}
    (covers : Exchange.Covers sent (exchange parse history gateway ∘ link)) {call : Call}
    (own : sent call = true) {response : Response}
    (serves : Serves config gateway (link call) response trace after) :
    Exchange.Covers sent (exchange parse (history ++ trace) after ∘ link) := by
  intro other arrived
  by_cases same : other = call
  · rwa [same]
  · have distinct : link other ≠ link call := fun equal => same (injective equal)
    refine covers other ?_
    simpa [exchange, serves.others _ distinct] using arrived

theorem Serves.executions_pos {call : ReplyId} {response : Response}
    (serves : Serves config gateway call response trace after) :
    0 < trace.countP (Event.executes call) :=
  List.countP_pos_iff.mpr serves.executed

/-- A request which succeeded was executed. -/
theorem executed_of_success (truthful : config.Truthful) {parse : List UInt8 → Option Json}
    (run : Run config (start config) trace gateway) {call : ReplyId} {reply : HttpReply}
    (answered : (exchange parse trace gateway call).answer = some reply)
    (success : reply.isSuccess = true) : (exchange parse trace gateway call).executed = true := by
  obtain ⟨response, told, rfl⟩ := answer_exchange.mp answered
  have successful : response.isSuccess = true := success
  have range : 200 ≤ response.status ∧ response.status < 300 := by
    simpa [Response.isSuccess] using successful
  rcases (provenance_run truthful run).answers call response told with
    ⟨refused, -⟩ | (⟨⟨event, member, executes⟩, -⟩ | ⟨-, withdrawn⟩) | rfl
  · have denied : response.notStarted = true := refused.1
    simp only [Response.notStarted, List.contains_eq_mem, List.mem_cons, List.not_mem_nil, or_false,
      Bool.or_eq_true, Bool.and_eq_true, decide_eq_true_eq] at denied
    omega
  · exact List.any_eq_true.mpr ⟨event, member, executes⟩
  · rcases withdrawn with rfl | rfl <;> cases successful
  · cases successful

end Gateway

end AiProtocol
