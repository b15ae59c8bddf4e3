import AiProtocol.Dispatcher.Replies
import AiProtocol.Client.Http
import AiProtocol.Library.Network

/-!
# The dispatcher between its callers and the gateway

The dispatcher makes calls of the gateway, and serves the calls of others.  What it promises to its
callers it promises on the strength of the contract it has with the gateway.
-/

namespace AiProtocol

namespace Dispatcher

open Labelled Network

variable {settings : Settings} {before after : Dispatcher} {event : Event} {request : RequestId}

/-- The HTTP attempts of a dispatcher are calls. -/
def client (settings : Settings) :
    Client (SystemStep settings) .start AttemptId HttpReply.Denies where
  calls system := system.exchanges
  receive system exchanges := { system with exchanges }
  remote attempt event := .remote attempt event
  fresh := rfl
  calls_receive _ _ := rfl
  receive_receive _ _ _ := rfl
  receive_calls _ := rfl
  happens distinct calls := .remote _ _ _ _ distinct calls
  sends own moves call := by
    cases moves with
    | begin attempt =>
        by_cases same : call = attempt.id
        · subst same
          simp
        · simp [Function.update_of_ne same]
    | remote attempt event => exact absurd rfl (own attempt event)
    | _ => simp

/-- What was answered with certainty is not executed, however the run goes on. -/
theorem System.unexecuted_of_certain {system system' : System} {trace more : List SystemEvent}
    {reply : Reply}
    (run : SystemRun settings .start trace system) (future : SystemRun settings system more system')
    (answered : system.dispatcher.Answered request reply)
    (certain : reply.execution = "not_started") {number : Nat} :
    (system'.exchanges (request, number)).executed = false := by
  have whole := run.trans future
  have coherent := coherent_run whole request
  have sound := exchanges_run whole (request, number)
  cases executed : (system'.exchanges (request, number)).executed with
  | false => rfl
  | true =>
      have sent := sound.sent executed
      rcases answered with refused | replied
      · obtain ⟨-, -, unsent, -⟩ := coherent.idle (.inr ⟨reply, refused_run future refused⟩)
        exact absurd sent (by simp [unsent number])
      · have final := (books_run whole request).replied reply (replied_run future replied)
        have denied := coherent.clear (final.unstarted certain).1 number sent
        exact executed.symm.trans (sound.honest denied)

/-! ## The dispatcher as a service -/

/-- A reply which denies the execution. -/
def Reply.Denies (reply : Reply) : Prop :=
  reply.execution = "not_started"

/-- The caller of a request was heard. -/
def Connection.heard : Connection → Bool
  | .absent => false
  | _ => true

/-- The reply of a connection task. -/
def Connection.reply : Connection → Option Reply
  | .refused reply | .replied reply => some reply
  | _ => none

open Classical in
/-- A request as a remote call, whose reply is replaced if it exceeds a frame. -/
noncomputable def exchange (oversized : Reply → Bool) (system : System) (request : RequestId) :
    Exchange Reply where
  sent := (system.dispatcher.connections request).heard
  executed := decide (∃ number, (system.exchanges (request, number)).executed = true)
  answer := (system.dispatcher.connections request).reply.map fun reply =>
    reply.framed (oversized reply)

theorem executed_exchange {oversized : Reply → Bool} {system : System} :
    (exchange oversized system request).executed = true ↔
      ∃ number, (system.exchanges (request, number)).executed = true := by
  simp [exchange]

theorem executed_congr {oversized : Reply → Bool} {system system' : System}
    (same : ∀ number, (system'.exchanges (request, number)).executed =
      (system.exchanges (request, number)).executed) :
    (exchange oversized system' request).executed =
      (exchange oversized system request).executed := by
  rw [Bool.eq_iff_iff, executed_exchange, executed_exchange]
  simp only [same]

theorem reply_eq_some {connection : Connection} {reply : Reply} :
    connection.reply = some reply ↔ connection = .refused reply ∨ connection = .replied reply := by
  cases connection <;> simp [Connection.reply]

/-- A step concerns one connection task at most. -/
theorem alone_step (step : Step settings before event after) :
    ∃ holder, ∀ other, other ≠ holder → after.connections other = before.connections other := by
  cases step with
  | full holder | refuse holder | accept holder | enqueue holder | wake holder
  | disconnect holder | reject holder | lose holder | expire holder =>
      exact ⟨holder, fun other different => Function.update_of_ne different _ _⟩
  | receive holder number result =>
      refine ⟨holder, fun other different => ?_⟩
      unfold resume
      split
      · exact Function.update_of_ne different _ _
      · split <;> exact Function.update_of_ne different _ _
  | _ => exact ⟨0, fun _ _ => rfl⟩

section Service

variable {oversized : Reply → Bool} {system system' : System} {trace : List SystemEvent}

private theorem heard_of_executed (run : SystemRun settings .start trace system)
    (executed : (exchange oversized system request).executed = true) :
    (exchange oversized system request).sent = true := by
  obtain ⟨number, executed⟩ := executed_exchange.mp executed
  have sent := (System.exchanges_run run (request, number)).sent executed
  have coherent := System.coherent_run run request
  cases connection : system.dispatcher.connections request with
  | absent =>
      obtain ⟨-, -, unsent, -⟩ := coherent.idle (.inl connection)
      rw [unsent] at sent
      cases sent
  | _ => simp [exchange, connection, Connection.heard]

theorem exchange_honest (run : SystemRun settings .start trace system)
    (denied : (exchange oversized system request).Denied Reply.Denies) :
    (exchange oversized system request).executed = false := by
  obtain ⟨told, answered, denies⟩ := denied
  obtain ⟨reply, known, rfl⟩ := Option.map_eq_some_iff.mp answered
  rw [Bool.eq_false_iff]
  intro executed
  obtain ⟨number, executed⟩ := executed_exchange.mp executed
  rw [System.unexecuted_of_certain run (.refl _) (reply_eq_some.mp known)
    (framed_execution denies)] at executed
  cases executed

theorem Busy.unreplied {dispatcher : Dispatcher} (busy : dispatcher.Busy request) :
    (dispatcher.connections request).reply = none ∧
      (dispatcher.connections request).heard = true := by
  rcases busy with ⟨number, same⟩ | ⟨number, same⟩ | ⟨number, moment, same⟩ <;> rw [same] <;>
    exact ⟨rfl, rfl⟩

/-- A connection task which goes on was not done. -/
theorem Connected.heard (connected : Connected request before after) :
    after.connections request = before.connections request ∨
      (before.connections request).reply = none ∧ (after.connections request).heard = true := by
  cases connected with
  | same equal => exact .inl equal
  | opened absent opened =>
      rw [absent]
      rcases opened with trying | ⟨reply, refused⟩
      · exact .inr ⟨rfl, by rw [trying]; rfl⟩
      · exact .inr ⟨rfl, by rw [refused]; rfl⟩
  | moved busy moved => exact .inr ⟨busy.unreplied.1, moved.unreplied.2⟩
  | vanished busy vanished => exact .inr ⟨busy.unreplied.1, by rw [vanished]; rfl⟩
  | failed busy error status body failed => exact .inr ⟨busy.unreplied.1, by rw [failed]; rfl⟩
  | completed number status body awaiting settled completed =>
      exact .inr ⟨by rw [awaiting]; rfl, by rw [completed]; rfl⟩

theorem exchange_connected (run : SystemRun settings .start trace system')
    (connected : Connected request system.dispatcher system'.dispatcher)
    (kept : (exchange oversized system' request).executed =
      (exchange oversized system request).executed) :
    ∃ events, Exchange.Run Reply.Denies (exchange oversized system request) events
      (exchange oversized system' request) := by
  refine Exchange.Run.of_told kept ?_ ?_ (exchange_honest run)
  · intro heard
    rcases connected.heard with same | ⟨-, heard⟩
    · simpa only [exchange, same] using heard
    · exact heard
  · rcases connected.heard with same | ⟨none, heard⟩
    · exact .inl (by simp only [exchange, same])
    · exact .inr ⟨by simp only [exchange, none, Option.map_none], heard⟩

private theorem exchange_executed {event : SystemEvent}
    (run : SystemRun settings .start trace system)
    (step : SystemStep settings system event system')
    (same : system'.dispatcher.connections request = system.dispatcher.connections request)
    (first : (exchange oversized system request).executed = false)
    (executed : (exchange oversized system' request).executed = true) :
    Exchange.Step Reply.Denies (exchange oversized system request) .execute
      (exchange oversized system' request) := by
  have result : exchange oversized system' request =
      { exchange oversized system request with executed := true } :=
    Exchange.ext (by simp only [exchange, same]) executed (by simp only [exchange, same])
  have later := run.tail step
  have heard : (exchange oversized system request).sent = true := by
    have heard := heard_of_executed later executed
    simpa only [exchange, same] using heard
  rw [result]
  refine .execute _ heard first fun denied => ?_
  have unexecuted : (exchange oversized system' request).executed = false :=
    exchange_honest later (by rw [result]; exact denied)
  rw [executed] at unexecuted
  cases unexecuted

theorem executed_dispatches (step : SystemStep settings system (.dispatcher event) system')
    (id : AttemptId) : (system'.exchanges id).executed = (system.exchanges id).executed := by
  cases step with
  | begin attempt =>
      by_cases same : id = attempt.id
      · subst same
        simp
      · simp [Function.update_of_ne same]
  | _ => rfl

private theorem exchange_alone (oversized : Reply → Bool) {event : SystemEvent}
    (step : SystemStep settings system event system') :
    ∃ holder, ∀ other, other ≠ holder →
      exchange oversized system' other = exchange oversized system other := by
  cases event with
  | dispatcher event =>
      obtain ⟨holder, alone⟩ := alone_step step.dispatches
      refine ⟨holder, fun other different => Exchange.ext ?_ ?_ ?_⟩
      · simp only [exchange, alone other different]
      · exact executed_congr fun number => executed_dispatches step _
      · simp only [exchange, alone other different]
  | remote attempt event =>
      obtain ⟨same, calls⟩ := step.remotely
      refine ⟨attempt.1, fun other different => ?_⟩
      have kept : ∀ number, (system'.exchanges (other, number)).executed =
          (system.exchanges (other, number)).executed := by
        intro number
        have distinct : (other, number) ≠ attempt := fun equal => different (by rw [← equal])
        have iff := (calls.executed (other, number)).1
        rw [Bool.eq_iff_iff, iff]
        simp [distinct]
      refine Exchange.ext ?_ (executed_congr kept) ?_
      · simp only [exchange, same]
      · simp only [exchange, same]

/-- What a step means for one of the callers. -/
theorem exchange_step {event : SystemEvent} (run : SystemRun settings .start trace system)
    (step : SystemStep settings system event system') (request : RequestId) :
    ∃ events, Exchange.Run Reply.Denies (exchange oversized system request) events
      (exchange oversized system' request) := by
  cases event with
  | dispatcher event =>
      exact exchange_connected (run.tail step) (connection_step step.dispatches request)
        (executed_congr fun number => executed_dispatches step _)
  | remote attempt event =>
      have same : system'.dispatcher.connections request = system.dispatcher.connections request :=
        by rw [step.remotely.1]
      by_cases kept : (exchange oversized system' request).executed =
          (exchange oversized system request).executed
      · exact exchange_connected (run.tail step) (.same same) kept
      · cases first : (exchange oversized system request).executed with
        | true =>
            obtain ⟨number, executed⟩ := executed_exchange.mp first
            have still : (exchange oversized system' request).executed = true :=
              executed_exchange.mpr ⟨number, step.executed executed⟩
            exact absurd (still.trans first.symm) kept
        | false =>
            rw [first, Bool.not_eq_false] at kept
            exact ⟨[.execute], .single (exchange_executed run step same first kept)⟩

/-- The requests of a dispatcher are calls. -/
noncomputable def service (settings : Settings) (oversized : Reply → Bool) :
    Network.Service (SystemStep settings) .start RequestId Reply.Denies where
  view := exchange oversized
  fresh := by
    funext request
    simp [exchange, System.start, start, Exchange.fresh, Connection.heard, Connection.reply]
  advance {_ before after _} run step := by
    obtain ⟨holder, alone⟩ := exchange_alone oversized step
    have others : exchange oversized after =
        Function.update (exchange oversized before) holder (exchange oversized after holder) := by
      funext other
      by_cases same : other = holder
      · subst same
        rw [Function.update_self]
      · rw [Function.update_of_ne same, alone other same]
    obtain ⟨events, goes⟩ : ∃ events, Exchange.Run Reply.Denies (exchange oversized before holder)
        events (exchange oversized after holder) := exchange_step run step holder
    rw [others]
    exact Exchange.Runs.of_run goes

end Service

end Dispatcher

end AiProtocol
