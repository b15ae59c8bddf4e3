import AiProtocol.Gateway.Custody
import AiProtocol.Gateway.Callers

/-!
# Execution certainty

An accepted operation is handed to the executor or withdrawn from the queues, never both, and its
sender answers at most once.  Every answer knows where it comes from, so that an answer which denies
the execution is never given to an operation which was or will be executed.
-/

namespace AiProtocol

namespace Response

/-- The statuses by which clients recognise that the operation was not started. -/
def notStarted (response : Response) : Bool :=
  [400, 401, 403, 404, 405, 413, 415, 422, 429].contains response.status ||
    (response.status = 503 &&
      (response.code = some "queue_timeout" || response.code = some "gateway_closed"))

/-- An answer which denies the execution, in its status and in its body. -/
def Refused (response : Response) : Prop :=
  response.notStarted ∧ response.execution = some "not_started"

/-- An answer of an execution: a success, or an error which leaves the outcome open. -/
def Handled (response : Response) : Prop :=
  response.isSuccess ∧ response.execution = none ∨
    (response.status = 500 ∨ response.status = 502 ∨ response.status = 504) ∧
      response.execution = some "unknown"

theorem Handled.not_refused {response : Response} (handled : response.Handled) :
    response.notStarted = false ∧ response.execution ≠ some "not_started" := by
  rcases handled with ⟨success, silent⟩ | ⟨status, unknown⟩
  · refine ⟨?_, by simp [silent]⟩
    simp only [isSuccess, Bool.and_eq_true, decide_eq_true_eq] at success
    simp only [notStarted, List.contains_eq_mem, List.mem_cons, List.not_mem_nil, or_false,
      Bool.or_eq_false_iff, decide_eq_false_iff_not, Bool.and_eq_false_imp, decide_eq_true_eq]
    omega
  · refine ⟨?_, by simp [unknown]⟩
    rcases status with status | status | status <;> simp [notStarted, status]

end Response

/-- The handlers refuse honestly and executions do not deny themselves. -/
structure Config.Truthful {Action : Type} (config : Config Action) : Prop where
  /-- Handlers in front of `enqueue` answer without starting anything. -/
  refusals : ∀ response, config.decides (.respond response) → response.Refused
  /-- Executions succeed or leave their outcome open. -/
  outcomes : ∀ action response, config.executes action response → response.Handled

/-- What became of an accepted operation. -/
inductive Disposition where
  | handed
  | expired
  | rejected
  | discarded
  deriving DecidableEq

namespace Event

variable {Action : Type}

/-- The disposition decided by an event. -/
def disposition : Event Action → Option (ReplyId × Disposition)
  | .spawn job => some (job.reply, .handed)
  | .perform (.discard reply _) => some (reply, .discarded)
  | .perform (.answer reply response) =>
      some (reply, if response = gatewayClosed then .rejected else .expired)
  | _ => none

/-- The event disposes of the operation of a request. -/
def disposes (call : ReplyId) (event : Event Action) : Bool :=
  event.disposition.any fun disposed => disposed.1 = call

/-- The event sends a reply to a request. -/
def replies (call : ReplyId) : Event Action → Bool
  | .perform (.answer reply _) => reply = call
  | .send execution _ => execution.reply = call
  | _ => false

/-- The event settles the result channel of a request. -/
def writes (call : ReplyId) : Event Action → Bool
  | .perform (.discard reply _) => reply = call
  | .perform (.answer reply _) => reply = call
  | .send execution _ => execution.reply = call
  | .hangUp execution => execution.reply = call
  | _ => false

/-- The event passes the action of a request to `execute`. -/
def executes (call : ReplyId) : Event Action → Bool
  | .spawn job => job.reply = call
  | _ => false

/-- The movement of senders in a step. -/
def senderMovement : Event Action → Ledger.Movement ReplyId
  | .push _ _ job => .issue job.reply
  | .perform (.discard reply _) => .redeem reply
  | .perform (.answer reply _) => .redeem reply
  | .send execution _ => .redeem execution.reply
  | .hangUp execution => .redeem execution.reply
  | _ => .none

end Event

/-- Operations which wait for their disposition. -/
def operations (Action : Type) : Custody Action ReplyId where
  ofJob := Job.reply
  ofEffect
    | .discard reply _ => some reply
    | .release _ _ => none
    | .answer reply _ => some reply
  discard _ := rfl
  expiry _ := rfl
  rejection _ := rfl
  ofExecution _ := none
  finished _ _ := rfl

/-- Senders of result channels. -/
def senders (Action : Type) : Custody Action ReplyId where
  toReading := (operations Action).toReading
  ofExecution execution := if execution.isFinished then none else some execution.reply
  finished _ joined := by simp [joined]

namespace Gateway

variable {Action : Type}

/-- The operation of a request was accepted and nothing was decided about it yet. -/
def Pending (call : ReplyId) (gateway : Gateway Action) : Prop :=
  call ∈ (operations Action).held gateway

private theorem issued_operations (call : ReplyId) (event : Event Action) :
    (((operations Action).movement event).issued.countP fun reply => reply = call) =
      if event.accepts call then 1 else 0 := by
  cases event with
  | push caller clientClass job =>
      simp [Custody.movement, operations, Event.accepts, List.countP_singleton]
  | giveBack execution =>
      cases progress : execution.progress <;>
        simp [Custody.movement, operations, Event.accepts, progress]
  | _ => rfl

private theorem redeemed_operations (call : ReplyId) (event : Event Action) :
    (((operations Action).movement event).redeemed.countP fun reply => reply = call) =
      if event.disposes call then 1 else 0 := by
  cases event with
  | spawn job =>
      simp [Custody.movement, operations, Event.disposes, Event.disposition, List.countP_singleton]
  | perform effect =>
      cases effect <;>
        simp [Custody.movement, operations, Event.disposes, Event.disposition,
          List.countP_singleton]
  | giveBack execution =>
      cases progress : execution.progress <;>
        simp [Custody.movement, operations, Event.disposes, Event.disposition, progress]
  | _ => rfl

/-- An accepted operation is pending or disposed of. -/
theorem operations_balance {config : Config Action} {gateway : Gateway Action}
    {trace : List (Event Action)} (run : Run config (start config) trace gateway)
    (call : ReplyId) :
    trace.countP (Event.accepts call) =
      ((operations Action).held gateway).countP (fun reply => reply = call) +
        trace.countP (Event.disposes call) := by
  have balance := Ledger.balance (operations Action).held (operations Action).movement
    (fun earlier step => (operations Action).moves_step (idle_run earlier) step) run
    (fun reply => reply = call)
  rw [Ledger.countP_issued _ (issued_operations call),
    Ledger.countP_redeemed _ (redeemed_operations call)] at balance
  simpa [Custody.held, Custody.queued, Custody.executing, Custody.inHand, Custody.ofSection, start,
    Queues.default, Queues.jobs] using balance

theorem senders_step {config : Config Action} {before after : Gateway Action}
    {event : Event Action} (idle : before.Idle) (step : Step config before event after) :
    Ledger.Moves ((senders Action).held before) event.senderMovement
      ((senders Action).held after) := by
  have moves := (senders Action).moves_step idle step
  rw [Ledger.moves_iff_count] at moves ⊢
  intro reply
  have moved := moves reply
  cases step with
  | spawn job =>
      simp only [Custody.movement, Event.senderMovement, Execution.spawned, Execution.isFinished,
        senders, operations, Bool.false_eq_true, ↓reduceIte, Option.toList_some,
        Ledger.Movement.issued_none, Ledger.Movement.redeemed_none, List.count_nil] at moved ⊢
      omega
  | complete front back execution response spawned progress
  | fail front back execution spawned progress
  | giveBack front back execution response spawned progress =>
      simp only [Custody.movement, Event.senderMovement, Execution.isFinished, senders, progress,
        Bool.false_eq_true, ↓reduceIte, Option.toList_some, Ledger.Movement.issued_none,
        Ledger.Movement.redeemed_none, List.count_nil] at moved ⊢
      omega
  | send front back execution response spawned progress
  | hangUp front back execution spawned progress =>
      simpa [Custody.movement, Event.senderMovement, senders, Execution.isFinished, progress]
        using moved
  | perform effect => cases effect <;> exact moved
  | _ => exact moved

/-- A result channel is settled at most once. -/
theorem writes_once {config : Config Action} {gateway : Gateway Action}
    {trace : List (Event Action)} (run : Run config (start config) trace gateway)
    (call : ReplyId) : trace.countP (Event.writes call) ≤ 1 := by
  have balance := Ledger.balance (senders Action).held Event.senderMovement
    (fun earlier step => senders_step (idle_run earlier) step) run (fun reply => reply = call)
  have issued : ∀ event : Event Action,
      (event.senderMovement.issued.countP fun reply => reply = call) =
        if event.accepts call then 1 else 0 := by
    intro event
    cases event with
    | push => simp [Event.senderMovement, Event.accepts, List.countP_singleton]
    | perform effect => cases effect <;> rfl
    | _ => rfl
  have redeemed : ∀ event : Event Action,
      (event.senderMovement.redeemed.countP fun reply => reply = call) =
        if event.writes call then 1 else 0 := by
    intro event
    cases event with
    | perform effect =>
        cases effect <;> simp [Event.senderMovement, Event.writes, List.countP_singleton]
    | send | hangUp => simp [Event.senderMovement, Event.writes, List.countP_singleton]
    | _ => rfl
  rw [Ledger.countP_issued _ issued, Ledger.countP_redeemed _ redeemed] at balance
  have once := (accepts_once run call).1
  have empty : ((senders Action).held (start config)) = [] := rfl
  rw [empty, List.countP_nil] at balance
  omega

theorem replies_once {config : Config Action} {gateway : Gateway Action}
    {trace : List (Event Action)} (run : Run config (start config) trace gateway)
    (call : ReplyId) : trace.countP (Event.replies call) ≤ 1 := by
  refine (List.countP_mono_left fun event _ replies => ?_).trans (writes_once run call)
  cases event with
  | perform effect => cases effect <;> simp_all [Event.replies, Event.writes]
  | send => exact replies
  | _ => simp [Event.replies] at replies

/-- Where the reply in a result channel comes from: from an execution, or from a section which
withdrew the operation. -/
def Source (trace : List (Event Action)) (call : ReplyId) (response : Response) : Prop :=
  (∃ event ∈ trace, event.executes call) ∧ response.Handled ∨
    .perform (.answer call response) ∈ trace ∧
      (response = queueTimeout ∨ response = gatewayClosed)

theorem Source.mono {trace : List (Event Action)} {call : ReplyId} {response : Response}
    (source : Source trace call response) (event : Event Action) :
    Source (trace ++ [event]) call response := by
  rcases source with ⟨⟨spawned, member, executes⟩, handled⟩ | ⟨answered, withdrawn⟩
  · exact .inl ⟨⟨spawned, List.mem_append_left _ member, executes⟩, handled⟩
  · exact .inr ⟨List.mem_append_left _ answered, withdrawn⟩

/-- An execution was spawned for its request, and the response it has in hand is honest. -/
def Honest (trace : List (Event Action)) (execution : Execution Action) : Prop :=
  (∃ event ∈ trace, event.executes execution.reply) ∧
    ∀ response, execution.progress = .done (some response) ∨
      execution.progress = .released (some response) → response.Handled

theorem Honest.mono {trace : List (Event Action)} {execution : Execution Action}
    (honest : Honest trace execution) (event : Event Action) :
    Honest (trace ++ [event]) execution := by
  obtain ⟨⟨spawned, member, executes⟩, outcome⟩ := honest
  exact ⟨⟨spawned, List.mem_append_left _ member, executes⟩, outcome⟩

/-- Every execution and every reply knows where it comes from. -/
structure Provenance (trace : List (Event Action)) (gateway : Gateway Action) : Prop where
  /-- Executions are honest. -/
  executions : ∀ execution ∈ gateway.running, Honest trace execution
  /-- Replies in channels have a source. -/
  channels : ∀ call response, gateway.channels call = .sent response → Source trace call response
  /-- Responses were given before the operation was accepted, or come through its channel. -/
  answers : ∀ call response, gateway.calls call = .answered response →
    response.Refused ∧ trace.countP (Event.accepts call) = 0 ∨ Source trace call response ∨
      response = internalError

private theorem executions_step {config : Config Action} (truthful : config.Truthful)
    {trace : List (Event Action)} {before after : Gateway Action} {event : Event Action}
    (honest : ∀ execution ∈ before.running, Honest trace execution)
    (step : Step config before event after) :
    ∀ execution ∈ after.running, Honest (trace ++ [event]) execution := by
  have kept : ∀ execution ∈ before.running, Honest (trace ++ [event]) execution :=
    fun execution member => (honest execution member).mono event
  cases step with
  | reap => exact fun execution member => kept execution (List.mem_of_mem_filter member)
  | spawn job =>
      intro execution member
      rcases List.mem_append.mp member with earlier | newest
      · exact kept execution earlier
      · obtain rfl := List.mem_singleton.mp newest
        refine ⟨⟨.spawn job, by simp, by simp [Event.executes, Execution.spawned]⟩, ?_⟩
        intro told pending
        simp [Execution.spawned] at pending
  | wakeJoined deadline front back execution parked joined =>
      intro other member
      refine kept other ?_
      rw [joined]
      rcases List.mem_append.mp member with early | late
      · exact List.mem_append_left _ early
      · exact List.mem_append_right _ (List.mem_cons_of_mem _ late)
  | complete front back execution response spawned progress produced =>
      refine forall_progress kept spawned fun earlier => ⟨earlier.1, fun told pending => ?_⟩
      obtain rfl : response = told := by simpa using pending
      exact truthful.outcomes _ _ produced
  | fail front back execution spawned =>
      exact forall_progress kept spawned fun earlier => ⟨earlier.1, fun told pending =>
        absurd pending (by simp)⟩
  | giveBack front back execution response spawned progress =>
      refine forall_progress kept spawned fun earlier => ⟨earlier.1, fun told pending => ?_⟩
      obtain rfl : response = some told := by simpa using pending
      exact earlier.2 _ (.inl progress)
  | send front back execution response spawned =>
      exact forall_progress kept spawned fun earlier => ⟨earlier.1, fun told pending =>
        absurd pending (by simp)⟩
  | hangUp front back execution spawned =>
      exact forall_progress kept spawned fun earlier => ⟨earlier.1, fun told pending =>
        absurd pending (by simp)⟩
  | perform effect =>
      intro execution member
      exact kept execution (by simpa using member)
  | _ => exact kept

private theorem channels_step {config : Config Action} {trace : List (Event Action)}
    {before after : Gateway Action} {event : Event Action} (orderly : before.Orderly)
    (honest : ∀ execution ∈ before.running, Honest trace execution)
    (sourced : ∀ call response, before.channels call = .sent response →
      Source trace call response)
    (step : Step config before event after) (call : ReplyId) (response : Response)
    (sent : after.channels call = .sent response) : Source (trace ++ [event]) call response := by
  have kept : before.channels call = .sent response → Source (trace ++ [event]) call response :=
    fun earlier => (sourced call response earlier).mono event
  -- a channel which was just written
  have written : ∀ (reply : ReplyId) (channel : Channel),
      (channel = .sent response → reply = call → Source (trace ++ [event]) call response) →
        Function.update before.channels reply channel call = .sent response →
          Source (trace ++ [event]) call response := by
    intro reply channel fresh sent
    by_cases same : reply = call
    · subst same
      exact fresh (by simpa using sent) rfl
    · rw [Function.update_of_ne (Ne.symm same)] at sent
      exact kept sent
  cases step with
  | perform effect rest next =>
      cases effect with
      | discard reply permit => exact written reply .dropped nofun sent
      | release => exact kept sent
      | answer reply told =>
          refine written reply (.sent told) (fun same told_call => ?_) sent
          obtain rfl : told = response := by simpa using same
          subst told_call
          have member : Effect.answer reply told ∈ before.todo := by simp [next]
          exact .inr ⟨by simp, (orderly.answer member).elim (fun rejected => .inr rejected.2) .inl⟩
  | send front back execution answered spawned progress =>
      refine written execution.reply (.sent answered) (fun same told_call => ?_) sent
      obtain rfl : answered = response := by simpa using same
      subst told_call
      have member : execution ∈ before.running := by simp [spawned]
      obtain ⟨⟨spawning, earlier, executes⟩, outcome⟩ := honest execution member
      exact .inl ⟨⟨spawning, List.mem_append_left _ earlier, executes⟩,
        outcome _ (.inr progress)⟩
  | hangUp front back execution => exact written execution.reply .dropped nofun sent
  | _ => exact kept sent

private theorem refused_gatewayClosed : gatewayClosed.Refused := ⟨by decide, rfl⟩

private theorem refused_queueTimeout : queueTimeout.Refused := ⟨by decide, rfl⟩

theorem refused_overloaded (code delay : String) : (overloaded code delay).Refused :=
  ⟨by simp [overloaded, protocolError, Response.notStarted], rfl⟩

private theorem handled_internalError : internalError.Handled :=
  .inr ⟨.inl rfl, rfl⟩

private theorem answers_step {config : Config Action} (truthful : config.Truthful)
    {trace : List (Event Action)} {before after : Gateway Action} {event : Event Action}
    (earlier : Run config (start config) trace before) (provenance : Provenance trace before)
    (step : Step config before event after) (call : ReplyId) (response : Response)
    (answered : after.calls call = .answered response) :
    response.Refused ∧ (trace ++ [event]).countP (Event.accepts call) = 0 ∨
      Source (trace ++ [event]) call response ∨ response = internalError := by
  have inside := inside_run earlier
  -- an answered or unaccepted request is not being accepted
  have unaccepted : trace.countP (Event.accepts call) = 0 →
      (trace ++ [event]).countP (Event.accepts call) = 0 := by
    intro none
    rw [List.countP_append, none, List.countP_singleton]
    split
    · rename_i accepts
      rw [(entered_of_accepts inside step accepts).2] at answered
      cases answered
    · rfl
  have refusal : before.Unpushed call → response.Refused →
      response.Refused ∧ (trace ++ [event]).countP (Event.accepts call) = 0 ∨
        Source (trace ++ [event]) call response ∨ response = internalError :=
    fun unpushed refused => .inl ⟨refused, unaccepted ((accepts_once earlier call).2 unpushed)⟩
  have entered : before.lock.caller = some call → before.Unpushed call := by
    intro holds
    rw [Unpushed, inside call holds]
    exact le_rfl
  rcases answering_of_step step answered with already | answering
  · rcases provenance.answers call response already with ⟨refused, none⟩ | source | lost
    · exact .inl ⟨refused, unaccepted none⟩
    · exact .inr (.inl (source.mono event))
    · exact .inr (.inr lost)
  · cases answering with
    | test fresh => exact refusal (by simp [Unpushed, fresh, Call.stage]) (refused_overloaded _ _)
    | decided _ fresh decided =>
        exact refusal (by simp [Unpushed, fresh, Call.stage]) (truthful.refusals response decided)
    | closed identity action submitted =>
        exact refusal (by simp [Unpushed, submitted, Call.stage]) refused_gatewayClosed
    | exhausted identity action holds =>
        exact refusal (entered (by rw [holds]; rfl)) (refused_overloaded _ _)
    | full holds => exact refusal (entered (by rw [holds]; rfl)) (refused_overloaded _ _)
    | received _ sent => exact .inr (.inl ((provenance.channels call response sent).mono _))
    | lost => exact .inr (.inr rfl)

theorem provenance_run {config : Config Action} (truthful : config.Truthful)
    {gateway : Gateway Action} {trace : List (Event Action)}
    (run : Run config (start config) trace gateway) : Provenance trace gateway := by
  refine run.invariantTrace Provenance ⟨fun _ member => absurd member List.not_mem_nil,
    fun _ _ sent => by simp [start] at sent, fun _ _ answered => by simp [start] at answered⟩ ?_
  intro trace before after event earlier provenance step
  exact ⟨executions_step truthful provenance.executions step,
    channels_step (orderly_run earlier) provenance.executions provenance.channels step,
    answers_step truthful earlier provenance step⟩

/-- What became of the operation of a request, oldest first. -/
def dispositions (trace : List (Event Action)) (call : ReplyId) : List Disposition :=
  ((trace.filterMap Event.disposition).filter fun disposed => disposed.1 = call).map Prod.snd

theorem length_dispositions (trace : List (Event Action)) (call : ReplyId) :
    (dispositions trace call).length = trace.countP (Event.disposes call) := by
  induction trace with
  | nil => rfl
  | cons event trace induction =>
      unfold dispositions at induction ⊢
      rw [List.countP_cons, ← induction]
      cases disposed : event.disposition with
      | none => simp [disposed, Event.disposes]
      | some pair =>
          by_cases same : pair.1 = call <;> simp [disposed, Event.disposes, same]

/-- An operation which was executed was not withdrawn. -/
theorem executes_excludes {config : Config Action} {gateway : Gateway Action}
    {trace : List (Event Action)} (run : Run config (start config) trace gateway)
    {call : ReplyId} {event other : Event Action} (executed : event ∈ trace)
    (executes : event.executes call) (member : other ∈ trace) (disposes : other.disposes call)
    (different : other.executes call = false) : False := by
  have balance := operations_balance run call
  have once := (accepts_once run call).1
  have apart : trace.countP (fun event => event.executes call) +
      trace.countP (fun event => event.disposes call && !event.executes call) ≤
        trace.countP (Event.disposes call) := by
    clear run balance once executed member
    induction trace with
    | nil => exact le_rfl
    | cons event trace induction =>
        have implied : event.executes call → event.disposes call := by
          cases event <;> simp [Event.executes, Event.disposes, Event.disposition]
        simp only [List.countP_cons]
        cases executes : event.executes call <;> cases disposes : event.disposes call <;>
          simp_all <;> omega
  have first : 0 < trace.countP fun event => event.executes call :=
    List.countP_pos_iff.mpr ⟨event, executed, executes⟩
  have second : 0 < trace.countP fun event => event.disposes call && !event.executes call :=
    List.countP_pos_iff.mpr ⟨other, member, by simp [disposes, different]⟩
  omega

/-- An operation is executed at most once, and only if it was accepted. -/
theorem executes_once {config : Config Action} {gateway : Gateway Action}
    {trace : List (Event Action)} (run : Run config (start config) trace gateway)
    (call : ReplyId) : trace.countP (Event.executes call) ≤ 1 ∧
      (gateway.Unpushed call → trace.countP (Event.executes call) = 0) := by
  have disposed : trace.countP (Event.executes call) ≤ trace.countP (Event.disposes call) := by
    refine List.countP_mono_left fun event _ executes => ?_
    cases event with
    | spawn => simpa [Event.executes, Event.disposes, Event.disposition] using executes
    | _ => simp [Event.executes] at executes
  have balance := operations_balance run call
  obtain ⟨once, unpushed⟩ := accepts_once run call
  exact ⟨by omega, fun early => by have none := unpushed early; omega⟩

/-- A response tells the truth about the execution of its operation. -/
theorem truth_of_answer {config : Config Action} (truthful : config.Truthful)
    {gateway : Gateway Action} {trace : List (Event Action)}
    (run : Run config (start config) trace gateway) {call : ReplyId} {response : Response}
    (answered : gateway.calls call = .answered response) :
    response.Refused ∧ (∀ event ∈ trace, event.executes call = false) ∨ response.Handled := by
  rcases (provenance_run truthful run).answers call response answered with
    ⟨refused, unaccepted⟩ | (⟨-, handled⟩ | ⟨withdrawn, answer⟩) | rfl
  · refine .inl ⟨refused, fun event member => ?_⟩
    have balance := operations_balance run call
    have none : trace.countP (Event.disposes call) = 0 := by omega
    have idle := List.countP_eq_zero.mp none event member
    cases event <;> simp_all [Event.executes, Event.disposes, Event.disposition]
  · exact .inr handled
  · refine .inl ⟨?_, fun event member => ?_⟩
    · rcases answer with rfl | rfl
      · exact refused_queueTimeout
      · exact refused_gatewayClosed
    · by_contra executes
      exact executes_excludes run member (by simpa using executes) withdrawn
        (by simp [Event.disposes, Event.disposition]) rfl
  · exact .inr handled_internalError

end Gateway

end AiProtocol
