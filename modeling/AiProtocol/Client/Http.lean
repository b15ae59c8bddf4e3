import AiProtocol.Library.Exchange
import AiProtocol.Gateway.Served

/-!
# Responses as clients see them

Clients look at the status, the `Retry-After` header and the JSON body of a response.  The responses
documented as not started are the ones a client may rely on, and every run of the gateway is, call
by call, a run of a service whose denials are certain.
-/

namespace AiProtocol

namespace Json

/-- `value[key]`, null unless the value is an object with this member. -/
def index : Json → String → Json
  | .object members, key => (members.lookup key).getD .null
  | _, _ => .null

end Json

/-- A response as a client receives it. -/
structure HttpReply where
  /-- HTTP status code. -/
  status : Nat
  /-- The `Retry-After` header. -/
  retryAfter : Option String
  /-- The body, if it is JSON. -/
  body : Option Json

namespace HttpReply

/-- `error.code` as a string. -/
def errorCode (reply : HttpReply) : Option String :=
  reply.body.bind fun value => ((value.index "error").index "code").asStr

/-- `error.execution` as a string. -/
def errorExecution (reply : HttpReply) : Option String :=
  reply.body.bind fun value => ((value.index "error").index "execution").asStr

/-- `StatusCode::is_success`. -/
def isSuccess (reply : HttpReply) : Bool :=
  200 ≤ reply.status && reply.status < 300

/-- The responses documented as `not_started`. -/
def Denies (reply : HttpReply) : Prop :=
  reply.status ∈ [400, 401, 403, 404, 405, 413, 415, 422, 429] ∨
    reply.status = 503 ∧
      (reply.errorCode = some "queue_timeout" ∨ reply.errorCode = some "gateway_closed") ∧
      reply.errorExecution = some "not_started"

end HttpReply

/-- A response of the gateway on the wire; `parse` reads the bytes of an operation as JSON. -/
def Response.wire (parse : List UInt8 → Option Json) (response : Response) : HttpReply where
  status := response.status
  retryAfter := response.retryAfter
  body :=
    match response.body with
    | .error code execution =>
        some (.object [("error", .object [("code", .string code),
          ("execution", .string execution)])])
    | .bytes content => parse content

theorem Response.Handled.not_denies {response : Response} (handled : response.Handled)
    (parse : List UInt8 → Option Json) : ¬(response.wire parse).Denies := by
  have status : 200 ≤ response.status ∧ response.status < 300 ∨ response.status = 500 ∨
      response.status = 502 ∨ response.status = 504 := by
    rcases handled with ⟨success, -⟩ | ⟨failure, -⟩
    · exact .inl (by simpa [Response.isSuccess] using success)
    · exact .inr failure
  rintro (listed | ⟨unavailable, -⟩)
  · simp only [Response.wire, List.mem_cons, List.not_mem_nil, or_false] at listed
    omega
  · simp only [Response.wire] at unavailable
    omega

namespace Event

variable {Action : Type}

/-- The event hands a request to the gateway. -/
def receives (call : ReplyId) : Event Action → Bool
  | .submit caller _ _ => caller = call
  | .respond caller _ => caller = call
  | _ => false

/-- The response an event gives, and to whom. -/
def answer : Event Action → Option (ReplyId × Response)
  | .respond caller response => some (caller, response)
  | .turnAway caller => some (caller, gatewayClosed)
  | .exhausted caller => some (caller, overloaded "budget_exhausted" "1")
  | .refuse caller => some (caller, overloaded "queue_full" "1")
  | .receive caller response => some (caller, response)
  | .lose caller => some (caller, internalError)
  | _ => none

/-- The response an event gives to a request. -/
def answers (call : ReplyId) (event : Event Action) : Option Response :=
  (event.answer.filter fun given => given.1 = call).map Prod.snd

/-- What an event means for one request. -/
def exchanged (parse : List UInt8 → Option Json) (call : ReplyId) (event : Event Action) :
    List (Exchange.Event HttpReply) :=
  (if event.receives call then [.send] else []) ++
    (if event.executes call then [.execute] else []) ++
      (event.answers call).toList.map fun response => .answer (response.wire parse)

private theorem countP_isSend_exchanged (parse : List UInt8 → Option Json) (call : ReplyId)
    (event : Event Action) :
    (event.exchanged parse call).countP Exchange.Event.isSend = (event.receives call).toNat := by
  unfold exchanged
  cases event.receives call <;> cases event.executes call <;> cases event.answers call <;> rfl

private theorem countP_isExecute_exchanged (parse : List UInt8 → Option Json) (call : ReplyId)
    (event : Event Action) :
    (event.exchanged parse call).countP Exchange.Event.isExecute = (event.executes call).toNat := by
  unfold exchanged
  cases event.receives call <;> cases event.executes call <;> cases event.answers call <;> rfl

private theorem countP_isAnswer_exchanged (parse : List UInt8 → Option Json) (call : ReplyId)
    (event : Event Action) :
    (event.exchanged parse call).countP Exchange.Event.isAnswer =
      (event.answers call).isSome.toNat := by
  unfold exchanged
  cases event.receives call <;> cases event.executes call <;> cases event.answers call <;> rfl

end Event

namespace Gateway

variable {Action : Type}

/-- One request of a gateway as a remote call. -/
def exchange (parse : List UInt8 → Option Json) (trace : List (Event Action))
    (gateway : Gateway Action) (call : ReplyId) : Exchange HttpReply where
  sent := (gateway.calls call).stage ≠ 0
  executed := trace.any fun event => event.executes call
  answer :=
    match gateway.calls call with
    | .answered response => some (response.wire parse)
    | _ => none

theorem answer_exchange {parse : List UInt8 → Option Json} {trace : List (Event Action)}
    {gateway : Gateway Action} {call : ReplyId} {reply : HttpReply} :
    (exchange parse trace gateway call).answer = some reply ↔
      ∃ response, gateway.calls call = .answered response ∧ response.wire parse = reply := by
  cases answered : gateway.calls call <;> simp [exchange, answered]

section Steps

variable {config : Config Action} {before after : Gateway Action} {event : Event Action}

/-- A request is received while it is absent, and by nothing else. -/
theorem received_step (inside : before.Inside) (step : Step config before event after)
    (call : ReplyId) :
    (event.receives call = true → before.calls call = .absent) ∧
      ((after.calls call).stage ≠ 0 ↔
        (before.calls call).stage ≠ 0 ∨ event.receives call = true) := by
  have entered : ∀ caller, before.lock.caller = some caller →
      (before.calls caller).stage ≠ 0 := by
    intro caller holds
    rw [inside caller holds]
    exact Nat.succ_ne_zero 1
  -- a request which is there already moves on
  have moves : ∀ {caller : ReplyId} {phase : AiProtocol.Call Action},
      (before.calls caller).stage ≠ 0 → phase.stage ≠ 0 →
        (((before.move caller phase).calls call).stage ≠ 0 ↔
          (before.calls call).stage ≠ 0 ∨ false = true) := by
    intro caller phase present later
    by_cases same : call = caller
    · subst same
      simp [present, later]
    · simp [move_calls_ne before phase same]
  -- a request which was not there arrives
  have arrives : ∀ {caller : ReplyId} {phase : AiProtocol.Call Action},
      before.calls caller = .absent → phase.stage ≠ 0 →
        (decide (caller = call) = true → before.calls call = .absent) ∧
          (((before.move caller phase).calls call).stage ≠ 0 ↔
            (before.calls call).stage ≠ 0 ∨ decide (caller = call) = true) := by
    intro caller phase fresh later
    by_cases same : caller = call
    · subst same
      simp [fresh, later]
    · simp [move_calls_ne before phase (Ne.symm same), same]
  cases step with
  | submit _ _ _ fresh | refuseTest _ _ _ fresh | respond _ _ fresh =>
      exact arrives fresh (by simp [Call.stage])
  | leave caller awaiting =>
      refine ⟨by simp [Event.receives], moves ?_ (by simp [Call.stage])⟩
      rcases awaiting with ⟨identity, action, submitted⟩ | waiting
      · simp [submitted, Call.stage]
      · simp [waiting, Call.stage]
  | turnAway _ _ _ submitted | enter _ _ _ _ submitted =>
      exact ⟨by simp [Event.receives],
        moves (by simp [submitted, Call.stage]) (by simp [Call.stage])⟩
  | exhausted _ _ _ holds | refuse _ holds | push _ _ _ _ _ holds =>
      exact ⟨by simp [Event.receives],
        moves (entered _ (by rw [holds]; rfl)) (by simp [Call.stage])⟩
  | notify _ waiting | receive _ _ waiting | lose _ waiting =>
      exact ⟨by simp [Event.receives],
        moves (by simp [waiting, Call.stage]) (by simp [Call.stage])⟩
  | _ => simp [Event.receives]

/-- An event gives a response to a request which has none, and no other event gives it one. -/
theorem told_step (inside : before.Inside) (step : Step config before event after)
    (call : ReplyId) :
    (∀ response, event.answers call = some response →
      after.calls call = .answered response ∧ (before.calls call).stage < 5) ∧
    (event.answers call = none → ∀ response, after.calls call = .answered response →
      before.calls call = .answered response) := by
  have entered : ∀ caller, before.lock.caller = some caller →
      (before.calls caller).stage < 5 := by
    intro caller holds
    rw [inside caller holds]
    exact Nat.lt_of_sub_eq_succ rfl
  -- a request moves on without a response
  have silent : ∀ {caller : ReplyId} {phase : AiProtocol.Call Action},
      (∀ response, phase ≠ .answered response) → ∀ response,
        (before.move caller phase).calls call = .answered response →
          before.calls call = .answered response := by
    intro caller phase other response answered
    rcases calls_of_move answered with already | ⟨-, told⟩
    · exact already
    · exact absurd told (other response)
  -- a request is told its response
  have tells : ∀ {caller : ReplyId} {given : Response}, (before.calls caller).stage < 5 →
      (∀ response, ((some (caller, given)).filter fun given => given.1 = call).map Prod.snd =
        some response → (before.move caller (.answered given)).calls call = .answered response ∧
          (before.calls call).stage < 5) ∧
      (((some (caller, given)).filter fun given => given.1 = call).map Prod.snd = none →
        ∀ response, (before.move caller (.answered given)).calls call = .answered response →
          before.calls call = .answered response) := by
    intro caller given early
    by_cases same : caller = call
    · subst same
      simp [Option.filter, early]
    · simp [Option.filter, same, move_calls_ne before _ (Ne.symm same)]
  cases step with
  | refuseTest _ _ _ fresh | respond _ _ fresh =>
      exact tells (by simp [fresh, Call.stage])
  | turnAway _ _ _ submitted => exact tells (by simp [submitted, Call.stage])
  | exhausted _ _ _ holds | refuse _ holds => exact tells (entered _ (by rw [holds]; rfl))
  | receive _ _ waiting | lose _ waiting => exact tells (by simp [waiting, Call.stage])
  | submit | leave | enter | push | notify =>
      exact ⟨by simp [Event.answers, Event.answer], fun _ => silent (by simp)⟩
  | _ => simp [Event.answers, Event.answer]

end Steps

/-- The step which executes a request. -/
theorem exchange_executes {config : Config Action} (truthful : config.Truthful)
    (parse : List UInt8 → Option Json) {trace : List (Event Action)}
    {before after : Gateway Action} {event : Event Action}
    (earlier : Run config (start config) trace before) (step : Step config before event after)
    {call : ReplyId} (executes : event.executes call = true) :
    Exchange.Step HttpReply.Denies (exchange parse trace before call) .execute
      (exchange parse (trace ++ [event]) after call) := by
  have same : after.calls = before.calls := by
    cases step with
    | spawn => rfl
    | _ => simp [Event.executes] at executes
  obtain ⟨once, unpushed⟩ := executes_once (earlier.tail step) call
  rw [List.countP_append, List.countP_singleton, if_pos executes] at once unpushed
  have result : exchange parse (trace ++ [event]) after call =
      { exchange parse trace before call with executed := true } := by
    simp [exchange, same, executes]
  rw [result]
  refine .execute _ ?_ ?_ ?_
  · simp only [exchange, decide_eq_true_eq]
    intro absent
    have none := unpushed (by simp [Unpushed, same, absent])
    omega
  · have none : trace.countP (Event.executes call) = 0 := by omega
    simpa [exchange, List.countP_eq_zero] using none
  · rintro ⟨reply, answered, denied⟩
    obtain ⟨response, told, rfl⟩ := answer_exchange.mp answered
    rcases truth_of_answer truthful (earlier.tail step) (by rw [same, told]) with
      ⟨-, unexecuted⟩ | handled
    · rw [unexecuted event (by simp)] at executes
      cases executes
    · exact handled.not_denies parse denied

/-- A step of the gateway is what its event means for one request. -/
theorem exchange_step {config : Config Action} (truthful : config.Truthful)
    (parse : List UInt8 → Option Json) {trace : List (Event Action)}
    {before after : Gateway Action} {event : Event Action}
    (earlier : Run config (start config) trace before) (step : Step config before event after)
    (call : ReplyId) :
    Exchange.Run HttpReply.Denies (exchange parse trace before call) (event.exchanged parse call)
      (exchange parse (trace ++ [event]) after call) := by
  have inside := inside_run earlier
  obtain ⟨fresh, present⟩ := received_step inside step call
  obtain ⟨gives, keeps⟩ := told_step inside step call
  cases executes : event.executes call with
  | true =>
      have single : event.exchanged parse call = [.execute] := by
        cases step <;> simp_all [Event.exchanged, Event.receives, Event.answers, Event.answer,
          Event.executes]
      rw [single]
      exact .single (exchange_executes truthful parse earlier step executes)
  | false =>
      have kept : (exchange parse (trace ++ [event]) after call).executed =
          (exchange parse trace before call).executed := by
        simp [exchange, executes]
      -- the request is received, if it is
      have arrived : Exchange.Run HttpReply.Denies (exchange parse trace before call)
          (if event.receives call then [.send] else [])
            { exchange parse trace before call with
              sent := (exchange parse (trace ++ [event]) after call).sent } := by
        cases receives : event.receives call with
        | true =>
            have sent : (exchange parse (trace ++ [event]) after call).sent = true := by
              simpa [exchange] using present.mpr (.inr receives)
            rw [sent]
            exact .single (.send _ (by simp [exchange, fresh receives, Call.stage]))
        | false =>
            have sent : (exchange parse (trace ++ [event]) after call).sent =
                (exchange parse trace before call).sent := by
              simp only [exchange, decide_eq_decide]
              simpa [receives] using present
            rw [sent]
            exact .refl _
      rw [Event.exchanged, executes, if_neg Bool.false_ne_true, List.append_nil]
      refine arrived.trans ?_
      cases given : event.answers call with
      | none =>
          have same : (exchange parse (trace ++ [event]) after call).answer =
              (exchange parse trace before call).answer := by
            refine Option.ext fun reply => ?_
            rw [answer_exchange, answer_exchange]
            refine exists_congr fun response => and_congr_left fun _ => ?_
            exact ⟨keeps given response, answered_step inside step⟩
          have result : exchange parse (trace ++ [event]) after call =
              { exchange parse trace before call with
                sent := (exchange parse (trace ++ [event]) after call).sent } :=
            Exchange.ext rfl kept same
          rw [← result]
          exact .refl _
      | some response =>
          obtain ⟨told, early⟩ := gives response given
          have result : exchange parse (trace ++ [event]) after call =
              { exchange parse trace before call with
                sent := (exchange parse (trace ++ [event]) after call).sent
                answer := some (response.wire parse) } :=
            Exchange.ext rfl kept (answer_exchange.mpr ⟨response, told, rfl⟩)
          have unanswered : (exchange parse trace before call).answer = none := by
            refine Option.eq_none_iff_forall_ne_some.mpr fun reply answered => ?_
            obtain ⟨other, already, -⟩ := answer_exchange.mp answered
            simp [already, Call.stage] at early
          have answering : Exchange.Step HttpReply.Denies
              { exchange parse trace before call with
                sent := (exchange parse (trace ++ [event]) after call).sent }
              (.answer (response.wire parse))
              { exchange parse trace before call with
                sent := (exchange parse (trace ++ [event]) after call).sent
                answer := some (response.wire parse) } := by
            refine .answer _ _ (by simp [exchange, told, Call.stage]) unanswered fun denied => ?_
            rcases truth_of_answer truthful (earlier.tail step) told with ⟨-, unexecuted⟩ | handled
            · simpa [exchange] using fun other member => unexecuted other
                (List.mem_append_left _ member)
            · exact absurd denied (handled.not_denies parse)
          rw [← result] at answering
          exact .single answering

theorem countP_exchanged (parse : List UInt8 → Option Json) (call : ReplyId)
    {counts : Exchange.Event HttpReply → Bool} {holds : Event Action → Bool}
    (one : ∀ event : Event Action, (event.exchanged parse call).countP counts =
      (holds event).toNat) (trace : List (Event Action)) :
    (trace.flatMap (Event.exchanged parse call)).countP counts = trace.countP holds := by
  induction trace with
  | nil => rfl
  | cons event trace induction =>
      rw [List.flatMap_cons, List.countP_append, one, induction, List.countP_cons]
      cases holds event <;> simp [Nat.add_comm]

/-- Call by call, a gateway is a service whose denials are certain.  Its trace, read call by call,
is the trace of a remote call: a request is received, executed and answered at most once each, and
one which is denied was not and will not be executed. -/
theorem exchange_run {config : Config Action} (truthful : config.Truthful)
    (parse : List UInt8 → Option Json) {gateway : Gateway Action} {trace : List (Event Action)}
    (run : Run config (start config) trace gateway) (call : ReplyId) :
    Exchange.Run HttpReply.Denies .fresh (trace.flatMap (Event.exchanged parse call))
        (exchange parse trace gateway call) ∧
      trace.countP (Event.receives call) ≤ 1 ∧ trace.countP (Event.executes call) ≤ 1 ∧
      trace.countP (fun event => (event.answers call).isSome) ≤ 1 ∧
      ∀ event ∈ trace, ∀ response, event.answers call = some response →
        (response.wire parse).Denies → ∀ more later, Run config gateway more later →
          ∀ other ∈ trace ++ more, other.executes call = false := by
  have refines : Exchange.Run HttpReply.Denies .fresh (trace.flatMap (Event.exchanged parse call))
      (exchange parse trace gateway call) := by
    refine run.invariantTrace (fun trace gateway => Exchange.Run HttpReply.Denies .fresh
      (trace.flatMap (Event.exchanged parse call)) (exchange parse trace gateway call)) (.refl _) ?_
    intro trace before after event earlier sofar step
    rw [List.flatMap_append, List.flatMap_singleton]
    exact sofar.trans (exchange_step truthful parse earlier step call)
  obtain ⟨receives, executes, answers⟩ := Exchange.counts_run refines
  rw [countP_exchanged parse call (Event.countP_isSend_exchanged parse call)] at receives
  rw [countP_exchanged parse call (Event.countP_isExecute_exchanged parse call)] at executes
  rw [countP_exchanged parse call (Event.countP_isAnswer_exchanged parse call)] at answers
  refine ⟨refines, receives.trans_le (Bool.toNat_le _), executes.trans_le (Bool.toNat_le _),
    answers.trans_le (Bool.toNat_le _), ?_⟩
  intro event member response given denies more later continued other executed
  obtain ⟨front, back, middle, next, rfl, earlier, step, rest⟩ := run.step_of_mem member
  have told := ((told_step (inside_run earlier) step call).1 response given).1
  have still : later.calls call = .answered response := by
    refine (rest.trans continued).invariantTrace
      (fun _ gateway => gateway.calls call = .answered response) told ?_
    intro trace before after event sofar answered step'
    exact answered_step (inside_run ((earlier.tail step).trans sofar)) step' answered
  rcases truth_of_answer truthful (run.trans continued) still with ⟨-, unexecuted⟩ | handled
  · exact unexecuted other executed
  · exact absurd denies (handled.not_denies parse)

private theorem decides_unknown (deployment : Deployment) (path : String)
    (unknown : deployment.service.operation path = none) :
    deployment.config.decides (.respond (protocolError 404 "not_found" "not_started")) := by
  refine ⟨{ path, method := "POST", authorization := [], grant := none, params := .ok .null }, ?_⟩
  rw [Service.app, unknown]

/-- One request is executed once, and another one whose path is unknown never is. -/
theorem exchange_run_sample : ∃ (trace : List (Event TaskAction)) (gateway : Gateway TaskAction),
    Run Deployment.echoing.config (start Deployment.echoing.config) trace gateway ∧
      (exchange (fun _ => none) trace gateway 0).executed = true ∧
      trace.countP (Event.executes 0) ≤ 1 ∧
      (exchange (fun _ => none) trace gateway 1).Denied HttpReply.Denies ∧
      Exchange.Run HttpReply.Denies .fresh (trace.flatMap (Event.exchanged (fun _ => none) 1))
        (exchange (fun _ => none) trace gateway 1) ∧
      ∀ more later, Run Deployment.echoing.config gateway more later →
        ∀ other ∈ trace ++ more, other.executes 1 = false := by
  obtain ⟨front, served, serves⟩ := (ready_start Deployment.echoing.config).serves 0 rfl rfl
    Deployment.echoing_decides rfl (by decide) (by decide) Deployment.echoing_executes
  have run := serves.run.tail (.respond served 1 (protocolError 404 "not_found" "not_started")
    ((serves.others 1 (by decide)).trans rfl) (decides_unknown _ "/" rfl))
  obtain ⟨-, -, once, -⟩ := exchange_run Deployment.echoing.truthful (fun _ => none) run 0
  obtain ⟨refines, -, -, -, denied⟩ :=
    exchange_run Deployment.echoing.truthful (fun _ => none) run 1
  refine ⟨_, _, run, ?_, once, ?_, refines,
    denied _ (List.mem_append_right _ (List.mem_singleton_self _)) _ rfl (.inl (by decide))⟩
  · obtain ⟨event, member, executes⟩ := serves.executed
    exact List.any_eq_true.mpr ⟨event, List.mem_append_left _ member, executes⟩
  · exact ⟨_, answer_exchange.mpr ⟨_, move_calls_self _ _ _, rfl⟩, .inl (by decide)⟩

end Gateway

end AiProtocol
