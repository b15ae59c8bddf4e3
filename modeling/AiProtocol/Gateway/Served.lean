import AiProtocol.Gateway.Upstream
import AiProtocol.Gateway.Idle

/-!
# The gateway of a service

The handlers of a service refuse requests without starting anything, and its executions never deny
themselves.  With the custody of accepted operations this makes every response truthful.
-/

namespace AiProtocol

/-- What a service is started with, besides its handlers. -/
structure Deployment where
  /-- Operations and credentials. -/
  service : Service
  /-- Origin of the upstream service. -/
  upstreamUrl : Option String
  /-- Resource bounds. -/
  settings : RuntimeSettings
  /-- The bounds were validated. -/
  settings_valid : settings.validate = .ok settings
  /-- Waiting times. -/
  queueSettings : QueueSettings
  /-- Selection order. -/
  mode : SchedulerMode
  /-- Initial ceilings of the budgets. -/
  maximum : BudgetRef → Nat
  /-- The test-only rejection. -/
  rejectOnce : Bool

namespace Deployment

/-- The configuration of the gateway of a service. -/
def config (deployment : Deployment) : Config TaskAction where
  settings := deployment.settings
  settings_valid := deployment.settings_valid
  queueSettings := deployment.queueSettings
  mode := deployment.mode
  maximum := deployment.maximum
  rejectOnce := deployment.rejectOnce
  decides decision := ∃ request, deployment.service.app request = decision
  executes action response :=
    ∃ world, execute deployment.upstreamUrl deployment.settings action world = response

end Deployment

private theorem refused_invalidJson (rejection : JsonRejection) :
    (invalidJson rejection).Refused := by
  cases rejection <;> exact ⟨by decide, rfl⟩

private theorem Service.refused_authenticate {service : Service} {request : HttpRequest}
    {response : Response} (failed : service.authenticate request = .error response) :
    response.Refused := by
  unfold Service.authenticate at failed
  split at failed
  · obtain rfl : unauthorized = response := by simpa using failed
    exact ⟨by decide, rfl⟩
  · split at failed
    · obtain rfl : protocolError 403 "forbidden" "not_started" = response := by simpa using failed
      exact ⟨by decide, rfl⟩
    · cases failed

private theorem Service.refused_work {identity : ClientIdentity} {operation : Operation}
    {request : HttpRequest} {response : Response}
    (refused : work identity operation request = .respond response) : response.Refused := by
  have parameters : (protocolError 422 "invalid_parameters" "not_started").Refused :=
    ⟨by decide, rfl⟩
  unfold work at refused
  split at refused
  · rename_i rejection _
    obtain rfl : invalidJson rejection = response := by simpa using refused
    exact refused_invalidJson rejection
  · split at refused
    · rename_i native _
      split at refused
      · cases refused
      · rename_i told prepared
        obtain rfl : told = response := by simpa using refused
        unfold Operation.prepare at prepared
        split at prepared
        · cases prepared
        · obtain rfl : protocolError 422 "invalid_parameters" "not_started" = told := by
            simpa using prepared
          exact parameters
    · split at refused
      · cases refused
      · obtain rfl : protocolError 422 "invalid_parameters" "not_started" = response := by
          simpa using refused
        exact parameters

private theorem Service.refused_app {service : Service} {request : HttpRequest}
    {response : Response}
    (refused : service.app request = .respond response) : response.Refused := by
  unfold app at refused
  split at refused
  · obtain rfl : protocolError 404 "not_found" "not_started" = response := by simpa using refused
    exact ⟨by decide, rfl⟩
  · split at refused
    · obtain rfl : protocolError 405 "method_not_allowed" "not_started" = response := by
        simpa using refused
      exact ⟨by decide, rfl⟩
    · split at refused
      · rename_i told failed
        obtain rfl : told = response := by simpa using refused
        exact refused_authenticate failed
      · exact refused_work refused

theorem handled_protocolError {status : Nat}
    (open_outcome : status = 500 ∨ status = 502 ∨ status = 504)
    (code : String) : (protocolError status code "unknown").Handled :=
  .inr ⟨open_outcome, rfl⟩

private theorem handled_readBody {maxResponseBytes : Nat} {chunks : List (Option (List UInt8))}
    {body : List UInt8} {response : Response}
    (failed : readBody maxResponseBytes chunks body = .error response) : response.Handled := by
  induction chunks generalizing body with
  | nil => simp [readBody] at failed
  | cons chunk chunks induction =>
      cases chunk with
      | none =>
          obtain rfl : protocolError 502 "upstream_body_error" "unknown" = response := by
            simpa [readBody] using failed
          exact handled_protocolError (by decide) _
      | some chunk =>
          rw [readBody] at failed
          split at failed
          · exact induction failed
          · obtain rfl : protocolError 502 "response_too_large" "unknown" = response := by
              simpa using failed
            exact handled_protocolError (by decide) _

private theorem handled_callMapped (upstreamUrl : Option String) (maxResponseBytes : Nat)
    (sent : Sent) :
    (callMapped upstreamUrl maxResponseBytes sent).Handled := by
  unfold callMapped
  split
  · exact handled_protocolError (by decide) _
  · split
    · split <;> exact handled_protocolError (by decide) _
    · split
      · exact handled_protocolError (by decide) _
      · split
        · exact handled_protocolError (by decide) _
        · split
          · exact .inl ⟨rfl, rfl⟩
          · exact handled_readBody ‹_›

/-- Executions succeed with bytes of the operation, or leave their outcome open. -/
theorem handled_execute (upstreamUrl : Option String) (settings : RuntimeSettings)
    (action : TaskAction) (world : World) :
    (execute upstreamUrl settings action world).Handled := by
  unfold execute
  split
  · exact handled_protocolError (by decide) _
  · unfold materialize
    split
    · rename_i body found
      have read := (Option.filter_eq_some_iff.mp found).1
      cases action with
      | native operation params =>
          simp only [callUpstream, callNative] at read ⊢
          split at read
          · rename_i success
            obtain ⟨content, _, rfl⟩ := Option.map_eq_some_iff.mp read
            rw [if_pos success]
            exact .inl ⟨by simpa [Response.isSuccess] using success, rfl⟩
          · rename_i failure
            rw [if_neg failure]
            obtain rfl : _ = body := by simpa [Reply.ofResponse] using read
            exact handled_protocolError (by decide) _
      | mapped request =>
          simp only [callUpstream, Reply.ofResponse] at read ⊢
          obtain rfl : _ = body := by simpa using read
          exact handled_callMapped upstreamUrl settings.maxResponseBytes world.upstream
    · exact handled_protocolError (by decide) _

theorem Deployment.truthful (deployment : Deployment) : deployment.config.Truthful where
  refusals := by
    rintro response ⟨request, decided⟩
    exact Service.refused_app decided
  outcomes := by
    rintro action response ⟨world, rfl⟩
    exact handled_execute _ _ _ _

open Gateway in
/-- Execution certainty: an accepted operation is pending or has exactly one disposition, and its
sender replies at most once; a response which denies the execution is never given to an operation
which was or will be passed to `execute`; and the response of an executed operation is a success or
an error 500, 502 or 504 which leaves the outcome open. -/
theorem execution_certainty (deployment : Deployment) {gateway : Gateway TaskAction}
    {trace : List (Event TaskAction)}
    (run : Run deployment.config (start deployment.config) trace gateway) (call : ReplyId) :
    trace.countP (Event.accepts call) ≤ 1 ∧
      (trace.countP (Event.accepts call) = 0 → dispositions trace call = []) ∧
      (trace.countP (Event.accepts call) = 1 →
        gateway.Pending call ∧ dispositions trace call = [] ∨
          ¬gateway.Pending call ∧ ∃ disposition, dispositions trace call = [disposition]) ∧
      trace.countP (Event.replies call) ≤ 1 ∧
      ∀ response, gateway.calls call = .answered response →
        (response.notStarted ∨ response.execution = some "not_started" →
          ∀ later back, Run deployment.config gateway back later →
            ∀ event ∈ trace ++ back, event.executes call = false) ∧
        ((∃ event ∈ trace, event.executes call) → response.Handled) := by
  have balance := operations_balance run call
  rw [← length_dispositions] at balance
  have pending : gateway.Pending call ↔
      0 < ((operations TaskAction).held gateway).countP fun reply => reply = call := by
    rw [List.countP_pos_iff]
    refine ⟨fun held => ⟨call, held, by simp⟩, ?_⟩
    rintro ⟨reply, held, same⟩
    obtain rfl : reply = call := by simpa using same
    exact held
  refine ⟨(accepts_once run call).1, ?_, ?_, replies_once run call, ?_⟩
  · intro unaccepted
    exact List.eq_nil_of_length_eq_zero (by omega)
  · intro accepted
    rw [pending]
    rcases Nat.eq_zero_or_pos (dispositions trace call).length with none | some
    · exact .inl ⟨by omega, List.eq_nil_of_length_eq_zero none⟩
    · exact .inr ⟨by omega, List.length_eq_one_iff.mp (by omega)⟩
  · intro response answered
    refine ⟨?_, ?_⟩
    · intro denies later back continued event member
      have still : later.calls call = .answered response := by
        refine continued.invariantTrace
          (fun _ gateway => gateway.calls call = .answered response) answered ?_
        intro front before after event earlier answered step
        exact answered_step (inside_run (run.trans earlier)) step answered
      rcases truth_of_answer deployment.truthful (run.trans continued) still with
        ⟨-, unexecuted⟩ | handled
      · exact unexecuted event member
      · obtain ⟨started, executed⟩ := handled.not_refused
        exact absurd denies (by simp [started, executed])
    · rintro ⟨event, member, executes⟩
      rcases truth_of_answer deployment.truthful run answered with ⟨-, unexecuted⟩ | handled
      · rw [unexecuted event member] at executes
        cases executes
      · exact handled

/-- A deployment with one native operation, and one client of it. -/
def Deployment.echoing : Deployment where
  service :=
    { serviceId := "echo"
      operations :=
        [{ name := "echo", description := "", path := "/echo", upstreamPath := ""
           parameters := []
           native := some
             { name := "echo", description := "", path := "/echo", inputSchema := .object []
               deserializes := fun _ => true
               name_valid := by decide
               path_valid := by decide
               schema_object := rfl } }]
      identities :=
        [("t", { principalId := "owner", clientClass := .agent, operations := ["echo"]
                 budget := 7 })]
      authenticator := false
      adminToken := none }
  upstreamUrl := none
  settings := .default
  settings_valid := RuntimeSettings.validate_default
  queueSettings := .default
  mode := .fifo
  maximum _ := 2
  rejectOnce := false

def echoer : ClientIdentity where
  principalId := "owner"
  clientClass := .agent
  operations := ["echo"]
  budget := 7

def echo : TaskAction := .native "echo" .null

def echoed : Response where
  status := 200
  retryAfter := none
  body := .bytes []

theorem Deployment.echoing_decides : echoing.config.decides (.enqueue echoer echo) := by
  let request : HttpRequest :=
    { path := "/echo", method := "POST", authorization := [some "Bearer t"], grant := none
      params := .ok .null }
  have bearer : request.bearerToken = some "t" := by decide +kernel
  have resolved : echoing.service.identity request = some echoer := by
    rw [Service.identity, bearer]
    rfl
  have passed : echoing.service.authenticate request = .ok echoer := by
    rw [Service.authenticate, resolved]
    rfl
  refine ⟨request, ?_⟩
  rw [Service.app, passed]
  rfl

theorem Deployment.echoing_executes : echoing.config.executes echo echoed :=
  ⟨{ handler := { status := 200, retryAfter := none, content := some [] }
     upstream := .failed false
     elapsed := false }, rfl⟩

/-- Any request to the echoing service can be served first. -/
theorem Deployment.echoing_serves (call : ReplyId) : ∃ trace gateway,
    Gateway.Serves echoing.config (Gateway.start echoing.config) call echoed trace gateway :=
  (Gateway.ready_start echoing.config).serves call rfl rfl echoing_decides rfl (by decide)
    (by decide) echoing_executes

open Gateway in
/-- One request is executed, the next one waits too long behind it. -/
theorem execution_certainty_sample :
    ∃ (trace : List (Event TaskAction)) (gateway : Gateway TaskAction),
      Run Deployment.echoing.config (start Deployment.echoing.config) trace gateway ∧
        dispositions trace 0 = [.handed] ∧ gateway.calls 0 = .answered echoed ∧ echoed.Handled ∧
        dispositions trace 1 = [.expired] ∧ gateway.calls 1 = .answered queueTimeout ∧
        ∀ later back, Run Deployment.echoing.config gateway back later →
          ∀ event ∈ trace ++ back, event.executes 1 = false := by
  have begun : Run Deployment.echoing.config (start Deployment.echoing.config) [] _ := .refl _
  have accepted := ((((begun.tail
    (.submit _ 0 echoer echo rfl Deployment.echoing_decides nofun)).tail
    (.enter _ 0 _ _ (fun _ => false) rfl rfl rfl nofun)).tail
    (.acquire _ 0 _ _ _ rfl rfl rfl)).tail
    (.push _ 0 _ _ _ _ rfl rfl (by decide) rfl)).tail (.notify _ 0 rfl)
  have queued := ((((accepted.tail
    (.submit _ 1 echoer echo rfl Deployment.echoing_decides nofun)).tail
    (.enter _ 1 _ _ (fun _ => false) rfl rfl rfl nofun)).tail
    (.acquire _ 1 _ _ _ rfl rfl rfl)).tail
    (.push _ 1 _ _ _ _ rfl rfl (by decide) rfl)).tail (.notify _ 1 rfl)
  let prompt : Nat → Queues.Observation := fun _ => ⟨0, fun _ => false, fun _ => false, 0⟩
  have spawned := (((queued.tail (.reap _ rfl)).tail
    (.scan _ (fun _ => false) rfl rfl nofun)).tail
    (.pop _ 0 prompt _ rfl rfl (by decide)
      ⟨le_rfl, fun _ => le_rfl, fun _ => le_rfl, fun _ => le_rfl, nofun, nofun⟩ rfl)).tail
    (.spawn _ _ rfl rfl)
  let late : Nat := 10000 * millisecond
  let expired : Nat → Queues.Observation := fun _ => ⟨late, fun _ => false, fun _ => false, late⟩
  have swept := ((((spawned.tail (.pop _ late expired _ rfl rfl (by decide)
      ⟨Nat.zero_le _, fun _ => le_rfl, fun _ => le_rfl, fun _ => le_rfl, nofun, nofun⟩ rfl)).tail
    (.perform _ _ _ rfl)).tail (.perform _ _ _ rfl)).tail (.park _ rfl rfl nofun)).tail
    (.receive _ 1 _ rfl rfl)
  have run := (((swept.tail (.complete _ [] [] _ echoed rfl rfl
    Deployment.echoing_executes)).tail (.giveBack _ [] [] _ _ rfl rfl)).tail
    (.send _ [] [] _ _ rfl rfl)).tail (.receive _ 0 _ rfl rfl)
  obtain ⟨-, -, -, -, first⟩ := execution_certainty Deployment.echoing run 0
  obtain ⟨-, -, -, -, second⟩ := execution_certainty Deployment.echoing run 1
  exact ⟨_, _, run, by decide, rfl, (first echoed rfl).2 (List.any_eq_true.mp rfl), by decide, rfl,
    (second queueTimeout rfl).1 (.inr rfl)⟩

end AiProtocol
