import AiProtocol.Gateway.Served

/-!
# What a gateway says

Every response of a gateway is given by a handler or an execution, or is one of a few refusals of
its own.  What all of these have in common, every answer has, whatever path it takes to its caller:
it is the result of an operation, or a row of the documented table of errors.
-/

namespace AiProtocol

/-- The responses which no handler and no execution gives. -/
def ownResponses : List Response :=
  [overloaded "test_rejection" "2", overloaded "budget_exhausted" "1",
    overloaded "queue_full" "1", queueTimeout, gatewayClosed, internalError]

/-- What all responses of a gateway have in common. -/
structure Config.Speaks {Action : Type} (config : Config Action) (Says : Response → Prop) :
    Prop where
  /-- The answers of the handlers. -/
  decided : ∀ response, config.decides (.respond response) → Says response
  /-- The results of executions. -/
  executed : ∀ action response, config.executes action response → Says response
  /-- The refusals of the gateway itself. -/
  own : ∀ response ∈ ownResponses, Says response

namespace Gateway

variable {Action : Type} {config : Config Action} {Says : Response → Prop}
  {before after gateway : Gateway Action} {event : Event Action} {trace : List (Event Action)}

/-- An execution says what it should. -/
def Voiced (Says : Response → Prop) (execution : Execution Action) : Prop :=
  ∀ response, execution.progress = .done (some response) ∨
    execution.progress = .released (some response) → Says response

/-- Everything said so far was said as it should be. -/
structure Spoken (Says : Response → Prop) (gateway : Gateway Action) : Prop where
  /-- By the executions. -/
  running : ∀ execution ∈ gateway.running, Voiced Says execution
  /-- Through the result channels. -/
  channels : ∀ call response, gateway.channels call = .sent response → Says response
  /-- To the callers. -/
  answers : ∀ call response, gateway.calls call = .answered response → Says response

private theorem voiced_step (speaks : config.Speaks Says)
    (voiced : ∀ execution ∈ before.running, Voiced Says execution)
    (step : Step config before event after) :
    ∀ execution ∈ after.running, Voiced Says execution := by
  cases step with
  | reap => exact fun execution member => voiced execution (List.mem_of_mem_filter member)
  | spawn job =>
      intro execution member
      rcases List.mem_append.mp member with earlier | newest
      · exact voiced execution earlier
      · obtain rfl := List.mem_singleton.mp newest
        intro response pending
        simp [Execution.spawned] at pending
  | wakeJoined deadline front back execution parked joined =>
      intro other member
      refine voiced other ?_
      rw [joined]
      rcases List.mem_append.mp member with early | late
      · exact List.mem_append_left _ early
      · exact List.mem_append_right _ (List.mem_cons_of_mem _ late)
  | complete front back execution told spawned progress produced =>
      refine forall_progress voiced spawned fun _ response pending => ?_
      obtain rfl : told = response := by simpa using pending
      exact speaks.executed _ _ produced
  | fail front back execution spawned =>
      exact forall_progress voiced spawned fun _ response pending => absurd pending (by simp)
  | giveBack front back execution told spawned progress =>
      refine forall_progress voiced spawned fun earlier response pending => ?_
      obtain rfl : told = some response := by simpa using pending
      exact earlier response (.inl progress)
  | send front back execution told spawned | hangUp front back execution spawned =>
      exact forall_progress voiced spawned fun _ response pending => absurd pending (by simp)
  | perform effect =>
      intro execution member
      exact voiced execution (by simpa using member)
  | _ => exact voiced

private theorem channels_spoken (speaks : config.Speaks Says) (orderly : before.Orderly)
    (spoken : before.Spoken Says) (step : Step config before event after) {call : ReplyId}
    {response : Response} (sent : after.channels call = .sent response) : Says response := by
  -- a channel which was just written
  have written : ∀ {reply : ReplyId} {channel : Channel}, (channel = .sent response →
      Says response) → Function.update before.channels reply channel call = .sent response →
        Says response := by
    intro reply channel fresh sent
    by_cases same : call = reply
    · rw [same, Function.update_self] at sent
      exact fresh sent
    · rw [Function.update_of_ne same] at sent
      exact spoken.channels call response sent
  cases step with
  | perform effect rest next =>
      cases effect with
      | discard reply permit => exact written (by simp) sent
      | release => exact spoken.channels call response sent
      | answer reply told =>
          refine written (fun same => ?_) sent
          obtain rfl : told = response := by simpa using same
          have member : Effect.answer reply told ∈ before.todo := by simp [next]
          rcases orderly.answer member with ⟨-, rfl⟩ | rfl
          · exact speaks.own _ (by simp [ownResponses])
          · exact speaks.own _ (by simp [ownResponses])
  | send front back execution told spawned progress =>
      refine written (fun same => ?_) sent
      obtain rfl : told = response := by simpa using same
      exact spoken.running execution (by simp [spawned]) told (.inr progress)
  | hangUp => exact written (by simp) sent
  | _ => exact spoken.channels call response sent

theorem Spoken.step (speaks : config.Speaks Says) (orderly : before.Orderly)
    (spoken : before.Spoken Says) (step : Step config before event after) :
    after.Spoken Says where
  running := voiced_step speaks spoken.running step
  channels _ _ := channels_spoken speaks orderly spoken step
  answers call response answered := by
    rcases answering_of_step step answered with already | answering
    · exact spoken.answers call response already
    · cases answering with
      | decided _ _ decided => exact speaks.decided response decided
      | received _ sent => exact spoken.channels call response sent
      | test | closed | exhausted | full | lost => exact speaks.own _ (by simp [ownResponses])

theorem spoken_run (speaks : config.Speaks Says) (run : Run config (start config) trace gateway) :
    gateway.Spoken Says := by
  have begun : (start config).Spoken Says := ⟨by simp [start], by simp [start], by simp [start]⟩
  exact run.invariantTrace (fun _ gateway => gateway.Spoken Says) begun
    fun earlier spoken step => Spoken.step speaks (orderly_run earlier) spoken step

end Gateway

/-! ## The table of errors -/

/-- The documented errors: status, code and `execution`. -/
def documentedErrors : List (Nat × String × String) :=
  [(400, "invalid_json", "not_started"),
   (401, "unauthorized", "not_started"), (403, "forbidden", "not_started"),
   (404, "not_found", "not_started"), (405, "method_not_allowed", "not_started"),
   (413, "request_too_large", "not_started"), (415, "unsupported_media_type", "not_started"),
   (422, "invalid_parameters", "not_started"),
   (429, "budget_exhausted", "not_started"), (429, "queue_full", "not_started"),
   (429, "test_rejection", "not_started"),
   (503, "queue_timeout", "not_started"), (503, "gateway_closed", "not_started"),
   (500, "internal_error", "unknown"),
   (502, "upstream_status", "unknown"), (502, "upstream_unavailable", "unknown"),
   (502, "upstream_body_error", "unknown"), (502, "response_too_large", "unknown"),
   (502, "operation_failed", "unknown"),
   (504, "execution_timeout", "unknown")]

/-- The pause which comes with an error. -/
def documentedPause (code : String) : Option String :=
  if code = "test_rejection" then some "2"
  else if code ∈ ["budget_exhausted", "queue_full", "queue_timeout"] then some "1"
  else none

attribute [local simp] documentedErrors documentedPause

/-- The result of an operation, or a documented error. -/
def Response.Documented (response : Response) : Prop :=
  match response.body with
  | .bytes _ => response.isSuccess = true
  | .error code execution =>
      (response.status, code, execution) ∈ documentedErrors ∧
        response.retryAfter = documentedPause code

instance (response : Response) : Decidable response.Documented := by
  unfold Response.Documented
  cases response.body <;> infer_instance

theorem documented_protocolError {status : Nat} {code execution : String}
    (row : (status, code, execution) ∈ documentedErrors ∧ documentedPause code = none) :
    (protocolError status code execution).Documented :=
  ⟨row.1, row.2.symm⟩

private theorem documented_unauthorized : unauthorized.Documented :=
  documented_protocolError (by simp)

private theorem documented_parameters :
    (protocolError 422 "invalid_parameters" "not_started").Documented :=
  documented_protocolError (by simp)

private theorem documented_failed : (protocolError 502 "operation_failed" "unknown").Documented :=
  documented_protocolError (by simp)

theorem documented_larger : (protocolError 502 "response_too_large" "unknown").Documented :=
  documented_protocolError (by simp)

private theorem documented_invalidJson (rejection : JsonRejection) :
    (invalidJson rejection).Documented := by
  cases rejection <;>
    exact documented_protocolError
      (by simp [JsonRejection.status])

private theorem documented_own {response : Response} (own : response ∈ ownResponses) :
    response.Documented := by
  simp only [ownResponses, List.mem_cons, List.not_mem_nil, or_false] at own
  rcases own with rfl | rfl | rfl | rfl | rfl | rfl <;>
    simp [Response.Documented, overloaded, protocolError, queueTimeout, gatewayClosed,
      internalError]

private theorem documented_authenticate {service : Service} {request : HttpRequest}
    {response : Response}
    (failed : service.authenticate request = .error response) : response.Documented := by
  unfold Service.authenticate at failed
  split at failed
  · obtain rfl : unauthorized = response := by simpa using failed
    exact documented_unauthorized
  · split at failed
    · obtain rfl : protocolError 403 "forbidden" "not_started" = response := by simpa using failed
      exact documented_protocolError (by simp)
    · cases failed

private theorem documented_work {identity : ClientIdentity} {operation : Operation}
    {request : HttpRequest}
    {response : Response} (refused : Service.work identity operation request = .respond response) :
    response.Documented := by
  unfold Service.work at refused
  split at refused
  · rename_i rejection _
    obtain rfl : invalidJson rejection = response := by simpa using refused
    exact documented_invalidJson rejection
  · split at refused
    · split at refused
      · cases refused
      · rename_i told prepared
        obtain rfl : told = response := by simpa using refused
        unfold Operation.prepare at prepared
        split at prepared
        · cases prepared
        · obtain rfl : protocolError 422 "invalid_parameters" "not_started" = told := by
            simpa using prepared
          exact documented_parameters
    · split at refused
      · cases refused
      · obtain rfl : protocolError 422 "invalid_parameters" "not_started" = response := by
          simpa using refused
        exact documented_parameters

private theorem documented_app {service : Service} {request : HttpRequest} {response : Response}
    (refused : service.app request = .respond response) : response.Documented := by
  unfold Service.app at refused
  split at refused
  · obtain rfl : protocolError 404 "not_found" "not_started" = response := by simpa using refused
    exact documented_protocolError (by simp)
  · split at refused
    · obtain rfl : protocolError 405 "method_not_allowed" "not_started" = response := by
        simpa using refused
      exact documented_protocolError (by simp)
    · split at refused
      · rename_i told failed
        obtain rfl : told = response := by simpa using refused
        exact documented_authenticate failed
      · exact documented_work refused

private theorem documented_readBody {maxResponseBytes : Nat} {chunks : List (Option (List UInt8))}
    {body : List UInt8} {response : Response}
    (failed : readBody maxResponseBytes chunks body = .error response) : response.Documented := by
  induction chunks generalizing body with
  | nil => simp [readBody] at failed
  | cons chunk chunks induction =>
      cases chunk with
      | none =>
          obtain rfl : protocolError 502 "upstream_body_error" "unknown" = response := by
            simpa [readBody] using failed
          exact documented_protocolError (by simp)
      | some chunk =>
          rw [readBody] at failed
          split at failed
          · exact induction failed
          · obtain rfl : protocolError 502 "response_too_large" "unknown" = response := by
              simpa using failed
            exact documented_larger

private theorem documented_callMapped (upstreamUrl : Option String) (maxResponseBytes : Nat)
    (sent : Sent) : (callMapped upstreamUrl maxResponseBytes sent).Documented := by
  unfold callMapped
  split
  · exact documented_protocolError (by simp)
  · split
    · split <;>
        exact documented_protocolError (by simp)
    · split
      · exact documented_protocolError (by simp)
      · split
        · exact documented_larger
        · split
          · simp [Response.Documented, Response.isSuccess]
          · exact documented_readBody ‹_›

/-- Executions give the result of the operation, or a documented error. -/
theorem documented_execute (upstreamUrl : Option String) (settings : RuntimeSettings)
    (action : TaskAction) (world : World) :
    (execute upstreamUrl settings action world).Documented := by
  unfold execute
  split
  · exact documented_protocolError (by simp)
  · unfold materialize
    split
    · rename_i body found
      have read := (Option.filter_eq_some_iff.mp found).1
      cases action with
      | native operation params =>
          simp only [callUpstream, callNative] at read ⊢
          split at read
          · rename_i success
            obtain ⟨content, _, rfl⟩ := Option.map_eq_some_iff.mp read
            rw [if_pos success]
            simpa [Response.Documented, Response.isSuccess] using success
          · rename_i failure
            rw [if_neg failure]
            obtain rfl : _ = body := by simpa [Reply.ofResponse] using read
            exact documented_failed
      | mapped request =>
          simp only [callUpstream, Reply.ofResponse] at read ⊢
          obtain rfl : _ = body := by simpa using read
          exact documented_callMapped upstreamUrl settings.maxResponseBytes world.upstream
    · exact documented_larger

/-- Every response in the gateway of a service is documented. -/
theorem Deployment.documented (deployment : Deployment) :
    deployment.config.Speaks Response.Documented where
  decided := by
    rintro response ⟨request, decided⟩
    exact documented_app decided
  executed := by
    rintro action response ⟨world, rfl⟩
    exact documented_execute _ _ _ _
  own _ := documented_own

end AiProtocol
