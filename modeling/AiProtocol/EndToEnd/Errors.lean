import AiProtocol.Client.Schema
import AiProtocol.Client.Retry
import AiProtocol.EndToEnd.Gateway
import AiProtocol.Gateway.Errors

/-!
# Errors from the gateway to the client

Whatever a gateway answers is the result of one execution or a row of the documented table, and a
client reads from its bytes what the row says: the code, whether the operation was started, and
whether the call may be repeated.
-/

namespace AiProtocol

/-- An object with all of some members, and no others. -/
def closed (value : Json) (keys : List String) : Bool :=
  required value keys &&
    value.asObject.any fun members => members.all fun member => keys.contains member.1

/-- `error.schema.json`. -/
def errorSchema (document : Json) : Bool :=
  closed document ["error"] &&
    optional document "error" fun error => closed error ["code", "execution"] &&
      optional error "code" (fun code => code.asStr.any fun text =>
        Schema.anchored (fun text => Sdk.isCode (String.ofList text)) text.toList) &&
      optional error "execution" fun execution =>
        execution.asStr = some "not_started" || execution.asStr = some "unknown"

/-- A documented error, with its pause. -/
def documentedResponse (row : Nat × String × String) : Response where
  status := row.1
  retryAfter := documentedPause row.2.1
  body := .error row.2.1 row.2.2

/-- What a client reads from the bytes of a documented error. -/
structure ReadAs (row : Nat × String × String) (reply : HttpReply) : Prop where
  /-- The body satisfies the schema. -/
  schema : reply.body.any errorSchema = true
  /-- The code. -/
  code : Sdk.errorCode reply = row.2.1
  /-- The Python client reports an operation as not started exactly if it was not. -/
  known : Sdk.known reply = true ↔ row.2.2 = "not_started"
  /-- The Rust client repeats a call exactly if it was asked to pause. -/
  rust : Dispatcher.safeToRetry reply = true ↔ reply.retryAfter.isSome = true
  /-- So do the Python clients. -/
  python : Sdk.safeToRetry reply = true ↔ reply.retryAfter.isSome = true

/-! ## The table -/

private theorem isCode_documented {row : Nat × String × String} (listed : row ∈ documentedErrors) :
    Sdk.isCode row.2.1 = true := by
  simp only [documentedErrors, List.mem_cons, List.not_mem_nil, or_false] at listed
  rcases listed with rfl | rfl | rfl | rfl | rfl | rfl | rfl | rfl | rfl | rfl | rfl | rfl | rfl |
    rfl | rfl | rfl | rfl | rfl | rfl | rfl <;> decide +kernel

private theorem execution_documented : ∀ row ∈ documentedErrors,
    row.2.2 = "not_started" ∨ row.2.2 = "unknown" := by
  decide

private theorem denied_documented : ∀ row ∈ documentedErrors,
    (row.1 ∈ [400, 401, 403, 404, 405, 413, 415, 422, 429] ∨ row.1 = 503 ∧
      (row.2.1 = "queue_timeout" ∨ row.2.1 = "gateway_closed") ∧ row.2.2 = "not_started") ↔
        row.2.2 = "not_started" := by
  decide

private theorem paused_documented : ∀ row ∈ documentedErrors,
    (row.1 = 429 ∨ row.1 = 503 ∧ row.2.1 = "queue_timeout" ∧ row.2.2 = "not_started") ↔
      (documentedPause row.2.1).isSome = true := by
  decide

/-! ## Reading a row -/

section Reading

variable {row : Nat × String × String} (parse : List UInt8 → Option Json)

theorem lookup_execution (code execution : Json) :
    List.lookup "execution" [("code", code), ("execution", execution)] = some execution :=
  rfl

theorem errorSchema_documented (listed : row ∈ documentedErrors) :
    ((documentedResponse row).wire parse).body.any errorSchema = true := by
  have code := isCode_documented listed
  have execution := execution_documented row listed
  simp [documentedResponse, Response.wire, errorSchema, closed, required, optional, Json.asObject,
    Json.asStr, Schema.anchored, lookup_execution, code, execution]

private theorem errorCode_documented (listed : row ∈ documentedErrors) :
    Sdk.errorCode ((documentedResponse row).wire parse) = row.2.1 := by
  simp [documentedResponse, Response.wire, Sdk.errorCode, Sdk.errorMember, Json.asStr,
    isCode_documented listed]

private theorem denies_documented (listed : row ∈ documentedErrors) :
    ((documentedResponse row).wire parse).Denies ↔ row.2.2 = "not_started" := by
  rw [← denied_documented row listed]
  simp [documentedResponse, Response.wire, HttpReply.Denies, HttpReply.errorCode,
    HttpReply.errorExecution, Json.index, Json.asStr, lookup_execution]

private theorem retryable_documented (listed : row ∈ documentedErrors) :
    ((documentedResponse row).wire parse).Retryable ↔
      ((documentedResponse row).wire parse).retryAfter.isSome = true := by
  refine Iff.trans ?_ (paused_documented row listed)
  simp [documentedResponse, Response.wire, HttpReply.Retryable, lookup_execution]

private theorem readAs_documented (listed : row ∈ documentedErrors) :
    ReadAs row ((documentedResponse row).wire parse) where
  schema := errorSchema_documented parse listed
  code := errorCode_documented parse listed
  known := Sdk.known_iff.trans (denies_documented parse listed)
  rust := Dispatcher.safeToRetry_iff.trans (retryable_documented parse listed)
  python := Sdk.safeToRetry_iff.trans (retryable_documented parse listed)

end Reading

/-! ## Runs -/

namespace Gateway

private theorem refused_documented {row : Nat × String × String} (denies : row.2.2 = "not_started")
    (handled : (documentedResponse row).Handled) : False := by
  rcases handled with ⟨-, bytes⟩ | ⟨-, unknown⟩
  · cases bytes
  · rw [documentedResponse, Response.execution, Option.some.injEq, denies] at unknown
    exact absurd unknown (by simp)

/-- In every run of the gateway of a service, every answer is the result of the one execution of its
request, or an error of the documented table.  Clients read the row of the table from the bytes of
the answer, and an error which says so was not executed. -/
theorem documented_errors (deployment : Deployment) (parse : List UInt8 → Option Json)
    {gateway : Gateway TaskAction} {trace : List (Event TaskAction)}
    (run : Run deployment.config (start deployment.config) trace gateway) {call : ReplyId}
    {response : Response} (answered : gateway.calls call = .answered response) :
    (response.isSuccess = true ∧ (∃ content, response.body = .bytes content) ∧
        trace.countP (Event.executes call) = 1) ∨
      ∃ row ∈ documentedErrors, response = documentedResponse row ∧
        ReadAs row (response.wire parse) ∧
          (row.2.2 = "not_started" → trace.countP (Event.executes call) = 0) := by
  have documented := (spoken_run deployment.documented run).answers call response answered
  unfold Response.Documented at documented
  split at documented
  · rename_i content bytes
    refine .inl ⟨documented, ⟨content, bytes⟩, ?_⟩
    have told : (exchange parse trace gateway call).answer = some (response.wire parse) :=
      answer_exchange.mpr ⟨response, answered, rfl⟩
    have executed := executed_of_success deployment.truthful run told documented
    have some : 0 < trace.countP (Event.executes call) :=
      List.countP_pos_iff.mpr (List.any_eq_true.mp executed)
    have once := (executes_once run call).1
    omega
  · rename_i code execution body
    obtain ⟨listed, pause⟩ := documented
    have same : response = documentedResponse (response.status, code, execution) := by
      rw [documentedResponse, ← body, ← pause]
    refine .inr ⟨_, listed, same, ?_, fun denies => ?_⟩
    · rw [same]
      exact readAs_documented parse listed
    · rcases truth_of_answer deployment.truthful run answered with ⟨-, unexecuted⟩ | handled
      · exact List.countP_eq_zero.mpr fun event member => by simp [unexecuted event member]
      · rw [same] at handled
        exact (refused_documented denies handled).elim

/-- One request is executed, the next one is for an unknown path and answered with a row of the
table. -/
theorem documented_errors_sample : ∃ (trace : List (Event TaskAction))
    (gateway : Gateway TaskAction) (response : Response), gateway.calls 0 = .answered echoed ∧
      trace.countP (Event.executes 0) = 1 ∧ gateway.calls 1 = .answered response ∧
        ∃ row ∈ documentedErrors, response = documentedResponse row ∧
          ReadAs row (response.wire fun _ => none) ∧ trace.countP (Event.executes 1) = 0 := by
  obtain ⟨trace, gateway, serves⟩ := Deployment.echoing_serves 0
  have run := serves.run.tail (.respond _ 1 (protocolError 404 "not_found" "not_started")
    (serves.others 1 (by decide))
    ⟨{ path := "/documents", method := "POST", authorization := [], grant := none,
       params := .ok .null }, rfl⟩)
  have missing := move_calls_self gateway 1
    (.answered (protocolError 404 "not_found" "not_started"))
  have echo := (move_calls_ne gateway (.answered (protocolError 404 "not_found" "not_started"))
    Nat.zero_ne_one).trans serves.answered
  rcases documented_errors .echoing (fun _ => none) run echo with
    ⟨-, -, once⟩ | ⟨row, listed, told, -⟩
  · rcases documented_errors .echoing (fun _ => none) run missing with
      ⟨success, -⟩ | ⟨row, listed, told, reads, unexecuted⟩
    · cases success
    · refine ⟨_, _, _, echo, once, missing, row, listed, told, reads, unexecuted ?_⟩
      have said : some "not_started" = some row.2.2 := congrArg Response.execution told
      exact (Option.some.inj said).symm
  · cases congrArg Response.body told

end Gateway

end AiProtocol
