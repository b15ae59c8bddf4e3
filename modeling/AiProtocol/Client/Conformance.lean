import AiProtocol.Client.Honest
import AiProtocol.Client.Origin
import AiProtocol.EndToEnd.Errors

/-!
# The conformance check

`check_service` reads the policy of a service without and with a credential, and may execute one
operation.  It passes on every gateway of a manifest for the credentials the gateway grants, and
for no others.
-/

namespace AiProtocol

/-- A request of the checker. -/
structure CheckRequest where
  /-- Method. -/
  method : String
  /-- The URL. -/
  url : List Char
  /-- The bearer token. -/
  token : Option String
  /-- The JSON body. -/
  params : Option Json

/-- What `httpx` makes of a response. -/
structure CheckReply where
  /-- Status, pause and body. -/
  reply : HttpReply
  /-- The `Cache-Control` header. -/
  cacheControl : Option String

/-- What `check_service` returns. -/
structure Summary where
  /-- Identifier of the service. -/
  serviceId : Option Json
  /-- Version of its policy. -/
  version : Option Json
  /-- Number of its operations. -/
  operations : Nat

namespace HttpReply

def raiseForStatus (reply : HttpReply) : Except PyError Unit :=
  if reply.isSuccess then .ok () else .error .http

def json (reply : HttpReply) : Except PyError Json :=
  match reply.body with
  | some value => .ok value
  | none => .error (.value "Expecting value")

end HttpReply

/-- A condition whose failure raises. -/
def demand (condition : Bool) (error : PyError) : Except PyError Unit :=
  if condition then .ok () else .error error

section Checker

variable (validNetloc : List Char → Bool) (checkSchema : Json → Except PyError Unit)
  (validateParams : Json → Json → Except PyError Unit)
  (send : Nat → CheckRequest → Except PyError CheckReply)

/-- The call of an operation in `check_service`. -/
def checkCall (origin : List Char) (token : String) (descriptor params : Json) :
    Except PyError Unit := do
  validateParams ((descriptor.get "input_schema").getD .null) params
  let path := ((descriptor.get "path").bind Json.asStr).getD ""
  let result ← send 2
    { method := "POST", url := origin ++ path.toList, token := some token, params := some params }
  result.reply.raiseForStatus
  let _ ← result.reply.json

/-- The part of `check_service` about an operation. -/
def checkOperation (origin : List Char) (token : String) (policy : Json) :
    Option (String × Json) → Except PyError Unit
  | none => .ok ()
  | some (operation, params) =>
      let operations := ((policy.get "operations").bind Json.asArray).getD []
      match operations.find? fun descriptor =>
          (descriptor.get "name").bind Json.asStr = some operation with
      | none => .error (.value "Requested operation is absent from discovery")
      | some descriptor => checkCall validateParams send origin token descriptor params

/-- The part of `check_service` about the policy of a credential, and what follows. -/
def checkPolicy (frames : Nat) (origin : List Char) (token : String)
    (operation : Option (String × Json)) (response : CheckReply) : Except PyError Summary := do
  response.reply.raiseForStatus
  demand (response.cacheControl = some "no-store") (.value "Discovery must be uncacheable")
  let policy ← response.reply.json
  -- `validate_contract`, which raises a `ValidationError`
  demand (policySchema policy) .other
  validatePolicy checkSchema frames policy none
  checkOperation validateParams send origin token policy operation
  return {
    serviceId := policy.get "service_id"
    version := policy.get "version"
    operations := (((policy.get "operations").bind Json.asArray).getD []).length }

/-- `check_service`, with the operation and its parameters. -/
def checkService (frames : Nat) (origin : List Char) (token : String)
    (operation : Option (String × Json)) : Except PyError Summary := do
  let origin ← validateOrigin validNetloc origin
  demand (validToken token) (.value "Invalid bearer credential")
  let url := origin ++ "/agent-policy".toList
  let unauthenticated ← send 0 { method := "GET", url, token := none, params := none }
  demand (unauthenticated.reply.status = 401)
    (.value "Discovery must reject unauthenticated requests with 401")
  let document ← unauthenticated.reply.json
  demand (errorSchema document) .other
  demand (((document.index "error").index "execution").asStr = some "not_started")
    (.value "Authentication failure cannot start an operation")
  let response ← send 1 { method := "GET", url, token := some token, params := none }
  checkPolicy checkSchema validateParams send frames origin token operation response

end Checker

/-! ## A gateway under the checker -/

def policyRequest (token : Option String) : HttpRequest where
  path := "/agent-policy"
  method := "GET"
  authorization := token.toList.map fun token => some ("Bearer " ++ token)
  grant := none
  params := .error .missingContentType

/-- A response behind `observe`, which forbids to store it. -/
def observed (reply : HttpReply) : CheckReply where
  reply := reply
  cacheControl := some "no-store"

/-- What a gateway answers to a request for the policy. -/
def Deployment.policyReply (deployment : Deployment) (parse : List UInt8 → Option Json)
    (budgets : Budgets) (token : Option String) : CheckReply :=
  match deployment.service.discover deployment.queueSettings budgets (policyRequest token) with
  | .ok policy => observed { status := 200, retryAfter := none, body := some policy }
  | .error response => observed (response.wire parse)

private theorem bearerToken_policyRequest (token : String) :
    (policyRequest (some token)).bearerToken = some token := by
  have bearer : "Bearer ".toList = ['B', 'e', 'a', 'r', 'e', 'r', ' '] := by decide
  have split : HttpRequest.splitOnce ("Bearer " ++ token) = some ("Bearer", token) := by
    simp [HttpRequest.splitOnce, String.toList_append, bearer, List.span_eq_takeWhile_dropWhile]
  have lower : "Bearer".map Char.toLower = "bearer" := by decide +kernel
  simp [HttpRequest.bearerToken, policyRequest, split, lower]

section Discovery

variable {deployment : Deployment} (tokens : deployment.service.authenticator = false)

include tokens

private theorem policyReply_anonymous (parse : List UInt8 → Option Json) (budgets : Budgets) :
    deployment.policyReply parse budgets none = observed (unauthorized.wire parse) := by
  have bearer : (policyRequest none).bearerToken = none := rfl
  have resolved : deployment.service.identity (policyRequest none) = none := by
    simp [Service.identity, tokens, bearer]
  have failed : deployment.service.authenticate (policyRequest none) = .error unauthorized := by
    simp [Service.authenticate, resolved]
  simp only [Deployment.policyReply, Service.discover, failed]
  rfl

private theorem policyReply_unknown {token : String}
    (unknown : deployment.service.identities.lookup token = none)
    (parse : List UInt8 → Option Json) (budgets : Budgets) :
    deployment.policyReply parse budgets (some token) = observed (unauthorized.wire parse) := by
  have resolved : deployment.service.identity (policyRequest (some token)) = none := by
    simp [Service.identity, tokens, bearerToken_policyRequest, unknown]
  have failed : deployment.service.authenticate (policyRequest (some token)) =
      .error unauthorized := by
    simp [Service.authenticate, resolved]
  simp only [Deployment.policyReply, Service.discover, failed]
  rfl

private theorem policyReply_granted (known : deployment.WellFormed) {token : String}
    {identity : ClientIdentity}
    (granted : deployment.service.identities.lookup token = some identity)
    (parse : List UInt8 → Option Json) (budgets : Budgets) :
    deployment.policyReply parse budgets (some token) =
      observed
        { status := 200
          retryAfter := none
          body := some (deployment.service.agentPolicy deployment.queueSettings budgets
            identity) } := by
  have resolved : deployment.service.identity (policyRequest (some token)) = some identity := by
    simp [Service.identity, tokens, bearerToken_policyRequest, granted]
  have passed : deployment.service.authenticate (policyRequest (some token)) = .ok identity :=
    Service.authenticate_eq_ok.mpr ⟨resolved, by
      rw [policyRequest, known.operation_agentPolicy]
      simp⟩
  simp only [Deployment.policyReply, Service.discover, passed]
  rfl

end Discovery

private theorem Deployment.tokens_fromManifest {manifest : Manifest} {origin : Except String String}
    {read : String → Except VarError String} {deployment : Deployment}
    (built : fromManifest manifest origin read = .ok deployment) :
    ∀ entry ∈ deployment.service.identities, validToken entry.1 = true := by
  unfold fromManifest at built
  split at built
  · cases built
  split at built
  · cases built
  split at built
  · cases built
  · cases built
  rename_i registry origin registered
  cases built
  exact (Registry.sound_ofCredentials registered).valid

/-- The gateway, which goes on between its answers, answers the checker. -/
structure Serves (deployment : Deployment) (parse : List UInt8 → Option Json)
    (send : Nat → CheckRequest → Except PyError CheckReply) (origin : List Char) (token : String)
    (first second : Gateway TaskAction) : Prop where
  /-- Without a credential. -/
  anonymous : send 0 { method := "GET", url := origin ++ "/agent-policy".toList, token := none
                       params := none } =
    .ok (deployment.policyReply parse first.budgets none)
  /-- With the credential. -/
  presented : send 1 { method := "GET", url := origin ++ "/agent-policy".toList
                       token := some token, params := none } =
    .ok (deployment.policyReply parse second.budgets (some token))

/-- What the checker returns for an identity. -/
def Service.summary (service : Service) (identity : ClientIdentity) : Summary where
  serviceId := some (.string service.serviceId)
  version := some (.unsigned 3)
  operations := (service.listed identity).length

private theorem Service.descriptors_agentPolicy (service : Service) (queueSettings : QueueSettings)
    (budgets : Budgets) (identity : ClientIdentity) :
    (((service.agentPolicy queueSettings budgets identity).get "operations").bind
      Json.asArray).getD [] = (service.listed identity).map Operation.descriptor := by
  rw [Service.agentPolicy_operations]
  rfl

section Check

variable {validNetloc : List Char → Bool} {checkSchema : Json → Except PyError Unit}
  {validateParams : Json → Json → Except PyError Unit}
  {send : Nat → CheckRequest → Except PyError CheckReply} {parse : List UInt8 → Option Json}
  {deployment : Deployment} {origin base : List Char} {token : String}
  {first second : Gateway TaskAction} {frames : Nat} {operation : Option (String × Json)}

private theorem checkService_eq (tokens : deployment.service.authenticator = false)
    (accepted : validateOrigin validNetloc origin = .ok base) (valid : validToken token = true)
    (serves : Serves deployment parse send base token first second) :
    checkService validNetloc checkSchema validateParams send frames origin token operation =
      checkPolicy checkSchema validateParams send frames base token operation
        (deployment.policyReply parse second.budgets (some token)) := by
  have row : (401, "unauthorized", "not_started") ∈ documentedErrors := by decide
  have schema := errorSchema_documented parse row
  have body : ((documentedResponse (401, "unauthorized", "not_started")).wire parse).body =
      some (.object [("error", .object [("code", .string "unauthorized"),
        ("execution", .string "not_started")])]) := rfl
  rw [body, Option.any_some] at schema
  simp only [checkService, accepted, valid, serves.anonymous, serves.presented,
    policyReply_anonymous tokens, bind, Except.bind, demand, HttpReply.json, observed, unauthorized,
    Response.wire, protocolError, ↓reduceIte, decide_true, schema]
  rfl

private theorem checkPolicy_granted {identity : ClientIdentity} {budgets : Budgets}
    (documented : policySchema (deployment.service.agentPolicy deployment.queueSettings budgets
      identity) = true)
    (accepted : validatePolicy checkSchema frames (deployment.service.agentPolicy
      deployment.queueSettings budgets identity) none = .ok ()) :
    checkPolicy checkSchema validateParams send frames base token operation (observed
        { status := 200
          retryAfter := none
          body := some (deployment.service.agentPolicy deployment.queueSettings budgets
            identity) }) =
      (checkOperation validateParams send base token (deployment.service.agentPolicy
        deployment.queueSettings budgets identity) operation).map fun _ =>
          deployment.service.summary identity := by
  have success : HttpReply.isSuccess
      { status := 200
        retryAfter := none
        body := some (deployment.service.agentPolicy deployment.queueSettings budgets
          identity) } = true := rfl
  simp only [checkPolicy, observed, HttpReply.raiseForStatus, success, HttpReply.json, demand,
    documented, accepted, bind, Except.bind, ↓reduceIte, decide_true,
    Service.descriptors_agentPolicy, List.length_map]
  cases checkOperation validateParams send base token (deployment.service.agentPolicy
      deployment.queueSettings budgets identity) operation <;> rfl

private theorem checkCall_eq_ok {operation : Operation} {params : Json} :
    checkCall validateParams send base token operation.descriptor params = .ok () ↔
      validateParams operation.inputSchema params = .ok () ∧
        ∃ result, send 2 { method := "POST", url := base ++ operation.path.toList
                           token := some token, params := some params } = .ok result ∧
          result.reply.isSuccess = true ∧ result.reply.body.isSome = true := by
  have schema : (operation.descriptor.get "input_schema").getD .null = operation.inputSchema := rfl
  have path : ((operation.descriptor.get "path").bind Json.asStr).getD "" = operation.path := rfl
  simp only [checkCall, schema, path, bind, Except.bind]
  cases validateParams operation.inputSchema params with
  | error error => simp
  | ok =>
      cases sent : send 2 { method := "POST", url := base ++ operation.path.toList
                            token := some token, params := some params } with
      | error error => simp
      | ok result =>
          cases success : result.reply.isSuccess <;> cases body : result.reply.body <;>
            simp [HttpReply.raiseForStatus, HttpReply.json, success, body, pure, Except.pure]

/-- A call of an operation passes, if it is listed, the parameters satisfy its schema and its result
is JSON. -/
theorem checkOperation_eq_ok {identity : ClientIdentity} {budgets : Budgets}
    (distinct : ((deployment.service.listed identity).map Operation.name).Nodup)
    {name : String} {params : Json} :
    checkOperation validateParams send base token (deployment.service.agentPolicy
        deployment.queueSettings budgets identity) (some (name, params)) = .ok () ↔
      ∃ operation ∈ deployment.service.listed identity, operation.name = name ∧
        validateParams operation.inputSchema params = .ok () ∧
          ∃ result, send 2 { method := "POST", url := base ++ operation.path.toList
                             token := some token, params := some params } = .ok result ∧
            result.reply.isSuccess = true ∧ result.reply.body.isSome = true := by
  have named : ((fun descriptor : Json => decide ((descriptor.get "name").bind Json.asStr =
      some name)) ∘ Operation.descriptor) = fun operation => decide (operation.name = name) := by
    funext operation
    simp [Operation.descriptor, Json.asStr]
  rw [checkOperation]
  simp only [Service.descriptors_agentPolicy, List.find?_map, named]
  cases found : (deployment.service.listed identity).find? fun operation =>
      operation.name = name with
  | none =>
      have absent := List.find?_eq_none.mp found
      simp only [Option.map_none, reduceCtorEq, false_iff, not_exists, not_and]
      exact fun operation member same => absurd same (by simpa using absent operation member)
  | some operation =>
      have member := List.mem_of_find?_eq_some found
      have same : operation.name = name := by simpa using List.find?_some found
      have alone : ∀ other ∈ deployment.service.listed identity, other.name = name →
          other = operation := fun other listed named =>
        List.inj_on_of_nodup_map distinct listed member (named.trans same.symm)
      simp only [Option.map_some, checkCall_eq_ok]
      constructor
      · exact fun passed => ⟨operation, member, same, passed⟩
      · rintro ⟨other, listed, named, passed⟩
        rw [← alone other listed named]
        exact passed

private theorem checkPolicy_refused :
    checkPolicy checkSchema validateParams send frames base token operation
      (observed (unauthorized.wire parse)) = .error .http :=
  rfl

/-- The check passes for the credentials which are granted, if their call passes. -/
theorem checkService_iff (documented : ∀ schema, PlainSchema schema → checkSchema schema = .ok ())
    (known : deployment.WellFormed)
    (mapped : ∀ operation ∈ deployment.service.operations, operation.native = none)
    (valid : ∀ entry ∈ deployment.service.identities, validToken entry.1 = true)
    (told : ∀ entry ∈ deployment.service.identities, Told (second.budgets entry.2.budget))
    (tokens : deployment.service.authenticator = false)
    (accepted : validateOrigin validNetloc origin = .ok base)
    (serves : Serves deployment parse send base token first second) (room : 15 ≤ frames)
    {summary : Summary} :
    checkService validNetloc checkSchema validateParams send frames origin token operation =
        .ok summary ↔
      ∃ identity, deployment.service.identities.lookup token = some identity ∧
        summary = deployment.service.summary identity ∧
          checkOperation validateParams send base token (deployment.service.agentPolicy
            deployment.queueSettings second.budgets identity) operation = .ok () := by
  have granted : ∀ identity, deployment.service.identities.lookup token = some identity →
      (token, identity) ∈ deployment.service.identities := by
    intro identity found
    obtain ⟨before, after, split, -⟩ := List.lookup_eq_some_iff.mp found
    simp [split]
  by_cases wellformed : validToken token = true
  · rw [checkService_eq tokens accepted wellformed serves]
    cases found : deployment.service.identities.lookup token with
    | none =>
        rw [policyReply_unknown tokens found, checkPolicy_refused]
        simp
    | some identity =>
        have member := granted identity found
        rw [policyReply_granted tokens known found,
          checkPolicy_granted (policySchema_agentPolicy known mapped member (told _ member))
            (validatePolicy_agentPolicy documented known mapped member (told _ member)
              (fun _ absurdity => by cases absurdity) room)]
        simp only [Option.some.injEq, exists_eq_left']
        cases called : checkOperation validateParams send base token (deployment.service.agentPolicy
            deployment.queueSettings second.budgets identity) operation with
        | error error => simp [Except.map]
        | ok => simp [Except.map, eq_comm]
  · have failed : checkService validNetloc checkSchema validateParams send frames origin token
        operation = .error (.value "Invalid bearer credential") := by
      simp [checkService, accepted, demand, wellformed, bind, Except.bind]
    rw [failed]
    simp only [reduceCtorEq, false_iff, not_exists, not_and]
    exact fun identity found => absurd (valid _ (granted identity found)) wellformed

private theorem executed_once {early late : List (Event TaskAction)} {third : Gateway TaskAction}
    (earlier : Run deployment.config (.start deployment.config) early second)
    (further : Run deployment.config second late third) {call : ReplyId} {response : Response}
    (fresh : second.calls call = .absent) (answered : third.calls call = .answered response)
    (success : response.isSuccess = true) : late.countP (Event.executes call) = 1 := by
  have run := earlier.trans further
  have told : (Gateway.exchange (fun _ => none) (early ++ late) third call).answer =
      some (response.wire fun _ => none) := Gateway.answer_exchange.mpr ⟨response, answered, rfl⟩
  have executed := Gateway.executed_of_success deployment.truthful run told success
  have some : 0 < (early ++ late).countP (Event.executes call) :=
    List.countP_pos_iff.mpr (List.any_eq_true.mp executed)
  have once := (Gateway.executes_once run call).1
  have before := (Gateway.executes_once earlier call).2
    (by simp [Gateway.Unpushed, Call.stage, fresh])
  rw [List.countP_append] at some once
  omega

end Check

/-- The check of conformance passes on every gateway of a manifest, whatever the gateway does before
and between the requests and whatever ceilings are set, exactly for the credentials it grants.  It
returns the identifier of the service and the number of operations of the credential.  A call of an
operation passes, if the credential lists it, its parameters satisfy the schema, and its result is
a success with a JSON body; then the gateway has executed it exactly once. -/
theorem conformance {validNetloc : List Char → Bool} {checkSchema : Json → Except PyError Unit}
    (documented : ∀ schema, PlainSchema schema → checkSchema schema = .ok ())
    {validateParams : Json → Json → Except PyError Unit}
    {send : Nat → CheckRequest → Except PyError CheckReply} {parse : List UInt8 → Option Json}
    {manifest : Manifest} {upstream : Except String String}
    {read : String → Except VarError String} {initial deployment : Deployment}
    (built : Deployment.fromManifest manifest upstream read = .ok initial)
    (configured : initial.Configured deployment) {early late : List (Event TaskAction)}
    {first second : Gateway TaskAction}
    (run : Run deployment.config (.start deployment.config) early first)
    (further : Run deployment.config first late second)
    (managed : deployment.Managed (early ++ late)) {origin base : List Char} {token : String}
    (accepted : validateOrigin validNetloc origin = .ok base)
    (serves : Serves deployment parse send base token first second) {frames : Nat}
    (room : 15 ≤ frames) (operation : Option (String × Json)) (summary : Summary) :
    (checkService validNetloc checkSchema validateParams send frames origin token operation =
        .ok summary ↔
      ∃ identity, deployment.service.identities.lookup token = some identity ∧
        summary = deployment.service.summary identity ∧ ∀ name params,
          operation = some (name, params) → ∃ selected ∈ deployment.service.listed identity,
            selected.name = name ∧ validateParams selected.inputSchema params = .ok () ∧
              ∃ result, send 2 { method := "POST", url := base ++ selected.path.toList
                                 token := some token, params := some params } = .ok result ∧
                result.reply.isSuccess = true ∧ result.reply.body.isSome = true) ∧
      ∀ call response last third, Run deployment.config second last third →
        second.calls call = .absent → third.calls call = .answered response →
          (∀ request, send 2 request = .ok (observed (response.wire parse))) →
            checkService validNetloc checkSchema validateParams send frames origin token operation =
              .ok summary → operation.isSome = true →
                last.countP (Event.executes call) = 1 := by
  have known := configured.wellFormed (Deployment.wellFormed_fromManifest built)
  obtain ⟨unhosted, mappedFirst⟩ := Deployment.mapped_fromManifest built
  have checked := Deployment.tokens_fromManifest built
  obtain ⟨adminToken, service⟩ := configured.service
  have tokens : deployment.service.authenticator = false := by rw [service]; exact unhosted
  have mapped : ∀ operation ∈ deployment.service.operations, operation.native = none := by
    rw [service]
    exact mappedFirst
  have valid : ∀ entry ∈ deployment.service.identities, validToken entry.1 = true := by
    rw [service]
    exact checked
  have told : ∀ entry ∈ deployment.service.identities,
      Told (second.budgets entry.2.budget) := fun entry member =>
    told_run (run.trans further) managed ⟨known.maximum entry member, le_rfl⟩
  have distinct : ∀ identity, ((deployment.service.listed identity).map Operation.name).Nodup :=
    fun identity => known.operations.names.sublist (List.filter_sublist.map _)
  constructor
  · rw [checkService_iff documented known mapped valid told tokens accepted serves room]
    refine exists_congr fun identity => and_congr_right fun _ => and_congr_right fun _ => ?_
    cases operation with
    | none => simp [checkOperation]
    | some call =>
        obtain ⟨name, params⟩ := call
        rw [checkOperation_eq_ok (distinct identity)]
        simp
  · intro call response last third later fresh answered replied passed called
    obtain ⟨identity, -, -, executes⟩ := (checkService_iff documented known mapped valid told tokens
      accepted serves room).mp passed
    obtain ⟨⟨name, params⟩, rfl⟩ := Option.isSome_iff_exists.mp called
    obtain ⟨selected, -, -, -, result, sent, success, -⟩ :=
      (checkOperation_eq_ok (distinct identity)).mp executes
    rw [replied, Except.ok.injEq] at sent
    subst sent
    exact executed_once (run.trans further) later fresh answered success

/-- The checker accepts the gateway of a manifest and calls its operation, which is executed. -/
theorem conformance_sample : ∃ deployment identity send trace gateway,
    Deployment.fromManifest library (.ok "http://127.0.0.1:4000") (fun _ => .ok "t") =
      .ok deployment ∧
    checkService (fun _ => true) (fun _ => .ok ()) (fun _ _ => .ok ()) send 15 "http://host".toList
      "t" (some ("search", .object [("title", .string "x")])) =
        .ok (deployment.service.summary identity) ∧
    Run deployment.config (.start deployment.config) trace gateway ∧
    gateway.calls 0 = .answered echoed ∧ trace.countP (Event.executes 0) = 1 := by
  let owner : ClientIdentity :=
    { principalId := "owner", clientClass := .agent, operations := ["search"], budget := 0 }
  let request : HttpRequest :=
    { path := "/search", method := "POST", authorization := [some "Bearer t"], grant := none
      params := .ok (.object [("title", .string "x")]) }
  have bearer : request.bearerToken = some "t" := by decide +kernel
  obtain ⟨deployment, selected, sent, built, granted, hosted, found, named, mapped, made, room,
      patient, running, executes⟩ :
      ∃ deployment selected sent,
        Deployment.fromManifest library (.ok "http://127.0.0.1:4000") (fun _ => .ok "t") =
          .ok deployment ∧ deployment.service.identities.lookup "t" = some owner ∧
        deployment.service.authenticator = false ∧
        deployment.service.operation "/search" = some selected ∧ selected.name = "search" ∧
        selected.native = none ∧ selected.request (.object [("title", .string "x")]) = .ok sent ∧
        0 < deployment.maximum 0 ∧ 0 < deployment.queueSettings.forClass .agent ∧
        deployment.rejectOnce = false ∧ deployment.config.executes (.mapped sent) echoed :=
    ⟨_, _, _, rfl, rfl, rfl, rfl, rfl, rfl, rfl, by decide, by decide, rfl,
      { handler := { status := 200, retryAfter := none, content := some [] }
        upstream := .replied { status := 200, contentLength := none, chunks := [some []] }
        elapsed := false }, rfl⟩
  have decided : deployment.config.decides (.enqueue owner (.mapped sent)) := by
    refine ⟨request, ?_⟩
    have resolved : deployment.service.identity request = some owner := by
      simp [Service.identity, hosted, bearer, granted]
    have passed : deployment.service.authenticate request = .ok owner := by
      have owns : selected.name ∈ owner.operations := by
        rw [named]
        exact List.mem_singleton.mpr rfl
      simp [Service.authenticate, resolved, request, found, owns]
    simp only [Service.app, request, found, passed, ne_eq, not_true_eq_false, if_false]
    simp [Service.work, mapped, made]
  obtain ⟨trace, gateway, serves⟩ := (Gateway.ready_start deployment.config).serves 0 rfl rfl
    decided running room patient executes
  let parse : List UInt8 → Option Json := fun _ => some .null
  let send (number : Nat) (_ : CheckRequest) : Except PyError CheckReply :=
    if number = 2 then
      .ok (observed (echoed.wire parse))
    else
      .ok (deployment.policyReply parse (Gateway.start deployment.config).budgets
        (if number = 0 then none else some "t"))
  have accepted : validateOrigin (fun _ => true) "http://host".toList =
      .ok "http://host".toList := rfl
  have managed : deployment.Managed ([] ++ []) := by simp [Deployment.Managed]
  have answers : Serves deployment parse send "http://host".toList "t"
      (.start deployment.config) (.start deployment.config) := ⟨rfl, rfl⟩
  have conforms : (checkService (fun _ => true) (fun _ => .ok ()) (fun _ _ => .ok ()) send 15
      "http://host".toList "t" (some ("search", .object [("title", .string "x")])) =
        .ok (deployment.service.summary owner) ↔ _) ∧ _ :=
    conformance (fun _ _ => rfl) built .refl (.refl _) (.refl _) managed accepted answers le_rfl _ _
  have member : selected ∈ deployment.service.listed owner := by
    refine List.mem_filter.mpr ⟨List.mem_of_find?_eq_some found, ?_⟩
    rw [named]
    rfl
  have passed := conforms.1.mpr ⟨owner, granted, rfl, by
    rintro name params ⟨⟩
    exact ⟨selected, member, named, rfl, _, rfl, rfl, rfl⟩⟩
  exact ⟨deployment, owner, send, trace, gateway, built, passed, serves.run, serves.answered,
    conforms.2 0 echoed trace gateway serves.run rfl serves.answered (fun _ => rfl) passed rfl⟩
end AiProtocol
