import AiProtocol.Gateway.Manifest

/-!
# Discovery and administration

What `/agent-policy` tells an identity, and the changes of ceilings by the administrative route and
by the host.
-/

namespace AiProtocol

namespace Json

/-- `Value::get` of an object. -/
def get (value : Json) (name : String) : Option Json :=
  value.asObject.bind (List.lookup name)

@[simp] theorem get_object (members : List (String × Json)) (name : String) :
    (Json.object members).get name = members.lookup name := rfl

end Json

/-- The text of a class on the wire. -/
def ClientClass.text : ClientClass → String
  | .agent => "agent"
  | .interactive => "interactive"

/-- The schema of one mapped parameter. -/
def Parameter.schema (parameter : Parameter) : Json :=
  match parameter.kind with
  | .string => .object [("type", .string "string")]
  | .integer => .object [("type", .string "integer"), ("minimum", .unsigned 0)]

namespace Operation

/-- The schema of a mapped operation. -/
def mappedSchema (parameters : List (String × Parameter)) : Json :=
  .object
    [("$schema", .string "https://json-schema.org/draft/2020-12/schema"),
     ("type", .string "object"),
     ("properties", .object (parameters.map fun parameter =>
       (parameter.1, parameter.2.schema))),
     ("required", .array (parameters.map fun parameter => .string parameter.1)),
     ("additionalProperties", .bool false)]

/-- `input_schema` of a descriptor. -/
def inputSchema (operation : Operation) : Json :=
  match operation.native with
  | some native => native.inputSchema
  | none => mappedSchema operation.parameters

/-- `Operation::descriptor`. -/
def descriptor (operation : Operation) : Json :=
  .object
    [("name", .string operation.name),
     ("description", .string operation.description),
     ("method", .string "POST"),
     ("path", .string operation.path),
     ("input_schema", operation.inputSchema)]

end Operation

namespace Service

/-- The operations `agent_policy` lists. -/
def listed (service : Service) (identity : ClientIdentity) : List Operation :=
  service.operations.filter fun operation => identity.operations.contains operation.name

def agentPolicy (service : Service) (queueSettings : QueueSettings) (budgets : Budgets)
    (identity : ClientIdentity) : Json :=
  let budget := budgets identity.budget
  .object
    [("version", .unsigned 3),
     ("service_id", .string service.serviceId),
     ("policy_revision", .unsigned budget.revision),
     ("refresh_after_ms", .unsigned 1000),
     ("outstanding", .unsigned budget.outstanding),
     ("queue", .object
       [("max_wait_ms", .unsigned (queueSettings.forClass identity.clientClass / millisecond))]),
     ("principal_id", .string identity.principalId),
     ("client_class", .string identity.clientClass.text),
     ("limits", .object
       [("scope", .string "principal"), ("max_outstanding", .unsigned budget.maximum)]),
     ("operations", .array ((service.listed identity).map Operation.descriptor))]

/-- `app`, for the route of discovery. -/
def discover (service : Service) (queueSettings : QueueSettings) (budgets : Budgets)
    (request : HttpRequest) : Except Response Json :=
  if request.path ≠ "/agent-policy" then
    .error (protocolError 404 "not_found" "not_started")
  else if request.method ≠ "GET" ∧ request.method ≠ "HEAD" then
    .error (protocolError 405 "method_not_allowed" "not_started")
  else
    (service.authenticate request).map (service.agentPolicy queueSettings budgets)

/-- `authenticate_admin`, for requests that reach an administrative route. -/
def authenticateAdmin (service : Service) (request : HttpRequest) : Except Response Unit :=
  match service.adminToken, request.bearerToken with
  | none, _ => .error (protocolError 404 "not_found" "not_started")
  | some admin, some token =>
      if token = admin then
        .ok ()
      else if (service.identities.lookup token).isSome then
        .error (protocolError 403 "forbidden" "not_started")
      else
        .error unauthorized
  | some _, none => .error unauthorized

/-- The budget `agent_budget` finds; the identities of an owner and class share one. -/
def agentBudget (service : Service) (principalId : String) : Option BudgetRef :=
  (service.identities.find? fun entry =>
    entry.2.principalId = principalId && entry.2.clientClass = .agent).map fun entry =>
      entry.2.budget

/-- `Gateway::set_agent_limit`. -/
def setAgentLimit (service : Service) (budgets : Budgets) (principalId : String) (maximum : Nat) :
    Except String (Snapshot × Budgets) :=
  if ¬(1 ≤ maximum ∧ maximum ≤ 1000) then
    .error "max_outstanding must be an integer from 1 to 1000"
  else
    match service.agentBudget principalId with
    | none => .error "Unknown agent principal"
    | some budget => .ok ((budgets budget).setMaximum maximum, budgets.resize budget maximum)

/-- `update_limits`, on what the JSON extractor makes of the body. -/
def updateLimits (service : Service) (budgets : Budgets) (principalId : String)
    (update : Except JsonRejection Nat) : Except Response (Json × Budgets) :=
  match update with
  | .error rejection => .error (invalidJson rejection)
  | .ok maximum =>
      if ¬(1 ≤ maximum ∧ maximum ≤ 1000) then
        .error (protocolError 422 "invalid_parameters" "not_started")
      else
        match service.agentBudget principalId with
        | none => .error (protocolError 404 "not_found" "not_started")
        | some budget =>
            let state := (budgets budget).setMaximum maximum
            .ok (.object
              [("principal_id", .string principalId),
               ("client_class", .string "agent"),
               ("policy_revision", .unsigned state.revision),
               ("limits", .object
                 [("scope", .string "principal"), ("max_outstanding", .unsigned state.maximum)]),
               ("outstanding", .unsigned state.outstanding)], budgets.resize budget maximum)

/-- The ceilings the host and the administrator can set, with their budgets. -/
def Resizes (service : Service) (budget : BudgetRef) (maximum : Nat) : Prop :=
  1 ≤ maximum ∧ maximum ≤ 1000 ∧ ∃ principalId, service.agentBudget principalId = some budget

/-- The host changes the budgets within these bounds. -/
theorem resizes_setAgentLimit {service : Service} {budgets after : Budgets} {principalId : String}
    {maximum : Nat} {observed : Snapshot}
    (set : service.setAgentLimit budgets principalId maximum = .ok (observed, after)) :
    ∃ budget, service.Resizes budget maximum ∧ after = budgets.resize budget maximum ∧
      observed = after budget := by
  unfold setAgentLimit at set
  split at set
  · cases set
  · rename_i bounded
    split at set
    · cases set
    · rename_i budget known
      cases set
      obtain ⟨positive, bounded⟩ := not_not.mp bounded
      exact ⟨budget, ⟨positive, bounded, principalId, known⟩, rfl, by simp [Budgets.resize]⟩

/-- So does the administrator. -/
theorem resizes_updateLimits {service : Service} {budgets after : Budgets} {principalId : String}
    {update : Except JsonRejection Nat} {answer : Json}
    (set : service.updateLimits budgets principalId update = .ok (answer, after)) :
    ∃ budget maximum, service.Resizes budget maximum ∧ after = budgets.resize budget maximum := by
  unfold updateLimits at set
  split at set
  · cases set
  · rename_i maximum
    split at set
    · cases set
    · rename_i bounded
      split at set
      · cases set
      · rename_i budget known
        cases set
        obtain ⟨positive, bounded⟩ := not_not.mp bounded
        exact ⟨budget, maximum, ⟨positive, bounded, principalId, known⟩, rfl⟩

/-- A resized budget belongs to an agent of the service. -/
theorem Resizes.agent {service : Service} {budget : BudgetRef} {maximum : Nat}
    (resizes : service.Resizes budget maximum) :
    ∃ token identity, (token, identity) ∈ service.identities ∧ identity.clientClass = .agent ∧
      identity.budget = budget := by
  obtain ⟨-, -, principalId, known⟩ := resizes
  obtain ⟨⟨token, identity⟩, found, rfl⟩ := Option.map_eq_some_iff.mp known
  have owned := List.find?_some found
  simp only [Bool.and_eq_true, decide_eq_true_eq] at owned
  exact ⟨token, identity, List.mem_of_find?_eq_some found, owned.2, rfl⟩

end Service

end AiProtocol
