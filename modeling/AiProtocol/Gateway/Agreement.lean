import Mathlib.Data.List.Nodup
import Mathlib.Data.List.TakeDrop
import AiProtocol.Gateway.Accounting
import AiProtocol.Gateway.Mounting
import AiProtocol.Gateway.Provenance

/-!
# One operation for every search

A request is authorized for the operation it runs, its job is accounted to the identity it was
authenticated as, and discovery lists what would not be forbidden.
-/

namespace AiProtocol

namespace HttpRequest

/-- A bearer token comes with the scheme in front of the first blank. -/
theorem authorization_of_bearerToken {request : HttpRequest} {token : String}
    (bearer : request.bearerToken = some token) :
    ∃ scheme : String, scheme.map Char.toLower = "bearer" ∧
      request.authorization = [some (scheme ++ " " ++ token)] := by
  unfold bearerToken at bearer
  split at bearer
  · rename_i value single
    split at bearer
    · rename_i scheme found split
      split at bearer
      · rename_i isBearer
        obtain rfl : found = token := Option.some.inj bearer
        refine ⟨scheme, isBearer, ?_⟩
        rw [single]
        unfold splitOnce at split
        rw [List.span_eq_takeWhile_dropWhile] at split
        split at split
        · rename_i front blank rest pieces
          obtain ⟨taken, dropped⟩ := Prod.mk.inj pieces
          obtain ⟨rfl, rfl⟩ : String.ofList front = scheme ∧ String.ofList rest = found := by
            simpa using split
          have isBlank : blank = ' ' := by
            have first := List.head?_dropWhile_not (fun char : Char => decide (char ≠ ' '))
              value.toList
            rw [dropped] at first
            simpa using first
          have whole := List.takeWhile_append_dropWhile
            (p := fun char : Char => decide (char ≠ ' ')) (l := value.toList)
          rw [taken, dropped, isBlank] at whole
          rw [List.singleton_inj, Option.some_inj, ← String.toList_inj]
          simpa using whole.symm
        · cases split
      · cases bearer
    · cases bearer
  · cases bearer

end HttpRequest

/-- The action is one of the operation: its handler on some input, or its request upstream. -/
def Operation.Owns (operation : Operation) (action : TaskAction) : Prop :=
  (∃ native params, operation.native = some native ∧ operation.prepare native params = .ok action) ∨
    ∃ params request, operation.native = none ∧ operation.request params = .ok request ∧
      action = .mapped request

namespace Service

/-- The token of a request, with the grant the host gives it, resolves to an identity. -/
def Resolves (service : Service) (grant : Option String) (token : String)
    (identity : ClientIdentity) : Prop :=
  if service.authenticator then
    service.adminToken ≠ some token ∧
      ∃ id, grant = some id ∧ service.identities.lookup id = some identity
  else
    service.identities.lookup token = some identity

theorem identity_eq_some {service : Service} {request : HttpRequest} {identity : ClientIdentity} :
    service.identity request = some identity ↔
      ∃ token, request.bearerToken = some token ∧
        service.Resolves request.grant token identity := by
  unfold Service.identity Resolves
  cases request.bearerToken with
  | none => simp
  | some token =>
      cases service.authenticator with
      | false => simp
      | true =>
          by_cases admin : service.adminToken = some token
          · simp [Option.filter, admin]
          · cases request.grant <;> simp [Option.filter, admin]

/-- An authenticated identity was configured. -/
theorem Resolves.known {service : Service} {grant : Option String} {token : String}
    {identity : ClientIdentity} (resolves : service.Resolves grant token identity) :
    ∃ key, (key, identity) ∈ service.identities := by
  have member : ∀ {key}, service.identities.lookup key = some identity →
      (key, identity) ∈ service.identities := by
    intro key found
    obtain ⟨front, back, split, -⟩ := List.lookup_eq_some_iff.mp found
    simp [split]
  unfold Resolves at resolves
  split at resolves
  · obtain ⟨-, id, -, found⟩ := resolves
    exact ⟨id, member found⟩
  · exact ⟨token, member resolves⟩

theorem authenticate_eq_ok {service : Service} {request : HttpRequest}
    {identity : ClientIdentity} :
    service.authenticate request = .ok identity ↔ service.identity request = some identity ∧
      ∀ operation, service.operation request.path = some operation →
        operation.name ∈ identity.operations := by
  unfold authenticate
  cases service.identity request with
  | none => simp
  | some found =>
      cases service.operation request.path with
      | none => simp
      | some operation =>
          by_cases granted : operation.name ∈ found.operations
          · simp only [Option.any_some, List.contains_eq_mem, granted, decide_true, Bool.not_true,
              Bool.false_eq_true, ↓reduceIte, Except.ok.injEq, Option.some.injEq,
              forall_eq']
            exact ⟨fun same => ⟨same, same ▸ granted⟩, fun same => same.1⟩
          · simp only [Option.any_some, List.contains_eq_mem, granted, decide_false, Bool.not_false,
              ↓reduceIte, reduceCtorEq, Option.some.injEq, forall_eq', false_iff, not_and]
            exact fun same => same ▸ granted

private theorem work_eq_enqueue {identity accounted : ClientIdentity} {operation : Operation}
    {request : HttpRequest} {action : TaskAction}
    (enqueued : work identity operation request = .enqueue accounted action) :
    accounted = identity ∧ operation.Owns action := by
  unfold work at enqueued
  split at enqueued
  · cases enqueued
  rename_i params _
  split at enqueued
  · rename_i native handler
    split at enqueued
    · rename_i prepared
      cases enqueued
      exact ⟨rfl, .inl ⟨native, params, handler, prepared⟩⟩
    · cases enqueued
  · rename_i mapped
    split at enqueued
    · rename_i upstream found
      cases enqueued
      exact ⟨rfl, .inr ⟨params, upstream, mapped, found, rfl⟩⟩
    · cases enqueued

theorem app_eq_enqueue {service : Service} {request : HttpRequest} {identity : ClientIdentity}
    {action : TaskAction} (enqueued : service.app request = .enqueue identity action) :
    ∃ operation, service.operation request.path = some operation ∧ request.method = "POST" ∧
      service.identity request = some identity ∧ operation.name ∈ identity.operations ∧
        operation.Owns action := by
  unfold app at enqueued
  split at enqueued
  · cases enqueued
  rename_i operation found
  split at enqueued
  · cases enqueued
  rename_i post
  split at enqueued
  · cases enqueued
  rename_i authenticated checked
  obtain ⟨rfl, owns⟩ := work_eq_enqueue enqueued
  obtain ⟨resolved, granted⟩ := authenticate_eq_ok.mp checked
  exact ⟨operation, found, not_not.mp post, resolved, granted operation found, owns⟩

/-- Only the middleware forbids. -/
theorem app_forbidden_iff {service : Service} {request : HttpRequest} {identity : ClientIdentity}
    {operation : Operation} (post : request.method = "POST")
    (found : service.operation request.path = some operation)
    (resolved : service.identity request = some identity) :
    (∃ response, service.app request = .respond response ∧ response.status = 403) ↔
      operation.name ∉ identity.operations := by
  constructor
  · rintro ⟨response, refused, forbidden⟩ granted
    have passed : service.authenticate request = .ok identity := by
      apply authenticate_eq_ok.mpr
      refine ⟨resolved, ?_⟩
      intro other same
      obtain rfl : operation = other := Option.some.inj (found.symm.trans same)
      exact granted
    rw [app, found] at refused
    simp only [post, ne_eq, not_true_eq_false, ↓reduceIte, passed] at refused
    unfold work at refused
    split at refused
    · rename_i rejection _
      cases refused
      cases rejection <;> simp [invalidJson, protocolError, JsonRejection.status] at forbidden
    · split at refused
      · split at refused
        · cases refused
        · rename_i prepared
          cases refused
          unfold Operation.prepare at prepared
          split at prepared
          · cases prepared
          · cases prepared
            exact absurd forbidden (by decide)
      · split at refused
        · cases refused
        · cases refused
          exact absurd forbidden (by decide)
  · intro denied
    refine ⟨protocolError 403 "forbidden" "not_started", ?_, rfl⟩
    have forbidden : service.authenticate request =
        .error (protocolError 403 "forbidden" "not_started") := by
      unfold authenticate
      rw [resolved, found]
      simp [denied]
    rw [app, found]
    simp [post, forbidden]

theorem agentPolicy_operations (service : Service) (queueSettings : QueueSettings)
    (budgets : Budgets) (identity : ClientIdentity) :
    (service.agentPolicy queueSettings budgets identity).get "operations" =
      some (.array ((service.listed identity).map Operation.descriptor)) := by
  simp [agentPolicy, Json.get, Json.asObject, List.lookup_cons]

theorem authenticateAdmin_eq_ok {service : Service} {request : HttpRequest} :
    service.authenticateAdmin request = .ok () ↔
      ∃ admin, service.adminToken = some admin ∧ request.bearerToken = some admin := by
  unfold authenticateAdmin
  cases service.adminToken with
  | none => simp
  | some admin =>
      cases request.bearerToken with
      | none => simp
      | some token =>
          by_cases same : token = admin
          · simp [same]
          · simp only [same, ↓reduceIte, Option.some.injEq, exists_eq_left']
            split <;> simp

private theorem Resolves.not_admin {service : Service} {grant : Option String} {token : String}
    {identity : ClientIdentity}
    (admin : ∀ token, service.adminToken = some token → service.identities.lookup token = none)
    (resolves : service.Resolves grant token identity) : service.adminToken ≠ some token := by
  unfold Resolves at resolves
  split at resolves
  · exact resolves.1
  · intro same
    rw [admin token same] at resolves
    cases resolves

private theorem identity_congr {service : Service} {request request' : HttpRequest}
    (header : request'.authorization = request.authorization)
    (grant : request'.grant = request.grant) :
    service.identity request' = service.identity request := by
  have same : request'.bearerToken = request.bearerToken := by
    unfold HttpRequest.bearerToken
    rw [header]
  unfold Service.identity
  rw [same, grant]

private theorem identity_eq_none_of_admin {service : Service} {request : HttpRequest}
    (admin : ∀ token, service.adminToken = some token → service.identities.lookup token = none)
    (administers : service.authenticateAdmin request = .ok ()) :
    service.identity request = none := by
  obtain ⟨token, secret, bearer⟩ := authenticateAdmin_eq_ok.mp administers
  cases resolved : service.identity request with
  | none => rfl
  | some identity =>
      obtain ⟨found, other, resolves⟩ := identity_eq_some.mp resolved
      obtain rfl : token = found := Option.some.inj (bearer.symm.trans other)
      exact absurd secret (resolves.not_admin admin)

private theorem adminToken_ne_of_mem {service : Service} {entry : String × ClientIdentity}
    (admin : ∀ token, service.adminToken = some token → service.identities.lookup token = none)
    (member : entry ∈ service.identities) : service.adminToken ≠ some entry.1 := by
  intro same
  have absent := List.lookup_eq_none_iff.mp (admin entry.1 same) entry member
  simp at absent

/-- Who is authenticated is told what the service lists for them. -/
theorem discover_eq_ok {service : Service} {queueSettings : QueueSettings} {budgets : Budgets}
    {request : HttpRequest} {identity : ClientIdentity}
    (unrouted : service.operation "/agent-policy" = none)
    (resolved : service.identity request = some identity) (path : request.path = "/agent-policy")
    (get : request.method = "GET") :
    service.discover queueSettings budgets request =
      .ok (service.agentPolicy queueSettings budgets identity) := by
  have passed : service.authenticate request = .ok identity := by
    apply authenticate_eq_ok.mpr
    refine ⟨resolved, ?_⟩
    rw [path, unrouted]
    exact nofun
  simp only [discover, path, get, ne_eq, not_true_eq_false, ↓reduceIte, false_and, passed]
  rfl

end Service

namespace Deployment

private theorem WellFormed.unique {deployment : Deployment} (known : deployment.WellFormed)
    {left right : Operation} (member : left ∈ deployment.service.operations)
    (other : right ∈ deployment.service.operations) (same : left.path = right.path) :
    left = right :=
  List.inj_on_of_nodup_map known.operations.paths member other same

theorem reserved_of_operationPath {path : String} (valid : operationPath path = true) :
    path ∉ ["/healthz", "/readyz", "/agent-policy", "/admin"] ∧
      ¬"/admin/".toList <+: path.toList := by
  simp only [operationPath, Bool.and_eq_true, decide_eq_true_eq, Bool.not_eq_true',
    ← Bool.not_eq_true, List.isPrefixOf_iff_prefix] at valid
  simp only [List.mem_cons, List.not_mem_nil, or_false, not_or]
  exact ⟨⟨valid.1.1.1.1.2, valid.1.1.1.2, valid.1.1.2, valid.1.2⟩, valid.2⟩

theorem WellFormed.operation_agentPolicy {deployment : Deployment}
    (known : deployment.WellFormed) : deployment.service.operation "/agent-policy" = none := by
  cases found : deployment.service.operation "/agent-policy" with
  | none => rfl
  | some operation =>
      obtain ⟨member, path⟩ := Service.operation_eq_some found
      have reserved := (reserved_of_operationPath (known.operations.routed operation member)).1
      rw [path] at reserved
      simp at reserved

private theorem WellFormed.operation_path {deployment : Deployment} (known : deployment.WellFormed)
    {operation : Operation} (member : operation ∈ deployment.service.operations) :
    deployment.service.operation operation.path = some operation := by
  cases found : deployment.service.operation operation.path with
  | none =>
      have absent := List.find?_eq_none.mp found operation member
      simp at absent
  | some other =>
      obtain ⟨listed, routed⟩ := Service.operation_eq_some found
      rw [known.unique listed member routed]

/-- What is enqueued was authorized by one token, for the only operation of its path. -/
theorem WellFormed.authorized {deployment : Deployment} (known : deployment.WellFormed)
    {request : HttpRequest} {identity : ClientIdentity} {action : TaskAction}
    (enqueued : deployment.service.app request = .enqueue identity action) :
    ∃ (scheme token : String) (operation : Operation), scheme.map Char.toLower = "bearer" ∧
      request.authorization = [some (scheme ++ " " ++ token)] ∧
      deployment.service.Resolves request.grant token identity ∧
      operation ∈ deployment.service.operations ∧ operation.path = request.path ∧
      (∀ other ∈ deployment.service.operations, other.path = request.path → other = operation) ∧
      operation.name ∈ identity.operations ∧ operation.Owns action := by
  obtain ⟨operation, found, -, resolved, granted, owns⟩ := Service.app_eq_enqueue enqueued
  obtain ⟨token, bearer, resolves⟩ := Service.identity_eq_some.mp resolved
  obtain ⟨scheme, isBearer, single⟩ := HttpRequest.authorization_of_bearerToken bearer
  obtain ⟨member, path⟩ := Service.operation_eq_some found
  refine ⟨scheme, token, operation, isBearer, single, resolves, member, path, ?_, granted, owns⟩
  intro other listed same
  exact known.unique listed member (same.trans path.symm)

open Gateway in
private theorem accounted_run {deployment : Deployment} {gateway : Gateway TaskAction}
    {trace : List (Event TaskAction)}
    (run : Run deployment.config (start deployment.config) trace gateway)
    {clientClass : ClientClass} {job : Job TaskAction}
    (waiting : job ∈ gateway.queues.get clientClass) :
    ∃ request identity, .submit job.reply identity job.action ∈ trace ∧
      (∀ identity' action, .submit job.reply identity' action ∈ trace →
        identity' = identity ∧ action = job.action) ∧
      deployment.service.app request = .enqueue identity job.action ∧
      identity.clientClass = clientClass ∧ job.permit = identity.budget ∧
      (job.reply, identity.budget) ∈ gateway.held ∧
      (gateway.budgets identity.budget).outstanding =
        gateway.held.countP fun ticket => ticket.2 = identity.budget := by
  obtain ⟨identity, submits, ofClass, ofBudget⟩ :=
    (submitted_run run).waiting clientClass job waiting
  obtain ⟨⟨request, enqueued⟩, once⟩ := (submit_run run).2 identity job.action submits
  refine ⟨request, identity, submits, once, enqueued, ofClass, ofBudget.symm, ?_,
    balanced_run run _⟩
  have queued : job ∈ gateway.queues.jobs := Queues.mem_jobs.mpr ⟨clientClass, waiting⟩
  rw [ofBudget]
  apply List.mem_append_left
  apply List.mem_append_left
  exact List.mem_map_of_mem queued

open Gateway in
/-- Discovery, authorization and accounting agree.  The routes of operations are distinct and free;
a request is enqueued with one bearer token which resolves to an identity, for the only operation of
its path, which this identity was granted; the job of a request carries the action it was submitted
with, waits in the queue of the class of the identity it was submitted for and owns a permit of this
identity's budget, which is the budget of its owner and class; nothing else in the request decides
this; discovery lists the operations which are not forbidden; and administrators are no
identities. -/
theorem agreement {deployment : Deployment} (accepted : deployment.Accepted) :
    ((deployment.service.operations.map Operation.path).Nodup ∧
      ∀ operation ∈ deployment.service.operations,
        operation.path ∉ ["/healthz", "/readyz", "/agent-policy", "/admin"] ∧
          ¬"/admin/".toList <+: operation.path.toList) ∧
    (∀ request identity action, deployment.service.app request = .enqueue identity action →
      ∃ (scheme token : String) (operation : Operation), scheme.map Char.toLower = "bearer" ∧
        request.authorization = [some (scheme ++ " " ++ token)] ∧
        deployment.service.Resolves request.grant token identity ∧
        operation ∈ deployment.service.operations ∧ operation.path = request.path ∧
        (∀ other ∈ deployment.service.operations, other.path = request.path →
          other = operation) ∧
        operation.name ∈ identity.operations ∧ operation.Owns action) ∧
    (∀ gateway trace, Run deployment.config (start deployment.config) trace gateway →
      ∀ clientClass, ∀ job ∈ gateway.queues.get clientClass, ∃ request identity,
        .submit job.reply identity job.action ∈ trace ∧
        (∀ identity' action, .submit job.reply identity' action ∈ trace →
          identity' = identity ∧ action = job.action) ∧
        deployment.service.app request = .enqueue identity job.action ∧
        identity.clientClass = clientClass ∧ job.permit = identity.budget ∧
        (job.reply, identity.budget) ∈ gateway.held ∧
        (gateway.budgets identity.budget).outstanding =
          gateway.held.countP fun ticket => ticket.2 = identity.budget) ∧
    (∀ request request' identity identity' action action',
      deployment.service.app request = .enqueue identity action →
      deployment.service.app request' = .enqueue identity' action' →
      request'.path = request.path → request'.authorization = request.authorization →
      request'.grant = request.grant → identity' = identity ∧
        ∃ operation ∈ deployment.service.operations,
          operation.path = request.path ∧ operation.Owns action ∧ operation.Owns action') ∧
    (∀ left ∈ deployment.service.identities, ∀ right ∈ deployment.service.identities,
      left.2.budget = right.2.budget ↔
        left.2.principalId = right.2.principalId ∧ left.2.clientClass = right.2.clientClass) ∧
    (∀ budgets request identity, deployment.service.identity request = some identity →
      request.path = "/agent-policy" → request.method = "GET" →
      ∃ (policy : Json) (operations : List Operation),
        deployment.service.discover deployment.queueSettings budgets request = .ok policy ∧
        policy.get "operations" = some (.array (operations.map Operation.descriptor)) ∧
        operations.Sublist deployment.service.operations ∧
        ∀ operation ∈ deployment.service.operations, ∀ call,
          deployment.service.identity call = some identity → call.path = operation.path →
          call.method = "POST" →
          (operation ∈ operations ↔ ¬∃ response,
            deployment.service.app call = .respond response ∧ response.status = 403)) ∧
    (∀ request, deployment.service.authenticateAdmin request = .ok () →
      deployment.service.identity request = none) ∧
    ∀ entry ∈ deployment.service.identities, deployment.service.adminToken ≠ some entry.1 ∧
      ∀ request, request.bearerToken = some entry.1 →
        deployment.service.authenticateAdmin request ≠ .ok () := by
  have known := accepted.wellFormed
  refine ⟨⟨known.operations.paths, ?_⟩, ?_, ?_, ?_, ?_, ?_, ?_, ?_⟩
  · intro operation member
    exact reserved_of_operationPath (known.operations.routed operation member)
  · intro request identity action enqueued
    exact known.authorized enqueued
  · intro gateway trace run clientClass job waiting
    exact accounted_run run waiting
  · intro request request' identity identity' action action' first second path header grant
    obtain ⟨operation, found, -, resolved, -, owns⟩ := Service.app_eq_enqueue first
    obtain ⟨other, found', -, resolved', -, owns'⟩ := Service.app_eq_enqueue second
    rw [path, found] at found'
    rw [Service.identity_congr header grant, resolved] at resolved'
    cases found'
    cases resolved'
    obtain ⟨member, routed⟩ := Service.operation_eq_some found
    exact ⟨rfl, operation, member, routed, owns, owns'⟩
  · intro left member right other
    rw [known.shared left member right other]
    simp [ClientIdentity.owner]
  · intro budgets request identity resolved path get
    refine ⟨deployment.service.agentPolicy deployment.queueSettings budgets identity,
      deployment.service.listed identity,
      Service.discover_eq_ok known.operation_agentPolicy resolved path get,
      Service.agentPolicy_operations _ _ _ _, List.filter_sublist, ?_⟩
    intro operation member call caller called post
    have found : deployment.service.operation call.path = some operation := by
      rw [called]
      exact known.operation_path member
    rw [Service.app_forbidden_iff post found caller, not_not]
    simp [Service.listed, member]
  · intro request administers
    exact Service.identity_eq_none_of_admin known.admin administers
  · intro entry member
    have apart := Service.adminToken_ne_of_mem known.admin member
    refine ⟨apart, ?_⟩
    intro request bearer administers
    obtain ⟨admin, token, other⟩ := Service.authenticateAdmin_eq_ok.mp administers
    obtain rfl : entry.1 = admin := Option.some.inj (bearer.symm.trans other)
    exact apart token

def searching : NativeOperation where
  name := "search"
  description := ""
  path := "/search"
  inputSchema := .object [("type", .string "object")]
  deserializes _ := true
  name_valid := by decide
  path_valid := by decide
  schema_object := rfl

def searcher : Credential where
  token := "t"
  principalId := "owner"
  clientClass := .agent
  operations := ["search"]
  maxOutstanding := 2

def archivist : ClientIdentity where
  principalId := "owner"
  clientClass := .agent
  operations := ["search"]
  budget := 0

/-- The gateway of one native operation, with an administrator. -/
def archive : Deployment where
  service :=
    { serviceId := "archive"
      operations :=
        [{ name := "search", description := "", path := "/search", upstreamPath := ""
           parameters := [], native := some searching }]
      identities := [("t", archivist)]
      authenticator := false
      adminToken := some "a" }
  upstreamUrl := none
  settings := .default
  settings_valid := RuntimeSettings.validate_default
  queueSettings := .default
  mode := .weighted
  maximum := Registry.maximum { identities := [], budgets := [(("owner", .agent), 2)] }
  rejectOnce := false

private theorem accepted_archive : archive.Accepted := by
  let initial : Deployment :=
    { archive with service := { archive.service with adminToken := none } }
  have built : native "archive" [searching] [searcher] = .ok initial := rfl
  have administered : initial.withAdminToken "a" = .ok archive := rfl
  exact ⟨initial, .native built, .withAdminToken .refl administered⟩

def lowercase : HttpRequest where
  path := "/search"
  method := "POST"
  authorization := [some "bearer t"]
  grant := none
  params := .ok (.object [])

theorem app_lowercase :
    archive.service.app lowercase = .enqueue archivist (.native "search" (.object [])) := by
  have bearer : lowercase.bearerToken = some "t" := by decide +kernel
  have resolved : archive.service.identity lowercase = some archivist := by
    rw [Service.identity, bearer]
    rfl
  have passed : archive.service.authenticate lowercase = .ok archivist := by
    rw [Service.authenticate, resolved]
    rfl
  rw [Service.app, passed]
  rfl

/-- The scheme is compared without its case. -/
theorem agreement_lowercase : ¬∀ deployment : Deployment, deployment.Accepted →
    ∀ request identity action, deployment.service.app request = .enqueue identity action →
      ∃ token, request.authorization = [some ("Bearer " ++ token)] := by
  intro literal
  obtain ⟨token, single⟩ := literal archive accepted_archive lowercase _ _ app_lowercase
  have first := congrArg (fun value : List (Option String) =>
    (value.head?.bind id).bind fun text => text.toList.head?) single
  simp [lowercase] at first

def administering : HttpRequest where
  path := "/admin/limits"
  method := "GET"
  authorization := [some "Bearer a"]
  grant := none
  params := .ok .null

open Gateway in
/-- The job of a request waits on the account of the identity it was submitted for, and the
administrator is none. -/
theorem agreement_sample : ∃ (trace : List (Event TaskAction)) (gateway : Gateway TaskAction)
    (job : Job TaskAction), Run archive.config (start archive.config) trace gateway ∧
      job ∈ gateway.queues.get .agent ∧ job.action = .native "search" (.object []) ∧
      .submit job.reply archivist job.action ∈ trace ∧
      (∀ identity action, .submit job.reply identity action ∈ trace →
        identity = archivist ∧ action = job.action) ∧
      job.permit = archivist.budget ∧ (job.reply, archivist.budget) ∈ gateway.held ∧
      archive.service.authenticateAdmin administering = .ok () ∧
      archive.service.identity administering = none := by
  have begun : Run archive.config (start archive.config) [] _ := .refl _
  have run := ((((begun.tail
    (.submit _ 0 archivist _ rfl ⟨lowercase, app_lowercase⟩ nofun)).tail
    (.enter _ 0 _ _ (fun _ => false) rfl rfl rfl nofun)).tail
    (.acquire _ 0 _ _ _ rfl rfl rfl)).tail
    (.push _ 0 _ _ _ _ rfl rfl (by decide) rfl)).tail (.notify _ 0 rfl)
  have administers : archive.service.authenticateAdmin administering = .ok () := by
    have bearer : administering.bearerToken = some "a" := by decide +kernel
    exact Service.authenticateAdmin_eq_ok.mpr ⟨"a", rfl, bearer⟩
  obtain ⟨-, -, accounted, -, -, -, apart, -⟩ := agreement accepted_archive
  obtain ⟨request, identity, submits, once, -, -, permit, held, -⟩ :=
    accounted _ _ run .agent _ List.mem_cons_self
  obtain ⟨rfl, -⟩ := once archivist _ List.mem_cons_self
  exact ⟨_, _, _, run, List.mem_cons_self, rfl, submits, once, permit, held, administers,
    apart administering administers⟩

end Deployment

end AiProtocol
