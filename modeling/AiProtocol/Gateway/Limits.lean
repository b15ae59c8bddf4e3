import AiProtocol.Gateway.Machine
import AiProtocol.Gateway.Sharing

/-!
# Limit updates

The administrative route which changes the ceiling of one budget: which documents it takes, and what
it changes.  The derived reader of `LimitsUpdate` takes an object by the name of its field and an
array by position.
-/

namespace AiProtocol

/-! ## The document -/

namespace LimitsUpdate

/-- `usize::deserialize`. -/
def usize : Json → Except JsonRejection Nat
  | .unsigned value => .ok value
  | _ => .error .dataError

/-- The derived `visit_map`; unknown, missing and duplicate fields are errors. -/
def visitMap : List (String × Json) → Option Nat → Except JsonRejection Nat
  | [], none => .error .dataError
  | [], some maxOutstanding => .ok maxOutstanding
  | (name, value) :: members, found =>
      if name ≠ "max_outstanding" then
        .error .dataError
      else if found.isSome then
        .error .dataError
      else
        match usize value with
        | .error rejection => .error rejection
        | .ok maxOutstanding => visitMap members (some maxOutstanding)

/-- The derived `visit_seq`, and the end of the array. -/
def visitSeq : List Json → Except JsonRejection Nat
  | [] => .error .dataError
  | item :: rest =>
      match usize item with
      | .error rejection => .error rejection
      | .ok maxOutstanding =>
          if rest.isEmpty then .ok maxOutstanding else .error .syntaxError

/-- `LimitsUpdate::deserialize`; its only field is the result. -/
def deserialize : Json → Except JsonRejection Nat
  | .object members => visitMap members none
  | .array items => visitSeq items
  | _ => .error .dataError

theorem usize_eq_ok {value : Json} {read : Nat} :
    usize value = .ok read ↔ value = .unsigned read := by
  cases value <;> simp [usize]

private theorem visitMap_found {members : List (String × Json)} {found read : Nat} :
    visitMap members (some found) = .ok read ↔ members = [] ∧ found = read := by
  cases members with
  | nil => simp [visitMap]
  | cons member members => simp [visitMap]

private theorem visitMap_eq_ok {members : List (String × Json)} {read : Nat} :
    visitMap members none = .ok read ↔ members = [("max_outstanding", .unsigned read)] := by
  cases members with
  | nil => simp [visitMap]
  | cons member members =>
      obtain ⟨name, value⟩ := member
      rw [visitMap, Option.isSome_none]
      by_cases known : name = "max_outstanding"
      · rw [if_neg (not_not.mpr known), if_neg Bool.false_ne_true]
        cases number : usize value with
        | error rejection =>
            have other : value ≠ .unsigned read := fun same => by
              rw [usize_eq_ok.mpr same] at number
              cases number
            simp [other]
        | ok found =>
            obtain rfl := usize_eq_ok.mp number
            simp only [visitMap_found, List.cons.injEq, Prod.mk.injEq, known, true_and,
              Json.unsigned.injEq]
            exact and_comm
      · rw [if_pos known]
        simp [known]

private theorem visitSeq_eq_ok {items : List Json} {read : Nat} :
    visitSeq items = .ok read ↔ items = [.unsigned read] := by
  cases items with
  | nil => simp [visitSeq]
  | cons item rest =>
      rw [visitSeq]
      cases number : usize item with
      | error rejection =>
          have other : item ≠ .unsigned read := fun same => by
            rw [usize_eq_ok.mpr same] at number
            cases number
          simp [other]
      | ok found =>
          obtain rfl := usize_eq_ok.mp number
          cases rest with
          | nil => simp
          | cons next rest => simp

theorem deserialize_eq_ok {body : Json} {read : Nat} :
    deserialize body = .ok read ↔
      body = .object [("max_outstanding", .unsigned read)] ∨ body = .array [.unsigned read] := by
  cases body with
  | object members => simp [deserialize, visitMap_eq_ok]
  | array items => simp [deserialize, visitSeq_eq_ok]
  | null | bool | unsigned | number | string => simp [deserialize]

end LimitsUpdate

/-! ## The route -/

/-- A request which reached the route of limits. -/
structure LimitsRequest extends HttpRequest where
  /-- The principal in the path, or the answer of the `Path` extractor if it is not text. -/
  principalId : Except Response String

namespace Service

variable {Action : Type}

/-- `app`, for a PATCH of the route of limits. -/
def patchLimits (service : Service) (gateway : Gateway Action) (request : LimitsRequest) :
    Except Response Json × Gateway Action :=
  match service.authenticateAdmin request.toHttpRequest with
  | .error response => (.error response, gateway)
  | .ok () =>
      match request.principalId with
      | .error response => (.error response, gateway)
      | .ok principalId =>
          match service.updateLimits gateway.budgets principalId
              (request.params.bind LimitsUpdate.deserialize) with
          | .error response => (.error response, gateway)
          | .ok (answer, budgets) => (.ok answer, { gateway with budgets })

/-- What the answer of a limit update shows of a budget. -/
def limitsAnswer (principalId : String) (budget : Snapshot) : Json :=
  .object
    [("principal_id", .string principalId),
     ("client_class", .string "agent"),
     ("policy_revision", .unsigned budget.revision),
     ("limits", .object
       [("scope", .string "principal"), ("max_outstanding", .unsigned budget.maximum)]),
     ("outstanding", .unsigned budget.outstanding)]

/-- The body names a ceiling for a budget. -/
structure Accepts (service : Service) (principalId : String) (body : Json) (budget : BudgetRef)
    (maximum : Nat) : Prop where
  /-- The ceiling is read. -/
  read : LimitsUpdate.deserialize body = .ok maximum
  /-- The ceiling is positive. -/
  positive : 1 ≤ maximum
  /-- The ceiling is bounded. -/
  bounded : maximum ≤ 1000
  /-- The owner has a budget for agents. -/
  owned : service.agentBudget principalId = some budget

variable {service : Service} {gateway : Gateway Action} {request : LimitsRequest}
  {principalId : String} {body : Json} {budget : BudgetRef} {maximum : Nat}

theorem patchLimits_accepted (admin : service.authenticateAdmin request.toHttpRequest = .ok ())
    (named : request.principalId = .ok principalId) (received : request.params = .ok body)
    (accepts : service.Accepts principalId body budget maximum) :
    service.patchLimits gateway request =
      (.ok (limitsAnswer principalId ((gateway.budgets budget).setMaximum maximum)),
        { gateway with budgets := gateway.budgets.resize budget maximum }) := by
  simp only [patchLimits, admin, named, received, Except.bind, accepts.read, updateLimits,
    if_neg (not_not.mpr (And.intro accepts.positive accepts.bounded)), accepts.owned]
  rfl

theorem patchLimits_refused (admin : service.authenticateAdmin request.toHttpRequest = .ok ())
    (named : request.principalId = .ok principalId) (received : request.params = .ok body)
    (refuses : ∀ budget maximum, ¬service.Accepts principalId body budget maximum) :
    ∃ response, service.patchLimits gateway request = (.error response, gateway) ∧
      400 ≤ response.status := by
  simp only [patchLimits, admin, named, received, Except.bind]
  cases read : LimitsUpdate.deserialize body with
  | error rejection =>
      refine ⟨_, rfl, ?_⟩
      cases rejection <;> decide
  | ok maximum =>
      by_cases bounds : 1 ≤ maximum ∧ maximum ≤ 1000
      · cases owned : service.agentBudget principalId with
        | none =>
            simp only [updateLimits, if_neg (not_not.mpr bounds), owned]
            exact ⟨_, rfl, by decide⟩
        | some budget => exact (refuses budget maximum ⟨read, bounds.1, bounds.2, owned⟩).elim
      · simp only [updateLimits, if_pos bounds]
        exact ⟨_, rfl, by decide⟩

/-- The ceiling of one budget was changed, and the answer shows that budget. -/
structure Updated (gateway : Gateway Action) (principalId : String) (budget : BudgetRef)
    (maximum : Nat) (outcome : Except Response Json × Gateway Action) : Prop where
  /-- The ceiling is the one asked for. -/
  ceiling : (outcome.2.budgets budget).maximum = maximum
  /-- A different ceiling is a new revision. -/
  revised : (outcome.2.budgets budget).revision =
    (gateway.budgets budget).revision + if (gateway.budgets budget).maximum = maximum then 0 else 1
  /-- Accepted work stays counted. -/
  counted : (outcome.2.budgets budget).outstanding = (gateway.budgets budget).outstanding
  /-- Every other budget is unchanged. -/
  others : ∀ other ≠ budget, outcome.2.budgets other = gateway.budgets other
  /-- Everything but the budgets is unchanged. -/
  rest : { outcome.2 with budgets := gateway.budgets } = gateway
  /-- The answer shows the budget afterwards. -/
  answer : outcome.1 = .ok (limitsAnswer principalId (outcome.2.budgets budget))

private theorem updated_of_accepted
    (admin : service.authenticateAdmin request.toHttpRequest = .ok ())
    (named : request.principalId = .ok principalId) (received : request.params = .ok body)
    (accepts : service.Accepts principalId body budget maximum) :
    Updated gateway principalId budget maximum (service.patchLimits gateway request) := by
  rw [patchLimits_accepted admin named received accepts]
  have changed : gateway.budgets.resize budget maximum budget =
      (gateway.budgets budget).setMaximum maximum := Function.update_self ..
  constructor
  · exact (congrArg Snapshot.maximum changed).trans (Snapshot.setMaximum_maximum _ _)
  · exact (congrArg Snapshot.revision changed).trans (Snapshot.setMaximum_revision _ _)
  · exact (congrArg Snapshot.outstanding changed).trans (Snapshot.setMaximum_outstanding _ _)
  · exact fun other different => Function.update_of_ne different _ _
  · rfl
  · exact congrArg (fun after => Except.ok (limitsAnswer principalId after)) changed.symm

/-- An update takes effect exactly if the body is an object whose only member is an integral
`max_outstanding` within its bounds, for an owner with a budget for agents. -/
structure Exact (service : Service) (gateway : Gateway Action) (principalId : String) (body : Json)
    (outcome : Except Response Json × Gateway Action) : Prop where
  /-- Such an update takes effect. -/
  takes : ∀ budget maximum, body = .object [("max_outstanding", .unsigned maximum)] →
    1 ≤ maximum → maximum ≤ 1000 → service.agentBudget principalId = some budget →
      Updated gateway principalId budget maximum outcome
  /-- Every other update is answered with an error and changes nothing. -/
  refuses : (¬∃ budget maximum, body = .object [("max_outstanding", .unsigned maximum)] ∧
    1 ≤ maximum ∧ maximum ≤ 1000 ∧ service.agentBudget principalId = some budget) →
      ∃ response, outcome = (.error response, gateway) ∧ 400 ≤ response.status

/-- The body is an array whose only item is a ceiling within its bounds. -/
def Positional (body : Json) : Prop :=
  ∃ maximum, body = .array [.unsigned maximum] ∧ 1 ≤ maximum ∧ maximum ≤ 1000

theorem patchLimits_cases (admin : service.authenticateAdmin request.toHttpRequest = .ok ())
    (named : request.principalId = .ok principalId) (received : request.params = .ok body)
    (gateway : Gateway Action) :
    (∃ response, service.patchLimits gateway request = (.error response, gateway)) ∨
      ∃ budget maximum, service.agentBudget principalId = some budget ∧
        (service.patchLimits gateway request).2 =
          { gateway with budgets := gateway.budgets.resize budget maximum } := by
  by_cases accepted : ∃ budget maximum, service.Accepts principalId body budget maximum
  · obtain ⟨budget, maximum, accepts⟩ := accepted
    refine .inr ⟨budget, maximum, accepts.owned, ?_⟩
    rw [patchLimits_accepted admin named received accepts]
  · obtain ⟨response, refused, -⟩ := patchLimits_refused admin named received
      fun budget maximum accepts => accepted ⟨budget, maximum, accepts⟩
    exact .inl ⟨response, refused⟩

/-- Limit updates are exact, but for arrays: an authenticated update is the one of `Exact` if and
only if the body is no array of one ceiling within its bounds, or the owner has no budget for
agents.  Whatever the body, an update which is answered without an error is one step of the gateway;
and with the identities of accepted credentials, no update changes the budget of another owner or
class. -/
theorem limit_updates (service : Service) (gateway : Gateway Action) (request : LimitsRequest)
    (principalId : String) (body : Json)
    (admin : service.authenticateAdmin request.toHttpRequest = .ok ())
    (named : request.principalId = .ok principalId) (received : request.params = .ok body) :
    (service.Exact gateway principalId body (service.patchLimits gateway request) ↔
      ¬(Positional body ∧ (service.agentBudget principalId).isSome)) ∧
    (∀ config answer, (service.patchLimits gateway request).1 = .ok answer →
      ∃ budget previous maximum, Step config gateway (.resize budget previous maximum)
        (service.patchLimits gateway request).2) ∧
    ∀ operations credentials registry,
      Registry.ofCredentials operations credentials = .ok registry →
        service.identities.Perm registry.identities → ∀ entry ∈ service.identities,
          entry.2.owner ≠ (principalId, .agent) →
            (service.patchLimits gateway request).2.budgets entry.2.budget =
              gateway.budgets entry.2.budget := by
  refine ⟨⟨?_, fun others => ⟨?_, ?_⟩⟩, ?_, ?_⟩
  · -- An array is no object, but it is accepted.
    rintro exact ⟨⟨maximum, rfl, positive, bounded⟩, owned⟩
    obtain ⟨budget, owned⟩ := Option.isSome_iff_exists.mp owned
    obtain ⟨response, refused, -⟩ := exact.refuses <| by
      rintro ⟨_, _, object, -⟩
      cases object
    rw [patchLimits_accepted admin named received
      ⟨LimitsUpdate.deserialize_eq_ok.mpr (.inr rfl), positive, bounded, owned⟩] at refused
    cases refused
  · intro budget maximum object positive bounded owned
    exact updated_of_accepted admin named received
      ⟨LimitsUpdate.deserialize_eq_ok.mpr (.inl object), positive, bounded, owned⟩
  · intro unnamed
    refine patchLimits_refused admin named received fun budget maximum accepts => ?_
    rcases LimitsUpdate.deserialize_eq_ok.mp accepts.read with object | array
    · exact unnamed ⟨budget, maximum, object, accepts.positive, accepts.bounded, accepts.owned⟩
    · exact others ⟨⟨maximum, array, accepts.positive, accepts.bounded⟩,
        Option.isSome_iff_exists.mpr ⟨budget, accepts.owned⟩⟩
  · intro config answer answered
    rcases patchLimits_cases admin named received gateway with ⟨response, refused⟩ |
      ⟨budget, maximum, -, changed⟩
    · rw [refused] at answered
      cases answered
    · rw [changed]
      exact ⟨budget, _, maximum, .resize gateway budget maximum⟩
  · intro operations credentials registry accepted same entry member other
    rcases patchLimits_cases admin named received gateway with ⟨response, refused⟩ |
      ⟨budget, maximum, owned, changed⟩
    · rw [refused]
    · have records := Registry.records_ofCredentials accepted
      obtain ⟨credential, listed, owner, rfl⟩ :=
        (records.agentBudget same principalId budget).mp owned
      have known := same.mem_iff.mp member
      rw [records.identities, List.mem_map] at known
      obtain ⟨credential', listed', rfl⟩ := known
      have different : (registry.identity credential').budget ≠
          (registry.identity credential).budget := fun equal =>
        other (((records.shared listed').mp equal).trans owner)
      rw [changed]
      exact Function.update_of_ne different _ _

def administered : Service where
  serviceId := "service"
  operations := []
  identities := [("token",
    { principalId := "owner", clientClass := .agent, operations := [], budget := 0 })]
  authenticator := false
  adminToken := some "admin"

/-- A PATCH of the administrator. -/
def patchOf (body : Json) : LimitsRequest where
  path := "/admin/principals/owner/limits"
  method := "PATCH"
  authorization := [some "Bearer admin"]
  grant := none
  params := .ok body
  principalId := .ok "owner"

private theorem admin_patchOf (body : Json) :
    administered.authenticateAdmin (patchOf body).toHttpRequest = .ok () := by
  have token : (patchOf .null).toHttpRequest.bearerToken = some "admin" := by decide +kernel
  have bearer : (patchOf body).toHttpRequest.bearerToken = some "admin" := by
    simpa only [HttpRequest.bearerToken, patchOf] using token
  simp only [authenticateAdmin, bearer, administered, if_true]

theorem limit_updates_object :
    administered.Exact (Gateway.start (.arbitrary 5)) "owner"
      (.object [("max_outstanding", .unsigned 500)])
      (administered.patchLimits (Gateway.start (.arbitrary 5))
        (patchOf (.object [("max_outstanding", .unsigned 500)]))) :=
  (limit_updates administered _ _ "owner" _ (admin_patchOf _) rfl rfl).1.mpr fun array => by
    obtain ⟨⟨_, same, -⟩, -⟩ := array
    cases same

/-- An array of one ceiling changes the budget. -/
theorem limit_updates_array :
    ¬administered.Exact (Gateway.start (.arbitrary 5)) "owner" (.array [.unsigned 500])
      (administered.patchLimits (Gateway.start (.arbitrary 5))
        (patchOf (.array [.unsigned 500]))) := by
  intro exact
  obtain ⟨response, refused, -⟩ := exact.refuses <| by
    rintro ⟨_, _, object, -⟩
    cases object
  rw [patchLimits_accepted (admin_patchOf _) rfl rfl
    ⟨LimitsUpdate.deserialize_eq_ok.mpr (.inr rfl), by decide, by decide, rfl⟩] at refused
  cases refused

end Service

end AiProtocol
