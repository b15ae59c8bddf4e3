import AiProtocol.Library.Lockstep
import AiProtocol.Client.Policy

/-!
# Trackers of a policy

Two clients follow the policies of one gateway.  The gate of the Rust client keeps the owner, the
revision and the ceiling of the last policy it applied; the Python client keeps the last policy it
accepted, and reads them there.
-/

namespace AiProtocol

/-- What a client retains of the last policy. -/
structure Retained where
  /-- The owner, once known. -/
  principal : Option String
  /-- Revision of the last policy. -/
  revision : Int
  /-- Ceiling of the last policy. -/
  maximum : Int
  deriving DecidableEq

/-- A policy may follow what is retained. -/
def Retained.Precedes (before after : Retained) : Prop :=
  (before.principal = none ∨ before.principal = after.principal) ∧
    before.revision ≤ after.revision ∧
    (before.revision = after.revision → before.maximum = after.maximum)

/-! ## The Rust client -/

namespace Dispatcher

/-- What the gate retains. -/
def Gate.retained (gate : Gate) : Retained where
  principal := gate.principal
  revision := gate.revision
  maximum := gate.maximum

/-- The gate is fed a policy: the decision, what it retains, and the gate afterwards. -/
def Gate.feed (gate : Gate) (policy : Json) : (Option Bool × Retained) × Gate :=
  match Policy.ofJson policy with
  | none => ((some false, gate.retained), gate)
  | some decoded =>
      match gate.apply decoded with
      | .error _ => ((some false, gate.retained), gate)
      | .ok gate' => ((some true, gate'.retained), gate')

/-- The first check of `Gate::apply`. -/
def Policy.Supported (policy : Policy) : Prop :=
  policy.version = 3 ∧ policy.clientClass = "agent" ∧ policy.principalId ≠ "" ∧
    policy.limits.scope = "principal" ∧
    (1 ≤ policy.limits.maxOutstanding ∧ policy.limits.maxOutstanding ≤ 1000) ∧
    policy.policyRevision ≠ 0 ∧ (100 ≤ policy.refreshAfterMs ∧ policy.refreshAfterMs ≤ 60000)

/-- What a gate retains of a policy. -/
def Policy.retained (policy : Policy) : Retained where
  principal := some policy.principalId
  revision := policy.policyRevision
  maximum := policy.limits.maxOutstanding

private theorem Gate.precedes_iff (gate : Gate) (policy : Policy) :
    gate.retained.Precedes policy.retained ↔
      ¬(gate.principal.any (fun principal => principal ≠ policy.principalId) ∨
        policy.policyRevision < gate.revision ∨
        (policy.policyRevision = gate.revision ∧
          policy.limits.maxOutstanding ≠ gate.maximum)) := by
  obtain ⟨principal, revision, maximum⟩ := gate
  cases principal <;> simp [Retained.Precedes, Gate.retained, Policy.retained] <;> grind

theorem Gate.apply_cases (gate : Gate) (policy : Policy) :
    (policy.Supported ∧ gate.retained.Precedes policy.retained ∧
      ∃ gate', gate.apply policy = .ok gate' ∧ gate'.retained = policy.retained) ∨
    ¬(policy.Supported ∧ gate.retained.Precedes policy.retained) ∧
      ∃ error, gate.apply policy = .error error := by
  unfold Gate.apply
  split
  · rename_i unsupported
    refine .inr ⟨fun both => ?_, _, rfl⟩
    have supported := both.1
    unfold Policy.Supported at supported
    tauto
  · rename_i supported
    rw [Gate.precedes_iff]
    split
    · rename_i contradicts
      exact .inr ⟨fun both => both.2 contradicts, _, rfl⟩
    · rename_i follows
      refine .inl ⟨?_, follows, _, rfl, rfl⟩
      unfold Policy.Supported
      tauto

end Dispatcher

/-! ## The Python client -/

/-- What the last policy accepted says. -/
def Retained.ofPolicy (previous : Option Json) : Retained where
  principal := (previous.bind fun policy => policy.get "principal_id").bind Json.asStr
  revision := (previous.bind Json.revision).getD 0
  maximum := (previous.bind Json.ceiling).getD 0

/-- `AsyncClient.refresh` is given a policy: the decision, what it retains, and the policy it keeps.
Exceptions which are not a `ProtocolError` make no decision. -/
def feed (checkSchema : Json → Except PyError Unit) (frames : Nat) (previous : Option Json)
    (policy : Json) : (Option Bool × Retained) × Option Json :=
  match validatePolicy checkSchema frames policy previous with
  | .ok () => ((some true, .ofPolicy (some policy)), some policy)
  | .error (.protocol _) => ((some false, .ofPolicy previous), previous)
  | .error _ => ((none, .ofPolicy previous), previous)

/-! ## Documents -/

/-- An integer below `2 ^ 64`, which is read as unsigned unless it is negative. -/
def Json.Word (value : Json) (number : Int) : Prop :=
  value.asInt = some number ∧ value.asU64 = if 0 ≤ number then some number.toNat else none

/-- A policy for agents whose fields are well-formed. -/
structure AgentPolicy (operations : List Json) (serviceId : Option String) (policy : Json) : Prop
    where
  /-- The version is an integer. -/
  version : ∃ value number, policy.get "version" = some value ∧ value.Word number
  /-- The owner is a string. -/
  principal : ∃ text, policy.get "principal_id" = some (.string text)
  /-- The policy is for agents. -/
  clientClass : policy.get "client_class" = some (.string "agent")
  /-- The revision is an integer. -/
  revision : ∃ value number, policy.get "policy_revision" = some value ∧ value.Word number
  /-- The delay is an integer. -/
  delay : ∃ value number, policy.get "refresh_after_ms" = some value ∧ value.Word number
  /-- The count is an integer. -/
  outstanding : ∃ value number, policy.get "outstanding" = some value ∧ value.Word number
  /-- The limits have a scope, which is a string, and a ceiling, which is an integer. -/
  limits : ∃ limits scope value number, policy.get "limits" = some limits ∧
    limits.get "scope" = some (.string scope) ∧
      limits.get "max_outstanding" = some value ∧ value.Word number
  /-- The operations are fixed. -/
  operations : policy.get "operations" = some (.array operations)
  /-- The service is fixed. -/
  serviceId : policy.get "service_id" = serviceId.map .string

section Documents

variable {operations : List Json} {serviceId : Option String} {policy : Json}

theorem AgentPolicy.asObject (agent : AgentPolicy operations serviceId policy) :
    policy.asObject.isNone = false := by
  cases policy with
  | object members => rfl
  | _ => cases agent.clientClass

theorem Json.asInt_of_asU64 {value : Json} {number : Nat} (read : value.asU64 = some number) :
    value.asInt = some ↑number := by
  cases value with
  | unsigned value =>
      cases read
      rfl
  | _ => cases read

theorem retained_ofJson {decoded : Dispatcher.Policy}
    (read : Dispatcher.Policy.ofJson policy = some decoded) :
    decoded.retained = .ofPolicy (some policy) := by
  simp only [Dispatcher.Policy.ofJson, Dispatcher.Limits.ofJson, Option.bind_eq_bind,
    Option.bind_eq_some_iff, Option.pure_def, Option.some.injEq] at read
  obtain ⟨-, -, principal, ⟨owner, gotOwner, asOwner⟩, -, -, revision,
    ⟨value, gotRevision, asRevision⟩, -, -, -, -, -,
    ⟨limits, gotLimits, -, -, maximum, ⟨ceiling, gotCeiling, asCeiling⟩, rfl⟩, rfl⟩ := read
  simp [Dispatcher.Policy.retained, Retained.ofPolicy, Json.revision, Json.ceiling, gotOwner,
    asOwner, gotRevision, gotLimits, gotCeiling, Json.asInt_of_asU64 asRevision,
    Json.asInt_of_asU64 asCeiling]

/-- The Python client checks the fields the gate checks after decoding them. -/
theorem AgentPolicy.policyFields_iff (agent : AgentPolicy operations serviceId policy)
    (named : ∀ id, serviceId = some id → id ≠ "") :
    policyFields policy = true ↔
      ∃ decoded, Dispatcher.Policy.ofJson policy = some decoded ∧ decoded.Supported := by
  obtain ⟨version, v, gotVersion, versionInt, versionU64⟩ := agent.version
  obtain ⟨principal, gotPrincipal⟩ := agent.principal
  obtain ⟨revision, r, gotRevision, revisionInt, revisionU64⟩ := agent.revision
  obtain ⟨delay, d, gotDelay, delayInt, delayU64⟩ := agent.delay
  obtain ⟨outstanding, o, gotOutstanding, outstandingInt, outstandingU64⟩ := agent.outstanding
  obtain ⟨limits, scope, maximum, m, gotLimits, gotScope, gotMaximum, maximumInt, maximumU64⟩ :=
    agent.limits
  have service : (policy.get "service_id").all Json.nonempty = true := by
    rw [agent.serviceId]
    cases serviceId with
    | none => rfl
    | some id => simpa [Json.nonempty, Json.asStr] using named id rfl
  have fields : policyFields policy = true ↔ v = 3 ∧ principal ≠ "" ∧ scope = "principal" ∧
      (1 ≤ m ∧ m ≤ 1000) ∧ 1 ≤ r ∧ (100 ≤ d ∧ d ≤ 60000) ∧ 0 ≤ o := by
    simp [policyFields, gotVersion, versionInt, gotPrincipal, gotRevision, revisionInt, gotDelay,
      delayInt, gotOutstanding, outstandingInt, gotLimits, gotScope, gotMaximum, maximumInt,
      service, agent.clientClass, agent.operations, Json.asStr, Json.nonempty, Json.asArray,
      Json.within, Json.atLeast, and_assoc]
  rw [fields]
  simp only [Dispatcher.Policy.ofJson, Dispatcher.Limits.ofJson, gotVersion, versionU64,
    gotPrincipal, gotRevision, revisionU64, gotDelay, delayU64, gotOutstanding, outstandingU64,
    gotLimits, gotScope, gotMaximum, maximumU64, agent.clientClass, Json.asStr,
    Option.bind_eq_bind, Option.bind_some, Option.bind_eq_some_iff, Option.filter_eq_some_iff,
    Option.pure_def, Option.some.injEq, Option.ite_none_right_eq_some, decide_eq_true_eq]
  constructor
  · rintro ⟨rfl, principalNamed, scopeKnown, maximumWithin, revisionPositive, delayWithin, counted⟩
    refine ⟨_, ⟨_, ⟨⟨by decide, rfl⟩, by decide⟩, _, ⟨by omega, rfl⟩, _, ⟨by omega, rfl⟩, _,
      ⟨counted, rfl⟩, _, ⟨_, ⟨by omega, rfl⟩, rfl⟩, rfl⟩, ?_⟩
    exact ⟨rfl, rfl, principalNamed, scopeKnown, by dsimp only; omega, by dsimp only; omega,
      by dsimp only; omega⟩
  · rintro ⟨_, ⟨_, ⟨⟨_, rfl⟩, _⟩, _, ⟨_, rfl⟩, _, ⟨_, rfl⟩, _, ⟨counted, rfl⟩, _,
      ⟨_, ⟨_, rfl⟩, rfl⟩, rfl⟩, known, -, principalNamed, scopeKnown, maximumWithin,
      revisionPositive, delayWithin⟩
    dsimp only at known maximumWithin revisionPositive delayWithin
    exact ⟨by omega, principalNamed, scopeKnown, by omega, by omega, by omega, counted⟩

theorem AgentPolicy.continues_iff {previous : Json}
    (agent : AgentPolicy operations serviceId policy)
    (earlier : AgentPolicy operations serviceId previous) :
    continues policy previous = true ↔
      (Retained.ofPolicy (some previous)).Precedes (.ofPolicy (some policy)) := by
  obtain ⟨principal, gotPrincipal⟩ := agent.principal
  obtain ⟨revision, r, gotRevision, revisionInt, -⟩ := agent.revision
  obtain ⟨limits, -, maximum, m, gotLimits, -, gotMaximum, maximumInt, -⟩ := agent.limits
  obtain ⟨principal', gotPrincipal'⟩ := earlier.principal
  obtain ⟨revision', r', gotRevision', revisionInt', -⟩ := earlier.revision
  obtain ⟨limits', -, maximum', m', gotLimits', -, gotMaximum', maximumInt', -⟩ := earlier.limits
  have service : (policy.get "service_id").bind Json.asStr =
      (previous.get "service_id").bind Json.asStr := by
    rw [agent.serviceId, earlier.serviceId]
  simp [continues, Retained.Precedes, Retained.ofPolicy, Json.revision, Json.ceiling,
    gotPrincipal, gotRevision, revisionInt, gotLimits, gotMaximum, maximumInt, gotPrincipal',
    gotRevision', revisionInt', gotLimits', gotMaximum', maximumInt', service, agent.clientClass,
    earlier.clientClass, Json.asStr]
  grind

private theorem Retained.first_precedes {decoded : Dispatcher.Policy}
    (supported : decoded.Supported) :
    (Retained.ofPolicy none).Precedes decoded.retained := by
  obtain ⟨-, -, -, -, -, positive, -⟩ := supported
  simp only [Retained.Precedes, Retained.ofPolicy, Dispatcher.Policy.retained, Option.bind_none,
    Option.getD_none, true_or, true_and]
  omega

end Documents

/-! ## Stacks -/

private theorem checkReferences_of_nested {frames levels : Nat} {value : Json}
    (checked : checkReferences frames value = .ok ()) (nested : value.nested levels = true) :
    checkReferences levels value = .ok () := by
  induction levels generalizing frames value with
  | zero => simp [Json.nested] at nested
  | succ levels induction =>
      obtain ⟨frames, rfl⟩ : ∃ rest, frames = rest + 1 := by
        cases frames with
        | zero => cases value <;> cases checked
        | succ frames => exact ⟨frames, rfl⟩
      cases value with
      | object members =>
          simp only [Json.nested, List.all_eq_true] at nested
          rw [checkReferences, each_eq_ok] at checked ⊢
          intro member listed
          have inner := checked member listed
          split at inner
          · cases inner
          · rename_i allowed
            rw [if_neg allowed]
            exact induction inner (nested member listed)
      | array items =>
          simp only [Json.nested, List.all_eq_true] at nested
          rw [checkReferences, each_eq_ok] at checked ⊢
          exact fun item listed => induction (checked item listed) (nested item listed)
      | _ => rfl

/-- Every value is nested in finitely many levels. -/
theorem Json.exists_nested (value : Json) : value.nested (sizeOf value) = true := by
  suffices within : ∀ levels, sizeOf value ≤ levels → value.nested levels = true from
    within _ le_rfl
  intro levels small
  induction levels generalizing value with
  | zero => cases value <;> simp at small
  | succ levels induction =>
      cases value with
      | object members =>
          rw [Json.nested, List.all_eq_true]
          intro member listed
          apply induction
          have smaller := List.sizeOf_lt_of_mem listed
          obtain ⟨key, item⟩ := member
          simp only [Prod.mk.sizeOf_spec, Json.object.sizeOf_spec] at smaller small
          dsimp only
          omega
      | array items =>
          rw [Json.nested, List.all_eq_true]
          intro item listed
          apply induction
          have smaller := List.sizeOf_lt_of_mem listed
          simp only [Json.array.sizeOf_spec] at small
          omega
      | _ => rfl

section Feeding

variable {checkSchema : Json → Except PyError Unit} {operations : List Json}
  {serviceId : Option String}

private theorem validateOperation_of_nested {frames levels : Nat} {operation : Json}
    (valid : validateOperation checkSchema frames operation = .ok ())
    (nested : operation.nested levels = true) :
    validateOperation checkSchema levels operation = .ok () := by
  obtain ⟨rest, schema, rfl, found, checked, again⟩ := exists_schema_of_accepted valid
  cases levels with
  | zero => simp [Json.nested] at nested
  | succ levels =>
      rw [again]
      exact checkReferences_of_nested checked (Json.nested_get nested found)

private theorem validateOperations_of_nested {frames levels : Nat} {names : List (Option String)}
    (valid : validateOperations checkSchema frames names operations = .ok ())
    (nested : ∀ operation ∈ operations, operation.nested levels = true) :
    validateOperations checkSchema levels names operations = .ok () := by
  induction operations generalizing names with
  | nil => rfl
  | cons operation rest induction =>
      simp only [validateOperations] at valid ⊢
      split at valid
      · split at valid <;> cases valid
      · rename_i first
        rw [validateOperation_of_nested first (nested operation List.mem_cons_self)]
        split at valid
        · cases valid
        · rename_i fresh
          dsimp only
          rw [if_neg fresh]
          exact induction valid fun other member => nested other (List.mem_cons_of_mem _ member)

/-- The decision of `validate_policy`, given stack enough. -/
theorem validatePolicy_cases {frames : Nat} {policy : Json} {previous : Option Json}
    (valid : validateOperations checkSchema frames [] operations = .ok ())
    (shallow : policy.nested (frames / 2) = true)
    (agent : AgentPolicy operations serviceId policy)
    (earlier : ∀ known, previous = some known → AgentPolicy operations serviceId known) :
    (policyFields policy = true ∧ (∀ known, previous = some known →
        (Retained.ofPolicy (some known)).Precedes (.ofPolicy (some policy))) ∧
      validatePolicy checkSchema (frames + 1) policy previous = .ok ()) ∨
    ¬(policyFields policy = true ∧ ∀ known, previous = some known →
        (Retained.ofPolicy (some known)).Precedes (.ofPolicy (some policy))) ∧
      ∃ message, validatePolicy checkSchema (frames + 1) policy previous =
        .error (.protocol message) := by
  have read : ((policy.get "operations").bind Json.asArray).getD [] = operations := by
    rw [agent.operations]
    rfl
  simp only [validatePolicy, agent.asObject, Bool.false_eq_true, ↓reduceIte, read, valid,
    deepcopy_eq, shallow]
  by_cases fields : policyFields policy = true
  · cases previous with
    | none => exact .inl ⟨fields, by simp, by simp [fields]⟩
    | some known =>
        by_cases follows : continues policy known = true
        · refine .inl ⟨fields, ?_, by simp [fields, follows]⟩
          rintro _ ⟨⟩
          exact (agent.continues_iff (earlier known rfl)).mp follows
        · refine .inr ⟨fun both => follows ?_, _, by simp [fields, follows]; rfl⟩
          exact (agent.continues_iff (earlier known rfl)).mpr (both.2 known rfl)
  · exact .inr ⟨fun both => fields both.1, _, by simp [fields]; rfl⟩

end Feeding

/-! ## Agreement -/

/-- The gate and the Python client know the same last policy. -/
def Tracking (operations : List Json) (serviceId : Option String) (gate : Dispatcher.Gate)
    (previous : Option Json) : Prop :=
  gate.retained = .ofPolicy previous ∧
    ∀ known, previous = some known → AgentPolicy operations serviceId known

private theorem tracking_feed {checkSchema : Json → Except PyError Unit} {operations : List Json}
    {serviceId : Option String} (named : ∀ id, serviceId = some id → id ≠ "") {frames : Nat}
    (valid : validateOperations checkSchema frames [] operations = .ok ()) {policy : Json}
    (shallow : policy.nested (frames / 2) = true)
    (agent : AgentPolicy operations serviceId policy) {gate : Dispatcher.Gate}
    {previous : Option Json} (tracking : Tracking operations serviceId gate previous) :
    (gate.feed policy).1 = (feed checkSchema (frames + 1) previous policy).1 ∧
      Tracking operations serviceId (gate.feed policy).2
        (feed checkSchema (frames + 1) previous policy).2 := by
  obtain ⟨same, earlier⟩ := tracking
  have precedes : policyFields policy = true →
      ((∀ known, previous = some known →
          (Retained.ofPolicy (some known)).Precedes (.ofPolicy (some policy))) ↔
        gate.retained.Precedes (.ofPolicy (some policy))) := by
    intro fields
    obtain ⟨decoded, read, supported⟩ := (agent.policyFields_iff named).mp fields
    rw [same]
    cases previous with
    | none =>
        rw [← retained_ofJson read]
        simp [Retained.first_precedes supported]
    | some known => simp
  have kept : Tracking operations serviceId gate previous := ⟨same, earlier⟩
  rcases validatePolicy_cases valid shallow agent earlier with
    ⟨fields, follows, accepted⟩ | ⟨refused, message, rejected⟩
  · obtain ⟨decoded, read, supported⟩ := (agent.policyFields_iff named).mp fields
    have retained := retained_ofJson read
    rcases gate.apply_cases decoded with ⟨-, -, gate', applied, now⟩ | ⟨refused, -⟩
    · simp only [Dispatcher.Gate.feed, read, applied, feed, accepted, now, retained, true_and]
      exact ⟨now.trans retained, by rintro _ ⟨⟩; exact agent⟩
    · refine absurd ⟨supported, ?_⟩ refused
      rw [retained]
      exact (precedes fields).mp follows
  · have fed : gate.feed policy = ((some false, gate.retained), gate) := by
      cases read : Dispatcher.Policy.ofJson policy with
      | none => simp only [Dispatcher.Gate.feed, read]
      | some decoded =>
          rcases gate.apply_cases decoded with ⟨supported, after, -⟩ | ⟨-, error, failed⟩
          · have fields := (agent.policyFields_iff named).mpr ⟨decoded, read, supported⟩
            rw [retained_ofJson read] at after
            exact absurd ⟨fields, (precedes fields).mpr after⟩ refused
          · simp only [Dispatcher.Gate.feed, read, failed]
    simp only [fed, feed, rejected, same, true_and]
    exact kept

/-- Policy trackers agree.  On every sequence of policies for agents of one service the gate of the
Rust client and the Python client, on a stack of two frames for every level of nesting and one more,
decide alike and retain the same owner, revision and ceiling after every step. -/
theorem trackers_agree (checkSchema : Json → Except PyError Unit) {operations : List Json}
    {serviceId : Option String} (named : ∀ id, serviceId = some id → id ≠ "")
    (valid : ∃ frames, validateOperations checkSchema frames [] operations = .ok ())
    {policies : List Json}
    (agents : ∀ policy ∈ policies, AgentPolicy operations serviceId policy) :
    (∃ levels, ∀ policy ∈ policies, policy.nested levels = true) ∧
      ∀ levels, (∀ policy ∈ policies, policy.nested levels = true) → ∀ frames > 2 * levels,
        Machine.answers Dispatcher.Gate.feed .default policies =
          Machine.answers (feed checkSchema frames) none policies := by
  obtain ⟨stack, valid⟩ := valid
  refine ⟨⟨sizeOf policies, fun policy member => ?_⟩, fun levels nested frames room => ?_⟩
  · exact Json.nested_mono policy.exists_nested (List.sizeOf_lt_of_mem member).le
  obtain ⟨frames, rfl⟩ : ∃ rest, frames = rest + 1 := ⟨frames - 1, by omega⟩
  apply Machine.answers_lockstep (Tracking operations serviceId)
  · intro policy member gate previous tracking
    have agent := agents policy member
    have listed : (Json.array operations).nested (levels - 1) = true :=
      Json.nested_get (nested policy member) agent.operations
    have each : ∀ operation ∈ operations, operation.nested frames = true := by
      intro operation among
      refine Json.nested_mono (Json.nested_item listed among) ?_
      omega
    exact tracking_feed named (validateOperations_of_nested valid each)
      (Json.nested_mono (nested policy member) (by omega)) agent tracking
  · exact ⟨rfl, by simp⟩

/-- A policy of the owner of a library. -/
def libraryPolicy (revision maximum : Nat) : Json :=
  .object [("version", .unsigned 3), ("service_id", .string "library"),
    ("principal_id", .string "owner"), ("client_class", .string "agent"),
    ("policy_revision", .unsigned revision), ("refresh_after_ms", .unsigned 1000),
    ("outstanding", .unsigned 0),
    ("limits", .object [("scope", .string "principal"), ("max_outstanding", .unsigned maximum)]),
    ("operations", .array [])]

private theorem agentPolicy_libraryPolicy (revision maximum : Nat) :
    AgentPolicy [] (some "library") (libraryPolicy revision maximum) := by
  have word (number : Nat) : (Json.unsigned number).Word number := ⟨rfl, by simp [Json.asU64]⟩
  exact ⟨⟨_, _, rfl, word 3⟩, ⟨_, rfl⟩, rfl, ⟨_, _, rfl, word revision⟩, ⟨_, _, rfl, word 1000⟩,
    ⟨_, _, rfl, word 0⟩, ⟨_, _, _, _, rfl, rfl, rfl, word maximum⟩, rfl, rfl⟩

theorem trackers_agree_sample :
    Machine.answers (feed (fun _ => .ok ()) 7) none
        [libraryPolicy 2 4, libraryPolicy 1 4, libraryPolicy 2 5, libraryPolicy 3 5] =
      [(some true, ⟨some "owner", 2, 4⟩), (some false, ⟨some "owner", 2, 4⟩),
        (some false, ⟨some "owner", 2, 4⟩), (some true, ⟨some "owner", 3, 5⟩)] := by
  have agents : ∀ policy ∈ [libraryPolicy 2 4, libraryPolicy 1 4, libraryPolicy 2 5,
      libraryPolicy 3 5], AgentPolicy [] (some "library") policy := by
    simp [agentPolicy_libraryPolicy]
  have agree := (trackers_agree (fun _ => .ok ()) (by simp) ⟨0, rfl⟩ agents).2 3
    (by simp [libraryPolicy, Json.nested]) 7 (by decide)
  refine agree.symm.trans ?_
  decide

end AiProtocol
