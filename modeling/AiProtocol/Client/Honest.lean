import AiProtocol.Client.Schema
import AiProtocol.Gateway.Admission
import AiProtocol.Gateway.Agreement

/-!
# Honest policies

What a gateway serves to one identity is accepted by the schemas and by both clients, policy after
policy: the grammars of names and paths agree, generated schemas are plain, and the revisions of a
budget never contradict each other.
-/

namespace AiProtocol

/-! ## Generated schemas -/

mutual

/-- Schemas of a few keywords of the dialect. -/
inductive PlainSchema : Json → Prop
  | bool (value : Bool) : PlainSchema (.bool value)
  | object (members : List (String × Json))
      (keywords : ∀ member ∈ members, PlainKeyword member.1 member.2) :
      PlainSchema (.object members)

/-- These keywords with the values the dialect demands. -/
inductive PlainKeyword : String → Json → Prop
  | dialect : PlainKeyword "$schema" (.string "https://json-schema.org/draft/2020-12/schema")
  | type (name : String) (known : name ∈ ["object", "string", "integer"]) :
      PlainKeyword "type" (.string name)
  | properties (members : List (String × Json))
      (schemas : ∀ member ∈ members, PlainSchema member.2) :
      PlainKeyword "properties" (.object members)
  | required (names : List String) (distinct : names.Nodup) :
      PlainKeyword "required" (.array (names.map Json.string))
  | additionalProperties (schema : Json) (plain : PlainSchema schema) :
      PlainKeyword "additionalProperties" schema
  | minimum (value : Nat) : PlainKeyword "minimum" (.unsigned value)

end

private theorem plain_parameter (parameter : Parameter) : PlainSchema parameter.schema := by
  unfold Parameter.schema
  cases parameter.kind with
  | string =>
      apply PlainSchema.object
      simp only [List.mem_singleton, forall_eq]
      exact .type _ (by simp)
  | integer =>
      apply PlainSchema.object
      simp only [List.mem_cons, List.not_mem_nil, or_false, forall_eq_or_imp, forall_eq]
      exact ⟨.type _ (by simp), .minimum 0⟩

private theorem plain_mappedSchema {parameters : List (String × Parameter)}
    (distinct : (parameters.map Prod.fst).Nodup) :
    PlainSchema (Operation.mappedSchema parameters) := by
  apply PlainSchema.object
  simp only [List.mem_cons, List.not_mem_nil, or_false, forall_eq_or_imp, forall_eq]
  refine ⟨.dialect, .type _ (by simp), ?_, ?_, .additionalProperties _ (.bool _)⟩
  · apply PlainKeyword.properties
    intro member listed
    obtain ⟨parameter, -, rfl⟩ := List.mem_map.mp listed
    exact plain_parameter parameter.2
  · have names : (parameters.map fun parameter => Json.string parameter.1) =
        (parameters.map Prod.fst).map Json.string := by simp
    rw [names]
    exact .required _ distinct

private theorem externalReference_of_identifier {name : String}
    (valid : identifier name.toList = true)
    (item : Json) : externalReference name item = false := by
  have plain : name ≠ "$ref" ∧ name ≠ "$dynamicRef" := by
    constructor
    · rintro rfl
      exact absurd valid (by decide)
    · rintro rfl
      exact absurd valid (by decide)
  simp [externalReference, plain]

private theorem checkReferences_parameter (frames : Nat) (parameter : Parameter) :
    checkReferences (frames + 2) parameter.schema = .ok () := by
  unfold Parameter.schema
  cases parameter.kind <;> simp [checkReferences, each, externalReference]

private theorem checkReferences_mappedSchema {parameters : List (String × Parameter)}
    (named : ∀ parameter ∈ parameters, identifier parameter.1.toList = true) (frames : Nat) :
    checkReferences (frames + 4) (Operation.mappedSchema parameters) = .ok () := by
  have properties : checkReferences (frames + 3) (.object (parameters.map fun parameter =>
      (parameter.1, parameter.2.schema))) = .ok () := by
    rw [checkReferences, each_eq_ok]
    intro member listed
    obtain ⟨parameter, known, rfl⟩ := List.mem_map.mp listed
    simp [externalReference_of_identifier (named parameter known),
      checkReferences_parameter frames parameter.2]
  have required : checkReferences (frames + 3) (.array (parameters.map fun parameter =>
      .string parameter.1)) = .ok () := by
    rw [checkReferences, each_eq_ok]
    intro item listed
    obtain ⟨parameter, -, rfl⟩ := List.mem_map.mp listed
    rfl
  rw [Operation.mappedSchema, checkReferences, each_eq_ok]
  simp only [List.mem_cons, List.not_mem_nil, or_false, forall_eq_or_imp, forall_eq]
  simp only [externalReference, String.reduceEq, decide_false, Bool.or_self, Bool.false_and,
    Bool.false_eq_true, ↓reduceIte, properties, required, true_and]
  exact ⟨rfl, rfl, rfl⟩

private theorem nested_mappedSchema (parameters : List (String × Parameter)) :
    (Operation.mappedSchema parameters).nested 4 = true := by
  have parameter : ∀ parameter : Parameter, parameter.schema.nested 2 = true := by
    intro parameter
    unfold Parameter.schema
    cases parameter.kind <;> rfl
  simp [Operation.mappedSchema, Json.nested, parameter]

/-! ## Descriptors -/

section Descriptors

variable {checkSchema : Json → Except PyError Unit}
  (documented : ∀ schema, PlainSchema schema → checkSchema schema = .ok ())
  {operations : List Operation} (sound : OperationsSound operations)
  (mapped : ∀ operation ∈ operations, operation.native = none)

include documented sound mapped

private theorem validateOperation_descriptor {operation : Operation}
    (member : operation ∈ operations)
    (frames : Nat) : validateOperation checkSchema (frames + 5) operation.descriptor = .ok () := by
  have named : operation.name ≠ "" := by
    intro empty
    have valid := sound.named operation member
    rw [empty] at valid
    exact absurd valid (by decide)
  have routed : pathMatches operation.path = true :=
    pathMatches_of_route (route_of_operationPath (sound.routed operation member))
  obtain ⟨identifiers, distinct⟩ := sound.mapped operation member
  have schema : operation.inputSchema = Operation.mappedSchema operation.parameters := by
    rw [Operation.inputSchema, mapped operation member]
  have object : (Operation.mappedSchema operation.parameters).asObject.isSome = true := rfl
  have references := checkReferences_mappedSchema identifiers frames
  have checked := documented _ (plain_mappedSchema distinct)
  simp [validateOperation, Operation.descriptor, Json.asObject, Json.asStr, Json.nonempty,
    List.lookup_cons, named, routed, schema, Option.filter] at object references checked ⊢
  simp [object, references, checked]

private theorem validateOperations_descriptors {selected : List Operation}
    (members : ∀ operation ∈ selected, operation ∈ operations)
    (distinct : (selected.map Operation.name).Nodup) {names : List (Option String)}
    (fresh : ∀ operation ∈ selected, some operation.name ∉ names) (frames : Nat) :
    validateOperations checkSchema (frames + 5) names (selected.map Operation.descriptor) =
      .ok () := by
  induction selected generalizing names with
  | nil => rfl
  | cons operation rest induction =>
      rw [List.map_cons, List.nodup_cons] at distinct
      have name : (operation.descriptor.get "name").bind Json.asStr = some operation.name := by
        simp [Operation.descriptor, Json.asStr]
      have unused : some operation.name ∉ names := fresh operation List.mem_cons_self
      rw [List.map_cons, validateOperations, validateOperation_descriptor documented sound mapped
        (members operation List.mem_cons_self)]
      simp only [name, List.contains_eq_mem, unused, decide_false, Bool.false_eq_true, ↓reduceIte]
      apply induction
      · exact fun other member => members other (List.mem_cons_of_mem _ member)
      · exact distinct.2
      · intro other member
        rw [List.mem_cons, not_or]
        refine ⟨?_, fresh other (List.mem_cons_of_mem _ member)⟩
        intro same
        exact distinct.1 (Option.some.inj same ▸ List.mem_map_of_mem member)

omit documented in
private theorem operationSchema_descriptor {operation : Operation}
    (member : operation ∈ operations) :
    operationSchema operation.descriptor = true := by
  obtain ⟨nonempty, words⟩ := identifier_iff.mp (sound.named operation member)
  have routed : pathMatches operation.path = true :=
    pathMatches_of_route (route_of_operationPath (sound.routed operation member))
  have object : operation.inputSchema.asObject.isSome = true := by
    rw [Operation.inputSchema, mapped operation member]
    rfl
  simp [operationSchema, required, optional, Operation.descriptor, Json.asObject, Json.asStr,
    List.lookup_cons, nonempty, routed] at words object ⊢
  exact ⟨words, object⟩

omit documented sound in
private theorem nested_descriptor {operation : Operation} (member : operation ∈ operations) :
    operation.descriptor.nested 5 = true := by
  have schema : operation.inputSchema = Operation.mappedSchema operation.parameters := by
    rw [Operation.inputSchema, mapped operation member]
  simp [Operation.descriptor, Json.nested, schema, nested_mappedSchema]

end Descriptors

/-! ## Policies -/

/-- What a policy tells about its budget. -/
structure Told (budget : Snapshot) : Prop where
  /-- The ceiling was checked. -/
  ceiling : 1 ≤ budget.maximum ∧ budget.maximum ≤ 1000
  /-- Revisions start at one. -/
  revision : 1 ≤ budget.revision

private theorem ClientClass.text_documented (clientClass : ClientClass) :
    clientClass.text = "agent" ∨ clientClass.text = "interactive" := by
  cases clientClass
  · exact .inl rfl
  · exact .inr rfl

theorem Deployment.WellFormed.milliseconds {deployment : Deployment}
    (known : deployment.WellFormed) (clientClass : ClientClass) :
    1 ≤ deployment.queueSettings.forClass clientClass / millisecond ∧
      deployment.queueSettings.forClass clientClass / millisecond ≤ 3600000 := by
  have wait := known.waits clientClass
  unfold millisecond at wait ⊢
  omega

/-- Served policies are documented ones. -/
theorem policySchema_agentPolicy {deployment : Deployment} (known : deployment.WellFormed)
    (mapped : ∀ operation ∈ deployment.service.operations, operation.native = none)
    {entry : String × ClientIdentity} (member : entry ∈ deployment.service.identities)
    {budgets : Budgets} (told : Told (budgets entry.2.budget)) :
    policySchema (deployment.service.agentPolicy deployment.queueSettings budgets entry.2) =
      true := by
  obtain ⟨nonempty, words⟩ := identifier_iff.mp known.service_named
  have principal := known.named entry member
  have text := entry.2.clientClass.text_documented
  have milliseconds := known.milliseconds entry.2.clientClass
  have descriptors : ∀ operation ∈ deployment.service.listed entry.2,
      operationSchema operation.descriptor = true := fun operation listed =>
    operationSchema_descriptor known.operations mapped (List.mem_of_mem_filter listed)
  have bounds := told.ceiling
  have first := told.revision
  unfold Service.agentPolicy
  generalize deployment.queueSettings.forClass entry.2.clientClass / millisecond = wait
    at milliseconds ⊢
  simp [policySchema, required, optional, Json.asObject, Json.asStr, Json.asInt, Json.asArray,
    Json.nonempty, Json.within, Json.atLeast, List.lookup_cons, principal, text, nonempty]
  exact ⟨⟨⟨⟨words, by omega⟩, by omega⟩, by omega⟩, descriptors⟩

private theorem policyFields_agentPolicy {service : Service} {identity : ClientIdentity}
    {budgets : Budgets} (queueSettings : QueueSettings) (told : Told (budgets identity.budget))
    (owner : identity.principalId ≠ "") (id : service.serviceId ≠ "") :
    policyFields (service.agentPolicy queueSettings budgets identity) = true := by
  have text := identity.clientClass.text_documented
  have bounds := told.ceiling
  have first := told.revision
  simp [policyFields, Service.agentPolicy, Json.asStr, Json.asInt, Json.asArray, Json.nonempty,
    Json.within, Json.atLeast, List.lookup_cons, owner, id, text]
  omega

private theorem nested_agentPolicy {service : Service}
    (mapped : ∀ operation ∈ service.operations, operation.native = none)
    (queueSettings : QueueSettings) (budgets : Budgets) (identity : ClientIdentity) :
    (service.agentPolicy queueSettings budgets identity).nested 7 = true := by
  have descriptors : ∀ operation ∈ service.listed identity, operation.descriptor.nested 5 = true :=
    fun operation listed => nested_descriptor mapped (List.mem_of_mem_filter listed)
  simpa [Service.agentPolicy, Json.nested] using descriptors

/-- A later policy continues an earlier one of the same identity. -/
theorem continues_agentPolicy {service : Service} {identity : ClientIdentity}
    {earlier later : Budgets} (queueSettings : QueueSettings)
    (ordered : (earlier identity.budget).revision ≤ (later identity.budget).revision)
    (coherent : (earlier identity.budget).revision = (later identity.budget).revision →
      (earlier identity.budget).maximum = (later identity.budget).maximum) :
    continues (service.agentPolicy queueSettings later identity)
      (service.agentPolicy queueSettings earlier identity) = true := by
  have revision : ∀ budgets : Budgets,
      (service.agentPolicy queueSettings budgets identity).revision =
        some ((budgets identity.budget).revision : Int) := fun _ => rfl
  have ceiling : ∀ budgets : Budgets,
      (service.agentPolicy queueSettings budgets identity).ceiling =
        some ((budgets identity.budget).maximum : Int) := fun _ => rfl
  rw [continues, revision, revision, ceiling, ceiling, Bool.and_eq_true, Bool.and_eq_true]
  refine ⟨⟨?_, ?_⟩, ?_⟩
  · rw [List.all_eq_true]
    intro key member
    simp only [List.mem_cons, List.not_mem_nil, or_false] at member
    rcases member with rfl | rfl | rfl <;> exact decide_eq_true rfl
  · exact decide_eq_true (Int.ofNat_le.mpr ordered)
  · rw [Bool.or_eq_true]
    by_cases same : (earlier identity.budget).revision = (later identity.budget).revision
    · exact .inr (decide_eq_true (by rw [coherent same]))
    · refine .inl (decide_eq_true fun equal => same ?_)
      exact (Int.ofNat_inj.mp (Option.some.inj equal)).symm

/-- The Python client accepts a served policy after an earlier one of the same identity. -/
theorem validatePolicy_agentPolicy {checkSchema : Json → Except PyError Unit}
    (documented : ∀ schema, PlainSchema schema → checkSchema schema = .ok ())
    {deployment : Deployment} (known : deployment.WellFormed)
    (mapped : ∀ operation ∈ deployment.service.operations, operation.native = none)
    {entry : String × ClientIdentity} (member : entry ∈ deployment.service.identities)
    {budgets : Budgets} (told : Told (budgets entry.2.budget)) {previous : Option Json}
    (continued : ∀ earlier, previous = some earlier → continues
      (deployment.service.agentPolicy deployment.queueSettings budgets entry.2) earlier = true)
    {frames : Nat} (room : 15 ≤ frames) :
    validatePolicy checkSchema frames
      (deployment.service.agentPolicy deployment.queueSettings budgets entry.2) previous =
        .ok () := by
  obtain ⟨frames, rfl⟩ : ∃ rest, frames = rest + 14 + 1 := ⟨frames - 15, by omega⟩
  have service : deployment.service.serviceId ≠ "" := by
    intro empty
    have valid := known.service_named
    rw [empty] at valid
    exact absurd valid (by decide)
  have fields := policyFields_agentPolicy deployment.queueSettings told
    (known.named entry member) service
  have object : (deployment.service.agentPolicy deployment.queueSettings budgets
      entry.2).asObject.isNone = false := rfl
  have listed : (((deployment.service.agentPolicy deployment.queueSettings budgets entry.2).get
      "operations").bind Json.asArray).getD [] =
        (deployment.service.listed entry.2).map Operation.descriptor := by
    rw [Service.agentPolicy_operations]
    rfl
  have distinct : ((deployment.service.listed entry.2).map Operation.name).Nodup :=
    known.operations.names.sublist (List.filter_sublist.map _)
  have operations : validateOperations checkSchema (frames + 14) []
      ((deployment.service.listed entry.2).map Operation.descriptor) = .ok () :=
    validateOperations_descriptors documented known.operations mapped
      (fun operation listed => List.mem_of_mem_filter listed) distinct
      (fun _ _ => List.not_mem_nil) (frames + 9)
  have follows : (previous.any fun earlier => !continues
      (deployment.service.agentPolicy deployment.queueSettings budgets entry.2) earlier) =
        false := by
    cases previous with
    | none => rfl
    | some earlier => simp [continued earlier rfl]
  have copied : deepcopy (frames + 14) (deployment.service.agentPolicy
      deployment.queueSettings budgets entry.2) = .ok () := by
    rw [deepcopy_eq, if_pos]
    exact Json.nested_mono (nested_agentPolicy mapped _ _ _) (by omega)
  rw [validatePolicy]
  simp only [object, fields, listed, operations, follows, Bool.false_eq_true, Bool.not_true,
    ↓reduceIte]
  exact copied

/-! ## Runs -/

/-- Ceilings change through the host and the administrator alone. -/
def Deployment.Managed (deployment : Deployment) (trace : List (Event TaskAction)) : Prop :=
  ∀ budget previous maximum, .resize budget previous maximum ∈ trace →
    deployment.service.Resizes budget maximum

/-- The policies a token reads one after another while a gateway runs. -/
inductive Readings (deployment : Deployment) (token : String) :
    Gateway TaskAction → List Json → Prop
  | start : Readings deployment token (.start deployment.config) []
  | run {gateway later : Gateway TaskAction} {policies : List Json}
      {trace : List (Event TaskAction)} (readings : Readings deployment token gateway policies)
      (run : Run deployment.config gateway trace later) (managed : deployment.Managed trace) :
      Readings deployment token later policies
  | read {gateway : Gateway TaskAction} {policies : List Json} {request : HttpRequest}
      {policy : Json} (readings : Readings deployment token gateway policies)
      (bearer : request.bearerToken = some token)
      (answered : deployment.service.discover deployment.queueSettings gateway.budgets request =
        .ok policy) :
      Readings deployment token gateway (policies ++ [policy])

theorem Readings.resize {deployment : Deployment} {token : String} {gateway : Gateway TaskAction}
    {policies : List Json} (readings : Readings deployment token gateway policies)
    {budget : BudgetRef} {maximum : Nat} (resizes : deployment.service.Resizes budget maximum) :
    Readings deployment token
      { gateway with budgets := gateway.budgets.resize budget maximum } policies := by
  refine readings.run (.single (.resize gateway budget maximum)) fun _ _ _ member => ?_
  obtain ⟨rfl, -, rfl⟩ := Event.resize.inj (List.mem_singleton.mp member)
  exact resizes

theorem Readings.setAgentLimit {deployment : Deployment} {token : String}
    {gateway : Gateway TaskAction} {policies : List Json}
    (readings : Readings deployment token gateway policies) {principalId : String}
    {maximum : Nat} {observed : Snapshot} {after : Budgets}
    (set : deployment.service.setAgentLimit gateway.budgets principalId maximum =
      .ok (observed, after)) :
    Readings deployment token { gateway with budgets := after } policies := by
  obtain ⟨budget, resizes, rfl, -⟩ := Service.resizes_setAgentLimit set
  exact readings.resize resizes

theorem Readings.updateLimits {deployment : Deployment} {token : String}
    {gateway : Gateway TaskAction} {policies : List Json}
    (readings : Readings deployment token gateway policies) {principalId : String}
    {update : Except JsonRejection Nat} {answer : Json} {after : Budgets}
    (set : deployment.service.updateLimits gateway.budgets principalId update =
      .ok (answer, after)) :
    Readings deployment token { gateway with budgets := after } policies := by
  obtain ⟨budget, maximum, resizes, rfl⟩ := Service.resizes_updateLimits set
  exact readings.resize resizes

/-- A later snapshot of a budget does not contradict an earlier one. -/
def Snapshot.Precedes (earlier later : Snapshot) : Prop :=
  earlier.revision ≤ later.revision ∧
    (earlier.revision = later.revision → earlier.maximum = later.maximum)

theorem Snapshot.Precedes.trans {first second third : Snapshot} (left : first.Precedes second)
    (right : second.Precedes third) : first.Precedes third := by
  unfold Precedes at left right ⊢
  omega

/-- Managed ceilings stay within their bounds. -/
theorem told_run {deployment : Deployment} {gateway later : Gateway TaskAction}
    {trace : List (Event TaskAction)} (run : Run deployment.config gateway trace later)
    (managed : deployment.Managed trace) {budget : BudgetRef}
    (told : Told (gateway.budgets budget)) : Told (later.budgets budget) := by
  induction run with
  | refl => exact told
  | tail earlier last induction =>
      rename_i middle final trace event
      have between := induction fun budget previous maximum member =>
        managed budget previous maximum (List.mem_append_left _ member)
      have revision : 1 ≤ (final.budgets budget).revision :=
        between.revision.trans (Gateway.maximum_of_revision (.single last) budget).1
      refine ⟨?_, revision⟩
      rcases Gateway.adjusted_step last budget with ⟨adjusted, -⟩ | ⟨maximum, same, resized⟩
      · have ceiling := between.ceiling
        generalize middle.budgets budget = state at adjusted ceiling
        generalize final.budgets budget = state' at adjusted ⊢
        cases adjusted <;> exact ceiling
      · rw [resized, Snapshot.setMaximum_maximum]
        obtain ⟨positive, bounded, -⟩ := managed budget
          (middle.budgets budget).maximum maximum (by rw [same]; simp)
        exact ⟨positive, bounded⟩

/-- Discovery tells the identity of its token about its budget. -/
theorem discover_eq_ok {service : Service} {queueSettings : QueueSettings} {budgets : Budgets}
    {request : HttpRequest} {policy : Json} {token : String}
    (tokens : service.authenticator = false) (bearer : request.bearerToken = some token)
    (answered : service.discover queueSettings budgets request = .ok policy) :
    ∃ identity, service.identities.lookup token = some identity ∧
      policy = service.agentPolicy queueSettings budgets identity := by
  unfold Service.discover at answered
  split at answered
  · cases answered
  split at answered
  · cases answered
  cases checked : service.authenticate request with
  | error response =>
      rw [checked] at answered
      cases answered
  | ok identity =>
      rw [checked] at answered
      cases answered
      obtain ⟨resolved, -⟩ := Service.authenticate_eq_ok.mp checked
      obtain ⟨other, same, resolves⟩ := Service.identity_eq_some.mp resolved
      obtain rfl : token = other := Option.some.inj (bearer.symm.trans same)
      refine ⟨identity, ?_, rfl⟩
      simpa [Service.Resolves, tokens] using resolves

/-- The policies read so far, with the snapshots they were made of. -/
structure History (deployment : Deployment) (identity : ClientIdentity)
    (gateway : Gateway TaskAction) (policies : List Json) (snapshots : List Budgets) : Prop where
  /-- Policies are made of snapshots. -/
  made : policies = snapshots.map fun budgets =>
    deployment.service.agentPolicy deployment.queueSettings budgets identity
  /-- Their ceilings are within bounds. -/
  told : ∀ budgets ∈ snapshots, Told (budgets identity.budget)
  /-- They do not contradict each other. -/
  ordered : snapshots.Pairwise fun earlier later =>
    (earlier identity.budget).Precedes (later identity.budget)
  /-- Nor does the present. -/
  present : ∀ budgets ∈ snapshots,
    (budgets identity.budget).Precedes (gateway.budgets identity.budget)
  /-- The present is within bounds. -/
  now : Told (gateway.budgets identity.budget)

theorem Readings.history {deployment : Deployment} {token : String} {identity : ClientIdentity}
    {gateway : Gateway TaskAction} {policies : List Json} (known : deployment.WellFormed)
    (tokens : deployment.service.authenticator = false)
    (resolved : deployment.service.identities.lookup token = some identity)
    (readings : Readings deployment token gateway policies) :
    ∃ snapshots, History deployment identity gateway policies snapshots := by
  induction readings with
  | start =>
      obtain ⟨front, back, split, -⟩ := List.lookup_eq_some_iff.mp resolved
      have member : (token, identity) ∈ deployment.service.identities := by simp [split]
      refine ⟨[], rfl, nofun, .nil, nofun, ?_⟩
      exact ⟨known.maximum _ member, le_rfl⟩
  | run readings run managed history =>
      obtain ⟨snapshots, history⟩ := history
      refine ⟨snapshots, history.made, history.told, history.ordered, ?_,
        told_run run managed history.now⟩
      intro budgets member
      exact (history.present budgets member).trans (Gateway.maximum_of_revision run _)
  | read readings bearer answered history =>
      rename_i gateway policies request policy
      obtain ⟨snapshots, history⟩ := history
      obtain ⟨other, found, rfl⟩ := discover_eq_ok tokens bearer answered
      obtain rfl : identity = other := Option.some.inj (resolved.symm.trans found)
      refine ⟨snapshots ++ [gateway.budgets], ?_, ?_, ?_, ?_, history.now⟩
      · rw [List.map_append, ← history.made]
        rfl
      · intro budgets member
        rcases List.mem_append.mp member with earlier | added
        · exact history.told budgets earlier
        · rw [List.mem_singleton.mp added]
          exact history.now
      · rw [List.pairwise_append]
        refine ⟨history.ordered, List.pairwise_singleton _ _, ?_⟩
        intro earlier member later added
        rw [List.mem_singleton.mp added]
        exact history.present earlier member
      · intro budgets member
        rcases List.mem_append.mp member with earlier | added
        · exact history.present budgets earlier
        · rw [List.mem_singleton.mp added]
          exact ⟨le_rfl, fun _ => rfl⟩

open Dispatcher in
theorem ofJson_agentPolicy (service : Service) (queueSettings : QueueSettings) (budgets : Budgets)
    (identity : ClientIdentity) :
    Policy.ofJson (service.agentPolicy queueSettings budgets identity) = some
      { version := 3
        principalId := identity.principalId
        clientClass := identity.clientClass.text
        policyRevision := (budgets identity.budget).revision
        refreshAfterMs := 1000
        outstanding := (budgets identity.budget).outstanding
        limits :=
          { scope := "principal"
            maxOutstanding := (budgets identity.budget).maximum } } :=
  rfl

open Dispatcher in
/-- A gate which knows an earlier policy of an agent applies a later one. -/
theorem apply_agentPolicy {service : Service} {identity : ClientIdentity} {budgets : Budgets}
    (queueSettings : QueueSettings) (agent : identity.clientClass = .agent)
    (owner : identity.principalId ≠ "") (told : Told (budgets identity.budget)) {gate : Gate}
    {previous : Option Budgets}
    (knows : gate.Knows (previous.map fun earlier =>
      service.agentPolicy queueSettings earlier identity))
    (precedes : ∀ earlier, previous = some earlier →
      (earlier identity.budget).Precedes (budgets identity.budget)) :
    ∃ decoded gate', Policy.ofJson (service.agentPolicy queueSettings budgets identity) =
      some decoded ∧ gate.apply decoded = .ok gate' := by
  obtain ⟨⟨positive, bounded⟩, revision⟩ := told
  simp only [ofJson_agentPolicy, Option.some.injEq, exists_and_left, exists_eq_left']
  unfold Gate.apply
  rw [if_neg, if_neg]
  · exact ⟨_, rfl⟩
  · cases previous with
    | none =>
        obtain ⟨unknown, zero⟩ := knows
        simp [unknown, zero]
        omega
    | some earlier =>
        obtain ⟨decoded, read, principal, same, maximum⟩ := knows
        rw [ofJson_agentPolicy] at read
        cases read
        have coherent := precedes earlier rfl
        unfold Snapshot.Precedes at coherent
        simp [principal, same, maximum]
        omega
  · simp [agent, ClientClass.text, owner]
    omega

open Dispatcher in
/-- An honest gateway is never rejected by its clients.  Whatever one token reads one after another,
while the gateway of a manifest runs under any ceilings the host or the administrator can set,
validates against the schema, is accepted by the Python client after the policy read before, and for
an agent by a gate which applied the earlier ones. -/
theorem honest_policies {checkSchema : Json → Except PyError Unit}
    (documented : ∀ schema, PlainSchema schema → checkSchema schema = .ok ())
    {manifest : Manifest} {origin : Except String String}
    {read : String → Except VarError String} {initial deployment : Deployment}
    (built : Deployment.fromManifest manifest origin read = .ok initial)
    (configured : initial.Configured deployment) {token : String} {gateway : Gateway TaskAction}
    {policies : List Json} (readings : Readings deployment token gateway policies)
    {front back : List Json} {policy : Json} (split : policies = front ++ policy :: back) :
    policySchema policy = true ∧
      (∀ frames, 15 ≤ frames →
        validatePolicy checkSchema frames policy front.getLast? = .ok ()) ∧
      ∀ identity, deployment.service.identities.lookup token = some identity →
        identity.clientClass = .agent → ∀ gate, Applied front gate →
          ∃ decoded gate', Policy.ofJson policy = some decoded ∧
            gate.apply decoded = .ok gate' := by
  have known := configured.wellFormed (Deployment.wellFormed_fromManifest built)
  obtain ⟨unhosted, mappedFirst⟩ := Deployment.mapped_fromManifest built
  obtain ⟨adminToken, service⟩ := configured.service
  have tokens : deployment.service.authenticator = false := by rw [service]; exact unhosted
  have mapped : ∀ operation ∈ deployment.service.operations, operation.native = none := by
    rw [service]
    exact mappedFirst
  cases resolved : deployment.service.identities.lookup token with
  | none =>
      exfalso
      have unread : policies = [] := by
        clear split
        induction readings with
        | start => rfl
        | run _ _ _ induction => exact induction
        | read _ bearer answered _ =>
            obtain ⟨identity, found, -⟩ := discover_eq_ok tokens bearer answered
            rw [resolved] at found
            cases found
      rw [unread] at split
      cases front <;> cases split
  | some identity =>
      have member : (token, identity) ∈ deployment.service.identities := by
        obtain ⟨before, after, found, -⟩ := List.lookup_eq_some_iff.mp resolved
        simp [found]
      obtain ⟨snapshots, history⟩ := readings.history known tokens resolved
      obtain ⟨earlier, rest, rfl, made, others⟩ := List.map_eq_append_iff.mp
        (history.made.symm.trans split)
      obtain ⟨budgets, later, rfl, rfl, -⟩ := List.map_eq_cons_iff.mp others
      have told : Told (budgets identity.budget) := history.told budgets (by simp)
      have precedes : ∀ previous ∈ earlier,
          (previous identity.budget).Precedes (budgets identity.budget) := by
        intro previous listed
        exact (List.pairwise_append.mp history.ordered).2.2 previous listed budgets
          List.mem_cons_self
      have last : front.getLast? = earlier.getLast?.map fun budgets =>
          deployment.service.agentPolicy deployment.queueSettings budgets identity := by
        rw [← made, List.getLast?_map]
      have continued : ∀ previous, earlier.getLast? = some previous →
          (previous identity.budget).Precedes (budgets identity.budget) := fun previous found =>
        precedes previous (List.mem_of_getLast? found)
      refine ⟨policySchema_agentPolicy known mapped member told, ?_, ?_⟩
      · intro frames room
        apply validatePolicy_agentPolicy documented known mapped member told ?_ room
        intro previous found
        rw [last] at found
        obtain ⟨snapshot, ended, rfl⟩ := Option.map_eq_some_iff.mp found
        obtain ⟨ordered, coherent⟩ := continued snapshot ended
        exact continues_agentPolicy deployment.queueSettings ordered coherent
      · rintro other ⟨⟩ agent gate applied
        have knows := applied.knows
        rw [last] at knows
        exact apply_agentPolicy deployment.queueSettings agent (known.named _ member) told knows
          continued

def library : Manifest where
  formatVersion := 1
  serviceId := "library"
  operations :=
    [{ name := "search", description := "", path := "/search", upstreamPath := "/search"
       parameters := [("title", { kind := .string, upstream := "title" })]
       parameters_distinct := by decide }]
  credentials :=
    [{ tokenEnv := "TOKEN", required := true, principalId := "owner", clientClass := .agent
       operations := ["search"], maxOutstanding := 2 }]

def discovery : HttpRequest where
  path := "/agent-policy"
  method := "GET"
  authorization := [some "Bearer t"]
  grant := none
  params := .ok .null

open Dispatcher in
/-- A policy read after the host and the administrator changed its limit. -/
theorem honest_policies_sample : ∃ (deployment : Deployment) (gateway : Gateway TaskAction)
    (first second third : Json) (decoded : Policy) (gate later : Gate),
    Deployment.fromManifest library (.ok "http://127.0.0.1:4000") (fun _ => .ok "t") =
      .ok deployment ∧ Readings deployment "t" gateway [first, second, third] ∧
    policySchema third = true ∧
    validatePolicy (fun _ => .ok ()) 100 third (some second) = .ok () ∧
    Applied [first, second] gate ∧ Policy.ofJson third = some decoded ∧
    decoded.limits.maxOutstanding = 5 ∧ gate.apply decoded = .ok later := by
  let owner : ClientIdentity :=
    { principalId := "owner", clientClass := .agent, operations := ["search"], budget := 0 }
  have bearer : discovery.bearerToken = some "t" := by decide +kernel
  obtain ⟨deployment, built, found, resolved, agents⟩ : ∃ deployment,
      Deployment.fromManifest library (.ok "http://127.0.0.1:4000") (fun _ => .ok "t") =
        .ok deployment ∧ deployment.service.identity discovery = some owner ∧
          deployment.service.identities.lookup "t" = some owner ∧
            deployment.service.agentBudget "owner" = some 0 := by
    refine ⟨_, rfl, ?_, rfl, rfl⟩
    simp only [Service.identity, bearer]
    rfl
  have known := Deployment.wellFormed_fromManifest built
  let told (budgets : Budgets) : Json :=
    deployment.service.agentPolicy deployment.queueSettings budgets owner
  have answered : ∀ budgets, deployment.service.discover deployment.queueSettings budgets
      discovery = .ok (told budgets) := fun budgets =>
    Service.discover_eq_ok known.operation_agentPolicy found rfl rfl
  have set : ∀ budgets, deployment.service.setAgentLimit budgets "owner" 3 =
      .ok ((budgets 0).setMaximum 3, budgets.resize 0 3) := by
    intro budgets
    simp [Service.setAgentLimit, agents]
  have updated : ∀ budgets, ∃ answer, deployment.service.updateLimits budgets "owner" (.ok 5) =
      .ok (answer, budgets.resize 0 5) := by
    intro budgets
    simp [Service.updateLimits, agents]
  have first := Readings.start.read bearer (answered _)
  have second := (first.setAgentLimit (set _)).read bearer (answered _)
  obtain ⟨answer, update⟩ := updated _
  have third := (second.updateLimits update).read bearer (answered _)
  have documented : ∀ schema, PlainSchema schema →
      (fun _ => .ok () : Json → Except PyError Unit) schema = .ok () := fun _ _ => rfl
  have honest := fun (front back : List Json) (policy : Json) (split : _ = front ++ policy :: back) =>
    honest_policies documented built .refl third split
  obtain ⟨-, -, applies⟩ := honest [] _ _ rfl
  obtain ⟨_, gate, read, accepted⟩ := applies owner resolved rfl _ .new
  obtain ⟨-, -, applies'⟩ := honest [_] _ _ rfl
  obtain ⟨_, gate', read', accepted'⟩ := applies' owner resolved rfl _ (.apply .new read accepted)
  have applied := (Applied.new.apply read accepted).apply read' accepted'
  obtain ⟨schema, validated, applies''⟩ := honest [_, _] [] _ rfl
  obtain ⟨decoded, later, read'', accepted''⟩ := applies'' owner resolved rfl _ applied
  refine ⟨deployment, _, _, _, _, decoded, gate', later, built, third, schema,
    validated 100 (by omega), applied, read'', ?_, accepted''⟩
  rw [ofJson_agentPolicy] at read''
  cases read''
  exact Snapshot.setMaximum_maximum _ 5

end AiProtocol
