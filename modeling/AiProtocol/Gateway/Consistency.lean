import AiProtocol.Gateway.Discovery
import AiProtocol.Library.Table

/-!
# Discovery, authorization and accounting agree

What the constructors check is carried as one invariant of a configuration.  Whatever searches for
an operation by its name or its path then finds the same one, and the job of a request is accounted
to the identity which was authenticated.
-/

namespace AiProtocol

/-- Whom an identity is accounted to. -/
def ClientIdentity.owner (identity : ClientIdentity) : Owner :=
  (identity.principalId, identity.clientClass)

/-! ## Registered credentials -/

/-- Whom a credential is accounted to. -/
def Credential.owner (credential : Credential) : Owner :=
  (credential.principalId, credential.clientClass)

/-- What one credential must be. -/
structure Credential.Valid (operations : List String) (credential : Credential) : Prop where
  /-- The token is well-formed. -/
  token : validToken credential.token = true
  /-- The owner has a name. -/
  named : credential.principalId ≠ ""
  /-- The ceiling is in its range. -/
  bounded : 1 ≤ credential.maxOutstanding ∧ credential.maxOutstanding ≤ 1000
  /-- The operations granted exist. -/
  granted : ∀ name ∈ credential.operations, name ∈ operations

namespace Registry

/-- The identity of a credential. -/
def identity (registry : Registry) (credential : Credential) : ClientIdentity where
  principalId := credential.principalId
  clientClass := credential.clientClass
  operations := credential.operations
  budget := (registry.budgets.map Prod.fst).idxOf credential.owner

/-- What the loop of `identities` keeps. -/
structure Sound (operations : List String) (registry : Registry) : Prop where
  /-- Tokens are distinct. -/
  distinct : (registry.identities.map Prod.fst).Nodup
  /-- Tokens were checked. -/
  valid : ∀ entry ∈ registry.identities, validToken entry.1 = true
  /-- Only operations of the service are granted. -/
  granted : ∀ entry ∈ registry.identities, ∀ name ∈ entry.2.operations, name ∈ operations
  /-- Owners have names. -/
  named : ∀ entry ∈ registry.identities, entry.2.principalId ≠ ""
  /-- No owner has two budgets. -/
  owners : (registry.budgets.map Prod.fst).Nodup
  /-- The ceilings were checked. -/
  bounded : ∀ budget ∈ registry.budgets, 1 ≤ budget.2 ∧ budget.2 ≤ 1000
  /-- Identities refer to the budget of their owner. -/
  account : ∀ entry ∈ registry.identities,
    (registry.budgets.map Prod.fst)[entry.2.budget]? = some entry.2.owner

private theorem sound_empty (operations : List String) :
    Sound operations { identities := [], budgets := [] } where
  distinct := .nil
  valid := nofun
  granted := nofun
  named := nofun
  owners := .nil
  bounded := nofun
  account := nofun

theorem owners_entry (registry : Registry) (owner : Owner) (maximum : Nat) :
    (registry.entry owner maximum).map Prod.fst =
      if owner ∈ registry.budgets.map Prod.fst then registry.budgets.map Prod.fst
      else registry.budgets.map Prod.fst ++ [owner] := by
  have present : (registry.budgets.lookup owner).isSome ↔
      owner ∈ registry.budgets.map Prod.fst := by
    rw [List.lookup_isSome_iff]
    simp
  simp only [entry, present]
  split <;> simp

theorem nodup_entry {registry : Registry} (owners : (registry.budgets.map Prod.fst).Nodup)
    (owner : Owner) (maximum : Nat) : ((registry.entry owner maximum).map Prod.fst).Nodup := by
  rw [owners_entry]
  split
  · exact owners
  · rename_i absent
    rw [List.nodup_append]
    refine ⟨owners, by simp, ?_⟩
    rintro other earlier new added rfl
    obtain rfl := List.mem_singleton.mp added
    exact absent earlier

theorem entry_mem {registry : Registry} {owner : Owner} {maximum : Nat} {budget : Owner × Nat}
    (member : budget ∈ registry.entry owner maximum) :
    budget ∈ registry.budgets ∨ budget = (owner, maximum) := by
  unfold entry at member
  split at member
  · exact .inl member
  · simpa using member

private theorem entry_getElem? {registry : Registry} {owner earlier : Owner} {maximum : Nat}
    {budget : BudgetRef} (account : (registry.budgets.map Prod.fst)[budget]? = some earlier) :
    ((registry.entry owner maximum).map Prod.fst)[budget]? = some earlier := by
  rw [owners_entry]
  split
  · exact account
  · rw [List.getElem?_append_left]
    · exact account
    · exact (List.getElem?_eq_some_iff.mp account).1

private theorem entry_idxOf (registry : Registry) (owner : Owner) (maximum : Nat) :
    ((registry.entry owner maximum).map Prod.fst)[
      (registry.budgets.map Prod.fst).idxOf owner]? = some owner := by
  rw [owners_entry]
  split
  · rename_i present
    exact List.getElem?_idxOf present
  · rename_i absent
    rw [List.idxOf_eq_length absent]
    simp

theorem register_eq_ok {operations : List String} {registry after : Registry}
    {credential : Credential} :
    registry.register operations credential = .ok after ↔
      credential.Valid operations ∧
        (registry.entry credential.owner credential.maxOutstanding).lookup credential.owner =
          some credential.maxOutstanding ∧
        credential.token ∉ registry.identities.map Prod.fst ∧
        after =
          { identities := registry.identities ++
              [(credential.token, registry.identity credential)]
            budgets := registry.entry credential.owner credential.maxOutstanding } := by
  simp only [Registry.register, Credential.owner]
  split
  · rename_i invalid
    refine ⟨by simp, fun accepted => absurd accepted.1.token ?_⟩
    simpa using invalid
  rename_i token
  split
  · rename_i refused
    refine ⟨by simp, fun accepted => ?_⟩
    have valid := accepted.1
    rcases refused with unnamed | outside | unknown
    · exact absurd unnamed valid.named
    · exact absurd valid.bounded outside
    · simp only [List.any_eq_true, Bool.not_eq_true', List.contains_eq_mem,
        decide_eq_false_iff_not] at unknown
      obtain ⟨name, listed, absent⟩ := unknown
      exact absurd (valid.granted name listed) absent
  rename_i checked
  have valid : credential.Valid operations := by
    rw [not_or, not_or, not_not] at checked
    exact ⟨by simpa using token, checked.1, checked.2.1, by simpa using checked.2.2⟩
  split
  · rename_i inconsistent
    exact ⟨by simp, fun accepted => absurd accepted.2.1 inconsistent⟩
  rename_i same
  rw [not_ne_iff] at same
  split
  · rename_i known
    refine ⟨by simp, fun accepted => absurd (Table.lookup_eq_none.mpr accepted.2.2.1) ?_⟩
    exact Option.isSome_iff_ne_none.mp known
  rename_i fresh
  have fresh := Table.lookup_eq_none.mp (Option.not_isSome_iff_eq_none.mp fresh)
  exact ⟨fun registered => ⟨valid, same, fresh, (Except.ok.inj registered).symm⟩,
    fun accepted => congrArg Except.ok accepted.2.2.2.symm⟩

theorem Sound.register {operations : List String} {registry after : Registry}
    {credential : Credential} (sound : registry.Sound operations)
    (registered : registry.register operations credential = .ok after) :
    after.Sound operations := by
  obtain ⟨valid, -, fresh, rfl⟩ := register_eq_ok.mp registered
  constructor
  · rw [List.map_append, List.nodup_append]
    refine ⟨sound.distinct, by simp, ?_⟩
    rintro token earlier other added rfl
    obtain rfl : token = credential.token := by simpa using added
    exact fresh earlier
  · intro entry member
    rcases List.mem_append.mp member with earlier | added
    · exact sound.valid entry earlier
    · obtain rfl := List.mem_singleton.mp added
      exact valid.token
  · intro entry member
    rcases List.mem_append.mp member with earlier | added
    · exact sound.granted entry earlier
    · obtain rfl := List.mem_singleton.mp added
      exact valid.granted
  · intro entry member
    rcases List.mem_append.mp member with earlier | added
    · exact sound.named entry earlier
    · obtain rfl := List.mem_singleton.mp added
      exact valid.named
  · exact nodup_entry sound.owners _ _
  · intro budget member
    rcases entry_mem member with earlier | rfl
    · exact sound.bounded budget earlier
    · exact valid.bounded
  · intro entry member
    rcases List.mem_append.mp member with earlier | added
    · exact entry_getElem? (sound.account entry earlier)
    · obtain rfl := List.mem_singleton.mp added
      exact entry_idxOf registry _ _

theorem Sound.registerAll {operations : List String} {credentials : List Credential}
    {registry after : Registry} (sound : registry.Sound operations)
    (registered : registry.registerAll operations credentials = .ok after) :
    after.Sound operations := by
  induction credentials generalizing registry with
  | nil =>
      cases registered
      exact sound
  | cons credential rest induction =>
      rw [Registry.registerAll] at registered
      split at registered
      · cases registered
      · rename_i accepted
        exact induction (sound.register accepted) registered

theorem sound_ofCredentials {operations : List String} {credentials : List Credential}
    {registry : Registry} (accepted : ofCredentials operations credentials = .ok registry) :
    registry.Sound operations := by
  unfold ofCredentials at accepted
  split at accepted
  · cases accepted
  · rename_i registered
    split at accepted
    · cases accepted
    · cases accepted
      exact (sound_empty operations).registerAll registered

/-- Identities share a budget exactly if they have the same owner and class. -/
theorem Sound.shared {operations : List String} {registry : Registry}
    (sound : registry.Sound operations) {left right : String × ClientIdentity}
    (known : left ∈ registry.identities) (other : right ∈ registry.identities) :
    left.2.budget = right.2.budget ↔ left.2.owner = right.2.owner := by
  have first := sound.account left known
  have second := sound.account right other
  constructor
  · intro same
    rw [same, second] at first
    exact (Option.some.inj first).symm
  · intro same
    apply (List.getElem?_inj (List.getElem?_eq_some_iff.mp first).1 sound.owners).mp
    rw [first, second, same]

/-- The ceilings of their budgets were checked. -/
theorem Sound.maximum {operations : List String} {registry : Registry}
    (sound : registry.Sound operations) {entry : String × ClientIdentity}
    (known : entry ∈ registry.identities) :
    1 ≤ registry.maximum entry.2.budget ∧ registry.maximum entry.2.budget ≤ 1000 := by
  have account := sound.account entry known
  rw [List.getElem?_map, Option.map_eq_some_iff] at account
  obtain ⟨budget, found, -⟩ := account
  rw [Registry.maximum, found]
  exact sound.bounded budget (List.mem_of_getElem? found)

end Registry

/-! ## Accepted configurations -/

/-- The operations of a service, as its constructors check them. -/
structure OperationsSound (operations : List Operation) : Prop where
  /-- Names are identifiers. -/
  named : ∀ operation ∈ operations, identifier operation.name.toList = true
  /-- Names are distinct. -/
  names : (operations.map Operation.name).Nodup
  /-- Paths are routes which are not reserved. -/
  routed : ∀ operation ∈ operations, operationPath operation.path = true
  /-- Paths are distinct. -/
  paths : (operations.map Operation.path).Nodup
  /-- A native operation is the one it was made of. -/
  native : ∀ operation ∈ operations, ∀ native, operation.native = some native →
    native.name = operation.name ∧ native.path = operation.path
  /-- Parameters are distinct identifiers. -/
  mapped : ∀ operation ∈ operations,
    (∀ parameter ∈ operation.parameters, identifier parameter.1.toList = true) ∧
      (operation.parameters.map Prod.fst).Nodup

theorem distinct_cons {Item Key : Type} (key : Item → Key) {head : Item} {rest : List Item}
    {seen : List Key} (unused : key head ∉ seen)
    (tail : (rest.map key).Nodup ∧ ∀ item ∈ rest, key item ∉ key head :: seen) :
    ((head :: rest).map key).Nodup ∧ ∀ item ∈ head :: rest, key item ∉ seen := by
  obtain ⟨distinct, fresh⟩ := tail
  simp only [List.mem_cons, not_or] at fresh
  constructor
  · rw [List.map_cons, List.nodup_cons]
    refine ⟨?_, distinct⟩
    intro member
    obtain ⟨other, listed, same⟩ := List.mem_map.mp member
    exact (fresh other listed).1 same
  · rintro other (_ | ⟨_, member⟩)
    · exact unused
    · exact (fresh other member).2

theorem checkOperations_valid {index : Nat} {names paths : List String}
    {operations : List ManifestOperation}
    (checked : Manifest.checkOperations index names paths operations = .ok ()) :
    ∀ operation ∈ operations, ∃ names paths, Manifest.operationValid names paths operation := by
  induction operations generalizing index names paths with
  | nil => nofun
  | cons operation rest induction =>
      rw [Manifest.checkOperations] at checked
      split at checked
      · rename_i valid
        rintro other (_ | ⟨_, member⟩)
        · exact ⟨names, paths, valid⟩
        · exact induction checked other member
      · cases checked

private theorem checkOperations_distinct {index : Nat} {names paths : List String}
    {operations : List ManifestOperation}
    (checked : Manifest.checkOperations index names paths operations = .ok ()) :
    ((operations.map ManifestOperation.name).Nodup ∧
      ∀ operation ∈ operations, operation.name ∉ names) ∧
        (operations.map ManifestOperation.path).Nodup ∧
          ∀ operation ∈ operations, operation.path ∉ paths := by
  induction operations generalizing index names paths with
  | nil => simp
  | cons operation rest induction =>
      rw [Manifest.checkOperations] at checked
      split at checked
      · rename_i valid
        have unused : operation.name ∉ names ∧ operation.path ∉ paths := by
          simp only [Manifest.operationValid, Bool.and_eq_true, Bool.not_eq_true',
            List.contains_eq_mem, decide_eq_false_iff_not] at valid
          exact ⟨valid.1.1.1.1.2, valid.1.1.2⟩
        obtain ⟨byName, byPath⟩ := induction checked
        exact ⟨distinct_cons _ unused.1 byName, distinct_cons _ unused.2 byPath⟩
      · cases checked

private theorem checkNative_distinct {names paths : List String} {operations : List NativeOperation}
    (checked : checkNative names paths operations = .ok ()) :
    ((operations.map NativeOperation.name).Nodup ∧
      ∀ operation ∈ operations, operation.name ∉ names) ∧
        (operations.map NativeOperation.path).Nodup ∧
          ∀ operation ∈ operations, operation.path ∉ paths := by
  induction operations generalizing names paths with
  | nil => simp
  | cons operation rest induction =>
      rw [checkNative] at checked
      split at checked
      · cases checked
      · rename_i unused
        simp only [Bool.or_eq_true, List.contains_iff_mem, not_or] at unused
        obtain ⟨byName, byPath⟩ := induction checked
        exact ⟨distinct_cons _ unused.1 byName, distinct_cons _ unused.2 byPath⟩

/-- The parameters of an operation have identifiers as names, and distinct ones upstream. -/
theorem parametersValid_eq_true {seen : List String} {parameters : List (String × Parameter)}
    (valid : Manifest.parametersValid seen parameters = true) :
    (∀ parameter ∈ parameters, identifier parameter.1.toList = true ∧
      identifier parameter.2.upstream.toList = true) ∧
    (parameters.map fun parameter => parameter.2.upstream).Nodup ∧
      ∀ parameter ∈ parameters, parameter.2.upstream ∉ seen := by
  induction parameters generalizing seen with
  | nil => simp
  | cons parameter rest induction =>
      simp only [Manifest.parametersValid, Bool.and_eq_true, Bool.not_eq_true',
        List.contains_eq_mem, decide_eq_false_iff_not] at valid
      obtain ⟨identified, distinct⟩ := induction valid.2
      refine ⟨?_, distinct_cons (fun parameter : String × Parameter => parameter.2.upstream)
        valid.1.2 distinct⟩
      rw [List.forall_mem_cons]
      exact ⟨valid.1.1, identified⟩

/-- What the loop of `Service::parse` keeps of the credentials. -/
theorem checkCredentials_valid {names : List String} {index : Nat} {envs : List String}
    {budgets : List (Owner × Nat)} {credentials : List ManifestCredential}
    (checked : Manifest.checkCredentials names index envs budgets credentials = .ok ()) :
    (∀ credential ∈ credentials, ∃ envs, Manifest.credentialValid names envs credential = true) ∧
      ((credentials.map ManifestCredential.tokenEnv).Nodup ∧
        ∀ credential ∈ credentials, credential.tokenEnv ∉ envs) ∧
      (∀ credential ∈ credentials, ∀ maximum,
        budgets.lookup (credential.principalId, credential.clientClass) = some maximum →
          maximum = credential.maxOutstanding) ∧
      credentials.Pairwise fun left right => (left.principalId, left.clientClass) =
        (right.principalId, right.clientClass) → left.maxOutstanding = right.maxOutstanding := by
  induction credentials generalizing index envs budgets with
  | nil => simp
  | cons credential rest induction =>
      simp only [Manifest.checkCredentials] at checked
      split at checked
      · cases checked
      rename_i valid
      simp only [Bool.not_eq_true', Bool.not_eq_false] at valid
      split at checked
      · cases checked
      rename_i agrees
      obtain ⟨others, fresh, later, pairwise⟩ := induction checked
      have unused : credential.tokenEnv ∉ envs := by
        simp only [Manifest.credentialValid, Bool.and_eq_true, Bool.not_eq_true',
          List.contains_eq_mem, decide_eq_false_iff_not] at valid
        exact valid.1.1.1.2
      have first (maximum : Nat)
          (found : budgets.lookup (credential.principalId, credential.clientClass) =
            some maximum) : maximum = credential.maxOutstanding := by
        simpa [found] using agrees
      refine ⟨?_, distinct_cons _ unused fresh, ?_, ?_⟩
      · rintro other (_ | ⟨_, member⟩)
        · exact ⟨envs, valid⟩
        · exact others other member
      · rintro other (_ | ⟨_, member⟩) maximum found
        · exact first maximum found
        · by_cases same : (other.principalId, other.clientClass) =
              (credential.principalId, credential.clientClass)
          · rw [same] at found
            rw [first maximum found]
            exact later other member _ (by rw [same, List.lookup_cons_self])
          · refine later other member maximum ?_
            rw [List.lookup_cons, beq_false_of_ne same]
            exact found
      · refine List.pairwise_cons.mpr ⟨fun other member same => ?_, pairwise⟩
        exact later other member _ (by rw [← same, List.lookup_cons_self])

namespace Manifest

/-- What `Service::parse` returns was checked. -/
theorem parse_eq_ok {manifest parsed : Manifest} (accepted : manifest.parse = .ok parsed) :
    parsed = manifest ∧ identifier manifest.serviceId.toList = true ∧
      checkOperations 0 [] [] manifest.operations = .ok () := by
  unfold parse at accepted
  split at accepted
  · cases accepted
  split at accepted
  · cases accepted
  rename_i required
  simp only [Bool.or_eq_true, Bool.not_eq_true', not_or, Bool.not_eq_false] at required
  split at accepted
  · cases accepted
  · cases accepted
  · rename_i checked _
    exact ⟨(Except.ok.inj accepted).symm, required.1.1, checked⟩

/-- The rest of what was checked. -/
theorem parse_checked {manifest parsed : Manifest} (accepted : manifest.parse = .ok parsed) :
    manifest.formatVersion = 1 ∧ manifest.operations ≠ [] ∧ manifest.credentials ≠ [] ∧
      checkCredentials (manifest.operations.map ManifestOperation.name) 0 [] []
        manifest.credentials = .ok () := by
  unfold parse at accepted
  split at accepted
  · cases accepted
  rename_i version
  split at accepted
  · cases accepted
  rename_i required
  simp only [Bool.or_eq_true, not_or, List.isEmpty_iff] at required
  split at accepted
  · cases accepted
  · cases accepted
  · rename_i _ checked
    exact ⟨not_ne_iff.mp version, required.1.2, required.2, checked⟩

theorem operationsSound {manifest : Manifest}
    (checked : checkOperations 0 [] [] manifest.operations = .ok ()) :
    OperationsSound manifest.service := by
  have valid := checkOperations_valid checked
  obtain ⟨⟨names, -⟩, paths, -⟩ := checkOperations_distinct checked
  simp only [operationValid, Bool.and_eq_true] at valid
  constructor
  · intro operation member
    obtain ⟨mapped, listed, rfl⟩ := List.mem_map.mp member
    obtain ⟨_, _, accepted⟩ := valid mapped listed
    exact accepted.1.1.1.1.1
  · simpa [service, Function.comp_def] using names
  · intro operation member
    obtain ⟨mapped, listed, rfl⟩ := List.mem_map.mp member
    obtain ⟨_, _, accepted⟩ := valid mapped listed
    exact accepted.1.1.1.2
  · simpa [service, Function.comp_def] using paths
  · intro operation member native handler
    obtain ⟨mapped, listed, rfl⟩ := List.mem_map.mp member
    cases handler
  · intro operation member
    obtain ⟨mapped, listed, rfl⟩ := List.mem_map.mp member
    obtain ⟨_, _, accepted⟩ := valid mapped listed
    exact ⟨fun parameter known => ((parametersValid_eq_true accepted.2).1 parameter known).1,
      mapped.parameters_distinct⟩

end Manifest

theorem nativeOperations_sound {serviceId : String} {natives : List NativeOperation}
    {operations : List Operation}
    (accepted : nativeOperations serviceId natives = .ok operations) :
    identifier serviceId.toList = true ∧ OperationsSound operations := by
  unfold nativeOperations at accepted
  split at accepted
  · cases accepted
  rename_i required
  simp only [Bool.or_eq_true, Bool.not_eq_true', not_or, Bool.not_eq_false] at required
  split at accepted
  · cases accepted
  rename_i checked
  cases accepted
  obtain ⟨⟨names, -⟩, paths, -⟩ := checkNative_distinct checked
  refine ⟨required.1, ?_⟩
  constructor
  · intro operation member
    obtain ⟨native, listed, rfl⟩ := List.mem_map.mp member
    exact native.name_valid
  · simpa [Function.comp_def] using names
  · intro operation member
    obtain ⟨native, listed, rfl⟩ := List.mem_map.mp member
    exact native.path_valid
  · simpa [Function.comp_def] using paths
  · intro operation member handler present
    obtain ⟨native, listed, rfl⟩ := List.mem_map.mp member
    cases present
    exact ⟨rfl, rfl⟩
  · intro operation member
    obtain ⟨native, listed, rfl⟩ := List.mem_map.mp member
    exact ⟨nofun, .nil⟩

private theorem QueueSettings.default_bounded (clientClass : ClientClass) :
    millisecond ≤ QueueSettings.default.forClass clientClass ∧
      QueueSettings.default.forClass clientClass ≤ 3600000 * millisecond := by
  cases clientClass <;> decide

namespace Deployment

/-- What the constructors promise of a configuration. -/
structure WellFormed (deployment : Deployment) : Prop where
  /-- The service has an identifier. -/
  service_named : identifier deployment.service.serviceId.toList = true
  /-- Its operations were checked. -/
  operations : OperationsSound deployment.service.operations
  /-- Tokens are distinct. -/
  distinct : (deployment.service.identities.map Prod.fst).Nodup
  /-- Owners have names. -/
  named : ∀ entry ∈ deployment.service.identities, entry.2.principalId ≠ ""
  /-- Only operations of the service are granted. -/
  granted : ∀ entry ∈ deployment.service.identities, ∀ name ∈ entry.2.operations,
    name ∈ deployment.service.operations.map Operation.name
  /-- Budgets belong to owners. -/
  shared : ∀ left ∈ deployment.service.identities, ∀ right ∈ deployment.service.identities,
    left.2.budget = right.2.budget ↔ left.2.owner = right.2.owner
  /-- Initial ceilings were checked. -/
  maximum : ∀ entry ∈ deployment.service.identities,
    1 ≤ deployment.maximum entry.2.budget ∧ deployment.maximum entry.2.budget ≤ 1000
  /-- The administrative token belongs to nobody. -/
  admin : ∀ token, deployment.service.adminToken = some token →
    deployment.service.identities.lookup token = none
  /-- Waiting times were checked. -/
  waits : ∀ clientClass, millisecond ≤ deployment.queueSettings.forClass clientClass ∧
    deployment.queueSettings.forClass clientClass ≤ 3600000 * millisecond

theorem wellFormed_ofService {serviceId : String} {operations : List Operation}
    {credentials : List Credential} {registry : Registry} (authenticator : Bool)
    (upstreamUrl : Option String) (named : identifier serviceId.toList = true)
    (sound : OperationsSound operations)
    (registered : Registry.ofCredentials (operations.map Operation.name) credentials =
      .ok registry) :
    (ofService { serviceId, operations, identities := registry.identities, authenticator
                 adminToken := none } registry upstreamUrl).WellFormed := by
  have known := Registry.sound_ofCredentials registered
  constructor
  · exact named
  · exact sound
  · exact known.distinct
  · exact known.named
  · exact known.granted
  · intro left member right other
    exact known.shared member other
  · intro entry member
    exact known.maximum member
  · nofun
  · intro clientClass
    exact QueueSettings.default_bounded clientClass

theorem wellFormed_native {serviceId : String} {natives : List NativeOperation}
    {credentials : List Credential} {deployment : Deployment} (authenticator : Bool)
    (built : native serviceId natives credentials = .ok deployment) :
    { deployment with service := { deployment.service with authenticator } }.WellFormed := by
  unfold native at built
  split at built
  · cases built
  rename_i operations accepted
  split at built
  · cases built
  rename_i registry registered
  cases built
  obtain ⟨named, sound⟩ := nativeOperations_sound accepted
  exact wellFormed_ofService authenticator none named sound registered

theorem wellFormed_fromManifest {manifest : Manifest} {origin : Except String String}
    {read : String → Except VarError String} {deployment : Deployment}
    (built : fromManifest manifest origin read = .ok deployment) : deployment.WellFormed := by
  unfold fromManifest at built
  split at built
  · cases built
  rename_i parsed accepted
  obtain ⟨rfl, named, checked⟩ := Manifest.parse_eq_ok accepted
  split at built
  · cases built
  rename_i credentials resolved
  split at built
  · cases built
  · cases built
  rename_i registry origin registered
  cases built
  exact wellFormed_ofService false (some origin) named (Manifest.operationsSound checked) registered

/-- Every constructor promises it. -/
theorem Constructed.wellFormed {deployment : Deployment} (constructed : Constructed deployment) :
    deployment.WellFormed := by
  cases constructed with
  | native built => exact wellFormed_native deployment.service.authenticator built
  | nativeAuthenticated built =>
      unfold Deployment.nativeAuthenticated at built
      cases made : Deployment.native _ _ _ with
      | error error => rw [made] at built; cases built
      | ok deployment =>
          rw [made] at built
          cases built
          exact wellFormed_native true made
  | fromManifest built => exact wellFormed_fromManifest built

/-- The host cannot break the promise. -/
theorem Configured.wellFormed {initial deployment : Deployment}
    (configured : Configured initial deployment) (known : initial.WellFormed) :
    deployment.WellFormed := by
  induction configured with
  | refl => exact known
  | withAdminToken configured built known =>
      unfold Deployment.withAdminToken at built
      split at built
      · cases built
      split at built
      · cases built
      rename_i unknown
      cases built
      refine { known with admin := ?_ }
      rintro token ⟨⟩
      exact Option.not_isSome_iff_eq_none.mp unknown
  | withRuntimeSettings configured built known =>
      unfold Deployment.withRuntimeSettings at built
      split at built
      · cases built
      · cases built
        exact { known with }
  | withQueueSettings configured built known =>
      unfold Deployment.withQueueSettings at built
      split at built
      · cases built
      rename_i bounded
      cases built
      refine { known with waits := ?_ }
      intro clientClass
      simp only [List.any_cons, List.any_nil, Bool.or_false, Bool.or_eq_true, not_or,
        Bool.not_eq_true, Bool.not_eq_false', Bool.and_eq_true,
        decide_eq_true_eq] at bounded
      cases clientClass with
      | agent => exact bounded.2.1
      | interactive => exact bounded.1.1
  | withSchedulerMode mode configured known => exact { known with }

theorem Accepted.wellFormed {deployment : Deployment} (accepted : deployment.Accepted) :
    deployment.WellFormed := by
  obtain ⟨initial, constructed, configured⟩ := accepted
  exact configured.wellFormed constructed.wellFormed

/-- The service is the one the constructor returned, up to its administrative token. -/
theorem Configured.service {initial deployment : Deployment}
    (configured : Configured initial deployment) :
    ∃ adminToken, deployment.service = { initial.service with adminToken } := by
  induction configured with
  | refl => exact ⟨initial.service.adminToken, rfl⟩
  | withAdminToken configured built same =>
      unfold Deployment.withAdminToken at built
      split at built
      · cases built
      split at built
      · cases built
      cases built
      obtain ⟨adminToken, same⟩ := same
      exact ⟨_, by rw [same]⟩
  | withRuntimeSettings configured built same =>
      unfold Deployment.withRuntimeSettings at built
      split at built
      · cases built
      · cases built
        exact same
  | withQueueSettings configured built same =>
      unfold Deployment.withQueueSettings at built
      split at built
      · cases built
      · cases built
        exact same
  | withSchedulerMode mode configured same => exact same

/-- Manifests only map operations, and their credentials are bearer tokens. -/
theorem mapped_fromManifest {manifest : Manifest} {origin : Except String String}
    {read : String → Except VarError String} {deployment : Deployment}
    (built : fromManifest manifest origin read = .ok deployment) :
    deployment.service.authenticator = false ∧
      ∀ operation ∈ deployment.service.operations, operation.native = none := by
  unfold fromManifest at built
  split at built
  · cases built
  rename_i parsed accepted
  split at built
  · cases built
  split at built
  · cases built
  · cases built
  cases built
  refine ⟨rfl, ?_⟩
  intro operation member
  obtain ⟨mapped, listed, rfl⟩ := List.mem_map.mp member
  rfl

end Deployment

end AiProtocol
