import AiProtocol.Gateway.Consistency
import AiProtocol.Library.Table

/-!
# Shared budgets

Which credentials are accepted, and what they become: every token keeps its grants, tokens of one
owner and class share one budget, and the order in which credentials are given does not matter.
-/

namespace AiProtocol

/-- What credentials must be together. -/
structure Consistent (operations : List String) (credentials : List Credential) : Prop where
  /-- Each is valid. -/
  valid : ∀ credential ∈ credentials, credential.Valid operations
  /-- The tokens are distinct. -/
  distinct : (credentials.map Credential.token).Nodup
  /-- Credentials of one owner and class have one ceiling. -/
  agree : ∀ left ∈ credentials, ∀ right ∈ credentials, left.owner = right.owner →
    left.maxOutstanding = right.maxOutstanding

private theorem Consistent.perm {operations : List String} {left right : List Credential}
    (consistent : Consistent operations left) (same : left.Perm right) :
    Consistent operations right where
  valid credential member := consistent.valid credential (same.mem_iff.mpr member)
  distinct := (same.map Credential.token).nodup_iff.mp consistent.distinct
  agree first member second other :=
    consistent.agree first (same.mem_iff.mpr member) second (same.mem_iff.mpr other)

theorem Consistent.front {operations : List String} {front back : List Credential}
    (consistent : Consistent operations (front ++ back)) : Consistent operations front where
  valid credential member := consistent.valid credential (List.mem_append_left _ member)
  distinct := by
    have distinct := consistent.distinct
    rw [List.map_append, List.nodup_append] at distinct
    exact distinct.1
  agree first member second other := consistent.agree first (List.mem_append_left _ member) second
    (List.mem_append_left _ other)

private theorem consistent_concat {operations : List String} {credentials : List Credential}
    {credential : Credential} :
    Consistent operations (credentials ++ [credential]) ↔
      Consistent operations credentials ∧ credential.Valid operations ∧
        credential.token ∉ credentials.map Credential.token ∧
          ∀ earlier ∈ credentials, earlier.owner = credential.owner →
            earlier.maxOutstanding = credential.maxOutstanding := by
  constructor
  · intro consistent
    refine ⟨consistent.front, consistent.valid credential (by simp), ?_, ?_⟩
    · have distinct := consistent.distinct
      rw [List.map_append, List.nodup_append] at distinct
      exact fun member => distinct.2.2 _ member _ (by simp) rfl
    · exact fun earlier member => consistent.agree earlier (List.mem_append_left _ member)
        credential (by simp)
  · rintro ⟨consistent, valid, fresh, agree⟩
    constructor
    · intro other member
      rcases List.mem_append.mp member with earlier | added
      · exact consistent.valid other earlier
      · obtain rfl := List.mem_singleton.mp added
        exact valid
    · rw [List.map_append, List.nodup_append]
      refine ⟨consistent.distinct, by simp, ?_⟩
      rintro token member other added rfl
      obtain rfl : token = credential.token := by simpa using added
      exact fresh member
    · intro left member right other same
      rcases List.mem_append.mp member with earlier | added <;>
        rcases List.mem_append.mp other with earlier' | added'
      · exact consistent.agree left earlier right earlier' same
      · obtain rfl := List.mem_singleton.mp added'
        exact agree left earlier same
      · obtain rfl := List.mem_singleton.mp added
        exact (agree right earlier' same.symm).symm
      · rw [List.mem_singleton.mp added, List.mem_singleton.mp added']

namespace Registry

/-- The budgets as they are created. -/
def start (registry : Registry) : Budgets :=
  fun budget => .new (registry.maximum budget)

/-- A registry of credentials has their identities in their order, and one budget for each owner and
class. -/
structure Records (credentials : List Credential) (registry : Registry) : Prop where
  /-- The identities. -/
  identities : registry.identities = credentials.map fun credential =>
    (credential.token, registry.identity credential)
  /-- No owner has two budgets. -/
  owners : (registry.budgets.map Prod.fst).Nodup
  /-- The budgets. -/
  budgets : ∀ owner maximum, (owner, maximum) ∈ registry.budgets ↔
    ∃ credential ∈ credentials, credential.owner = owner ∧ credential.maxOutstanding = maximum

theorem Records.owner_mem {credentials : List Credential} {registry : Registry}
    (records : Records credentials registry) {credential : Credential}
    (member : credential ∈ credentials) :
    credential.owner ∈ registry.budgets.map Prod.fst :=
  List.mem_map.mpr ⟨_, (records.budgets _ _).mpr ⟨credential, member, rfl, rfl⟩, rfl⟩

/-- A budget found agrees with the credentials before it. -/
theorem Records.lookup_entry {credentials : List Credential} {registry : Registry}
    (records : Records credentials registry) (credential : Credential) :
    (registry.entry credential.owner credential.maxOutstanding).lookup credential.owner =
        some credential.maxOutstanding ↔
      ∀ earlier ∈ credentials, earlier.owner = credential.owner →
        earlier.maxOutstanding = credential.maxOutstanding := by
  have budget (maximum : Nat) : registry.budgets.lookup credential.owner = some maximum ↔
      ∃ earlier ∈ credentials, earlier.owner = credential.owner ∧
        earlier.maxOutstanding = maximum :=
    (Table.lookup_eq_some records.owners).trans (records.budgets _ _)
  cases found : registry.budgets.lookup credential.owner with
  | some maximum =>
      simp only [entry, found, Option.isSome_some, ↓reduceIte]
      obtain ⟨first, member, same, ceiling⟩ := (budget maximum).mp found
      constructor
      · intro equal earlier listed owner
        have again := (budget earlier.maxOutstanding).mpr ⟨earlier, listed, owner, rfl⟩
        exact Option.some.inj (again.symm.trans (found.trans equal))
      · intro agree
        rw [← ceiling, agree first member same]
  | none =>
      simp only [entry, found, Option.isSome_none, Bool.false_eq_true, ↓reduceIte,
        List.lookup_append, List.lookup_cons_self, Option.none_or, true_iff]
      intro earlier listed owner
      have again := (budget earlier.maxOutstanding).mpr ⟨earlier, listed, owner, rfl⟩
      rw [found] at again
      cases again

private theorem idxOf_entry {registry : Registry} {owner other : Owner} {maximum : Nat}
    (known : other ∈ registry.budgets.map Prod.fst ∨ other = owner) :
    ((registry.entry owner maximum).map Prod.fst).idxOf other =
      (registry.budgets.map Prod.fst).idxOf other := by
  rw [owners_entry]
  split
  · rfl
  · rename_i absent
    by_cases present : other ∈ registry.budgets.map Prod.fst
    · rw [List.idxOf_append_of_mem present]
    · obtain rfl := known.resolve_left present
      rw [List.idxOf_append_of_notMem present, List.idxOf_eq_length present]
      simp

theorem Records.register {operations : List String} {credentials : List Credential}
    {registry after : Registry} {credential : Credential} (records : Records credentials registry)
    (registered : registry.register operations credential = .ok after) :
    Records (credentials ++ [credential]) after := by
  obtain ⟨-, same, -, rfl⟩ := register_eq_ok.mp registered
  have agree := (records.lookup_entry credential).mp same
  constructor
  · have identity (other : Credential) (known : other ∈ credentials ∨ other = credential)
        (identities : List (String × ClientIdentity)) : registry.identity other =
          Registry.identity
            { identities, budgets := registry.entry credential.owner credential.maxOutstanding }
            other := by
      simp only [Registry.identity]
      rw [idxOf_entry]
      exact known.imp records.owner_mem (congrArg Credential.owner)
    have earlier : registry.identities = credentials.map fun other =>
        (other.token, Registry.identity
          { identities := registry.identities ++ [(credential.token, registry.identity credential)]
            budgets := registry.entry credential.owner credential.maxOutstanding } other) := by
      refine records.identities.trans (List.map_congr_left fun other member => ?_)
      rw [identity other (.inl member)]
    rw [List.map_append, List.map_singleton, ← identity credential (.inr rfl), ← earlier]
  · exact nodup_entry records.owners _ _
  · intro owner maximum
    simp only [List.mem_append, List.mem_singleton]
    constructor
    · intro member
      rcases entry_mem member with earlier | added
      · obtain ⟨other, listed, same, ceiling⟩ := (records.budgets owner maximum).mp earlier
        exact ⟨other, .inl listed, same, ceiling⟩
      · cases added
        exact ⟨credential, .inr rfl, rfl, rfl⟩
    · rintro ⟨other, listed | rfl, rfl, rfl⟩
      · have earlier := (records.budgets _ _).mpr ⟨other, listed, rfl, rfl⟩
        unfold entry
        split
        · exact earlier
        · exact List.mem_append_left _ earlier
      · exact (Table.lookup_eq_some (nodup_entry records.owners _ _)).mp same

theorem Records.registerAll {operations : List String} {earlier : List Credential}
    {registry : Registry} (records : Records earlier registry)
    (consistent : Consistent operations earlier) (later : List Credential) :
    (∀ after, registry.registerAll operations later = .ok after →
      Records (earlier ++ later) after) ∧
    ((∃ after, registry.registerAll operations later = .ok after) ↔
      Consistent operations (earlier ++ later)) := by
  induction later generalizing earlier registry with
  | nil =>
      simp only [Registry.registerAll, Except.ok.injEq, List.append_nil]
      exact ⟨by rintro after rfl; exact records, fun _ => consistent, fun _ => ⟨_, rfl⟩⟩
  | cons credential rest induction =>
      rw [List.append_cons]
      have accepts : (∃ after, registry.register operations credential = .ok after) ↔
          Consistent operations (earlier ++ [credential]) := by
        have tokens : registry.identities.map Prod.fst = earlier.map Credential.token := by
          rw [records.identities, List.map_map]
          rfl
        simp only [register_eq_ok, consistent_concat, records.lookup_entry, tokens]
        tauto
      cases registered : registry.register operations credential with
      | error error =>
          simp only [Registry.registerAll, registered, reduceCtorEq, false_implies, implies_true,
            exists_false, false_iff, true_and]
          intro all
          obtain ⟨after, accepted⟩ := accepts.mpr all.front
          rw [registered] at accepted
          cases accepted
      | ok after =>
          simp only [Registry.registerAll, registered]
          exact induction (records.register registered) (accepts.mp ⟨after, registered⟩)

private theorem records_nil : Records [] { identities := [], budgets := [] } where
  identities := rfl
  owners := .nil
  budgets := by simp

theorem records_ofCredentials {operations : List String} {credentials : List Credential}
    {registry : Registry} (accepted : ofCredentials operations credentials = .ok registry) :
    Records credentials registry := by
  unfold ofCredentials at accepted
  split at accepted
  · cases accepted
  · rename_i registered
    split at accepted
    · cases accepted
    · cases accepted
      have none : Consistent operations [] := ⟨by simp, .nil, by simp⟩
      exact (records_nil.registerAll none credentials).1 _ registered

/-- Credentials are accepted if they are consistent and there is one. -/
theorem ofCredentials_isOk {operations : List String} {credentials : List Credential} :
    (∃ registry, ofCredentials operations credentials = .ok registry) ↔
      credentials ≠ [] ∧ Consistent operations credentials := by
  have none : Consistent operations [] := ⟨by simp, .nil, by simp⟩
  obtain ⟨records, accepts⟩ := records_nil.registerAll none credentials
  rw [List.nil_append] at accepts records
  rw [← accepts]
  unfold ofCredentials
  cases registered : registerAll operations ⟨[], []⟩ credentials with
  | error error => simp
  | ok registry =>
      have listed := (records registry registered).identities
      cases credentials with
      | nil => simp [listed]
      | cons first rest => simp [listed]

/-- A token is found with the identity of its credential. -/
theorem Records.lookup {credentials : List Credential} {registry : Registry}
    (records : Records credentials registry)
    (distinct : (credentials.map Credential.token).Nodup) {token : String}
    {identity : ClientIdentity} :
    registry.identities.lookup token = some identity ↔
      ∃ credential ∈ credentials, credential.token = token ∧
        registry.identity credential = identity := by
  have tokens : registry.identities.map Prod.fst = credentials.map Credential.token := by
    rw [records.identities, List.map_map]
    rfl
  rw [Table.lookup_eq_some (tokens ▸ distinct), records.identities, List.mem_map]
  simp only [Prod.mk.injEq]

theorem idxOf_budget {budgets : List (Owner × Nat)} (distinct : (budgets.map Prod.fst).Nodup)
    {index : Nat} (inside : index < budgets.length) :
    (budgets.map Prod.fst).idxOf budgets[index].1 = index := by
  have inside' : index < (budgets.map Prod.fst).length := by simpa using inside
  have same : (budgets.map Prod.fst)[index] = budgets[index].1 := List.getElem_map ..
  rw [← same]
  exact distinct.idxOf_getElem _ _

/-- The budget of a credential starts with its ceiling. -/
theorem Records.start {credentials : List Credential} {registry : Registry}
    (records : Records credentials registry) {credential : Credential}
    (member : credential ∈ credentials) :
    registry.start (registry.identity credential).budget = .new credential.maxOutstanding := by
  have listed := (records.budgets _ _).mpr ⟨credential, member, rfl, rfl⟩
  obtain ⟨index, inside, found⟩ := List.getElem_of_mem listed
  have position : (registry.identity credential).budget = index := by
    have owner : registry.budgets[index].1 = credential.owner := by rw [found]
    rw [Registry.identity, ← owner]
    exact idxOf_budget records.owners inside
  rw [Registry.start, Registry.maximum, position, List.getElem?_eq_getElem inside, found]
  rfl

/-- Identities share a budget exactly if they have the same owner and class. -/
theorem Records.shared {credentials : List Credential} {registry : Registry}
    (records : Records credentials registry) {left right : Credential}
    (member : left ∈ credentials) :
    (registry.identity left).budget = (registry.identity right).budget ↔
      left.owner = right.owner :=
  List.idxOf_inj (records.owner_mem member)

/-- Another registry is the same but for the names of its budgets. -/
def Renamed (left right : Registry) : Prop :=
  ∃ rename : BudgetRef → BudgetRef,
    (∀ first < left.budgets.length, ∀ second < left.budgets.length,
      rename first = rename second → first = second) ∧
    (∀ budget < left.budgets.length, right.start (rename budget) = left.start budget) ∧
    ∀ token, right.identities.lookup token = (left.identities.lookup token).map fun identity =>
      { identity with budget := rename identity.budget }

theorem Records.exists_credential {credentials : List Credential} {registry : Registry}
    (records : Records credentials registry) {budget : BudgetRef}
    (inside : budget < registry.budgets.length) :
    ∃ credential ∈ credentials, (registry.identity credential).budget = budget := by
  have listed : (registry.budgets[budget].1, registry.budgets[budget].2) ∈ registry.budgets :=
    List.getElem_mem inside
  obtain ⟨credential, member, owner, -⟩ := (records.budgets _ _).mp listed
  refine ⟨credential, member, ?_⟩
  rw [Registry.identity, owner]
  exact idxOf_budget records.owners inside

theorem Records.renamed {left right : List Credential} {registry other : Registry}
    (records : Records left registry) (records' : Records right other) (same : left.Perm right)
    (distinct : (left.map Credential.token).Nodup) : registry.Renamed other := by
  have distinct' : (right.map Credential.token).Nodup :=
    (same.map Credential.token).nodup_iff.mp distinct
  -- A budget is renamed to the budget of its owner.
  let rename : BudgetRef → BudgetRef := fun budget =>
    ((registry.budgets.map Prod.fst)[budget]?).elim 0 (other.budgets.map Prod.fst).idxOf
  have renames (credential : Credential) (member : credential ∈ left) :
      rename (registry.identity credential).budget = (other.identity credential).budget := by
    simp only [rename, Registry.identity, List.getElem?_idxOf (records.owner_mem member),
      Option.elim_some]
  refine ⟨rename, ?_, ?_, fun token => Option.ext fun identity => ?_⟩
  · intro first inside second inside' equal
    obtain ⟨credential, member, rfl⟩ := records.exists_credential inside
    obtain ⟨credential', member', rfl⟩ := records.exists_credential inside'
    rw [renames _ member, renames _ member',
      records'.shared (same.mem_iff.mp member)] at equal
    exact (records.shared member).mpr equal
  · intro budget inside
    obtain ⟨credential, member, rfl⟩ := records.exists_credential inside
    rw [renames _ member, records.start member, records'.start (same.mem_iff.mp member)]
  · rw [records'.lookup distinct', Option.map_eq_some_iff]
    constructor
    · rintro ⟨credential, member, rfl, rfl⟩
      have listed := same.mem_iff.mpr member
      refine ⟨registry.identity credential, ?_, ?_⟩
      · exact (records.lookup distinct).mpr ⟨credential, listed, rfl, rfl⟩
      · rw [renames _ listed]
        rfl
    · rintro ⟨known, found, rfl⟩
      obtain ⟨credential, member, rfl, rfl⟩ := (records.lookup distinct).mp found
      refine ⟨credential, same.mem_iff.mp member, rfl, ?_⟩
      rw [renames _ member]
      rfl

/-- Whatever order the identities of a service stand in, `agent_budget` finds the budget of the
agents of an owner. -/
theorem Records.agentBudget {credentials : List Credential} {registry : Registry}
    (records : Records credentials registry) {service : Service}
    (same : service.identities.Perm registry.identities) (principalId : String)
    (budget : BudgetRef) :
    service.agentBudget principalId = some budget ↔
      ∃ credential ∈ credentials, credential.owner = (principalId, .agent) ∧
        (registry.identity credential).budget = budget := by
  have listed (entry : String × ClientIdentity) : entry ∈ service.identities ↔
      ∃ credential ∈ credentials, (credential.token, registry.identity credential) = entry := by
    rw [same.mem_iff, records.identities, List.mem_map]
  have agents (credential : Credential) :
      ((registry.identity credential).principalId = principalId &&
        (registry.identity credential).clientClass = .agent) = true ↔
      credential.owner = (principalId, .agent) := by
    rw [Bool.and_eq_true, decide_eq_true_iff, decide_eq_true_iff]
    exact (Prod.mk.injEq _ _ _ _).symm.to_iff
  rw [Service.agentBudget, Option.map_eq_some_iff]
  constructor
  · rintro ⟨entry, found, rfl⟩
    obtain ⟨credential, member, rfl⟩ := (listed entry).mp (List.mem_of_find?_eq_some found)
    have agent := List.find?_some found
    exact ⟨credential, member, (agents credential).mp agent, rfl⟩
  · rintro ⟨credential, member, owner, rfl⟩
    have exists_agent : (service.identities.find? fun entry =>
        entry.2.principalId = principalId && entry.2.clientClass = .agent).isSome := by
      rw [List.find?_isSome]
      exact ⟨_, (listed _).mpr ⟨credential, member, rfl⟩, (agents credential).mpr owner⟩
    obtain ⟨entry, found⟩ := Option.isSome_iff_exists.mp exists_agent
    refine ⟨entry, found, ?_⟩
    obtain ⟨first, member', rfl⟩ := (listed entry).mp (List.mem_of_find?_eq_some found)
    have agent := List.find?_some found
    exact (records.shared member').mpr (((agents first).mp agent).trans owner.symm)

/-- Budget sharing at configuration.  Credentials are accepted exactly if they are consistent and
there is one.  Then every token keeps the grants of its credential, with a budget which starts at
its ceiling, and no other token is known; tokens share a budget exactly if they have the same owner
and class; in another order the credentials make the same registry, but for the names of the
budgets; and `agent_budget` finds the budget of the agents of an owner in every order of the map. -/
theorem budget_sharing (operations : List String) (credentials : List Credential) :
    ((∃ registry, ofCredentials operations credentials = .ok registry) ↔
      credentials ≠ [] ∧ Consistent operations credentials) ∧
    ∀ registry, ofCredentials operations credentials = .ok registry →
      (∀ token, (registry.identities.lookup token).isSome ↔
        token ∈ credentials.map Credential.token) ∧
      (∀ credential ∈ credentials, ∃ identity,
        registry.identities.lookup credential.token = some identity ∧
          identity.owner = credential.owner ∧ identity.operations = credential.operations ∧
          registry.start identity.budget =
            { maximum := credential.maxOutstanding, outstanding := 0, revision := 1 }) ∧
      (∀ left identity right identity',
        registry.identities.lookup left = some identity →
        registry.identities.lookup right = some identity' →
          (identity.budget = identity'.budget ↔ identity.owner = identity'.owner)) ∧
      (∀ permuted, credentials.Perm permuted → ∃ registry',
        ofCredentials operations permuted = .ok registry' ∧ registry.Renamed registry') ∧
      ∀ service : Service, service.identities.Perm registry.identities → ∀ principalId,
        (service.agentBudget principalId = none ↔
          ∀ credential ∈ credentials, credential.owner ≠ (principalId, .agent)) ∧
        ∀ credential ∈ credentials, credential.owner = (principalId, .agent) → ∃ identity,
          registry.identities.lookup credential.token = some identity ∧
            service.agentBudget principalId = some identity.budget := by
  refine ⟨ofCredentials_isOk, fun registry accepted => ?_⟩
  have records := records_ofCredentials accepted
  obtain ⟨some, consistent⟩ := ofCredentials_isOk.mp ⟨registry, accepted⟩
  have known (credential : Credential) (member : credential ∈ credentials) :
      registry.identities.lookup credential.token = .some (registry.identity credential) :=
    (records.lookup consistent.distinct).mpr ⟨credential, member, rfl, rfl⟩
  refine ⟨fun token => ?_, fun credential member => ?_, ?_, fun permuted same => ?_, ?_⟩
  · simp only [Option.isSome_iff_exists, records.lookup consistent.distinct, List.mem_map]
    constructor
    · rintro ⟨identity, credential, member, listed, -⟩
      exact ⟨credential, member, listed⟩
    · rintro ⟨credential, member, listed⟩
      exact ⟨_, credential, member, listed, rfl⟩
  · exact ⟨_, known credential member, rfl, rfl, records.start member⟩
  · intro left identity right identity' found found'
    obtain ⟨credential, member, -, rfl⟩ := (records.lookup consistent.distinct).mp found
    obtain ⟨credential', -, -, rfl⟩ := (records.lookup consistent.distinct).mp found'
    exact records.shared member
  · obtain ⟨registry', accepted'⟩ : ∃ registry',
        ofCredentials operations permuted = .ok registry' :=
      ofCredentials_isOk.mpr ⟨fun none => some (List.perm_nil.mp (none ▸ same)),
        consistent.perm same⟩
    have records' := records_ofCredentials accepted'
    exact ⟨registry', accepted', records.renamed records' same consistent.distinct⟩
  · intro service same principalId
    have found := records.agentBudget same principalId
    refine ⟨?_, fun credential member owner => ?_⟩
    · rw [Option.eq_none_iff_forall_ne_some]
      constructor
      · intro absent credential member owner
        exact absent _ ((found _).mpr ⟨credential, member, owner, rfl⟩)
      · intro others budget present
        obtain ⟨credential, member, owner, -⟩ := (found budget).mp present
        exact others credential member owner
    · exact ⟨_, known credential member, (found _).mpr ⟨credential, member, owner, rfl⟩⟩

/-- One of two credentials of the agents of an owner. -/
def agentCredential (token : String) : Credential where
  token := token
  principalId := "owner"
  clientClass := .agent
  operations := ["search"]
  maxOutstanding := 2

theorem budget_sharing_sample : ∃ registry,
    ofCredentials ["search"] [agentCredential "s", agentCredential "t"] = .ok registry ∧
      ∃ first second, registry.identities.lookup "s" = some first ∧
        registry.identities.lookup "t" = some second ∧ first.budget = second.budget := by
  obtain ⟨-, made⟩ := budget_sharing ["search"] [agentCredential "s", agentCredential "t"]
  obtain ⟨-, -, shared, -⟩ := made _ rfl
  exact ⟨_, rfl, _, _, rfl, rfl, (shared "s" _ "t" _ rfl rfl).mpr rfl⟩

end Registry

end AiProtocol
