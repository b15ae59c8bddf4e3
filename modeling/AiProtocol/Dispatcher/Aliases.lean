import Mathlib.Data.List.Nodup
import Mathlib.Data.List.Perm.Subperm
import AiProtocol.Client.Policy
import AiProtocol.Dispatcher.Routes
import AiProtocol.Gateway.Consistency
import AiProtocol.Gateway.Mounting

/-!
# Names and paths as aliases

The gateway keeps the names and the paths of its operations apart, the dispatcher finds both in one
table.  A service can be dispatched exactly if no operation is named like the path of another one.
-/

namespace AiProtocol

open Dispatcher

/-- The lists of operations which the gateway accepts. -/
inductive Publishable : List Operation → Prop
  | manifest {manifest parsed : Manifest} (accepted : manifest.parse = .ok parsed) :
      Publishable parsed.service
  | native {serviceId : String} {natives : List NativeOperation} {operations : List Operation}
      (accepted : nativeOperations serviceId natives = .ok operations) : Publishable operations

theorem Publishable.sound {operations : List Operation} (publishable : Publishable operations) :
    OperationsSound operations := by
  cases publishable with
  | manifest accepted =>
      obtain ⟨rfl, -, checked⟩ := Manifest.parse_eq_ok accepted
      exact Manifest.operationsSound checked
  | native accepted => exact (nativeOperations_sound accepted).2

/-- An operation as discovery lists it. -/
def Operation.discovered (operation : Operation) : OperationRoute where
  name := operation.name
  method := "POST"
  path := operation.path

/-- The path of an operation without its slash. -/
def Operation.target (operation : Operation) : String :=
  operation.discovered.target

private theorem safeComponent_of_identifier {value : List Char} (valid : identifier value = true) :
    safeComponent value = true := by
  simpa [identifier, safeComponent, or_assoc] using valid

private theorem wellFormed_discovered {operation : Operation}
    (named : identifier operation.name.toList = true) (routed : route operation.path = true) :
    operation.discovered.WellFormed where
  named := safeComponent_of_identifier named
  posted := rfl
  safe := by
    unfold route at routed
    unfold OperationRoute.safePath Operation.discovered
    split at routed
    · rename_i path listed
      simp only [listed]
      exact List.all_eq_true.mpr fun segment member =>
        safeComponent_of_identifier (List.all_eq_true.mp routed segment member)
    · cases routed

/-! ## Discovery documents -/

/-- `OperationRoute`, as the deserializer reads it. -/
def OperationRoute.ofJson (value : Json) : Option OperationRoute := do
  let name ← (value.get "name").bind Json.asStr
  let method ← (value.get "method").bind Json.asStr
  let path ← (value.get "path").bind Json.asStr
  return { name, method, path }

/-- The optional identifier of the service. -/
def serviceIdOfJson (value : Json) : Option (Option String) :=
  match value.get "service_id" with
  | none | some .null => some none
  | some serviceId => serviceId.asStr.map some

/-- `Discovery`, as the deserializer reads it. -/
def Discovery.ofJson (value : Json) : Option Discovery := do
  let policy ← Policy.ofJson value
  let serviceId ← serviceIdOfJson value
  let items ← match value.get "operations" with
    | some (.array items) => some items
    | _ => none
  let operations ← items.mapM OperationRoute.ofJson
  return { policy, serviceId, operations }

private theorem mapM_descriptors (operations : List Operation) :
    (operations.map Operation.descriptor).mapM OperationRoute.ofJson =
      some (operations.map Operation.discovered) := by
  induction operations with
  | nil => rfl
  | cons operation operations induction =>
      rw [List.map_cons, List.mapM_cons, induction]
      rfl

private theorem operations_agentPolicy {service : Service} {queueSettings : QueueSettings}
    {budgets : Budgets} {identity : ClientIdentity} {discovery : Discovery}
    (read : Discovery.ofJson (service.agentPolicy queueSettings budgets identity) =
      some discovery) :
    discovery.operations = (service.listed identity).map Operation.discovered := by
  have listed : Json.get (service.agentPolicy queueSettings budgets identity) "operations" =
      some (.array ((service.listed identity).map Operation.descriptor)) := rfl
  simp only [Discovery.ofJson, listed, Option.bind_eq_bind, Option.bind_eq_some_iff,
    Option.pure_def, Option.some.injEq] at read
  obtain ⟨policy, -, serviceId, -, _, rfl, _, same, rfl⟩ := read
  rw [mapM_descriptors] at same
  exact (Option.some.inj same).symm

/-! ## Collisions -/

/-- No operation is named like the path of another one. -/
def Unambiguous (operations : List Operation) : Prop :=
  ∀ left ∈ operations, ∀ right ∈ operations, right.path = "/" ++ left.name → left = right

/-- The discovery documents with some operations each. -/
def documents (lists : List (List Operation)) : List (List OperationRoute) :=
  lists.map fun list => list.map Operation.discovered

theorem mem_published {lists : List (List Operation)} {entry : String × String} :
    entry ∈ published (documents lists) ↔
      ∃ operation ∈ lists.flatten, entry = (operation.name, operation.target) ∨
        entry = (operation.target, operation.target) := by
  simp only [published, documents, List.mem_map, Set.mem_ofPred_eq, List.mem_flatten]
  constructor
  · rintro ⟨_, ⟨list, member, rfl⟩, _, listed, own⟩
    obtain ⟨operation, inside, rfl⟩ := List.mem_map.mp listed
    exact ⟨operation, ⟨list, member, inside⟩, own⟩
  · rintro ⟨operation, ⟨list, member, inside⟩, own⟩
    exact ⟨_, ⟨list, member, rfl⟩, _, List.mem_map_of_mem inside, own⟩

section Service

variable {operations : List Operation} {lists : List (List Operation)}
variable (sound : OperationsSound operations) (split : ∀ list ∈ lists, list.Subperm operations)

include split in
theorem mem_of_split {operation : Operation} (member : operation ∈ lists.flatten) :
    operation ∈ operations := by
  obtain ⟨list, listed, inside⟩ := List.mem_flatten.mp member
  exact (split list listed).subset inside

include sound

theorem OperationsSound.discovered {operation : Operation} (member : operation ∈ operations) :
    operation.discovered.WellFormed :=
  wellFormed_discovered (sound.named operation member)
    (route_of_operationPath (sound.routed operation member))

theorem OperationsSound.path {operation : Operation} (member : operation ∈ operations) :
    operation.path = "/" ++ operation.target := by
  obtain ⟨path, -⟩ := OperationRoute.target_of_safePath (sound.discovered member).safe
  refine String.toList_inj.mp ?_
  rw [show operation.path = operation.discovered.path from rfl, path]
  simp [Operation.target]

include split

theorem functional_published :
    Table.Functional (published (documents lists)) ↔ Unambiguous lists.flatten := by
  have path {operation : Operation} (member : operation ∈ lists.flatten) :=
    sound.path (mem_of_split split member)
  constructor
  · intro function left listed right listed' same
    have target : right.target = left.name := by
      simpa using (path listed').symm.trans same
    have found : left.target = right.target :=
      function (mem_published.mpr ⟨left, listed, .inl rfl⟩)
        (mem_published.mpr ⟨right, listed', .inr (by rw [target])⟩)
    refine List.inj_on_of_nodup_map sound.paths (mem_of_split split listed)
      (mem_of_split split listed') ?_
    rw [path listed, path listed', found]
  · intro unambiguous key value value' first second
    obtain ⟨left, listed, own⟩ := mem_published.mp first
    obtain ⟨right, listed', own'⟩ := mem_published.mp second
    rcases own with own | own <;> rcases own' with own' | own' <;>
      obtain ⟨rfl, rfl⟩ := Prod.mk.inj own <;> obtain ⟨same, rfl⟩ := Prod.mk.inj own'
    · rw [List.inj_on_of_nodup_map sound.names (mem_of_split split listed)
        (mem_of_split split listed') same]
    · rw [unambiguous left listed right listed' (by rw [path listed', same])]
    · rw [unambiguous right listed' left listed (by rw [path listed, same])]
    · exact same

private theorem valid_documents : ∀ document ∈ documents lists,
    (∀ operation ∈ document, operation.WellFormed) ∧
      (document.map OperationRoute.name).Nodup := by
  intro document member
  obtain ⟨list, listed, rfl⟩ := List.mem_map.mp member
  constructor
  · intro route inside
    obtain ⟨operation, selected, rfl⟩ := List.mem_map.mp inside
    exact sound.discovered ((split list listed).subset selected)
  · rw [List.map_map]
    obtain ⟨selected, permuted, part⟩ := split list listed
    exact (permuted.map _).nodup_iff.mp ((part.map _).nodup sound.names)

end Service

/-- A dispatcher which was initialized by the gateway of a service finds every operation permitted
to one of its credentials by its name, and none of them is named like the path of another one. -/
theorem initialized_service {service : Service} (publishable : Publishable service.operations)
    {parse : String → Option String} {fetch : String → Except String Discovery} {base : String}
    {tokens : List String} {capacity : Nat} {origin : String} {initial : Initial}
    (ready : initialized parse fetch base tokens capacity = .ok (origin, initial))
    {identities : List ClientIdentity}
    (honest : List.Forall₂ (fun token identity => ∀ discovery, fetch token = .ok discovery →
      ∃ queueSettings budgets, Discovery.ofJson
        (service.agentPolicy queueSettings budgets identity) = some discovery) tokens identities) :
    Unambiguous (identities.map service.listed).flatten ∧
      ∀ identity ∈ identities, ∀ operation ∈ service.listed identity,
        initial.routes.lookup operation.name = some operation.target := by
  obtain ⟨-, discoveries, fetched, added⟩ := initialized_eq_ok ready
  have same : discoveries.map Discovery.operations = documents (identities.map service.listed) := by
    clear added ready
    induction fetched generalizing identities with
    | nil =>
        cases honest
        rfl
    | cons first rest induction =>
        cases honest with
        | cons own honest =>
            obtain ⟨queueSettings, budgets, read⟩ := own _ first
            rw [List.map_cons, operations_agentPolicy read, induction honest]
            rfl
  rw [same] at added
  have split : ∀ list ∈ identities.map service.listed, list.Subperm service.operations := by
    intro list member
    obtain ⟨identity, -, rfl⟩ := List.mem_map.mp member
    exact List.filter_sublist.subperm
  refine ⟨(functional_published publishable.sound split).mp (holds_published added).functional,
    fun identity member operation listed => ?_⟩
  exact (lookup_published added (List.mem_map_of_mem (List.mem_map_of_mem member))
    (List.mem_map_of_mem listed)).1

/-- A service can be dispatched exactly if no published operation is named like the path of another
one.  Otherwise the routes are refused as ambiguous.  And where the routes are accepted, every name
stands for the path of its own operation.  So it is for a dispatcher which the gateway of the
service initialized. -/
theorem dispatchable {operations : List Operation} (publishable : Publishable operations)
    {lists : List (List Operation)} (split : ∀ list ∈ lists, list.Subperm operations) :
    ((∃ routes, addAll [] (documents lists) = .ok routes) ↔ Unambiguous lists.flatten) ∧
    (∀ error, addAll [] (documents lists) = .error error →
      error = "Ambiguous discovery route") ∧
    (∀ routes, addAll [] (documents lists) = .ok routes →
      ∀ operation ∈ lists.flatten, routes.lookup operation.name = some operation.target ∧
        operation.path = "/" ++ operation.target) ∧
    ∀ service : Service, service.operations = operations →
      ∀ parse fetch base tokens capacity origin initial,
        initialized parse fetch base tokens capacity = .ok (origin, initial) →
      ∀ identities, List.Forall₂ (fun token identity => ∀ discovery,
        fetch token = .ok discovery → ∃ queueSettings budgets, Discovery.ofJson
          (service.agentPolicy queueSettings budgets identity) = some discovery) tokens identities →
      Unambiguous (identities.map service.listed).flatten ∧
        ∀ identity ∈ identities, ∀ operation ∈ service.listed identity,
          initial.routes.lookup operation.name = some operation.target := by
  have sound := publishable.sound
  have valid := valid_documents sound split
  refine ⟨?_, fun error refused => addAll_error refused valid, fun routes added operation member =>
    ⟨?_, sound.path (mem_of_split split member)⟩, ?_⟩
  · rw [addAll_empty_isOk, functional_published sound split]
    exact and_iff_right valid
  · obtain ⟨list, listed, inside⟩ := List.mem_flatten.mp member
    exact (lookup_published added (List.mem_map_of_mem listed) (List.mem_map_of_mem inside)).1
  · rintro service rfl parse fetch base tokens capacity origin initial ready identities honest
    exact initialized_service publishable ready honest

def crossing : Manifest where
  formatVersion := 1
  serviceId := "crossing"
  operations :=
    [{ name := "search", description := "", path := "/page", upstreamPath := "/search"
       parameters := [], parameters_distinct := .nil },
     { name := "page", description := "", path := "/pages", upstreamPath := "/pages"
       parameters := [], parameters_distinct := .nil }]
  credentials :=
    [{ tokenEnv := "TOKEN", required := true, principalId := "owner", clientClass := .agent
       operations := ["search", "page"], maxOutstanding := 2 }]

theorem dispatchable_crossing : crossing.parse = .ok crossing ∧
    addAll [] (documents [crossing.service]) = .error "Ambiguous discovery route" ∧
      addAll [] (documents [crossing.service.drop 1, crossing.service.take 1]) =
        .error "Ambiguous discovery route" :=
  ⟨rfl, rfl, rfl⟩

theorem dispatchable_sample : ∃ routes,
    addAll [] (documents [crossing.service.take 1, crossing.service.take 1]) = .ok routes ∧
      routes.lookup "search" = some "page" := by
  have accepted : crossing.parse = .ok crossing := rfl
  have split : ∀ list ∈ [crossing.service.take 1, crossing.service.take 1],
      list.Subperm crossing.service := by
    simp [(List.take_sublist 1 crossing.service).subperm]
  obtain ⟨succeeds, -, resolves, -⟩ := dispatchable (.manifest accepted) split
  have single (operation) (member : operation ∈
      [crossing.service.take 1, crossing.service.take 1].flatten) :
      some operation = crossing.service.head? := by
    rcases List.mem_pair.mp member with rfl | rfl <;> rfl
  have unambiguous : Unambiguous [crossing.service.take 1, crossing.service.take 1].flatten :=
    fun left listed right listed' _ =>
      Option.some.inj ((single left listed).trans (single right listed').symm)
  obtain ⟨routes, added⟩ := succeeds.mpr unambiguous
  exact ⟨routes, added, (resolves routes added _ List.mem_cons_self).1⟩

end AiProtocol
