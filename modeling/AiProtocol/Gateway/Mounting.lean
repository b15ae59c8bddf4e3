import Mathlib.Data.List.Basic
import AiProtocol.Gateway.Service

/-!
# Mounted routers

A host merges the router of a gateway, or nests it under a literal path.  Nesting strips the mount
from the path the middleware sees, while `OriginalUri` keeps it: `authenticate` and `work` then look
up different paths.
-/

namespace AiProtocol

/-- Where a host mounts the router. -/
structure Mount where
  /-- The path of `nest`, or nothing when the router is merged. -/
  text : List Char
  /-- `nest` takes absolute paths below the root. -/
  literal : text = [] ∨ text.head? = some '/' ∧ 1 < text.length

namespace Mount

def merged : Mount where
  text := []
  literal := .inl rfl

/-- The full path of a request whose path below the mount is known; a slash at the end of the mount
replaces the one at the front of the path. -/
def original (mount : Mount) (path : String) : String :=
  match mount.text.getLast? with
  | none => path
  | some '/' => String.ofList (mount.text ++ path.toList.dropWhile (· = '/'))
  | some _ => String.ofList (mount.text ++ path.toList)

end Mount

namespace Service

/-- The operation `work` finds for a request, by its original path. -/
def found (service : Service) (mount : Mount) (request : HttpRequest) : Option Operation :=
  service.operation (mount.original request.path)

/-- `work` below a mount; nothing means that its `unwrap` panics. -/
def workBelow (service : Service) (mount : Mount) (identity : ClientIdentity)
    (request : HttpRequest) : Option (Decision TaskAction) :=
  match request.params with
  | .error rejection => some (.respond (invalidJson rejection))
  | .ok _ => (service.found mount request).map fun operation => work identity operation request

end Service

private theorem route_front {value : String} (valid : route value = true) :
    ∃ char rest, value.toList = '/' :: char :: rest ∧ char ≠ '/' := by
  unfold route at valid
  split at valid
  · rename_i path listed
    cases path with
    | nil => simp [List.splitOn, identifier] at valid
    | cons char rest =>
        refine ⟨char, rest, listed, ?_⟩
        rintro rfl
        rw [List.splitOn_cons_eq_if_modifyHead] at valid
        simp [identifier] at valid
  · cases valid

theorem route_of_operationPath {value : String} (valid : operationPath value = true) :
    route value = true := by
  simp only [operationPath, Bool.and_eq_true] at valid
  exact valid.1.1.1.1.1

theorem Mount.original_ne {mount : Mount} {path : String} (valid : route path = true)
    (nested : mount.text ≠ []) : mount.original path ≠ path := by
  obtain ⟨char, rest, listed, other⟩ := route_front valid
  have long : 1 < mount.text.length := (mount.literal.resolve_left nested).2
  have longer : path.toList.length < (mount.original path).toList.length := by
    unfold Mount.original
    split
    · rename_i empty
      exact absurd (List.getLast?_eq_none_iff.mp empty) nested
    · have stripped : path.toList.dropWhile (· = '/') = char :: rest := by
        simp [listed, List.dropWhile, other]
      rw [String.toList_ofList, stripped, listed]
      simp only [List.length_append, List.length_cons]
      omega
    · rw [String.toList_ofList, List.length_append]
      omega
  intro same
  rw [same] at longer
  exact Nat.lt_irrefl _ longer

namespace Service

/-- The paths of a service are distinct routes. -/
structure Routable (service : Service) : Prop where
  /-- They are routes. -/
  valid : ∀ operation ∈ service.operations, operationPath operation.path = true
  /-- They are distinct. -/
  distinct : (service.operations.map Operation.path).Nodup

theorem operation_eq_some {service : Service} {path : String} {operation : Operation}
    (found : service.operation path = some operation) :
    operation ∈ service.operations ∧ operation.path = path := by
  constructor
  · exact List.mem_of_find?_eq_some found
  · simpa using List.find?_some found

private theorem found_iff {service : Service} (routable : service.Routable) (mount : Mount)
    {request : HttpRequest} {checked : Operation}
    (routed : service.operation request.path = some checked) :
    service.found mount request = some checked ↔ mount.text = [] := by
  obtain ⟨member, path⟩ := operation_eq_some routed
  constructor
  · intro found
    by_contra nested
    have original : checked.path = mount.original request.path := (operation_eq_some found).2
    rw [path] at original
    have valid : route request.path = true := by
      rw [← path]
      exact route_of_operationPath (routable.valid checked member)
    exact Mount.original_ne valid nested original.symm
  · intro merged
    rw [found, Mount.original, merged]
    exact routed

/-- The checked operation is the one which runs exactly when the router is merged: below a mount the
handler panics or runs another operation. -/
theorem authorized_runs {service : Service} (routable : service.Routable) (mount : Mount)
    {request : HttpRequest} {checked : Operation}
    (routed : service.operation request.path = some checked) :
    (service.found mount request = some checked ↔ mount.text = []) ∧
      ∀ identity params, request.params = .ok params →
        (mount.text = [] →
          service.workBelow mount identity request = some (work identity checked request)) ∧
        (mount.text ≠ [] → service.workBelow mount identity request = none ∨
          ∃ other ∈ service.operations, other.path ≠ checked.path ∧
            service.workBelow mount identity request = some (work identity other request)) := by
  have same := found_iff routable mount routed
  refine ⟨same, fun identity params valid => ⟨fun merged => ?_, fun nested => ?_⟩⟩
  · rw [workBelow, valid, same.mpr merged]
    rfl
  · rw [workBelow, valid]
    cases found : service.found mount request with
    | none => exact .inl rfl
    | some other =>
        obtain ⟨member, original⟩ := operation_eq_some found
        refine .inr ⟨other, member, ?_, rfl⟩
        rw [original, (operation_eq_some routed).2]
        apply Mount.original_ne _ nested
        rw [← (operation_eq_some routed).2]
        exact route_of_operationPath (routable.valid checked (operation_eq_some routed).1)

def pair : Service where
  serviceId := "archive"
  operations :=
    [{ name := "read", description := "", path := "/read", upstreamPath := "/read"
       parameters := [], native := none },
     { name := "erase", description := "", path := "/api/read", upstreamPath := "/erase"
       parameters := [], native := none }]
  identities :=
    [("reader", { principalId := "owner", clientClass := .agent, operations := ["read"]
                  budget := 0 })]
  authenticator := false
  adminToken := none

private theorem routable_pair : pair.Routable where
  valid := by decide
  distinct := by decide

def api : Mount where
  text := ['/', 'a', 'p', 'i']
  literal := .inr ⟨rfl, by decide⟩

def reading : HttpRequest where
  path := "/read"
  method := "POST"
  authorization := [some "Bearer reader"]
  grant := none
  params := .ok (.object [])

private theorem authenticate_reading : pair.authenticate reading =
    .ok { principalId := "owner", clientClass := .agent, operations := ["read"], budget := 0 } := by
  have token : reading.bearerToken = some "reader" := by decide +kernel
  simp only [authenticate, identity, token]
  rfl

/-- Below `/api` the reader erases. -/
theorem authorized_runs_nested : ¬∀ (service : Service) (mount : Mount) (request : HttpRequest)
    (identity : ClientIdentity), service.Routable → request.method = "POST" →
      service.authenticate request = .ok identity →
        (service.operation request.path).isSome →
          ∃ operation, service.found mount request = some operation ∧
            service.operation request.path = some operation := by
  intro runs
  obtain ⟨operation, found, checked⟩ := runs pair api reading _ routable_pair rfl
    authenticate_reading rfl
  have name := congrArg (Option.map Operation.name) (found.trans checked.symm)
  exact absurd name (by decide)

/-- At the root the reader reads. -/
theorem authorized_runs_sample :
    (pair.found .merged reading).map Operation.name = some "read" := by
  obtain ⟨operation, routed⟩ : ∃ operation, pair.operation reading.path = some operation := ⟨_, rfl⟩
  have merged := (authorized_runs routable_pair .merged routed).1.mpr rfl
  have checked : some operation.name = some "read" :=
    congrArg (Option.map Operation.name) routed.symm
  rw [merged]
  exact checked

end Service

end AiProtocol
