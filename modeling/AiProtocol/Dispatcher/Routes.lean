import AiProtocol.Dispatcher.Gate
import AiProtocol.Library.Table
import AiProtocol.Library.Url

/-!
# Routes

The table of the dispatcher from operation names and paths to paths below the gateway.  It is built
from what discovery publishes to every credential, and is the union of all of it.
-/

namespace AiProtocol

namespace Dispatcher

/-! ## The table -/

/-- The route of an operation in a discovery document. -/
structure OperationRoute where
  /-- Name. -/
  name : String
  /-- Method of the request. -/
  method : String
  /-- Path of the request. -/
  path : String
  deriving DecidableEq, Repr

/-- Paths by alias. -/
abbrev Routes := List (String × String)

def safeComponent (value : List Char) : Bool :=
  !value.isEmpty && value.all fun char => char.isAlphanum || "_-".toList.contains char

namespace OperationRoute

/-- The path has a slash before every component. -/
def safePath (operation : OperationRoute) : Bool :=
  match operation.path.toList with
  | '/' :: path => (path.splitOn '/').all safeComponent
  | _ => false

/-- The path without its first slashes. -/
def target (operation : OperationRoute) : String :=
  String.ofList (operation.path.toList.dropWhile (· = '/'))

end OperationRoute

/-- An alias is inserted, which must not have another path. -/
def addAlias (path : String) (routes : Routes) (name : String) : Except String Routes :=
  if (routes.lookup name).any fun old => old ≠ path then
    .error "Ambiguous discovery route"
  else
    .ok (Table.insert name path routes)

/-- One turn of the loop of `add_routes`, with the names it has seen. -/
def addOperation (names : List String) (routes : Routes) (operation : OperationRoute) :
    Except String Routes :=
  if !safeComponent operation.name.toList || names.contains operation.name ||
      operation.method ≠ "POST" || !operation.safePath then
    .error "Invalid discovery route"
  else
    match addAlias operation.target routes operation.name with
    | .error error => .error error
    | .ok routes => addAlias operation.target routes operation.target

/-- The loop of `add_routes`. -/
def addOperations (names : List String) (routes : Routes) :
    List OperationRoute → Except String Routes
  | [] => .ok routes
  | operation :: rest =>
      match addOperation names routes operation with
      | .error error => .error error
      | .ok routes => addOperations (operation.name :: names) routes rest

def addRoutes (routes : Routes) (operations : List OperationRoute) : Except String Routes :=
  addOperations [] routes operations

/-- `add_routes` for one credential after another. -/
def addAll (routes : Routes) : List (List OperationRoute) → Except String Routes
  | [] => .ok routes
  | operations :: rest =>
      match addRoutes routes operations with
      | .error error => .error error
      | .ok routes => addAll routes rest

/-! ## Initialization -/

/-- The discovery document of a credential. -/
structure Discovery where
  /-- The fields of a policy. -/
  policy : Policy
  /-- Identifier of the service. -/
  serviceId : Option String
  /-- Operations permitted to the credential. -/
  operations : List OperationRoute

/-- What a dispatcher learns about its credentials. -/
structure Initial where
  /-- Paths by alias. -/
  routes : Routes
  /-- Identifier of the service. -/
  serviceId : Option String
  /-- The gate. -/
  gate : Gate

/-- The loop of `initialize` over the credentials. -/
def discoverAll (fetch : String → Except String Discovery) (first : Bool) (initial : Initial) :
    List String → Except String Initial
  | [] => .ok initial
  | token :: rest =>
      match fetch token with
      | .error error => .error error
      | .ok discovery =>
          let serviceId := if first then discovery.serviceId else initial.serviceId
          if discovery.serviceId ≠ serviceId ∨ serviceId = some "" then
            .error "Inconsistent service identity"
          else
            match addRoutes initial.routes discovery.operations with
            | .error error => .error error
            | .ok routes =>
                match initial.gate.apply discovery.policy with
                | .error error => .error error
                | .ok gate => discoverAll fetch false { routes, serviceId, gate } rest

/-- The origin of the gateway, after `Url::parse` has written it in its normal form. -/
def gatewayOrigin (parse : String → Option String) (base : String) : Except String String :=
  match parse base with
  | none => .error "Invalid gateway origin"
  | some url =>
      let parts := Url.split url.toList
      if (parts.scheme ≠ some "http".toList ∧ parts.scheme ≠ some "https".toList)
        ∨ parts.host = none
        ∨ parts.username ≠ []
        ∨ parts.password ≠ none
        ∨ parts.path ≠ ['/']
        ∨ parts.query ≠ none
        ∨ parts.fragment ≠ none then
        .error "Gateway must be an HTTP(S) origin"
      else
        .ok (String.ofList (url.toList.rdropWhile (· = '/')))

/-- `Dispatcher::initialize`, up to the sharing of what it has learned. -/
def initialized (parse : String → Option String) (fetch : String → Except String Discovery)
    (base : String) (tokens : List String) (capacity : Nat) :
    Except String (String × Initial) :=
  if tokens = [] ∨ tokens.length > 64 ∨ ¬(1 ≤ capacity ∧ capacity ≤ 10000)
    ∨ (∃ token ∈ tokens, token = "") ∨ ¬tokens.Nodup then
    .error "Invalid dispatcher configuration"
  else
    match gatewayOrigin parse base with
    | .error error => .error error
    | .ok base =>
        (discoverAll fetch true { routes := [], serviceId := none, gate := .default } tokens).map
          fun initial => (base, initial)

/-- The URL of the request for an operation. -/
def requestUrl (base operation : String) : String :=
  base ++ "/" ++ operation

/-! ## What is published -/

namespace OperationRoute

/-- A discovery document may list the operation. -/
structure WellFormed (operation : OperationRoute) : Prop where
  /-- The name is a component of a path. -/
  named : safeComponent operation.name.toList = true
  /-- The request is a POST request. -/
  posted : operation.method = "POST"
  /-- The path is made of components. -/
  safe : operation.safePath = true

/-- The aliases of the operation with its path. -/
def aliases (operation : OperationRoute) : Set (String × String) :=
  {(operation.name, operation.target), (operation.target, operation.target)}

theorem target_of_safePath {operation : OperationRoute} (safe : operation.safePath = true) :
    operation.path.toList = '/' :: operation.target.toList ∧
      (operation.target.toList.splitOn '/').all safeComponent = true := by
  unfold safePath at safe
  split at safe
  · rename_i path listed
    have first : path.dropWhile (· = '/') = path := by
      cases path with
      | nil => rfl
      | cons char path =>
          refine List.dropWhile_cons_of_neg fun slash => ?_
          obtain rfl : char = '/' := by simpa using slash
          rw [List.splitOn_cons_eq_if_modifyHead] at safe
          simp [safeComponent] at safe
    have target : operation.target.toList = path := by simp [target, listed, first]
    rw [target]
    exact ⟨listed, safe⟩
  · cases safe

end OperationRoute

/-- The aliases in discovery documents. -/
def published (lists : List (List OperationRoute)) : Set (String × String) :=
  {entry | ∃ operations ∈ lists, ∃ operation ∈ operations, entry ∈ operation.aliases}

private theorem published_cons (operations : List OperationRoute)
    (lists : List (List OperationRoute)) :
    published (operations :: lists) = published [operations] ∪ published lists := by
  ext entry
  simp [published]

private theorem published_operation (operation : OperationRoute)
    (operations : List OperationRoute) :
    published [operation :: operations] = operation.aliases ∪ published [operations] := by
  ext entry
  simp [published]

section Steps

variable {routes after : Routes} {relation : Set (String × String)}

theorem addAlias_eq_ok {path name : String} :
    addAlias path routes name = .ok after ↔
      (∀ old, routes.lookup name = some old → old = path) ∧
        after = Table.insert name path routes := by
  unfold addAlias
  cases found : routes.lookup name with
  | none => simp [eq_comm]
  | some old =>
      by_cases same : old = path
      · simp [same, eq_comm]
      · simp [same]

private theorem addAlias_isOk (holds : Table.Holds routes relation) {path name : String} :
    (∃ after, addAlias path routes name = .ok after) ↔
      Table.Functional (insert (name, path) relation) := by
  rw [holds.functional_insert]
  simp [addAlias_eq_ok]

theorem holds_addAlias (holds : Table.Holds routes relation) {path name : String}
    (added : addAlias path routes name = .ok after) :
    Table.Holds after (insert (name, path) relation) := by
  obtain ⟨agrees, rfl⟩ := addAlias_eq_ok.mp added
  exact holds.insert agrees

theorem addOperation_eq_ok {names : List String} {operation : OperationRoute} :
    addOperation names routes operation = .ok after ↔
      operation.WellFormed ∧ operation.name ∉ names ∧
        ∃ named, addAlias operation.target routes operation.name = .ok named ∧
          addAlias operation.target named operation.target = .ok after := by
  unfold addOperation
  split
  · rename_i invalid
    have refused : ¬(operation.WellFormed ∧ operation.name ∉ names) := by
      rintro ⟨wellFormed, new⟩
      simp [wellFormed.named, wellFormed.posted, wellFormed.safe, new] at invalid
    simp only [reduceCtorEq, false_iff]
    exact fun ⟨wellFormed, new, _⟩ => refused ⟨wellFormed, new⟩
  · rename_i valid
    obtain ⟨⟨⟨named, new⟩, posted⟩, safe⟩ : ((safeComponent operation.name.toList = true ∧
        operation.name ∉ names) ∧ operation.method = "POST") ∧ operation.safePath = true := by
      simpa [not_or] using valid
    cases addAlias operation.target routes operation.name with
    | error error => simp
    | ok routes => simp [new, (⟨named, posted, safe⟩ : operation.WellFormed)]

private theorem insert_aliases (operation : OperationRoute) (relation : Set (String × String)) :
    insert (operation.target, operation.target)
      (insert (operation.name, operation.target) relation) = relation ∪ operation.aliases := by
  ext entry
  simp only [OperationRoute.aliases, Set.mem_insert_iff, Set.mem_union, Set.mem_singleton_iff]
  tauto

theorem holds_addOperation (holds : Table.Holds routes relation) {names : List String}
    {operation : OperationRoute} (added : addOperation names routes operation = .ok after) :
    Table.Holds after (relation ∪ operation.aliases) := by
  obtain ⟨-, -, named, first, second⟩ := addOperation_eq_ok.mp added
  rw [← insert_aliases]
  exact holds_addAlias (holds_addAlias holds first) second

theorem addOperation_isOk (holds : Table.Holds routes relation) {names : List String}
    {operation : OperationRoute} :
    (∃ after, addOperation names routes operation = .ok after) ↔
      operation.WellFormed ∧ operation.name ∉ names ∧
        Table.Functional (relation ∪ operation.aliases) := by
  constructor
  · rintro ⟨after, added⟩
    obtain ⟨wellFormed, new, -⟩ := addOperation_eq_ok.mp added
    exact ⟨wellFormed, new, (holds_addOperation holds added).functional⟩
  · rintro ⟨wellFormed, new, function⟩
    rw [← insert_aliases] at function
    obtain ⟨named, first⟩ := (addAlias_isOk holds).mpr (function.subset (Set.subset_insert _ _))
    obtain ⟨after, second⟩ := (addAlias_isOk (holds_addAlias holds first)).mpr function
    exact ⟨after, addOperation_eq_ok.mpr ⟨wellFormed, new, named, first, second⟩⟩

theorem holds_addOperations {operations : List OperationRoute} {names : List String}
    (holds : Table.Holds routes relation)
    (added : addOperations names routes operations = .ok after) :
    Table.Holds after (relation ∪ published [operations]) := by
  induction operations generalizing names routes relation with
  | nil =>
      obtain rfl : routes = after := by simpa [addOperations] using added
      simpa [published] using holds
  | cons operation operations induction =>
      rw [addOperations] at added
      split at added
      · cases added
      · rename_i first
        rw [published_operation, ← Set.union_assoc]
        exact induction (holds_addOperation holds first) added

private theorem addOperations_isOk {operations : List OperationRoute} {names : List String}
    (holds : Table.Holds routes relation) :
    (∃ after, addOperations names routes operations = .ok after) ↔
      ((∀ operation ∈ operations, operation.WellFormed ∧ operation.name ∉ names) ∧
        (operations.map OperationRoute.name).Nodup) ∧
          Table.Functional (relation ∪ published [operations]) := by
  induction operations generalizing names routes relation with
  | nil => simpa [addOperations, published] using holds.functional
  | cons operation operations induction =>
      rw [addOperations, published_operation, ← Set.union_assoc]
      cases first : addOperation names routes operation with
      | error error =>
          simp only [reduceCtorEq, exists_const, false_iff, List.forall_mem_cons]
          rintro ⟨⟨⟨⟨wellFormed, new⟩, -⟩, -⟩, function⟩
          obtain ⟨routes, added⟩ := (addOperation_isOk holds).mpr
            ⟨wellFormed, new, function.subset Set.subset_union_left⟩
          simp [first] at added
      | ok routes =>
          obtain ⟨wellFormed, new, -⟩ := (addOperation_isOk holds).mp ⟨routes, first⟩
          have distinct : (∀ other ∈ operations, other.name ∉ operation.name :: names) ↔
              (∀ other ∈ operations, other.name ∉ names) ∧
                operation.name ∉ operations.map OperationRoute.name := by
            simp only [List.mem_cons, not_or, List.mem_map, not_exists, not_and]
            exact ⟨fun all => ⟨fun other member => (all other member).2,
                fun other member => (all other member).1⟩,
              fun both other member => ⟨both.2 other member, both.1 other member⟩⟩
          simp only
          rw [induction (holds_addOperation holds first), forall₂_and, distinct]
          simp [wellFormed, new, forall₂_and]
          tauto

private theorem holds_addAll {lists : List (List OperationRoute)}
    (holds : Table.Holds routes relation)
    (added : addAll routes lists = .ok after) : Table.Holds after (relation ∪ published lists) := by
  induction lists generalizing routes relation with
  | nil =>
      obtain rfl : routes = after := by simpa [addAll] using added
      simpa [published] using holds
  | cons operations lists induction =>
      rw [addAll] at added
      split at added
      · cases added
      · rename_i first
        rw [published_cons, ← Set.union_assoc]
        exact induction (holds_addOperations holds first) added

private theorem addAll_isOk {lists : List (List OperationRoute)}
    (holds : Table.Holds routes relation) :
    (∃ after, addAll routes lists = .ok after) ↔
      (∀ operations ∈ lists, (∀ operation ∈ operations, operation.WellFormed) ∧
        (operations.map OperationRoute.name).Nodup) ∧
          Table.Functional (relation ∪ published lists) := by
  induction lists generalizing routes relation with
  | nil => simpa [addAll, published] using holds.functional
  | cons operations lists induction =>
      rw [addAll, published_cons, ← Set.union_assoc]
      have single : (∃ after, addOperations [] routes operations = .ok after) ↔ _ :=
        addOperations_isOk holds
      cases first : addRoutes routes operations with
      | error error =>
          simp only [reduceCtorEq, exists_const, false_iff, List.forall_mem_cons]
          rintro ⟨⟨valid, -⟩, function⟩
          obtain ⟨routes, added⟩ := single.mpr
            ⟨by simpa using valid, function.subset Set.subset_union_left⟩
          simp [addRoutes, added] at first
      | ok routes =>
          obtain ⟨valid, -⟩ := single.mp ⟨routes, first⟩
          simp only
          rw [induction (holds_addOperations holds first), List.forall_mem_cons]
          simp only [List.not_mem_nil, not_false_eq_true, and_true] at valid
          exact and_congr_left' (and_iff_right valid).symm

/-! ### Refusals -/

private theorem addAlias_error {path name error : String}
    (refused : addAlias path routes name = .error error) : error = "Ambiguous discovery route" := by
  unfold addAlias at refused
  split at refused
  · exact (Except.error.inj refused).symm
  · cases refused

private theorem addOperation_error {names : List String} {operation : OperationRoute}
    {error : String}
    (refused : addOperation names routes operation = .error error)
    (wellFormed : operation.WellFormed) (new : operation.name ∉ names) :
    error = "Ambiguous discovery route" := by
  unfold addOperation at refused
  split at refused
  · rename_i invalid
    simp [wellFormed.named, wellFormed.posted, wellFormed.safe, new] at invalid
  · split at refused
    · rename_i first
      obtain rfl := Except.error.inj refused
      exact addAlias_error first
    · exact addAlias_error refused

private theorem addOperations_error {operations : List OperationRoute} {names : List String}
    {error : String} (refused : addOperations names routes operations = .error error)
    (valid : ∀ operation ∈ operations, operation.WellFormed ∧ operation.name ∉ names)
    (distinct : (operations.map OperationRoute.name).Nodup) :
    error = "Ambiguous discovery route" := by
  induction operations generalizing names routes with
  | nil => cases refused
  | cons operation operations induction =>
      rw [List.forall_mem_cons] at valid
      rw [List.map_cons, List.nodup_cons] at distinct
      rw [addOperations] at refused
      split at refused
      · rename_i first
        obtain rfl := Except.error.inj refused
        exact addOperation_error first valid.1.1 valid.1.2
      · refine induction refused (fun other member => ⟨(valid.2 other member).1, ?_⟩) distinct.2
        rw [List.mem_cons, not_or]
        refine ⟨fun same => distinct.1 ?_, (valid.2 other member).2⟩
        exact same ▸ List.mem_map_of_mem member

theorem addAll_error {lists : List (List OperationRoute)} {error : String}
    (refused : addAll routes lists = .error error)
    (valid : ∀ operations ∈ lists, (∀ operation ∈ operations, operation.WellFormed) ∧
      (operations.map OperationRoute.name).Nodup) : error = "Ambiguous discovery route" := by
  induction lists generalizing routes with
  | nil => cases refused
  | cons operations lists induction =>
      rw [List.forall_mem_cons] at valid
      rw [addAll] at refused
      split at refused
      · rename_i first
        obtain rfl := Except.error.inj refused
        exact addOperations_error first (by simpa using valid.1.1) valid.1.2
      · exact induction refused valid.2

end Steps

/-! ## Requests -/

private theorem segment_of_safeComponent {value : List Char} (safe : safeComponent value = true) :
    value ≠ [] ∧ value ≠ ".".toList ∧ value ≠ "..".toList := by
  refine ⟨?_, ?_, ?_⟩ <;> rintro rfl <;> exact absurd safe (by decide)

private theorem delimiter_of_safe {path : List Char}
    (safe : (path.splitOn '/').all safeComponent = true) :
    '?' ∉ path ∧ '#' ∉ path := by
  have only (char : Char) (member : char ∈ path) :
      char = '/' ∨ (char.isAlphanum || "_-".toList.contains char) = true := by
    refine (Url.mem_splitOn member).imp_right ?_
    rintro ⟨segment, listed, inside⟩
    have component := List.all_eq_true.mp safe segment listed
    simp only [safeComponent, Bool.and_eq_true, List.all_eq_true] at component
    exact component.2 char inside
  exact ⟨fun member => absurd (only _ member) (by decide),
    fun member => absurd (only _ member) (by decide)⟩

/-- The origin of the gateway is the one of its URL, with nothing after it. -/
theorem gatewayOrigin_eq_ok {parse : String → Option String} {base origin : String}
    (accepted : gatewayOrigin parse base = .ok origin) :
    ∃ url scheme authority, parse base = some url ∧
      Url.split url.toList = ⟨some scheme, some authority, ['/'], none, none⟩ ∧
        Url.split origin.toList = ⟨some scheme, some authority, [], none, none⟩ := by
  unfold gatewayOrigin at accepted
  cases parsed : parse base with
  | none => simp [parsed] at accepted
  | some url =>
      simp only [parsed] at accepted
      split at accepted
      · cases accepted
      · rename_i checked
        simp only [not_or, not_and_or, not_not, ne_eq] at checked
        obtain ⟨schemed, hosted, -, -, path, query, fragment⟩ := checked
        obtain rfl := Except.ok.inj accepted
        rcases parts : Url.split url.toList with ⟨scheme, authority, path', query', fragment'⟩
        simp only [parts] at schemed hosted path query fragment
        subst path query fragment
        cases scheme with
        | none => simp at schemed
        | some scheme =>
            cases authority with
            | none => simp [Url.Parts.host] at hosted
            | some authority =>
                have nonempty : authority ≠ [] := by
                  rintro rfl
                  exact hosted rfl
                refine ⟨url, scheme, authority, rfl, parts, ?_⟩
                rw [String.toList_ofList]
                exact Url.split_trim parts (.inr rfl) nonempty

/-- A dispatcher which was initialized holds the table of the documents it has fetched. -/
theorem discoverAll_routes {fetch : String → Except String Discovery} {first : Bool}
    {initial final : Initial} {tokens : List String}
    (discovered : discoverAll fetch first initial tokens = .ok final) :
    ∃ documents, List.Forall₂ (fun token document => fetch token = .ok document) tokens documents ∧
      addAll initial.routes (documents.map Discovery.operations) = .ok final.routes := by
  induction tokens generalizing first initial with
  | nil =>
      obtain rfl : initial = final := by simpa [discoverAll] using discovered
      exact ⟨[], .nil, rfl⟩
  | cons token tokens induction =>
      rw [discoverAll] at discovered
      split at discovered
      · cases discovered
      · rename_i document fetched
        generalize (if first then document.serviceId else initial.serviceId) = serviceId
          at discovered
        simp only at discovered
        split at discovered
        · cases discovered
        · split at discovered
          · cases discovered
          · rename_i routes added
            split at discovered
            · cases discovered
            · obtain ⟨documents, rest, all⟩ := induction discovered
              refine ⟨document :: documents, .cons fetched rest, ?_⟩
              rw [List.map_cons, addAll, added]
              exact all

/-! ## The route table -/

/-- Discovery documents in any order, with their operations in any order. -/
def Reordered (lists lists' : List (List OperationRoute)) : Prop :=
  ∃ middle, List.Forall₂ List.Perm lists middle ∧ middle.Perm lists'

theorem Reordered.symm {lists lists' : List (List OperationRoute)}
    (reordered : Reordered lists lists') : Reordered lists' lists := by
  have swapped : Relation.Comp List.Perm (List.Forall₂ List.Perm) lists lists' :=
    List.forall₂_comp_perm_eq_perm_comp_forall₂ ▸ reordered
  obtain ⟨middle, moved, permuted⟩ := swapped
  exact ⟨middle, (permuted.imp fun _ _ => List.Perm.symm).flip, moved.symm⟩

private theorem Reordered.exists_perm {lists lists' : List (List OperationRoute)}
    (reordered : Reordered lists lists') {operations : List OperationRoute}
    (member : operations ∈ lists) : ∃ operations' ∈ lists', operations.Perm operations' := by
  obtain ⟨middle, permuted, moved⟩ := reordered
  obtain ⟨operations', listed, same⟩ := Table.exists_of_forall₂ permuted member
  exact ⟨operations', moved.mem_iff.mp listed, same⟩

private theorem Reordered.published_subset {lists lists' : List (List OperationRoute)}
    (reordered : Reordered lists lists') : published lists ⊆ published lists' := by
  rintro entry ⟨operations, member, operation, listed, own⟩
  obtain ⟨operations', member', same⟩ := reordered.exists_perm member
  exact ⟨operations', member', operation, same.mem_iff.mp listed, own⟩

section Table

variable {lists : List (List OperationRoute)} {routes : Routes}

theorem addAll_empty_isOk (lists : List (List OperationRoute)) :
    (∃ routes, addAll [] lists = .ok routes) ↔
      (∀ operations ∈ lists, (∀ operation ∈ operations, operation.WellFormed) ∧
        (operations.map OperationRoute.name).Nodup) ∧ Table.Functional (published lists) := by
  rw [addAll_isOk Table.holds_nil, Set.empty_union]

theorem holds_published (added : addAll [] lists = .ok routes) :
    Table.Holds routes (published lists) := by
  have holds := holds_addAll Table.holds_nil added
  rwa [Set.empty_union] at holds

theorem lookup_published (added : addAll [] lists = .ok routes) {operations : List OperationRoute}
    (member : operations ∈ lists) {operation : OperationRoute} (listed : operation ∈ operations) :
    routes.lookup operation.name = some operation.target ∧
      routes.lookup operation.target = some operation.target :=
  ⟨(holds_published added _ _).mpr ⟨operations, member, operation, listed, .inl rfl⟩,
    (holds_published added _ _).mpr ⟨operations, member, operation, listed, .inr rfl⟩⟩

private theorem operation_of_lookup (added : addAll [] lists = .ok routes) {name path : String}
    (found : routes.lookup name = some path) :
    ∃ operation : OperationRoute, operation.WellFormed ∧ path = operation.target := by
  obtain ⟨operations, member, operation, listed, own⟩ := (holds_published added name path).mp found
  obtain ⟨valid, -⟩ := (addAll_empty_isOk lists).mp ⟨routes, added⟩
  refine ⟨operation, (valid operations member).1 operation listed, ?_⟩
  rcases own with same | same <;> exact (Prod.mk.inj same).2

private theorem addAll_reordered (added : addAll [] lists = .ok routes)
    {lists' : List (List OperationRoute)} (reordered : Reordered lists lists') :
    ∃ routes', addAll [] lists' = .ok routes' ∧
      ∀ name, routes'.lookup name = routes.lookup name := by
  obtain ⟨valid, function⟩ := (addAll_empty_isOk lists).mp ⟨routes, added⟩
  have same : published lists' = published lists :=
    Set.Subset.antisymm reordered.symm.published_subset reordered.published_subset
  have valid' : ∀ operations ∈ lists', (∀ operation ∈ operations, operation.WellFormed) ∧
      (operations.map OperationRoute.name).Nodup := by
    intro operations member
    obtain ⟨operations', member', permuted⟩ := reordered.symm.exists_perm member
    obtain ⟨wellFormed, distinct⟩ := valid operations' member'
    exact ⟨fun operation listed => wellFormed operation (permuted.mem_iff.mp listed),
      ((permuted.map _).nodup_iff).mpr distinct⟩
  obtain ⟨routes', added'⟩ := (addAll_empty_isOk lists').mpr ⟨valid', same ▸ function⟩
  refine ⟨routes', added', fun name => Option.ext fun path => ?_⟩
  rw [holds_published added', holds_published added, same]

end Table

/-- A dispatcher which was initialized has added the documents of its credentials. -/
theorem initialized_eq_ok {parse : String → Option String}
    {fetch : String → Except String Discovery} {base : String} {tokens : List String}
    {capacity : Nat} {origin : String} {initial : Initial}
    (ready : initialized parse fetch base tokens capacity = .ok (origin, initial)) :
    gatewayOrigin parse base = .ok origin ∧ ∃ documents,
      List.Forall₂ (fun token document => fetch token = .ok document) tokens documents ∧
        addAll [] (documents.map Discovery.operations) = .ok initial.routes := by
  unfold initialized at ready
  split at ready
  · cases ready
  · split at ready
    · cases ready
    · rename_i accepted
      generalize learned : discoverAll fetch true _ tokens = result at ready
      cases result with
      | error error => cases ready
      | ok final =>
          obtain ⟨rfl, rfl⟩ := Prod.mk.inj (Except.ok.inj ready)
          exact ⟨accepted, discoverAll_routes learned⟩

private theorem requestUrl_parts {parse : String → Option String} {base origin : String}
    (accepted : gatewayOrigin parse base = .ok origin) {operation : OperationRoute}
    (wellFormed : operation.WellFormed) :
    ∃ url scheme authority, parse base = some url ∧
      Url.split url.toList = ⟨some scheme, some authority, ['/'], none, none⟩ ∧
        Url.split (requestUrl origin operation.target).toList =
          ⟨some scheme, some authority, '/' :: operation.target.toList, none, none⟩ := by
  obtain ⟨url, scheme, authority, parsed, parts, bare⟩ := gatewayOrigin_eq_ok accepted
  obtain ⟨-, safe⟩ := OperationRoute.target_of_safePath wellFormed.safe
  have text : (requestUrl origin operation.target).toList =
      origin.toList ++ '/' :: operation.target.toList := by
    simp [requestUrl]
  refine ⟨url, scheme, authority, parsed, parts, ?_⟩
  rw [text]
  exact Url.split_append bare rfl (by simpa using delimiter_of_safe safe)

/-- The table is the union of what is published.  It fails to exist exactly if an operation is
malformed, a document repeats a name, or the union is not a function; it does not depend on the
order; and requests stay below the origin of the gateway. -/
theorem route_table (lists : List (List OperationRoute)) :
    ((∃ routes, addAll [] lists = .ok routes) ↔
      (∀ operations ∈ lists, (∀ operation ∈ operations, operation.WellFormed) ∧
        (operations.map OperationRoute.name).Nodup) ∧ Table.Functional (published lists)) ∧
    ∀ routes, addAll [] lists = .ok routes →
      (∀ name path, routes.lookup name = some path ↔ (name, path) ∈ published lists) ∧
      (∀ lists', Reordered lists lists' → ∃ routes', addAll [] lists' = .ok routes' ∧
        ∀ name, routes'.lookup name = routes.lookup name) ∧
      (∀ operations ∈ lists, ∀ operation ∈ operations,
        operation.path = "/" ++ operation.target ∧
          routes.lookup operation.name = some operation.target ∧
            routes.lookup operation.target = some operation.target) ∧
      ∀ name path, routes.lookup name = some path →
        (∀ segment ∈ path.toList.splitOn '/', safeComponent segment = true ∧
          segment ≠ [] ∧ segment ≠ ".".toList ∧ segment ≠ "..".toList) ∧
        ∀ parse base origin, gatewayOrigin parse base = .ok origin →
          ∃ url scheme authority, parse base = some url ∧
            Url.split url.toList = ⟨some scheme, some authority, ['/'], none, none⟩ ∧
              Url.split (requestUrl origin path).toList =
                ⟨some scheme, some authority, '/' :: path.toList, none, none⟩ := by
  refine ⟨addAll_empty_isOk lists, fun routes added => ⟨holds_published added,
    fun lists' => addAll_reordered added, ?_, ?_⟩⟩
  · intro operations member operation listed
    obtain ⟨valid, -⟩ := (addAll_empty_isOk lists).mp ⟨routes, added⟩
    obtain ⟨path, -⟩ :=
      OperationRoute.target_of_safePath ((valid operations member).1 operation listed).safe
    exact ⟨String.toList_inj.mp (by simp [path]), lookup_published added member listed⟩
  · intro name path found
    obtain ⟨operation, wellFormed, rfl⟩ := operation_of_lookup added found
    obtain ⟨-, safe⟩ := OperationRoute.target_of_safePath wellFormed.safe
    refine ⟨fun segment piece => ?_, fun parse base origin accepted =>
      requestUrl_parts accepted wellFormed⟩
    have component := List.all_eq_true.mp safe segment piece
    exact ⟨component, segment_of_safeComponent component⟩

/-- The discovery documents of two credentials. -/
def ticketRoutes : List (List OperationRoute) :=
  [[⟨"search", "POST", "/tickets/search"⟩], [⟨"page", "POST", "/page"⟩]]

theorem route_table_sample : ∃ routes, addAll [] ticketRoutes = .ok routes ∧
    (∃ routes', addAll [] ticketRoutes.reverse = .ok routes' ∧
      ∀ name, routes'.lookup name = routes.lookup name) ∧
    ∀ segment ∈ "tickets/search".toList.splitOn '/', segment ≠ ".".toList := by
  obtain ⟨routes, added, found⟩ : ∃ routes, addAll [] ticketRoutes = .ok routes ∧
      routes.lookup "search" = some "tickets/search" :=
    ⟨_, rfl, rfl⟩
  obtain ⟨-, reordered, -, requests⟩ := (route_table ticketRoutes).2 routes added
  refine ⟨routes, added, reordered _
    ⟨_, List.forall₂_same.mpr fun _ _ => .refl _, (List.reverse_perm _).symm⟩, ?_⟩
  intro segment piece
  exact ((requests _ _ found).1 segment piece).2.2.1

end Dispatcher

end AiProtocol
