import AiProtocol.Gateway.Served

/-!
# Configurations

The constructors of a gateway configuration with their checks.  The text of a manifest is what the
JSON deserializer makes of it; environment variables are read through a resolver.
-/

namespace AiProtocol

/-- An owner and a class share one budget. -/
abbrev Owner := String × ClientClass

/-- An operation of a manifest. -/
structure ManifestOperation where
  /-- Name by which credentials grant it. -/
  name : String
  /-- Description for callers. -/
  description : String
  /-- Route. -/
  path : String
  /-- Path of the upstream request. -/
  upstreamPath : String
  /-- Parameters by name. -/
  parameters : List (String × Parameter)
  /-- The names of a map are distinct. -/
  parameters_distinct : (parameters.map Prod.fst).Nodup

/-- A credential of a manifest. -/
structure ManifestCredential where
  /-- Environment variable of the token. -/
  tokenEnv : String
  /-- The variable must be present. -/
  required : Bool
  /-- Owner. -/
  principalId : String
  /-- Scheduling class. -/
  clientClass : ClientClass
  /-- Granted operations. -/
  operations : List String
  /-- Initial ceiling of the budget. -/
  maxOutstanding : Nat

/-- A manifest as `serde_json::from_str` reads it. -/
structure Manifest where
  /-- `format_version`, one unless it is given. -/
  formatVersion : Nat
  /-- Identifier of the service. -/
  serviceId : String
  /-- Operations. -/
  operations : List ManifestOperation
  /-- Credentials. -/
  credentials : List ManifestCredential

/-- A credential with its token, or a grant with its identifier. -/
structure Credential where
  /-- Bearer token, or identifier of a grant. -/
  token : String
  /-- Owner. -/
  principalId : String
  /-- Scheduling class. -/
  clientClass : ClientClass
  /-- Granted operations. -/
  operations : List String
  /-- Initial ceiling of the budget. -/
  maxOutstanding : Nat

/-- `std::env::VarError`. -/
inductive VarError where
  | notPresent
  | notUnicode

def validToken (token : String) : Bool :=
  token ≠ "" && token.toList.all fun char => char.isAlphanum || "-._~+/=".toList.contains char

namespace Manifest

/-- The parameters of an operation, whose upstream names must be new. -/
def parametersValid : List String → List (String × Parameter) → Bool
  | _, [] => true
  | seen, (name, parameter) :: rest =>
      identifier name.toList && identifier parameter.upstream.toList &&
        !seen.contains parameter.upstream && parametersValid (parameter.upstream :: seen) rest

/-- The check of one operation against the names and paths before it. -/
def operationValid (names paths : List String) (operation : ManifestOperation) : Bool :=
  identifier operation.name.toList && !names.contains operation.name &&
    operationPath operation.path && !paths.contains operation.path &&
      route operation.upstreamPath && parametersValid [] operation.parameters

/-- The loop of `Service::parse` over the operations. -/
def checkOperations (index : Nat) (names paths : List String) :
    List ManifestOperation → Except String Unit
  | [] => .ok ()
  | operation :: rest =>
      if operationValid names paths operation then
        checkOperations (index + 1) (operation.name :: names) (operation.path :: paths) rest
      else
        .error s!"Invalid or duplicate operations[{index}] mapping; check names, reserved paths and parameter mappings"

/-- The check of one credential against the environment names before it. -/
def credentialValid (names envs : List String) (credential : ManifestCredential) : Bool :=
  identifier credential.tokenEnv.toList && !envs.contains credential.tokenEnv &&
    credential.principalId ≠ "" &&
      (1 ≤ credential.maxOutstanding && credential.maxOutstanding ≤ 1000) &&
        credential.operations.all names.contains

/-- The loop of `Service::parse` over the credentials. -/
def checkCredentials (names : List String) (index : Nat) (envs : List String)
    (budgets : List (Owner × Nat)) : List ManifestCredential → Except String Unit
  | [] => .ok ()
  | credential :: rest =>
      let owner := (credential.principalId, credential.clientClass)
      if !credentialValid names envs credential then
        .error s!"Invalid credentials[{index}]; check environment name, principal, grants and max_outstanding"
      else if (budgets.lookup owner).any fun previous => previous ≠ credential.maxOutstanding then
        .error "Tokens of one owner and class must specify the same budget"
      else
        checkCredentials names (index + 1) (credential.tokenEnv :: envs)
          ((owner, credential.maxOutstanding) :: budgets) rest

/-- `Service::parse`, after the JSON was read. -/
def parse (manifest : Manifest) : Except String Manifest :=
  if manifest.formatVersion ≠ 1 then
    .error "Unsupported manifest format_version; expected 1"
  else if !identifier manifest.serviceId.toList || manifest.operations.isEmpty ||
      manifest.credentials.isEmpty then
    .error "Service requires an ID, operations and credentials"
  else
    match checkOperations 0 [] [] manifest.operations,
        checkCredentials (manifest.operations.map ManifestOperation.name) 0 [] []
          manifest.credentials with
    | .error error, _ => .error error
    | .ok (), .error error => .error error
    | .ok (), .ok () => .ok manifest

/-- The tokens of the credentials, in `Service::identities`. -/
def resolve (read : String → Except VarError String) :
    List ManifestCredential → Except String (List Credential)
  | [] => .ok []
  | credential :: rest =>
      match read credential.tokenEnv with
      | .error .notPresent =>
          if credential.required then
            .error s!"Missing or invalid {credential.tokenEnv}"
          else
            resolve read rest
      | .error .notUnicode => .error s!"Missing or invalid {credential.tokenEnv}"
      | .ok token =>
          if validToken token then
            (resolve read rest).map fun credentials =>
              { token
                principalId := credential.principalId
                clientClass := credential.clientClass
                operations := credential.operations
                maxOutstanding := credential.maxOutstanding } :: credentials
          else
            .error s!"Invalid bearer token in {credential.tokenEnv}"

/-- The operations of a manifest as operations of a service. -/
def service (manifest : Manifest) : List Operation :=
  manifest.operations.map fun operation =>
    { name := operation.name
      description := operation.description
      path := operation.path
      upstreamPath := operation.upstreamPath
      parameters := operation.parameters
      native := none }

end Manifest

/-- Identities by token and the budgets they share. -/
structure Registry where
  /-- Identities by token. -/
  identities : List (String × ClientIdentity)
  /-- Owners with their ceilings; a budget is referred to by its position. -/
  budgets : List (Owner × Nat)

namespace Registry

/-- The budgets after `or_insert_with`. -/
def entry (registry : Registry) (owner : Owner) (maximum : Nat) : List (Owner × Nat) :=
  if (registry.budgets.lookup owner).isSome then registry.budgets
  else registry.budgets ++ [(owner, maximum)]

/-- One turn of the loop of `identities`. -/
def register (operations : List String) (registry : Registry) (credential : Credential) :
    Except String Registry :=
  let owner := (credential.principalId, credential.clientClass)
  if !validToken credential.token then
    .error "Invalid bearer token"
  else if credential.principalId = "" ∨
      ¬(1 ≤ credential.maxOutstanding ∧ credential.maxOutstanding ≤ 1000) ∨
        credential.operations.any fun name => !operations.contains name then
    .error "Invalid credential or permission mapping"
  else if (registry.entry owner credential.maxOutstanding).lookup owner ≠
      some credential.maxOutstanding then
    .error "Tokens of one owner and class must specify the same budget"
  else if (registry.identities.lookup credential.token).isSome then
    .error "Token values must be distinct"
  else
    .ok
      { identities := registry.identities ++ [(credential.token,
          { principalId := credential.principalId
            clientClass := credential.clientClass
            operations := credential.operations
            budget := (registry.budgets.map Prod.fst).idxOf owner })]
        budgets := registry.entry owner credential.maxOutstanding }

/-- The loop of `identities`. -/
def registerAll (operations : List String) (registry : Registry) :
    List Credential → Except String Registry
  | [] => .ok registry
  | credential :: rest =>
      match register operations registry credential with
      | .error error => .error error
      | .ok registry => registerAll operations registry rest

/-- `identities`. -/
def ofCredentials (operations : List String) (credentials : List Credential) :
    Except String Registry :=
  match registerAll operations { identities := [], budgets := [] } credentials with
  | .error error => .error error
  | .ok registry =>
      if registry.identities.isEmpty then
        .error "At least one credential is required"
      else
        .ok registry

/-- The initial ceiling of a budget. -/
def maximum (registry : Registry) (budget : BudgetRef) : Nat :=
  (registry.budgets[budget]?).elim 0 Prod.snd

end Registry

/-- The loop of `Service::native`. -/
def checkNative (names paths : List String) : List NativeOperation → Except String Unit
  | [] => .ok ()
  | operation :: rest =>
      if names.contains operation.name || paths.contains operation.path then
        .error "Duplicate operation name or path"
      else
        checkNative (operation.name :: names) (operation.path :: paths) rest

/-- `Service::native`. -/
def nativeOperations (serviceId : String) (operations : List NativeOperation) :
    Except String (List Operation) :=
  if !identifier serviceId.toList || operations.isEmpty then
    .error "Service requires an ID and operations"
  else
    match checkNative [] [] operations with
    | .error error => .error error
    | .ok () => .ok (operations.map fun operation =>
        { name := operation.name
          description := operation.description
          path := operation.path
          upstreamPath := ""
          parameters := []
          native := some operation })

namespace Deployment

/-- A configuration with default settings. -/
def ofService (service : Service) (registry : Registry) (upstreamUrl : Option String) :
    Deployment where
  service := service
  upstreamUrl := upstreamUrl
  settings := .default
  settings_valid := RuntimeSettings.validate_default
  queueSettings := .default
  mode := .weighted
  maximum := registry.maximum
  rejectOnce := false

/-- `GatewayConfig::native`. -/
def native (serviceId : String) (operations : List NativeOperation)
    (credentials : List Credential) : Except String Deployment :=
  match nativeOperations serviceId operations with
  | .error error => .error error
  | .ok operations =>
      match Registry.ofCredentials (operations.map Operation.name) credentials with
      | .error error => .error error
      | .ok registry => .ok (ofService
          { serviceId, operations
            identities := registry.identities
            authenticator := false
            adminToken := none } registry none)

/-- `GatewayConfig::native_authenticated`; a grant is a credential whose token is its identifier. -/
def nativeAuthenticated (serviceId : String) (operations : List NativeOperation)
    (grants : List Credential) : Except String Deployment :=
  (native serviceId operations grants).map fun deployment =>
    { deployment with service := { deployment.service with authenticator := true } }

/-- `GatewayConfig::from_manifest`; `origin` is what `upstream_origin` makes of the URL. -/
def fromManifest (manifest : Manifest) (origin : Except String String)
    (read : String → Except VarError String) : Except String Deployment :=
  match manifest.parse with
  | .error error => .error error
  | .ok manifest =>
      match Manifest.resolve read manifest.credentials with
      | .error error => .error error
      | .ok credentials =>
          match Registry.ofCredentials (manifest.service.map Operation.name) credentials,
            origin with
          | .error error, _ => .error error
          | .ok _, .error error => .error error
          | .ok registry, .ok origin => .ok (ofService
              { serviceId := manifest.serviceId
                operations := manifest.service
                identities := registry.identities
                authenticator := false
                adminToken := none } registry (some origin))

def withAdminToken (deployment : Deployment) (token : String) : Except String Deployment :=
  if !validToken token then
    .error "Invalid ADMIN_TOKEN"
  else if (deployment.service.identities.lookup token).isSome then
    .error "ADMIN_TOKEN must differ from all service tokens"
  else
    .ok { deployment with service := { deployment.service with adminToken := some token } }

def withRuntimeSettings (deployment : Deployment) (settings : RuntimeSettings) :
    Except String Deployment :=
  match valid : settings.validate with
  | .error error => .error error
  | .ok checked => .ok
      { deployment with
        settings := checked
        settings_valid := RuntimeSettings.validate_validate valid }

def withQueueSettings (deployment : Deployment) (settings : QueueSettings) :
    Except String Deployment :=
  if [settings.interactive, settings.agent].any fun wait =>
      !(millisecond ≤ wait && wait ≤ 3600000 * millisecond) || wait % millisecond ≠ 0 then
    .error "Queue waits must be whole milliseconds from 1 to 3600000"
  else
    .ok { deployment with queueSettings := settings }

def withSchedulerMode (deployment : Deployment) (mode : SchedulerMode) : Deployment :=
  { deployment with mode }

/-- The configurations which the constructors return. -/
inductive Constructed : Deployment → Prop
  | native {serviceId : String} {operations : List NativeOperation}
      {credentials : List Credential} {deployment : Deployment}
      (built : native serviceId operations credentials = .ok deployment) : Constructed deployment
  | nativeAuthenticated {serviceId : String} {operations : List NativeOperation}
      {grants : List Credential} {deployment : Deployment}
      (built : nativeAuthenticated serviceId operations grants = .ok deployment) :
      Constructed deployment
  | fromManifest {manifest : Manifest} {origin : Except String String}
      {read : String → Except VarError String} {deployment : Deployment}
      (built : fromManifest manifest origin read = .ok deployment) : Constructed deployment

/-- The configurations which the host can make of one. -/
inductive Configured (initial : Deployment) : Deployment → Prop
  | refl : Configured initial initial
  | withAdminToken {deployment deployment' : Deployment} {token : String}
      (configured : Configured initial deployment)
      (built : deployment.withAdminToken token = .ok deployment') : Configured initial deployment'
  | withRuntimeSettings {deployment deployment' : Deployment} {settings : RuntimeSettings}
      (configured : Configured initial deployment)
      (built : deployment.withRuntimeSettings settings = .ok deployment') :
      Configured initial deployment'
  | withQueueSettings {deployment deployment' : Deployment} {settings : QueueSettings}
      (configured : Configured initial deployment)
      (built : deployment.withQueueSettings settings = .ok deployment') :
      Configured initial deployment'
  | withSchedulerMode {deployment : Deployment} (mode : SchedulerMode)
      (configured : Configured initial deployment) :
      Configured initial (deployment.withSchedulerMode mode)

/-- The configurations a gateway can be started with. -/
def Accepted (deployment : Deployment) : Prop :=
  ∃ initial, Constructed initial ∧ Configured initial deployment

end Deployment

end AiProtocol
