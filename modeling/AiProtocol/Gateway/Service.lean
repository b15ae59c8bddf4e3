import Mathlib.Data.List.Basic
import AiProtocol.Gateway.Settings

/-!
# From an HTTP request to an action

Routing, authentication, body validation and the mapping of parameters, up to the call of `enqueue`.
The JSON extractor of the HTTP library, the deserialization of native inputs and the answer of a
host authenticator are part of the request they are applied to.
-/

namespace AiProtocol

/-- A JSON value. -/
inductive Json where
  | null
  | bool (value : Bool)
  /-- A number for which `as_u64` is defined. -/
  | unsigned (value : Nat)
  /-- Any other number. -/
  | number (text : String)
  | string (value : String)
  | array (items : List Json)
  | object (members : List (String × Json))

namespace Json

/-- `Value::as_object`. -/
def asObject : Json → Option (List (String × Json))
  | .object members => some members
  | _ => none

/-- `Value::as_str`. -/
def asStr : Json → Option String
  | .string value => some value
  | _ => none

/-- `Value::as_u64`. -/
def asU64 : Json → Option Nat
  | .unsigned value => some value
  | _ => none

end Json

/-- The type of a mapped parameter. -/
inductive ParameterType where
  | string
  | integer
  deriving DecidableEq, Repr

/-- One parameter of a mapped operation. -/
structure Parameter where
  /-- Expected JSON type. -/
  kind : ParameterType
  /-- Name of the upstream query parameter. -/
  upstream : String
  deriving DecidableEq, Repr

/-- The request a mapped operation sends upstream. -/
structure UpstreamRequest where
  /-- Path below the upstream origin. -/
  path : String
  /-- Query parameters. -/
  query : List (String × String)
  deriving DecidableEq, Repr

/-- What is executed. -/
inductive TaskAction where
  /-- A GET request to the upstream service. -/
  | mapped (request : UpstreamRequest)
  /-- A native handler applied to its input. -/
  | native (operation : String) (params : Json)

/-- `identifier`, on the characters of a name. -/
def identifier (value : List Char) : Bool :=
  !value.isEmpty && value.all fun char => char.isAlphanum || char = '_' || char = '-'

def route (value : String) : Bool :=
  match value.toList with
  | '/' :: path => (path.splitOn '/').all identifier
  | _ => false

def operationPath (value : String) : Bool :=
  route value && value ≠ "/healthz" && value ≠ "/readyz" && value ≠ "/agent-policy" &&
    value ≠ "/admin" && !"/admin/".toList.isPrefixOf value.toList

/-- A handler inside the host application. -/
structure NativeOperation where
  /-- Name by which credentials grant it. -/
  name : String
  /-- Description for callers. -/
  description : String
  /-- Route. -/
  path : String
  /-- Schema for callers. -/
  inputSchema : Json
  /-- `serde_json::from_value` succeeds. -/
  deserializes : Json → Bool
  /-- The name was checked. -/
  name_valid : identifier name.toList = true
  /-- The path was checked. -/
  path_valid : operationPath path = true
  /-- The schema was checked. -/
  schema_object : inputSchema.asObject.isSome = true

/-- `Operation::new`. -/
def NativeOperation.new (name description path : String) (inputSchema : Json)
    (deserializes : Json → Bool) : Except String NativeOperation :=
  if valid : identifier name.toList = true ∧ operationPath path = true then
    if object : inputSchema.asObject.isSome = true then
      .ok
        { name, description, path, inputSchema, deserializes
          name_valid := valid.1
          path_valid := valid.2
          schema_object := object }
    else
      .error "Operation input_schema must be an object"
  else
    .error "Invalid operation name or reserved path"

/-- An operation of the service. -/
structure Operation where
  /-- Name by which credentials grant it. -/
  name : String
  /-- Description for callers. -/
  description : String
  /-- Route. -/
  path : String
  /-- Path of the upstream request. -/
  upstreamPath : String
  /-- Parameters in the order of their names. -/
  parameters : List (String × Parameter)
  /-- The native handler, if the operation is not mapped. -/
  native : Option NativeOperation

namespace Operation

/-- The text of one query parameter. -/
def parameterText (values : List (String × Json)) (name : String) (parameter : Parameter) :
    Except String (String × String) :=
  match values.lookup name with
  | none => .error "Missing operation parameter"
  | some value =>
      let text :=
        match parameter.kind with
        | .string => value.asStr
        | .integer => value.asU64.map toString
      match text with
      | none => .error "Invalid operation parameter type"
      | some text => .ok (parameter.upstream, text)

/-- `Operation::request`. -/
def request (operation : Operation) (params : Json) : Except String UpstreamRequest :=
  match params.asObject.filter fun values => values.length = operation.parameters.length with
  | none => .error "Invalid operation parameters"
  | some values =>
      match operation.parameters.mapM fun parameter =>
        parameterText values parameter.1 parameter.2 with
      | .error error => .error error
      | .ok query => .ok { path := operation.upstreamPath, query }

/-- `Operation::prepare` of a native operation. -/
def prepare (operation : Operation) (native : NativeOperation) (params : Json) :
    Except Response TaskAction :=
  if native.deserializes params then
    .ok (.native operation.name params)
  else
    .error (protocolError 422 "invalid_parameters" "not_started")

end Operation

/-- An HTTP request, with what the HTTP library and the host make of it. -/
structure HttpRequest where
  /-- Path of the request target. -/
  path : String
  /-- Method. -/
  method : String
  /-- The `Authorization` headers, where they are text. -/
  authorization : List (Option String)
  /-- What the host authenticator answers within its second, if it is asked. -/
  grant : Option String
  /-- The JSON body, or why the extractor refused it. -/
  params : Except JsonRejection Json

namespace HttpRequest

def splitOnce (value : String) : Option (String × String) :=
  match value.toList.span (· ≠ ' ') with
  | (scheme, _ :: token) => some (String.ofList scheme, String.ofList token)
  | (_, []) => none

def bearerToken (request : HttpRequest) : Option String :=
  match request.authorization with
  | [some value] =>
      match splitOnce value with
      | some (scheme, token) =>
          if scheme.map Char.toLower = "bearer" then some token else none
      | none => none
  | _ => none

end HttpRequest

/-- A service with its credentials. -/
structure Service where
  /-- Identifier of the service. -/
  serviceId : String
  /-- Operations. -/
  operations : List Operation
  /-- Identities by bearer token, or by grant with a host authenticator. -/
  identities : List (String × ClientIdentity)
  /-- A host authenticator is configured. -/
  authenticator : Bool
  /-- The administrative token. -/
  adminToken : Option String

namespace Service

/-- Find the operation of a path. -/
def operation (service : Service) (path : String) : Option Operation :=
  service.operations.find? fun operation => operation.path = path

/-- The identity `authenticate` finds for a request. -/
def identity (service : Service) (request : HttpRequest) : Option ClientIdentity :=
  if service.authenticator then
    match request.bearerToken.filter fun token => service.adminToken ≠ some token with
    | some _ => request.grant.bind fun grant => service.identities.lookup grant
    | none => none
  else
    request.bearerToken.bind fun token => service.identities.lookup token

def authenticate (service : Service) (request : HttpRequest) : Except Response ClientIdentity :=
  match service.identity request with
  | none => .error unauthorized
  | some identity =>
      if (service.operation request.path).any fun operation =>
          !identity.operations.contains operation.name then
        .error (protocolError 403 "forbidden" "not_started")
      else
        .ok identity

def work (identity : ClientIdentity) (operation : Operation) (request : HttpRequest) :
    Decision TaskAction :=
  match request.params with
  | .error rejection => .respond (invalidJson rejection)
  | .ok params =>
      match operation.native with
      | some native =>
          match operation.prepare native params with
          | .ok action => .enqueue identity action
          | .error response => .respond response
      | none =>
          match operation.request params with
          | .ok request => .enqueue identity (.mapped request)
          | .error _ => .respond (protocolError 422 "invalid_parameters" "not_started")

/-- `app`, for the routes of operations and the fallbacks. -/
def app (service : Service) (request : HttpRequest) : Decision TaskAction :=
  match service.operation request.path with
  | none => .respond (protocolError 404 "not_found" "not_started")
  | some operation =>
      if request.method ≠ "POST" then
        .respond (protocolError 405 "method_not_allowed" "not_started")
      else
        match service.authenticate request with
        | .error response => .respond response
        | .ok identity => work identity operation request

end Service

end AiProtocol
