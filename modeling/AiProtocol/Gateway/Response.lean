import Mathlib.Data.List.Basic

/-!
# Gateway responses

The status, the `Retry-After` header and the body of a response.  A body is either one of the
structured errors of the gateway or bytes which came from the executed operation.
-/

namespace AiProtocol

/-- The body of a response. -/
inductive Body where
  /-- `{"error": {"code": …, "execution": …}}`. -/
  | error (code execution : String)
  /-- Bytes produced by the operation. -/
  | bytes (content : List UInt8)
  deriving DecidableEq, Repr

namespace Body

/-- Length in bytes of the body on the wire. -/
def size : Body → Nat
  | .error code execution =>
      ("\x7b\"error\":\x7b\"code\":\"" ++ code ++ "\",\"execution\":\"" ++ execution ++
        "\"\x7d\x7d").utf8ByteSize
  | .bytes content => content.length

end Body

/-- A response of the gateway or of an executed operation. -/
structure Response where
  /-- HTTP status code. -/
  status : Nat
  /-- The `Retry-After` header. -/
  retryAfter : Option String
  /-- The body. -/
  body : Body
  deriving DecidableEq, Repr

namespace Response

/-- `StatusCode::is_success`. -/
def isSuccess (response : Response) : Bool :=
  200 ≤ response.status && response.status < 300

/-- The `error.execution` member of a structured error. -/
def execution (response : Response) : Option String :=
  match response.body with
  | .error _ execution => some execution
  | .bytes _ => none

/-- The `error.code` member of a structured error. -/
def code (response : Response) : Option String :=
  match response.body with
  | .error code _ => some code
  | .bytes _ => none

end Response

def protocolError (status : Nat) (code execution : String) : Response :=
  { status, retryAfter := none, body := .error code execution }

def unauthorized : Response :=
  protocolError 401 "unauthorized" "not_started"

def overloaded (code delay : String) : Response :=
  { protocolError 429 code "not_started" with retryAfter := some delay }

def queueTimeout : Response :=
  { status := 503, retryAfter := some "1", body := .error "queue_timeout" "not_started" }

def gatewayClosed : Response :=
  { status := 503, retryAfter := none, body := .error "gateway_closed" "not_started" }

/-- The answer of `enqueue` when the sender of its result channel disappeared. -/
def internalError : Response :=
  protocolError 500 "internal_error" "unknown"

/-- Why axum's `Json` extractor refused a body. -/
inductive JsonRejection where
  | syntaxError
  | dataError
  | missingContentType
  | tooLarge
  | unreadable
  deriving DecidableEq, Repr

namespace JsonRejection

/-- `JsonRejection::status`. -/
def status : JsonRejection → Nat
  | .syntaxError => 400
  | .dataError => 422
  | .missingContentType => 415
  | .tooLarge => 413
  | .unreadable => 400

end JsonRejection

def invalidJson (rejection : JsonRejection) : Response :=
  let code :=
    if rejection.status = 413 then "request_too_large"
    else if rejection.status = 415 then "unsupported_media_type"
    else if rejection.status = 422 then "invalid_parameters"
    else "invalid_json"
  protocolError rejection.status code "not_started"

end AiProtocol
