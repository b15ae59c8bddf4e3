import Mathlib.Data.List.Basic
import AiProtocol.Gateway.Service

/-!
# Executing an action

`call_upstream` with the materialization of its response and the execution timeout, as functions of
what the native handler or the upstream service does.
-/

namespace AiProtocol

/-- A response whose body may still fail while it is read. -/
structure Reply where
  /-- HTTP status code. -/
  status : Nat
  /-- The `Retry-After` header. -/
  retryAfter : Option String
  /-- The body, unless reading it fails. -/
  body : Option Body

/-- A response the gateway has in memory. -/
def Reply.ofResponse (response : Response) : Reply :=
  { status := response.status, retryAfter := response.retryAfter, body := some response.body }

/-- What a native handler returns. -/
structure HandlerReply where
  /-- HTTP status code. -/
  status : Nat
  /-- The `Retry-After` header. -/
  retryAfter : Option String
  /-- The bytes of its body, unless the body fails. -/
  content : Option (List UInt8)

/-- The upstream response, chunk by chunk; a missing chunk is an error of the transport. -/
structure UpstreamReply where
  /-- HTTP status code. -/
  status : Nat
  /-- `content_length`. -/
  contentLength : Option Nat
  /-- Successive results of `chunk`. -/
  chunks : List (Option (List UInt8))

/-- The result of `request.send()`. -/
inductive Sent where
  | failed (isTimeout : Bool)
  | replied (reply : UpstreamReply)

/-- What the world does with one execution. -/
structure World where
  /-- The native handler. -/
  handler : HandlerReply
  /-- The upstream service. -/
  upstream : Sent
  /-- The execution timeout fires first. -/
  elapsed : Bool

/-- The loop of `call_upstream` over the chunks of a body. -/
def readBody (maxResponseBytes : Nat) :
    List (Option (List UInt8)) → List UInt8 → Except Response (List UInt8)
  | [], body => .ok body
  | none :: _, _ => .error (protocolError 502 "upstream_body_error" "unknown")
  | some chunk :: chunks, body =>
      if chunk.length ≤ maxResponseBytes - body.length then
        readBody maxResponseBytes chunks (body ++ chunk)
      else
        .error (protocolError 502 "response_too_large" "unknown")

/-- `call_upstream` for a native handler. -/
def callNative (handler : HandlerReply) : Reply :=
  if 200 ≤ handler.status ∧ handler.status < 300 then
    { status := handler.status
      retryAfter := handler.retryAfter
      body := handler.content.map .bytes }
  else
    .ofResponse (protocolError 502 "operation_failed" "unknown")

/-- `call_upstream` for a mapped operation. -/
def callMapped (upstreamUrl : Option String) (maxResponseBytes : Nat) (sent : Sent) : Response :=
  match upstreamUrl with
  | none => protocolError 500 "internal_error" "unknown"
  | some _ =>
      match sent with
      | .failed isTimeout =>
          if isTimeout then
            protocolError 504 "execution_timeout" "unknown"
          else
            protocolError 502 "upstream_unavailable" "unknown"
      | .replied reply =>
          if reply.status ≠ 200 then
            protocolError 502 "upstream_status" "unknown"
          else if reply.contentLength.any fun size => size > maxResponseBytes then
            protocolError 502 "response_too_large" "unknown"
          else
            match readBody maxResponseBytes reply.chunks [] with
            | .ok body => { status := 200, retryAfter := none, body := .bytes body }
            | .error response => response

def callUpstream (upstreamUrl : Option String) (maxResponseBytes : Nat) (action : TaskAction)
    (world : World) : Reply :=
  match action with
  | .native _ _ => callNative world.handler
  | .mapped _ => .ofResponse (callMapped upstreamUrl maxResponseBytes world.upstream)

/-- `to_bytes` with its limit. -/
def materialize (maxResponseBytes : Nat) (reply : Reply) : Response :=
  match reply.body.filter fun body => body.size ≤ maxResponseBytes with
  | some body => { status := reply.status, retryAfter := reply.retryAfter, body }
  | none => protocolError 502 "response_too_large" "unknown"

/-- The closure `scheduler_with_client` gives to `run_scheduler`. -/
def execute (upstreamUrl : Option String) (settings : RuntimeSettings) (action : TaskAction)
    (world : World) : Response :=
  if world.elapsed then
    protocolError 504 "execution_timeout" "unknown"
  else
    materialize settings.maxResponseBytes
      (callUpstream upstreamUrl settings.maxResponseBytes action world)

end AiProtocol
