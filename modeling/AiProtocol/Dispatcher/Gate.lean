import AiProtocol.Client.Http

/-!
# The dispatcher: policies, progress and retries

The data of the dispatcher with the functions its tasks call: the gate which bounds the active HTTP
attempts, the record which decides between dispatch and cancellation, and the decisions of the retry
loop.
-/

namespace AiProtocol

namespace Dispatcher

/-! ## The gate -/

/-- The limits of a policy. -/
structure Limits where
  /-- What the limits apply to. -/
  scope : String
  /-- Ceiling of outstanding operations. -/
  maxOutstanding : Nat
  deriving DecidableEq, Repr

/-- The discovery document of a gateway, as far as the gate reads it. -/
structure Policy where
  /-- Protocol version. -/
  version : Nat
  /-- Owner. -/
  principalId : String
  /-- Scheduling class. -/
  clientClass : String
  /-- Revision of the ceiling. -/
  policyRevision : Nat
  /-- Delay before the next refresh. -/
  refreshAfterMs : Nat
  /-- Outstanding operations of the owner. -/
  outstanding : Nat
  /-- Limits of the owner. -/
  limits : Limits
  deriving DecidableEq, Repr

/-- The state of the gate. -/
structure Gate where
  /-- The owner, once known. -/
  principal : Option String
  /-- Revision of the last policy. -/
  revision : Nat
  /-- Ceiling of the last policy. -/
  maximum : Nat
  /-- HTTP attempts which hold a permit. -/
  active : Nat
  /-- Outstanding operations reported by the gateway. -/
  serverOutstanding : Nat
  /-- The last refresh succeeded. -/
  ready : Bool
  /-- The client stops. -/
  stopped : Bool
  deriving DecidableEq, Repr

namespace Gate

/-- `State::default`. -/
def default : Gate where
  principal := none
  revision := 0
  maximum := 0
  active := 0
  serverOutstanding := 0
  ready := false
  stopped := false

/-- `Gate::apply`. -/
def apply (gate : Gate) (policy : Policy) : Except String Gate :=
  if policy.version ≠ 3
    ∨ policy.clientClass ≠ "agent"
    ∨ policy.principalId = ""
    ∨ policy.limits.scope ≠ "principal"
    ∨ ¬(1 ≤ policy.limits.maxOutstanding ∧ policy.limits.maxOutstanding ≤ 1000)
    ∨ policy.policyRevision = 0
    ∨ ¬(100 ≤ policy.refreshAfterMs ∧ policy.refreshAfterMs ≤ 60000) then
    .error "Invalid or unsupported dynamic policy"
  else if gate.principal.any (fun principal => principal ≠ policy.principalId)
    ∨ policy.policyRevision < gate.revision
    ∨ (policy.policyRevision = gate.revision ∧ policy.limits.maxOutstanding ≠ gate.maximum) then
    .error "Inconsistent policy revision or principal"
  else
    .ok { gate with
      principal := some policy.principalId
      revision := policy.policyRevision
      maximum := policy.limits.maxOutstanding
      serverOutstanding := policy.outstanding
      ready := true }

/-- `Gate::pause`. -/
def pause (gate : Gate) : Gate :=
  { gate with ready := false }

/-- `Gate::stop`. -/
def stop (gate : Gate) : Gate :=
  { gate with stopped := true }

/-- One turn of the loop in `Gate::acquire`; nothing means that it waits for a change. -/
def acquire (gate : Gate) : Option (Except String Gate) :=
  if gate.stopped then
    some (.error "Client stopped")
  else if gate.ready ∧ gate.active < gate.maximum then
    some (.ok { gate with active := gate.active + 1 })
  else
    none

/-- `Attempt::drop`. -/
def release (gate : Gate) : Gate :=
  { gate with active := gate.active - 1 }

theorem apply_eq_ok {gate gate' : Gate} {policy : Policy}
    (applied : gate.apply policy = .ok gate') :
    gate'.maximum = policy.limits.maxOutstanding ∧ gate'.active = gate.active ∧
      gate'.stopped = gate.stopped := by
  unfold apply at applied
  split at applied
  · cases applied
  · split at applied
    · cases applied
    · cases applied
      exact ⟨rfl, rfl, rfl⟩

theorem acquire_eq_ok {gate gate' : Gate} (acquired : gate.acquire = some (.ok gate')) :
    gate.active < gate.maximum ∧ gate' = { gate with active := gate.active + 1 } := by
  unfold acquire at acquired
  split at acquired
  · cases acquired
  · split at acquired
    · rename_i room
      cases acquired
      exact ⟨room.2, rfl⟩
    · cases acquired

end Gate

/-! ## Replies and progress -/

/-- The answer of the dispatcher to its caller. -/
structure Reply where
  /-- The operation succeeded. -/
  ok : Bool
  /-- What happened. -/
  code : String
  /-- What is known about the execution. -/
  execution : String
  /-- HTTP attempts begun. -/
  attempts : Option Nat
  /-- Status of the last response. -/
  status : Option Nat
  /-- JSON body of the last response. -/
  body : Option Json

/-- `Reply::error`. -/
def Reply.error (code execution : String) (attempts : Nat) : Reply :=
  { ok := false, code, execution, attempts := some attempts, status := none, body := none }

/-- What `send_reply` puts on the wire; replies which exceed a frame are replaced. -/
def Reply.framed (reply : Reply) (oversized : Bool) : Reply :=
  if oversized then
    .error "dispatcher_response_too_large" "unknown" (reply.attempts.getD 0)
  else
    reply

/-- The progress of one request behind its mutex. -/
structure Progress where
  /-- HTTP attempts begun. -/
  attempts : Nat
  /-- An attempt without a denial was begun. -/
  mayHaveExecuted : Bool
  /-- No attempt may begin any more. -/
  closed : Bool
  deriving DecidableEq, Repr

namespace Progress

/-- `ProgressState::default`. -/
def default : Progress where
  attempts := 0
  mayHaveExecuted := false
  closed := false

/-- `Progress::begin`: the state after beginning an attempt, or a refusal. -/
def begin (state : Progress) (deadline now : Nat) : Option Progress :=
  if state.closed ∨ now ≥ deadline then
    none
  else
    some { state with attempts := state.attempts + 1, mayHaveExecuted := true }

/-- The state after `Progress::failure`. -/
def close (state : Progress) : Progress :=
  { state with closed := true }

/-- The reply of `Progress::failure`. -/
def failure (state : Progress) (code : String) : Reply :=
  .error code (if state.mayHaveExecuted then "unknown" else "not_started") state.attempts

/-- What a denying response says about the progress. -/
def deny (state : Progress) : Progress :=
  { state with mayHaveExecuted := false }

theorem begin_eq_some {state state' : Progress} {deadline now : Nat} :
    state.begin deadline now = some state' ↔ state.closed = false ∧ now < deadline ∧
      state' = { state with attempts := state.attempts + 1, mayHaveExecuted := true } := by
  unfold begin
  split
  · rename_i refused
    simp only [reduceCtorEq, false_iff, not_and]
    intro isOpen early
    rcases refused with closed | late
    · rw [isOpen] at closed
      cases closed
    · omega
  · rename_i allowed
    simp only [ge_iff_le, not_or, Bool.not_eq_true, Nat.not_le] at allowed
    simp [allowed, eq_comm]

end Progress

/-! ## Retries -/

def notStarted (response : HttpReply) : Bool :=
  [400, 401, 403, 404, 405, 413, 415, 422, 429].contains response.status ||
    response.status = 503 &&
      ((response.errorCode = some "queue_timeout" || response.errorCode = some "gateway_closed") &&
        response.errorExecution = some "not_started")

def safeToRetry (response : HttpReply) : Bool :=
  if response.status = 429 then true
  else if response.status ≠ 503 then false
  else
    response.errorCode = some "queue_timeout" && response.errorExecution = some "not_started"

/-- `raw.trim()` for the header values `to_str` accepts. -/
def trim (raw : List Char) : List Char :=
  let blank := fun char => char = ' ' || char = '\t'
  ((raw.dropWhile blank).reverse.dropWhile blank).reverse

/-- The pause asked for by a `Retry-After` header, in seconds. -/
def retrySeconds (retryAfter : Option String) : Except String Nat :=
  let raw := trim (retryAfter.getD "1").toList
  let seconds :=
    if !raw.isEmpty && raw.all Char.isDigit then
      raw.foldl (fun value digit => value * 10 + (digit.toNat - '0'.toNat)) 0
    else
      1
  -- beyond 64 bits the parser refuses; beyond a day the client does, with the same message
  if seconds > 86400 then .error "Retry-After exceeds the client deadline" else .ok seconds

/-- What `retry::run` makes of one response. -/
inductive Verdict where
  | completed
  | failed (error : String)
  | pause (seconds : Nat)

/-- One turn of `retry::run`. -/
def verdict (number : Nat) (response : HttpReply) : Verdict :=
  if response.isSuccess then
    .completed
  else if number = 5 || !safeToRetry response then
    .failed s!"Operation HTTP status {response.status}"
  else
    match retrySeconds response.retryAfter with
    | .error error => .failed error
    | .ok seconds => .pause seconds

/-- The dispatcher believes exactly the documented denials. -/
theorem notStarted_iff {response : HttpReply} : notStarted response ↔ response.Denies := by
  simp [notStarted, HttpReply.Denies]

theorem notStarted_of_safeToRetry {response : HttpReply} (safe : safeToRetry response) :
    notStarted response := by
  unfold safeToRetry at safe
  split at safe
  · rename_i throttled
    simp [notStarted, throttled]
  · split at safe
    · cases safe
    · rename_i unavailable
      simp only [ne_eq, not_not] at unavailable
      simp only [Bool.and_eq_true, decide_eq_true_eq] at safe
      simp [notStarted, unavailable, safe]

/-- A pause follows a denial, and precedes at most five attempts. -/
theorem of_verdict_pause {number seconds : Nat} {response : HttpReply}
    (paused : verdict number response = .pause seconds) : notStarted response ∧ number ≠ 5 := by
  unfold verdict at paused
  split at paused
  · cases paused
  · split at paused
    · cases paused
    · rename_i retried
      simp only [Bool.or_eq_true, decide_eq_true_eq, Bool.not_eq_eq_eq_not, Bool.not_true, not_or,
        Bool.not_eq_false] at retried
      exact ⟨notStarted_of_safeToRetry retried.2, retried.1⟩

end Dispatcher

end AiProtocol
