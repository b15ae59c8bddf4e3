import AiProtocol.Library.Retry
import AiProtocol.Dispatcher.Gate
import AiProtocol.Client.Policy

/-!
# Three retry engines

`retry::run` of the Rust client, `execute` of the synchronous Python client and the loop of
`AsyncClient.call`, each by its decision about one response.
-/

namespace AiProtocol

def second : Nat := 1000 * millisecond

/-- The number a run of digits stands for. -/
def decimal (digits : List Char) : Nat :=
  digits.foldl (fun value digit => value * 10 + (digit.toNat - '0'.toNat)) 0

/-- At least one character, and all of them ASCII digits. -/
def asciiDigits (text : List Char) : Bool :=
  !text.isEmpty && text.all Char.isDigit

/-! ## The Python clients -/

namespace Sdk

/-- `str.isspace` of one character. -/
def isSpace (char : Char) : Bool :=
  let code := char.toNat
  (9 ≤ code && code ≤ 13) || (28 ≤ code && code ≤ 32) ||
    [0x85, 0xa0, 0x1680, 0x2028, 0x2029, 0x202f, 0x205f, 0x3000].contains code ||
    (0x2000 ≤ code && code ≤ 0x200a)

def strip (text : List Char) : List Char :=
  ((text.dropWhile isSpace).reverse.dropWhile isSpace).reverse

/-- `int` of a run of digits, which the interpreter limits. -/
def int (digits : List Char) : Except PyError Nat :=
  if 4300 < digits.length then
    .error (.value "Exceeds the limit (4300 digits) for integer string conversion")
  else
    .ok (decimal digits)

/-- The pause asked for by a `Retry-After` header, in seconds. -/
def retrySeconds (retryAfter : Option String) : Except PyError Nat :=
  let raw := strip (retryAfter.getD "1").toList
  if asciiDigits raw then int raw else .ok 1

def safeToRetry (response : HttpReply) : Bool :=
  if response.status = 429 then true
  else if response.status ≠ 503 then false
  else
    match response.body with
    | none => false
    | some body =>
        (body.get "error").any fun error =>
          (error.get "code").bind Json.asStr = some "queue_timeout" &&
            (error.get "execution").bind Json.asStr = some "not_started"

/-- `response.json().get("error", {})`, or an empty object where this raises. -/
def errorMember (response : HttpReply) : Json :=
  match response.body with
  | some (.object members) => (members.lookup "error").getD (.object [])
  | _ => .object []

/-- The test `known` of `call`. -/
def known (response : HttpReply) : Bool :=
  let error := errorMember response
  [400, 401, 403, 404, 405, 413, 415, 422, 429].contains response.status ||
    response.status = 503 &&
      (((error.get "code").bind Json.asStr = some "queue_timeout" ||
          (error.get "code").bind Json.asStr = some "gateway_closed") &&
        (error.get "execution").bind Json.asStr = some "not_started")

/-- `re.fullmatch(r"[a-z][a-z0-9_]{0,63}", code)`. -/
def isCode (code : String) : Bool :=
  match code.toList with
  | first :: rest =>
      ('a' ≤ first && first ≤ 'z') && rest.length ≤ 63 &&
        rest.all fun char => ('a' ≤ char && char ≤ 'z') || char.isDigit || char = '_'
  | [] => false

/-- The code of the error `call` raises for a response. -/
def errorCode (response : HttpReply) : String :=
  (((errorMember response).get "code").bind Json.asStr).elim "http_error" fun code =>
    if isCode code then code else "http_error"

/-- How `call` ends. -/
inductive Ending where
  /-- The body of the response. -/
  | returned (value : Json)
  /-- `OperationError`. -/
  | operationError (code execution : String) (status attempts : Option Nat)
  /-- `DeadlineExceeded`. -/
  | deadlineExceeded (execution : String) (attempts : Nat)
  /-- `CancelledError`. -/
  | cancelled
  /-- Any other exception. -/
  | raised (error : PyError)

/-- What one turn of the loop in `call` makes of its response. -/
inductive Turn where
  | ends (ending : Ending)
  | sleeps (seconds : Nat)

/-- The end of a turn in `call`; `left` are the nanoseconds left to the deadline. -/
def turn (number left : Nat) (response : HttpReply) : Turn :=
  if response.isSuccess then
    match response.body with
    | some value => .ends (.returned value)
    | none => .ends (.operationError "invalid_response" "unknown" none (some number))
  else if !safeToRetry response || number = 5 then
    .ends (.operationError (errorCode response)
      (if known response then "not_started" else "unknown")
      (some response.status) (some number))
  else
    match retrySeconds response.retryAfter with
    | .error error => .ends (.raised error)
    | .ok seconds =>
        if left ≤ seconds * second then
          .ends (.deadlineExceeded "not_started" number)
        else
          .sleeps seconds

end Sdk

/-! ## The Rust client -/

namespace Dispatcher

/-- The characters of a header which `to_str` accepts. -/
def visible (char : Char) : Bool :=
  char = '\t' || (32 ≤ char.toNat && char.toNat ≤ 126)

/-- `to_str` of a header. -/
def headerText (raw : Option String) : Option String :=
  raw.filter fun text => text.toList.all visible

end Dispatcher

/-! ## Responses on the wire -/

/-- A response of the gateway on the wire. -/
structure RawReply where
  /-- HTTP status code. -/
  status : Nat
  /-- The `Retry-After` header. -/
  retryAfter : Option String
  /-- The values of the other headers. -/
  others : List String
  /-- The bytes of the body. -/
  body : List UInt8

/-- How clients read bodies. -/
structure Readers where
  /-- `max_response_bytes`. -/
  maximum : Nat
  /-- `response.json` of the Python clients. -/
  python : List UInt8 → Except PyError Json
  /-- `serde_json::from_slice` of the Rust client. -/
  rust : List UInt8 → Option Json

namespace RawReply

/-- Header values which `httpx` encodes when it makes a response of its own. -/
def isAscii (raw : RawReply) : Bool :=
  (raw.retryAfter.toList ++ raw.others).all fun value =>
    value.toList.all fun char => char.toNat < 128

variable (readers : Readers) (raw : RawReply)

/-- The response as a Python client reads it. -/
def direct : HttpReply where
  status := raw.status
  retryAfter := raw.retryAfter
  body := (readers.python raw.body).toOption

def relayed : HttpReply where
  status := raw.status
  retryAfter := Dispatcher.headerText raw.retryAfter
  body := readers.rust raw.body

/-- The asynchronous client gets hold of the response. -/
structure Received : Prop where
  /-- The body is not longer than it may be. -/
  fits : raw.body.length ≤ readers.maximum
  /-- All headers are ASCII. -/
  ascii : raw.isAscii = true

/-- Python fails to decode a body with a `ValueError` at most. -/
def Decodes : Prop :=
  ∀ error, readers.python raw.body = .error error → error.isValue = true

end RawReply

namespace Sdk

variable (readers : Readers)

/-- `_request`, which builds the response anew from the headers it decoded. -/
def request (raw : RawReply) : Except PyError RawReply :=
  if readers.maximum < raw.body.length then
    .error (.protocol "Response exceeds the configured size limit")
  else if raw.isAscii then
    .ok raw
  else
    -- `UnicodeEncodeError`
    .error (.value "'ascii' codec can't encode characters")

/-- What `call` makes of a response of the gateway, `left` nanoseconds before the deadline. -/
def directTurn (number left : Nat) (raw : RawReply) : Turn :=
  match request readers raw with
  | .error (.protocol _) =>
      .ends (.operationError "transport_error" "unknown" none (some number))
  | .error error => .ends (.raised error)
  | .ok raw =>
      match readers.python raw.body with
      | .ok _ => turn number left (raw.direct readers)
      | .error error =>
          if error.isValue then turn number left (raw.direct readers) else .ends (.raised error)

/-- Nanoseconds left to the deadline when a client looks at its clock. -/
structure Timing where
  /-- Before the attempt. -/
  started : Nat
  /-- After the attempt. -/
  received : Nat
  /-- Before the pause. -/
  pausing : Nat

/-- `safe_to_retry`, which decodes the body after a 503 only. -/
def rawSafeToRetry (raw : RawReply) : Except PyError Bool :=
  if raw.status = 503 then
    match readers.python raw.body with
    | .ok _ => .ok (safeToRetry (raw.direct readers))
    | .error error => if error.isValue then .ok false else .error error
  else
    .ok (safeToRetry (raw.direct readers))

/-- One turn of the loop in `execute`. -/
def executeDecision (timing : Nat → Timing) (number : Nat) (raw : RawReply) : Retry.Decision :=
  if (timing number).started = 0 ∨ (timing number).received = 0 then
    .stop false
  else
    match rawSafeToRetry readers raw with
    | .error _ => .stop false
    | .ok safe =>
        if safe && number < 5 then
          match retrySeconds raw.retryAfter with
          | .error _ => .stop false
          | .ok seconds =>
              if (timing number).pausing ≤ seconds * second then .stop false else .wait seconds
        else if !(raw.direct readers).isSuccess then
          -- `raise_for_status`
          .stop false
        else
          .stop (readers.python raw.body).isOk

/-- One turn of the loop in `call`. -/
def callDecision (timing : Nat → Timing) (number : Nat) (raw : RawReply) : Retry.Decision :=
  match directTurn readers number (timing number).pausing raw with
  | .ends (.returned _) => .stop true
  | .ends _ => .stop false
  | .sleeps seconds => .wait seconds

end Sdk

/-- One turn of the loop in `retry::run`, on the response the transport makes of a reply. -/
def Dispatcher.runDecision (readers : Readers) (number : Nat) (raw : RawReply) : Retry.Decision :=
  match verdict number (raw.relayed readers) with
  | .completed => .stop true
  | .failed _ => .stop false
  | .pause seconds => .wait seconds

/-! ## Retryable responses -/

namespace HttpReply

/-- The only responses after which an attempt is repeated. -/
def Retryable (reply : HttpReply) : Prop :=
  reply.status = 429 ∨ reply.status = 503 ∧ ∃ members error,
    reply.body = some (.object members) ∧ members.lookup "error" = some (.object error) ∧
      error.lookup "code" = some (.string "queue_timeout") ∧
        error.lookup "execution" = some (.string "not_started")

theorem Retryable.not_success {reply : HttpReply} (retryable : reply.Retryable) :
    reply.isSuccess = false := by
  rcases retryable with throttled | ⟨unavailable, -⟩
  · simp [isSuccess, throttled]
  · simp [isSuccess, unavailable]

theorem not_retryable_of_success {reply : HttpReply} (success : reply.isSuccess = true) :
    ¬reply.Retryable := by
  intro retryable
  rw [retryable.not_success] at success
  cases success

end HttpReply

namespace Json

theorem index_index_asStr (value : Json) (outer inner : String) :
    ((value.index outer).index inner).asStr =
      (value.get outer).bind fun member => (member.get inner).bind asStr := by
  have null : ∀ key, (Json.null.index key).asStr = none := fun _ => rfl
  cases value with
  | object members =>
      rw [get_object]
      simp only [index]
      cases members.lookup outer with
      | none => exact null inner
      | some member =>
          cases member with
          | object members =>
              simp only [Option.getD_some, Option.bind_some, get_object]
              cases members.lookup inner <;> rfl
          | _ => rfl
  | _ => rfl

theorem get_get_asStr {value : Json} {outer inner text : String} :
    ((value.get outer).bind fun member => (member.get inner).bind asStr) = some text ↔
      ∃ members error, value = .object members ∧ members.lookup outer = some (.object error) ∧
        error.lookup inner = some (.string text) := by
  constructor
  · intro found
    obtain ⟨member, outside, inside⟩ := Option.bind_eq_some_iff.mp found
    obtain ⟨item, here, isText⟩ := Option.bind_eq_some_iff.mp inside
    cases value with
    | object members =>
        cases member with
        | object error =>
            cases item with
            | string other =>
                obtain rfl : other = text := Option.some.inj isText
                exact ⟨members, error, rfl, outside, here⟩
            | _ => cases isText
        | _ => cases here
    | _ => cases outside
  · rintro ⟨members, error, rfl, outside, inside⟩
    simp [outside, inside, asStr]

end Json

/-- The Rust client repeats nothing else. -/
theorem Dispatcher.safeToRetry_iff {response : HttpReply} :
    safeToRetry response = true ↔ response.Retryable := by
  unfold safeToRetry HttpReply.Retryable HttpReply.errorCode HttpReply.errorExecution
  by_cases throttled : response.status = 429
  · simp [throttled]
  by_cases unavailable : response.status = 503
  · cases response.body with
    | none => simp [unavailable]
    | some body =>
        simp only [unavailable, Nat.reduceEqDiff, ↓reduceIte, ne_eq, not_true_eq_false,
          Option.bind_some, Json.index_index_asStr, Bool.and_eq_true, decide_eq_true_eq,
          Json.get_get_asStr, false_or, Option.some.injEq, true_and]
        constructor
        · rintro ⟨⟨members, error, rfl, outside, code⟩, _, _, ⟨⟩, same, execution⟩
          rw [outside] at same
          cases same
          exact ⟨members, error, rfl, outside, code, execution⟩
        · rintro ⟨members, error, rfl, outside, code, execution⟩
          exact ⟨⟨members, error, rfl, outside, code⟩, members, error, rfl, outside, execution⟩
  · simp [throttled, unavailable]

/-- Nor do the Python clients. -/
theorem Sdk.safeToRetry_iff {response : HttpReply} :
    safeToRetry response = true ↔ response.Retryable := by
  unfold safeToRetry HttpReply.Retryable
  by_cases throttled : response.status = 429
  · simp [throttled]
  by_cases unavailable : response.status = 503
  · cases response.body with
    | none => simp [unavailable]
    | some body =>
        have both : ((body.get "error").any fun error =>
            (error.get "code").bind Json.asStr = some "queue_timeout" &&
              (error.get "execution").bind Json.asStr = some "not_started") = true ↔
            ((body.get "error").bind fun member => (member.get "code").bind Json.asStr) =
                some "queue_timeout" ∧
              ((body.get "error").bind fun member => (member.get "execution").bind Json.asStr) =
                some "not_started" := by
          cases body.get "error" <;> simp
        simp only [unavailable, Nat.reduceEqDiff, ↓reduceIte, ne_eq, not_true_eq_false, both,
          Json.get_get_asStr, false_or, Option.some.injEq, true_and]
        constructor
        · rintro ⟨⟨members, error, rfl, outside, code⟩, _, _, ⟨⟩, same, execution⟩
          rw [outside] at same
          cases same
          exact ⟨members, error, rfl, outside, code, execution⟩
        · rintro ⟨members, error, rfl, outside, code, execution⟩
          exact ⟨⟨members, error, rfl, outside, code⟩, members, error, rfl, outside, execution⟩
  · simp [throttled, unavailable]

/-- `known` is the documented denial. -/
theorem Sdk.known_iff {response : HttpReply} : known response = true ↔ response.Denies := by
  have texts : ∀ key, ((errorMember response).get key).bind Json.asStr =
      response.body.bind fun value => ((value.index "error").index key).asStr := by
    intro key
    unfold errorMember
    cases response.body with
    | none => rfl
    | some body =>
        rw [Option.bind_some, Json.index_index_asStr]
        cases body with
        | object members =>
            rw [Json.get_object]
            cases found : members.lookup "error" <;> simp [found]
        | _ => rfl
  simp [known, HttpReply.Denies, HttpReply.errorCode, HttpReply.errorExecution, texts]

/-! ## Pauses -/

/-- The pause a header stands for: its number, stripped of blanks, or one second. -/
def pauseSeconds (retryAfter : Option String) : Nat :=
  let raw := Sdk.strip (retryAfter.getD "1").toList
  if asciiDigits raw then decimal raw else 1

/-- A stripped run of digits is short enough for the interpreter. -/
def Short (retryAfter : Option String) : Prop :=
  let raw := Sdk.strip (retryAfter.getD "1").toList
  asciiDigits raw = true → raw.length ≤ 4300

/-- A stripped run of digits stands for one second where the Rust client cannot read the header. -/
def Legible (retryAfter : Option String) : Prop :=
  let raw := Sdk.strip (retryAfter.getD "1").toList
  asciiDigits raw = true →
    (∀ text, retryAfter = some text → text.toList.all Dispatcher.visible = true) ∨ decimal raw = 1

theorem Sdk.retrySeconds_of_short {retryAfter : Option String} (short : Short retryAfter) :
    retrySeconds retryAfter = .ok (pauseSeconds retryAfter) := by
  unfold Short at short
  simp only [retrySeconds, pauseSeconds, int] at short ⊢
  generalize strip (retryAfter.getD "1").toList = raw at short ⊢
  by_cases digits : asciiDigits raw = true
  · simp [digits, Nat.not_lt.mpr (short digits)]
  · simp [digits]

theorem Sdk.retrySeconds_of_long {retryAfter : Option String} (long : ¬Short retryAfter) :
    retrySeconds retryAfter =
      .error (.value "Exceeds the limit (4300 digits) for integer string conversion") := by
  unfold Short at long
  simp only [retrySeconds, int, Classical.not_imp, Nat.not_le] at long ⊢
  simp [long.1, long.2]

theorem dropWhile_congr {Item : Type} {left right : Item → Bool} {items : List Item}
    (same : ∀ item ∈ items, left item = right item) :
    items.dropWhile left = items.dropWhile right := by
  induction items with
  | nil => rfl
  | cons item rest induction =>
      have first := same item List.mem_cons_self
      simp only [List.dropWhile_cons, first]
      split
      · exact induction fun other member => same other (List.mem_cons_of_mem _ member)
      · rfl

private theorem Dispatcher.trim_eq_strip {text : List Char} (seen : text.all visible = true) :
    trim text = Sdk.strip text := by
  have same : ∀ char ∈ text, (char = ' ' || char = '\t') = Sdk.isSpace char := by
    intro char member
    have shown := List.all_eq_true.mp seen char member
    rw [Bool.eq_iff_iff]
    simp only [visible, Sdk.isSpace, Bool.or_eq_true, Bool.and_eq_true, decide_eq_true_eq,
      List.contains_eq_mem, List.mem_cons, List.not_mem_nil, or_false, ← Char.toNat_inj,
      Char.reduceToNat] at shown ⊢
    omega
  simp only [trim, Sdk.strip]
  rw [dropWhile_congr same]
  congr 1
  apply dropWhile_congr
  intro char member
  exact same char (List.dropWhile_sublist _ |>.subset (List.mem_reverse.mp member))

/-- The pause of the Rust client. -/
theorem Dispatcher.retrySeconds_headerText (retryAfter : Option String)
    (short : pauseSeconds retryAfter ≤ 86400) :
    retrySeconds (headerText retryAfter) = .ok
      (if ∀ text, retryAfter = some text → text.toList.all visible = true then
        pauseSeconds retryAfter
      else
        1) := by
  have default : retrySeconds none = .ok 1 := rfl
  have one : pauseSeconds none = 1 := by decide
  cases retryAfter with
  | none =>
      rw [one]
      simpa [headerText] using default
  | some text =>
      simp only [Option.some.injEq, forall_eq', headerText]
      by_cases seen : text.toList.all visible = true
      · simp only [Option.filter_some, seen, ↓reduceIte]
        have same := trim_eq_strip seen
        unfold retrySeconds
        simp only [Option.getD_some, same]
        unfold pauseSeconds asciiDigits decimal at short ⊢
        simp only [Option.getD_some] at short ⊢
        rw [if_neg (by omega)]
      · simp only [Option.filter_some, seen, Bool.false_eq_true, ↓reduceIte]
        exact default

/-! ## Decisions -/

section Decisions

variable {readers : Readers} {number : Nat} {raw : RawReply}

namespace Dispatcher

theorem runDecision_of_stop (final : number = 5 ∨ ¬(raw.relayed readers).Retryable) :
    runDecision readers number raw = .stop (raw.direct readers).isSuccess := by
  have stops : (number = 5 || !safeToRetry (raw.relayed readers)) = true := by
    rcases final with last | other
    · simp [last]
    · rw [← safeToRetry_iff, Bool.not_eq_true] at other
      simp [other]
  have status : (raw.relayed readers).isSuccess = (raw.direct readers).isSuccess := rfl
  unfold runDecision verdict
  rw [status]
  cases (raw.direct readers).isSuccess with
  | true => rfl
  | false => simp [stops]

theorem runDecision_of_retryable (retryable : (raw.relayed readers).Retryable)
    (more : number ≠ 5) (short : pauseSeconds raw.retryAfter ≤ 86400) :
    runDecision readers number raw = .wait
      (if ∀ text, raw.retryAfter = some text → text.toList.all visible = true then
        pauseSeconds raw.retryAfter
      else
        1) := by
  have header : (raw.relayed readers).retryAfter = headerText raw.retryAfter := rfl
  unfold runDecision verdict
  rw [retryable.not_success, safeToRetry_iff.mpr retryable, header,
    retrySeconds_headerText _ short]
  simp [more]

end Dispatcher

namespace Sdk

theorem rawSafeToRetry_of_retryable (retryable : (raw.direct readers).Retryable) :
    rawSafeToRetry readers raw = .ok true := by
  unfold rawSafeToRetry
  rw [safeToRetry_iff.mpr retryable]
  split
  · rename_i unavailable
    rcases retryable with throttled | ⟨-, members, error, body, -⟩
    · have status : raw.status = 429 := throttled
      omega
    · have decoded : (readers.python raw.body).toOption = some (.object members) := body
      cases read : readers.python raw.body with
      | ok value => rfl
      | error error =>
          rw [read] at decoded
          cases decoded
  · rfl

private theorem rawSafeToRetry_of_not (other : ¬(raw.direct readers).Retryable) :
    rawSafeToRetry readers raw = .ok false ∨
      (raw.direct readers).isSuccess = false ∧ ∃ error, rawSafeToRetry readers raw = .error error := by
  have unsafe_ : safeToRetry (raw.direct readers) = false := by
    rw [← Bool.not_eq_true, safeToRetry_iff]
    exact other
  unfold rawSafeToRetry
  rw [unsafe_]
  split
  · rename_i unavailable
    have failure : (raw.direct readers).isSuccess = false := by
      simp [HttpReply.isSuccess, RawReply.direct, unavailable]
    split
    · exact .inl rfl
    · split
      · exact .inl rfl
      · exact .inr ⟨failure, _, rfl⟩
  · exact .inl rfl

private theorem request_of_received (received : raw.Received readers) :
    request readers raw = .ok raw := by
  rw [request, if_neg (Nat.not_lt.mpr received.fits), if_pos received.ascii]

theorem directTurn_oversized (left : Nat) (big : readers.maximum < raw.body.length) :
    directTurn readers number left raw =
      .ends (.operationError "transport_error" "unknown" none (some number)) := by
  simp [directTurn, request, big]

theorem directTurn_raised (left : Nat) (fits : raw.body.length ≤ readers.maximum)
    (foreign : ¬(raw.isAscii = true ∧ raw.Decodes readers)) :
    ∃ error, directTurn readers number left raw = .ends (.raised error) := by
  by_cases ascii : raw.isAscii = true
  · have raises : ¬raw.Decodes readers := fun decodes => foreign ⟨ascii, decodes⟩
    simp only [RawReply.Decodes, not_forall, Bool.not_eq_true] at raises
    obtain ⟨error, failed, escapes⟩ := raises
    refine ⟨error, ?_⟩
    simp [directTurn, request_of_received ⟨fits, ascii⟩, failed, escapes]
  · refine ⟨.value "'ascii' codec can't encode characters", ?_⟩
    simp [directTurn, request, Nat.not_lt.mpr fits, ascii]

theorem directTurn_of_received (left : Nat) (received : raw.Received readers)
    (decodes : raw.Decodes readers) :
    directTurn readers number left raw = turn number left (raw.direct readers) := by
  unfold directTurn
  rw [request_of_received received]
  dsimp only
  cases read : readers.python raw.body with
  | ok value => rfl
  | error error => simp [decodes error read]

variable {timing : Nat → Timing}

theorem executeDecision_of_stop (started : 0 < (timing number).started)
    (received : 0 < (timing number).received)
    (final : number = 5 ∨ ¬(raw.direct readers).Retryable)
    (json : (raw.direct readers).isSuccess = true → (readers.python raw.body).isOk = true) :
    executeDecision readers timing number raw = .stop (raw.direct readers).isSuccess := by
  unfold executeDecision
  rw [if_neg (by omega)]
  have ends : (if !(raw.direct readers).isSuccess then Retry.Decision.stop false
      else .stop (readers.python raw.body).isOk) = .stop (raw.direct readers).isSuccess := by
    cases success : (raw.direct readers).isSuccess with
    | true => simp [json success]
    | false => rfl
  by_cases retryable : (raw.direct readers).Retryable
  · have last : ¬number < 5 := by
      rcases final with last | other
      · omega
      · exact absurd retryable other
    simp only [rawSafeToRetry_of_retryable retryable, last, decide_false, Bool.and_false,
      Bool.false_eq_true, ↓reduceIte]
    exact ends
  · rcases rawSafeToRetry_of_not retryable with safe | ⟨failure, error, escapes⟩
    · simp only [safe, Bool.false_and, Bool.false_eq_true, ↓reduceIte]
      exact ends
    · rw [escapes, failure]

theorem executeDecision_of_retryable (started : 0 < (timing number).started)
    (received : 0 < (timing number).received) (retryable : (raw.direct readers).Retryable)
    (more : number < 5)
    (fits : pauseSeconds raw.retryAfter * second < (timing number).pausing) :
    (Short raw.retryAfter →
      executeDecision readers timing number raw = .wait (pauseSeconds raw.retryAfter)) ∧
      (¬Short raw.retryAfter → executeDecision readers timing number raw = .stop false) := by
  have turns : executeDecision readers timing number raw =
      match retrySeconds raw.retryAfter with
      | .error _ => .stop false
      | .ok seconds =>
          if (timing number).pausing ≤ seconds * second then .stop false else .wait seconds := by
    unfold executeDecision
    rw [if_neg (by omega), rawSafeToRetry_of_retryable retryable]
    simp only [more, decide_true, Bool.and_self, ↓reduceIte]
  rw [turns]
  constructor
  · intro short
    simp only [retrySeconds_of_short short, Nat.not_le.mpr fits, ↓reduceIte]
  · intro long
    rw [retrySeconds_of_long long]

theorem callDecision_of_lost (lost : ¬(raw.Received readers ∧ raw.Decodes readers)) :
    callDecision readers timing number raw = .stop false := by
  unfold callDecision
  by_cases fits : raw.body.length ≤ readers.maximum
  · obtain ⟨error, raises⟩ := directTurn_raised (timing number).pausing fits fun got =>
      lost ⟨⟨fits, got.1⟩, got.2⟩
    rw [raises]
  · rw [directTurn_oversized _ (Nat.not_le.mp fits)]

private theorem callDecision_of_success (received : raw.Received readers)
    (success : (raw.direct readers).isSuccess = true)
    (json : (readers.python raw.body).isOk = true) :
    callDecision readers timing number raw = .stop true := by
  cases read : readers.python raw.body with
  | error error =>
      rw [read] at json
      cases json
  | ok value =>
      have decodes : raw.Decodes readers := by
        intro error failed
        rw [read] at failed
        cases failed
      have body : (raw.direct readers).body = some value := by
        simp [RawReply.direct, read, Except.toOption]
      unfold callDecision
      rw [directTurn_of_received _ received decodes, turn, if_pos success, body]

theorem callDecision_of_stop (failure : (raw.direct readers).isSuccess = false)
    (final : number = 5 ∨ ¬(raw.direct readers).Retryable) :
    callDecision readers timing number raw = .stop false := by
  by_cases got : raw.Received readers ∧ raw.Decodes readers
  · have stops : (!safeToRetry (raw.direct readers) || number = 5) = true := by
      rcases final with last | other
      · simp [last]
      · rw [← safeToRetry_iff, Bool.not_eq_true] at other
        simp [other]
    unfold callDecision
    rw [directTurn_of_received _ got.1 got.2, turn, failure, stops]
    rfl
  · exact callDecision_of_lost got

private theorem callDecision_of_retryable (received : raw.Received readers)
    (decodes : raw.Decodes readers) (retryable : (raw.direct readers).Retryable)
    (more : number < 5)
    (fits : pauseSeconds raw.retryAfter * second < (timing number).pausing) :
    (Short raw.retryAfter →
      callDecision readers timing number raw = .wait (pauseSeconds raw.retryAfter)) ∧
      (¬Short raw.retryAfter → callDecision readers timing number raw = .stop false) := by
  have goes : (!safeToRetry (raw.direct readers) || number = 5) = false := by
    have other : number ≠ 5 := by omega
    simp [safeToRetry_iff.mpr retryable, other]
  have header : (raw.direct readers).retryAfter = raw.retryAfter := rfl
  unfold callDecision
  rw [directTurn_of_received _ received decodes, turn, retryable.not_success, goes, header]
  constructor
  · intro short
    simp only [Bool.false_eq_true, ↓reduceIte, retrySeconds_of_short short, Nat.not_le.mpr fits]
  · intro long
    simp only [Bool.false_eq_true, ↓reduceIte, retrySeconds_of_long long]

end Sdk

theorem pause_eq_iff (retryAfter : Option String) :
    (if ∀ text, retryAfter = some text → text.toList.all Dispatcher.visible = true then
        pauseSeconds retryAfter
      else
        1) = pauseSeconds retryAfter ↔ Legible retryAfter := by
  unfold Legible
  simp only [pauseSeconds]
  generalize Sdk.strip (retryAfter.getD "1").toList = text
  cases digits : asciiDigits text with
  | false => simp
  | true =>
      simp only [↓reduceIte, forall_const]
      split
      · rename_i seen
        exact ⟨fun _ => .inl seen, fun _ => rfl⟩
      · rename_i unseen
        exact ⟨fun one => .inr one.symm, fun one => (one.resolve_left unseen).symm⟩

end Decisions

/-! ## The engines -/

section Engines

variable (readers : Readers)

/-- Both languages repeat an attempt after this response. -/
def BothRetry (raw : RawReply) : Prop :=
  (raw.direct readers).Retryable ∧ (raw.relayed readers).Retryable

/-- The three clients do alike with this response. -/
structure Concordant (number : Nat) (raw : RawReply) : Prop where
  /-- The asynchronous client receives a success. -/
  received : (raw.direct readers).isSuccess = true → raw.Received readers
  /-- The Rust client repeats the attempt exactly if Python may and can read the pause. -/
  retries : number < 5 →
    ((raw.relayed readers).Retryable ↔ (raw.direct readers).Retryable ∧ Short raw.retryAfter)
  /-- The asynchronous client receives and decodes what is repeated, and both languages read the
  same pause. -/
  repeated : number < 5 → (raw.relayed readers).Retryable →
    raw.Received readers ∧ raw.Decodes readers ∧ Legible raw.retryAfter

/-- All attempts before a number are repeated. -/
def Retried (responses : Nat → RawReply) (number : Nat) : Prop :=
  ∀ earlier, 1 ≤ earlier → earlier < number → BothRetry readers (responses earlier)

/-- The retries fit into the deadlines of the callers. -/
structure Fits (timing : Nat → Sdk.Timing) (responses : Nat → RawReply) : Prop where
  /-- The deadline does not pass during an attempt. -/
  running : ∀ number, 1 ≤ number → number ≤ 5 → Retried readers responses number →
    0 < (timing number).started ∧ 0 < (timing number).received
  /-- Nor during a pause, which is at most a day. -/
  pausing : ∀ number, 1 ≤ number → number < 5 → Retried readers responses number →
    ((responses number).direct readers).Retryable ∨
      ((responses number).relayed readers).Retryable →
    pauseSeconds (responses number).retryAfter ≤ 86400 ∧
      pauseSeconds (responses number).retryAfter * second < (timing number).pausing

variable {readers} {timing : Nat → Sdk.Timing} {responses : Nat → RawReply} {number : Nat}

theorem Retried.succ (retried : Retried readers responses number)
    (both : BothRetry readers (responses number)) :
    Retried readers responses (number + 1) := by
  intro earlier le lt
  rcases Nat.eq_or_lt_of_le (Nat.le_of_lt_succ lt) with rfl | before
  · exact both
  · exact retried earlier le before

private theorem Retried.of_succ (retried : Retried readers responses (number + 1)) :
    Retried readers responses number :=
  fun earlier le lt => retried earlier le (Nat.lt_succ_of_lt lt)

theorem Concordant.both {raw : RawReply} (concordant : Concordant readers number raw)
    (more : number < 5) (retryable : (raw.relayed readers).Retryable) : BothRetry readers raw :=
  ⟨((concordant.retries more).mp retryable).1, retryable⟩

section Decisions

variable {raw : RawReply} (started : 0 < (timing number).started)
  (received : 0 < (timing number).received)
  (json : (raw.direct readers).isSuccess = true → (readers.python raw.body).isOk = true)
  (pausing : number < 5 → (raw.direct readers).Retryable ∨ (raw.relayed readers).Retryable →
    pauseSeconds raw.retryAfter ≤ 86400 ∧
      pauseSeconds raw.retryAfter * second < (timing number).pausing)
include started received json pausing

/-- The synchronous client decides as the Rust client does. -/
theorem run_eq_execute_iff (limit : number ≤ 5) :
    Dispatcher.runDecision readers number raw = Sdk.executeDecision readers timing number raw ↔
      (number < 5 →
        ((raw.relayed readers).Retryable ↔ (raw.direct readers).Retryable ∧
          Short raw.retryAfter) ∧
        ((raw.relayed readers).Retryable → Legible raw.retryAfter)) := by
  by_cases more : number < 5
  · by_cases python : (raw.direct readers).Retryable
    · obtain ⟨day, deadline⟩ := pausing more (.inl python)
      obtain ⟨waits, stops⟩ :=
        Sdk.executeDecision_of_retryable started received python more deadline
      by_cases rust : (raw.relayed readers).Retryable
      · rw [Dispatcher.runDecision_of_retryable rust (by omega) day]
        by_cases short : Short raw.retryAfter
        · rw [waits short, Retry.Decision.wait.injEq, pause_eq_iff]
          simp [more, python, rust, short]
        · rw [stops short]
          simp [more, python, rust, short]
      · rw [Dispatcher.runDecision_of_stop (.inr rust), python.not_success]
        by_cases short : Short raw.retryAfter
        · rw [waits short]
          simp [more, python, rust, short]
        · rw [stops short]
          simp [rust, short]
    · rw [Sdk.executeDecision_of_stop started received (.inr python) json]
      by_cases rust : (raw.relayed readers).Retryable
      · have day := (pausing more (.inr rust)).1
        rw [Dispatcher.runDecision_of_retryable rust (by omega) day]
        simp [more, python, rust]
      · rw [Dispatcher.runDecision_of_stop (.inr rust)]
        simp [python, rust]
  · have last : number = 5 := by omega
    rw [Sdk.executeDecision_of_stop started received (.inl last) json,
      Dispatcher.runDecision_of_stop (.inl last)]
    simp [more]

/-- The asynchronous client decides as the synchronous client does. -/
theorem execute_eq_call_iff (limit : number ≤ 5) :
    Sdk.executeDecision readers timing number raw = Sdk.callDecision readers timing number raw ↔
      ((raw.direct readers).isSuccess = true → raw.Received readers) ∧
        (number < 5 → (raw.direct readers).Retryable → Short raw.retryAfter →
          raw.Received readers ∧ raw.Decodes readers) := by
  cases success : (raw.direct readers).isSuccess with
  | true =>
      have final := HttpReply.not_retryable_of_success success
      rw [Sdk.executeDecision_of_stop started received (.inr final) json, success]
      by_cases got : raw.Received readers
      · rw [Sdk.callDecision_of_success got success (json success)]
        simp [got, final]
      · rw [Sdk.callDecision_of_lost fun both => got both.1]
        simp [got]
  | false =>
      by_cases retried : number < 5 ∧ (raw.direct readers).Retryable
      · obtain ⟨more, python⟩ := retried
        have deadline := (pausing more (.inl python)).2
        obtain ⟨waits, stops⟩ :=
          Sdk.executeDecision_of_retryable started received python more deadline
        by_cases got : raw.Received readers ∧ raw.Decodes readers
        · obtain ⟨waits', stops'⟩ :=
            Sdk.callDecision_of_retryable got.1 got.2 python more deadline
          by_cases short : Short raw.retryAfter
          · simp [waits short, waits' short, got]
          · simp [stops short, stops' short, short]
        · rw [Sdk.callDecision_of_lost got]
          by_cases short : Short raw.retryAfter
          · simp only [waits short, reduceCtorEq, Bool.false_eq_true, false_implies, true_and,
              false_iff]
            exact fun all => got (all more python short)
          · simp [stops short, short]
      · have final : number = 5 ∨ ¬(raw.direct readers).Retryable := by
          by_cases more : number < 5
          · exact .inr fun retryable => retried ⟨more, retryable⟩
          · exact .inl (by omega)
        rw [Sdk.executeDecision_of_stop started received final json, success,
          Sdk.callDecision_of_stop success final]
        simp only [Bool.false_eq_true, false_implies, true_and, true_iff]
        exact fun more retryable => absurd ⟨more, retryable⟩ retried

private theorem decisions_iff (limit : number ≤ 5) :
    Dispatcher.runDecision readers number raw = Sdk.executeDecision readers timing number raw ∧
        Sdk.executeDecision readers timing number raw =
          Sdk.callDecision readers timing number raw ↔
      Concordant readers number raw := by
  rw [run_eq_execute_iff started received json pausing limit,
    execute_eq_call_iff started received json pausing limit]
  constructor
  · rintro ⟨alike, got, decoded⟩
    refine ⟨got, fun more => (alike more).1, fun more rust => ?_⟩
    obtain ⟨python, short⟩ := (alike more).1.mp rust
    obtain ⟨received, decodes⟩ := decoded more python short
    exact ⟨received, decodes, (alike more).2 rust⟩
  · rintro ⟨got, retries, repeated⟩
    refine ⟨fun more => ⟨retries more, fun rust => (repeated more rust).2.2⟩, got, ?_⟩
    intro more python short
    obtain ⟨received, decodes, -⟩ := repeated more ((retries more).mpr ⟨python, short⟩)
    exact ⟨received, decodes⟩

end Decisions

theorem runDecision_last (readers : Readers) (raw : RawReply) (seconds : Nat) :
    Dispatcher.runDecision readers (1 + 4) raw ≠ .wait seconds := by
  rw [Dispatcher.runDecision_of_stop (.inl rfl)]
  exact nofun

theorem executeDecision_last (readers : Readers) (timing : Nat → Sdk.Timing) (raw : RawReply)
    (seconds : Nat) : Sdk.executeDecision readers timing (1 + 4) raw ≠ .wait seconds := by
  unfold Sdk.executeDecision
  simp only [Nat.reduceAdd, Nat.lt_irrefl, decide_false, Bool.and_false, Bool.false_eq_true,
    ↓reduceIte]
  split
  · exact nofun
  · split
    · exact nofun
    · split <;> exact nofun

private theorem callDecision_last (readers : Readers) (timing : Nat → Sdk.Timing) (raw : RawReply)
    (seconds : Nat) : Sdk.callDecision readers timing (1 + 4) raw ≠ .wait seconds := by
  by_cases got : raw.Received readers ∧ raw.Decodes readers
  · cases success : (raw.direct readers).isSuccess with
    | true =>
        unfold Sdk.callDecision
        rw [Sdk.directTurn_of_received _ got.1 got.2, Sdk.turn, if_pos success]
        cases (raw.direct readers).body <;> exact nofun
    | false =>
        rw [Sdk.callDecision_of_stop success (.inl rfl)]
        exact nofun
  · rw [Sdk.callDecision_of_lost got]
    exact nofun

variable (json : ∀ number, ((responses number).direct readers).isSuccess = true →
    (readers.python (responses number).body).isOk = true)
  (fits : Fits readers timing responses)
  (concordant : ∀ number, 1 ≤ number → number ≤ 5 → Retried readers responses number →
    Concordant readers number (responses number))

include json fits in
theorem decided_iff (le : 1 ≤ number) (limit : number ≤ 5)
    (retried : Retried readers responses number) :
    Dispatcher.runDecision readers number (responses number) =
          Sdk.executeDecision readers timing number (responses number) ∧
        Sdk.executeDecision readers timing number (responses number) =
          Sdk.callDecision readers timing number (responses number) ↔
      Concordant readers number (responses number) := by
  obtain ⟨started, received⟩ := fits.running number le limit retried
  exact decisions_iff started received (json number)
    (fun more either => fits.pausing number le more retried either) limit

include fits in
private theorem reached_of_retried (limit : number ≤ 5)
    (retried : Retried readers responses number) :
    Retry.Reached (Dispatcher.runDecision readers) responses 1 number := by
  intro earlier le lt
  have both := retried earlier le lt
  have before : Retried readers responses earlier := fun other le before =>
    retried other le (by omega)
  exact ⟨_, Dispatcher.runDecision_of_retryable both.2 (by omega)
    (fits.pausing earlier le (by omega) before (.inr both.2)).1⟩

include concordant in
theorem retried_of_reached (limit : number ≤ 5)
    (reached : Retry.Reached (Dispatcher.runDecision readers) responses 1 number) :
    Retried readers responses number := by
  induction number with
  | zero => exact fun earlier le lt => absurd lt (Nat.not_lt_zero earlier)
  | succ number induction =>
      have retried := induction (by omega) fun earlier le lt => reached earlier le (by omega)
      rcases Nat.eq_zero_or_pos number with rfl | first
      · intro earlier le lt
        omega
      · refine retried.succ ((concordant number first (by omega) retried).both (by omega) ?_)
        by_contra other
        obtain ⟨seconds, waited⟩ := reached number first (Nat.lt_succ_self number)
        rw [Dispatcher.runDecision_of_stop (.inr other)] at waited
        cases waited

include fits concordant in
private theorem run_retries (le : 1 ≤ number)
    (before : number < (Retry.course (Dispatcher.runDecision readers) responses 4 1).attempts) :
    BothRetry readers (responses number) ∧
      (Retry.course (Dispatcher.runDecision readers) responses 4 1).waits[number - 1]? =
        some (pauseSeconds (responses number).retryAfter) ∧
      Dispatcher.notStarted ((responses number).relayed readers) = true ∧
        Sdk.known ((responses number).direct readers) = true := by
  obtain ⟨limit, waits, -⟩ := Retry.course_spec (runDecision_last readers (responses (1 + 4)))
  have reached : Retry.Reached (Dispatcher.runDecision readers) responses 1 (number + 1) := by
    intro earlier le lt
    obtain ⟨seconds, waited, -⟩ := waits earlier le (by omega)
    exact ⟨seconds, waited⟩
  have retried := retried_of_reached concordant (by omega) reached
  have both := retried number le (Nat.lt_succ_self number)
  have denied : ∀ {reply : HttpReply}, reply.Retryable → reply.Denies := fun retryable =>
    Dispatcher.notStarted_iff.mp
      (Dispatcher.notStarted_of_safeToRetry (Dispatcher.safeToRetry_iff.mpr retryable))
  refine ⟨both, ?_, Dispatcher.notStarted_iff.mpr (denied both.2), Sdk.known_iff.mpr (denied both.1)⟩
  obtain ⟨seconds, waited, listed⟩ := waits number le before
  have pause := (fits.pausing number le (by omega) retried.of_succ (.inl both.1)).1
  have legible := ((concordant number le (by omega) retried.of_succ).repeated (by omega) both.2).2.2
  rw [Dispatcher.runDecision_of_retryable both.2 (by omega) pause,
    (pause_eq_iff _).mpr legible, Retry.Decision.wait.injEq] at waited
  rw [listed, waited]

include json fits in
/-- Retry engines agree.  For responses whose pauses fit the deadlines, the three engines take one
course, of at most five attempts, with a retry after the documented responses alone and after the
pause their header stands for, and everything they retry is known not to have started, exactly if
every response they reach is concordant. -/
theorem retry_engines :
    (Retry.course (Dispatcher.runDecision readers) responses 4 1 =
        Retry.course (Sdk.executeDecision readers timing) responses 4 1 ∧
      Retry.course (Sdk.executeDecision readers timing) responses 4 1 =
        Retry.course (Sdk.callDecision readers timing) responses 4 1 ∧
      (Retry.course (Dispatcher.runDecision readers) responses 4 1).attempts ≤ 5 ∧
      ∀ number, 1 ≤ number →
        number < (Retry.course (Dispatcher.runDecision readers) responses 4 1).attempts →
          BothRetry readers (responses number) ∧
          (Retry.course (Dispatcher.runDecision readers) responses 4 1).waits[number - 1]? =
            some (pauseSeconds (responses number).retryAfter) ∧
          Dispatcher.notStarted ((responses number).relayed readers) = true ∧
          Sdk.known ((responses number).direct readers) = true) ↔
      ∀ number, 1 ≤ number → number ≤ 5 → Retried readers responses number →
        Concordant readers number (responses number) := by
  have run := runDecision_last readers (responses (1 + 4))
  have execute := executeDecision_last readers timing (responses (1 + 4))
  have call := callDecision_last readers timing (responses (1 + 4))
  constructor
  · rintro ⟨first, second, -⟩ number le limit retried
    have reached := reached_of_retried fits limit retried
    have alike := (Retry.course_eq_iff run execute).mp first number le limit reached
    have alike' := (Retry.course_eq_iff run call).mp (first.trans second) number le limit reached
    exact (decided_iff json fits le limit retried).mp ⟨alike, alike.symm.trans alike'⟩
  · intro concordant
    have alike : ∀ number, 1 ≤ number → number ≤ 5 →
        Retry.Reached (Dispatcher.runDecision readers) responses 1 number →
          Dispatcher.runDecision readers number (responses number) =
              Sdk.executeDecision readers timing number (responses number) ∧
            Sdk.executeDecision readers timing number (responses number) =
              Sdk.callDecision readers timing number (responses number) := by
      intro number le limit reached
      have retried := retried_of_reached concordant limit reached
      exact (decided_iff json fits le limit retried).mpr (concordant number le limit retried)
    have first := (Retry.course_eq_iff run execute).mpr fun number le limit reached =>
      (alike number le limit reached).1
    have both := (Retry.course_eq_iff run call).mpr fun number le limit reached =>
      (alike number le limit reached).1.trans (alike number le limit reached).2
    exact ⟨first, first.symm.trans both, (Retry.course_spec run).1,
      fun number le before => run_retries fits concordant le before⟩

end Engines

/-- Bodies which are empty or the digit `1`, as all clients read them. -/
def digitReaders : Readers where
  maximum := 1024 * 1024
  python body := if body = [49] then .ok (.unsigned 1) else .error (.value "Expecting value")
  rust body := if body = [49] then some (.unsigned 1) else none

/-- A rejection which asks for one second, after some zeros. -/
def padded (zeros : Nat) : RawReply where
  status := 429
  retryAfter := some (String.ofList (List.replicate zeros '0' ++ ['1']))
  others := []
  body := []

private theorem decimal_padded (zeros : Nat) : decimal (List.replicate zeros '0' ++ ['1']) = 1 := by
  have nothing : (List.replicate zeros '0').foldl
      (fun value digit => value * 10 + (digit.toNat - '0'.toNat)) 0 = 0 := by
    induction zeros with
    | zero => rfl
    | succ zeros induction => rw [List.replicate_succ, List.foldl_cons]; exact induction
  rw [decimal, List.foldl_append, nothing]
  rfl

theorem strip_padded (zeros : Nat) :
    Sdk.strip (List.replicate zeros '0' ++ ['1']) = List.replicate zeros '0' ++ ['1'] := by
  have zero : Sdk.isSpace '0' = false := by decide
  have one : Sdk.isSpace '1' = false := by decide
  have front : (List.replicate zeros '0' ++ ['1']).dropWhile Sdk.isSpace =
      List.replicate zeros '0' ++ ['1'] := by
    cases zeros with
    | zero => simp [one]
    | succ zeros => simp [List.replicate_succ, zero]
  rw [Sdk.strip, front]
  simp [one]

theorem pauseSeconds_padded (zeros : Nat) : pauseSeconds (padded zeros).retryAfter = 1 := by
  have raw : ((padded zeros).retryAfter.getD "1").toList = List.replicate zeros '0' ++ ['1'] := by
    rw [padded, Option.getD_some, String.toList_ofList]
  simp only [pauseSeconds, raw, strip_padded, decimal_padded]
  split <;> rfl

theorem bothRetry_padded (readers : Readers) (zeros : Nat) : BothRetry readers (padded zeros) :=
  ⟨.inl rfl, .inl rfl⟩

theorem short_padded_iff (zeros : Nat) : Short (padded zeros).retryAfter ↔ zeros < 4300 := by
  have raw : ((padded zeros).retryAfter.getD "1").toList = List.replicate zeros '0' ++ ['1'] := by
    rw [padded, Option.getD_some, String.toList_ofList]
  have digits : asciiDigits (List.replicate zeros '0' ++ ['1']) = true := by
    simp [asciiDigits]
  simp only [Short, raw, strip_padded, digits, forall_const, List.length_append,
    List.length_replicate, List.length_singleton]
  omega

/-- Three clients with time enough. -/
def patient (_ : Nat) : Sdk.Timing where
  started := 1
  received := 1
  pausing := 2 * second

/-- The gateway rejects one attempt, or all of them, and the operation succeeds. -/
def rejecting (zeros rejections number : Nat) : RawReply :=
  if number ≤ rejections then padded zeros
  else { status := 200, retryAfter := none, others := [], body := [49] }

theorem json_rejecting (zeros rejections number : Nat) :
    ((rejecting zeros rejections number).direct digitReaders).isSuccess = true →
      (digitReaders.python (rejecting zeros rejections number).body).isOk = true := by
  unfold rejecting
  split
  · exact fun success => absurd (bothRetry_padded digitReaders zeros).1
      (HttpReply.not_retryable_of_success success)
  · intro _
    rfl

theorem pause_rejecting {zeros rejections number : Nat}
    (either : ((rejecting zeros rejections number).direct digitReaders).Retryable ∨
      ((rejecting zeros rejections number).relayed digitReaders).Retryable) :
    pauseSeconds (rejecting zeros rejections number).retryAfter ≤ 86400 ∧
      pauseSeconds (rejecting zeros rejections number).retryAfter * second < 2 * second := by
  have room : 1 * second < 2 * second := by decide
  unfold rejecting at either ⊢
  split at either
  · rename_i early
    rw [if_pos early, pauseSeconds_padded]
    exact ⟨by omega, room⟩
  · rcases either with retryable | retryable <;> cases retryable.not_success

private theorem fits_rejecting (zeros rejections : Nat) :
    Fits digitReaders patient (rejecting zeros rejections) where
  running _ _ _ _ := ⟨Nat.one_pos, Nat.one_pos⟩
  pausing _ _ _ _ either := pause_rejecting either

/-- The Rust client waits for a second where the interpreter refuses the number. -/
theorem retry_engines_padded : ¬∀ (readers : Readers) (responses : Nat → RawReply)
    (timing : Nat → Sdk.Timing),
    (∀ number, ((responses number).direct readers).isSuccess = true →
      (readers.python (responses number).body).isOk = true) →
    Fits readers timing responses →
      Retry.course (Dispatcher.runDecision readers) responses 4 1 =
          Retry.course (Sdk.executeDecision readers timing) responses 4 1 ∧
        Retry.course (Sdk.executeDecision readers timing) responses 4 1 =
          Retry.course (Sdk.callDecision readers timing) responses 4 1 := by
  intro agree
  have fits := fits_rejecting 4300 5
  have json := json_rejecting 4300 5
  have same := (agree digitReaders (rejecting 4300 5) patient json fits).1
  have alike := (Retry.course_eq_iff (runDecision_last _ _) (executeDecision_last _ _ _)).mp same 1
    le_rfl (Nat.le_add_right 1 4) (Retry.reached_first 1)
  have retried : Retried digitReaders (rejecting 4300 5) 1 := fun earlier le lt =>
    absurd lt le.not_gt
  obtain ⟨retries, -⟩ := (run_eq_execute_iff Nat.one_pos Nat.one_pos (json 1)
    (fun more either => fits.pausing 1 le_rfl more retried either) (by decide)).mp alike (by decide)
  have short := (retries.mp (bothRetry_padded digitReaders 4300).2).2
  exact absurd ((short_padded_iff 4300).mp short) (lt_irrefl _)

theorem received_rejecting (number : Nat) : (rejecting 0 1 number).Received digitReaders := by
  unfold rejecting
  split
  · exact ⟨by decide, by decide +kernel⟩
  · exact ⟨by decide, by decide⟩

theorem decodes_rejecting (number : Nat) : (rejecting 0 1 number).Decodes digitReaders := by
  unfold rejecting
  split
  · rintro error ⟨⟩
    rfl
  · rintro error ⟨⟩

theorem bothRetry_rejecting (number : Nat) :
    BothRetry digitReaders (rejecting 0 1 number) ∧ Short (rejecting 0 1 number).retryAfter ∧
        Legible (rejecting 0 1 number).retryAfter ∨
      ((rejecting 0 1 number).direct digitReaders).isSuccess = true := by
  unfold rejecting
  split
  · refine .inl ⟨bothRetry_padded digitReaders 0, (short_padded_iff 0).mpr (by decide), fun _ => ?_⟩
    left
    rintro text ⟨⟩
    decide
  · exact .inr rfl

/-- Without zeros the engines agree. -/
theorem retry_engines_sample :
    Retry.course (Dispatcher.runDecision digitReaders) (rejecting 0 1) 4 1 =
        { attempts := 2, waits := [1], success := true } ∧
      Retry.course (Sdk.executeDecision digitReaders patient) (rejecting 0 1) 4 1 =
        { attempts := 2, waits := [1], success := true } ∧
      Retry.course (Sdk.callDecision digitReaders patient) (rejecting 0 1) 4 1 =
        { attempts := 2, waits := [1], success := true } := by
  have run : Retry.course (Dispatcher.runDecision digitReaders) (rejecting 0 1) 4 1 =
      { attempts := 2, waits := [1], success := true } := by decide +kernel
  have concordant : ∀ number, Concordant digitReaders number (rejecting 0 1 number) := by
    intro number
    refine ⟨fun _ => received_rejecting number, fun _ => ?_, fun _ rust =>
      ⟨received_rejecting number, decodes_rejecting number, ?_⟩⟩
    · rcases bothRetry_rejecting number with ⟨⟨python, rust⟩, short, -⟩ | success
      · exact iff_of_true rust ⟨python, short⟩
      · exact iff_of_false (HttpReply.not_retryable_of_success success) fun both =>
          HttpReply.not_retryable_of_success success both.1
    · rcases bothRetry_rejecting number with ⟨-, -, legible⟩ | success
      · exact legible
      · exact absurd rust (HttpReply.not_retryable_of_success success)
  obtain ⟨same, same', -⟩ := (retry_engines (json_rejecting 0 1) (fits_rejecting 0 1)).mpr
    fun number _ _ _ => concordant number
  exact ⟨run, same.symm.trans run, (same.trans same').symm.trans run⟩

end AiProtocol
