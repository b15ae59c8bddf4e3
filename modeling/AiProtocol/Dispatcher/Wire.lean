import AiProtocol.Dispatcher.Permits
import AiProtocol.Dispatcher.Replies
import AiProtocol.Library.Frame
import AiProtocol.Sdk.Client

/-!
# The local wire

The frames between the dispatcher and its two connectors.  A frame is a JSON text and a newline; the
JSON libraries at both ends are parameters, with what is relied upon of them.
-/

namespace AiProtocol

namespace Dispatcher

def maxFrame : Nat := 64 * 1024

/-- The delimiter of frames. -/
def newline : UInt8 := 10

/-! ## Documents -/

/-- A field of a derived reader, if its name occurs: a second occurrence is an error. -/
def fieldOf (members : List (String × Json)) (name : String) : Option (Option Json) :=
  match members.filter fun entry => entry.1 = name with
  | [] => some none
  | [entry] => some (some entry.2)
  | _ => none

/-- `f64::deserialize` accepts the value. -/
def isNumber : Json → Bool
  | .unsigned _ | .number _ => true
  | _ => false

/-- A request as its connector holds it.  Its deadline is finite, as no other number has a JSON
text. -/
structure Submission where
  /-- The request. -/
  request : Request
  /-- `deadline_unix_ms`. -/
  deadline : Json
  /-- The deadline is a number. -/
  finite : isNumber deadline = true

namespace Submission

/-- The document of a request, for the derived `Serialize` and for `DispatcherClient.call`. -/
def toJson (submission : Submission) : Json :=
  .object
    [("id", .string submission.request.id),
     ("token", .string submission.request.token),
     ("operation", .string submission.request.operation),
     ("params", submission.request.params),
     ("deadline_unix_ms", submission.deadline)]

/-- The visitors of the derived `Deserialize`, behind the names of the fields. -/
def ofFields (id token operation params deadline : Json) : Option Submission :=
  match id, token, operation with
  | .string id, .string token, .string operation =>
      if finite : isNumber deadline = true then
        some { request := { id, token, operation, params }, deadline, finite }
      else
        none
  | _, _, _ => none

/-- The derived `Deserialize` of `Request`; unknown fields are denied. -/
def ofJson : Json → Option Submission
  | .object members =>
      let names := ["id", "token", "operation", "params", "deadline_unix_ms"]
      if members.all fun entry => names.contains entry.1 then
        match names.map (fieldOf members) with
        | [some (some id), some (some token), some (some operation), some (some params),
            some (some deadline)] => ofFields id token operation params deadline
        | _ => none
      else
        none
  | .array [id, token, operation, params, deadline] => ofFields id token operation params deadline
  | _ => none

theorem ofJson_toJson (submission : Submission) :
    ofJson submission.toJson = some submission := by
  obtain ⟨⟨id, token, operation, params⟩, deadline, finite⟩ := submission
  simp [ofJson, toJson, fieldOf, ofFields, finite]

end Submission

namespace Reply

/-- A number which may be missing. -/
def optional : Option Nat → Json
  | none => .null
  | some value => .unsigned value

/-- The derived `Serialize` of `Reply`. -/
def toJson (reply : Reply) : Json :=
  .object
    [("ok", .bool reply.ok),
     ("code", .string reply.code),
     ("execution", .string reply.execution),
     ("attempts", optional reply.attempts),
     ("status", optional reply.status),
     ("body", reply.body.getD .null)]

/-- `Option::deserialize` of an unsigned number; a missing field is read as null. -/
def readOptional (bound : Nat) : Json → Option (Option Nat)
  | .null => some none
  | .unsigned value => if value < bound then some (some value) else none
  | _ => none

/-- `Option::deserialize` of any value. -/
def readBody : Json → Option Json
  | .null => none
  | body => some body

/-- The visitors of the derived `Deserialize`, behind the names of the fields. -/
def ofFields (ok code execution attempts status body : Json) : Option Reply :=
  match ok, code, execution, readOptional (2 ^ 64) attempts, readOptional (2 ^ 16) status with
  | .bool ok, .string code, .string execution, some attempts, some status =>
      some { ok, code, execution, attempts, status, body := readBody body }
  | _, _, _, _, _ => none

/-- The derived `Deserialize` of `Reply`; unknown fields are ignored. -/
def ofJson : Json → Option Reply
  | .object members =>
      match ["ok", "code", "execution", "attempts", "status", "body"].map (fieldOf members) with
      | [some (some ok), some (some code), some (some execution), some attempts, some status,
          some body] =>
          ofFields ok code execution (attempts.getD .null) (status.getD .null) (body.getD .null)
      | _ => none
  | .array [ok, code, execution, attempts, status, body] =>
      ofFields ok code execution attempts status body
  | _ => none

/-- The numbers of a reply are a `usize` and a `u16`. -/
structure Typed (reply : Reply) : Prop where
  /-- HTTP attempts begun. -/
  attempts : ∀ attempts, reply.attempts = some attempts → attempts < 2 ^ 64
  /-- Status of the last response. -/
  status : ∀ status, reply.status = some status → status < 2 ^ 16

/-- The reply as its caller receives it: a null body is none. -/
def received (reply : Reply) : Reply :=
  { reply with body := reply.body.bind readBody }

@[simp] theorem optional_none : optional none = .null := rfl

@[simp] theorem optional_some (value : Nat) : optional (some value) = .unsigned value := rfl

private theorem readOptional_optional {bound : Nat} {value : Option Nat}
    (typed : ∀ number, value = some number → number < bound) :
    readOptional bound (optional value) = some value := by
  cases value with
  | none => rfl
  | some number => simp [optional, readOptional, typed number rfl]

theorem readBody_getD (body : Option Json) : readBody (body.getD .null) = body.bind readBody := by
  cases body <;> rfl

theorem ofJson_toJson {reply : Reply} (typed : reply.Typed) :
    ofJson reply.toJson = some reply.received := by
  have fields : ofJson reply.toJson = ofFields (.bool reply.ok) (.string reply.code)
      (.string reply.execution) (optional reply.attempts) (optional reply.status)
      (reply.body.getD .null) := by
    simp [ofJson, toJson, fieldOf]
  rw [fields]
  simp only [ofFields, readOptional_optional typed.attempts, readOptional_optional typed.status,
    readBody_getD]
  rfl

end Reply

/-! ## Libraries -/

/-- The JSON libraries at both ends of a connection. -/
structure JsonLibrary where
  /-- `serde_json::to_vec`. -/
  toVec : Json → List UInt8
  /-- `serde_json::from_slice`. -/
  fromSlice : List UInt8 → Option Json
  /-- `json.dumps` and `encode`, unless they raise. -/
  dumps : Json → Option (List UInt8)
  /-- `json.loads`, unless it raises. -/
  loads : List UInt8 → Option Json

/-- The reply which replaces one which exceeds a frame. -/
def Reply.tooLarge (reply : Reply) : Reply :=
  reply.framed true

/-- What is relied upon of the libraries: documents which fit, in the range of their numbers and in
their depth, are read as they were written, texts are single lines, and the reply which replaces a
large one is short. -/
structure JsonLibrary.Exchanges (library : JsonLibrary) (fits : Json → Prop) : Prop where
  /-- The Rust library reads what it has written. -/
  submitted : ∀ document, fits document →
    library.fromSlice (library.toVec document ++ [newline]) = some document
  /-- The Rust library reads what the Python library has written. -/
  dumped : ∀ document, fits document → ∀ text, library.dumps document = some text →
    library.fromSlice (text ++ [newline]) = some document
  /-- The Python library reads what the Rust library has written. -/
  loaded : ∀ document, fits document →
    library.loads (library.toVec document ++ [newline]) = some document
  /-- The Rust library writes a line. -/
  line : ∀ document, newline ∉ library.toVec document
  /-- The Python library writes a line. -/
  dumpedLine : ∀ document text, library.dumps document = some text → newline ∉ text
  /-- The reply which replaces a large one fits as its number does, and is short. -/
  replaced : ∀ reply : Reply, fits reply.toJson →
    fits reply.tooLarge.toJson ∧ (library.toVec reply.tooLarge.toJson).length < maxFrame

/-! ## Frames -/

namespace JsonLibrary

variable (library : JsonLibrary)

/-- The frame which `submit` sends, unless it refuses the request. -/
def submit (submission : Submission) : Option (List UInt8) :=
  let bytes := library.toVec submission.toJson
  if bytes.length < maxFrame then
    some (bytes ++ [newline])
  else
    none

/-- The frame which `DispatcherClient.call` sends, unless it refuses the request. -/
def payload (submission : Submission) : Option (List UInt8) :=
  match library.dumps submission.toJson with
  | none => none
  | some text =>
      let payload := text ++ [newline]
      if payload.length > maxFrame then
        none
      else
        some payload

/-- A complete frame of a reader behind `take(MAX_FRAME + 1)`, and what is left of its limit. -/
def readFrame (stream : List UInt8) : Option (List UInt8) × Nat :=
  let read := Frame.readUntil newline (maxFrame + 1) stream
  if read.1.length ≤ maxFrame ∧ [newline].isSuffixOf read.1 then
    (some read.1, read.2)
  else
    (none, read.2)

/-- What `connection` reads, if it is a request. -/
def receive (stream : List UInt8) : Option Submission :=
  (readFrame stream).1.bind fun bytes => (library.fromSlice bytes).bind Submission.ofJson

def sendReply (reply : Reply) : List UInt8 :=
  let bytes := library.toVec reply.toJson
  if bytes.length ≥ maxFrame then
    library.toVec reply.tooLarge.toJson ++ [newline]
  else
    bytes ++ [newline]

/-- The reply which `submit` reads. -/
def awaitReply (stream : List UInt8) : Reply :=
  ((readFrame stream).1.bind fun bytes => (library.fromSlice bytes).bind Reply.ofJson).getD
    (Sdk.connectionError "dispatcher_response_lost" "unknown")

end JsonLibrary

end Dispatcher

namespace Sdk

/-- The checks of `exchange` on a loaded reply; those of the types, then `consistent`. -/
def checkReply : Json → Option Dispatcher.Reply
  | .object members =>
      match members.lookup "ok", members.lookup "code", members.lookup "execution",
        members.lookup "attempts", members.lookup "body" with
      | some (.bool ok), some (.string code), some (.string execution), attempts, body =>
          let reply (attempts : Option Nat) : Dispatcher.Reply :=
            { ok, code, execution, attempts
              status := ((members.lookup "status").bind Json.asInt).bind Int.toNat?
              body := body.bind Dispatcher.Reply.readBody }
          let checked (attempts : Option Nat) : Option Dispatcher.Reply :=
            if consistent (reply attempts) && (body.isSome || !ok) then some (reply attempts)
            else none
          match attempts with
          | none | some .null => checked none
          | some attempts => ((attempts.asInt).bind Int.toNat?).bind fun attempts =>
              checked (some attempts)
      | _, _, _, _, _ => none
  | _ => none

/-- The reply which `DispatcherClient.call` reads. -/
def awaitReply (library : Dispatcher.JsonLibrary) (stream : List UInt8) : Dispatcher.Reply :=
  let lost := connectionError "dispatcher_response_lost" "unknown"
  match Frame.readline Dispatcher.newline Dispatcher.maxFrame stream with
  | none => lost
  | some raw =>
      if raw.length > Dispatcher.maxFrame ∨ ¬[Dispatcher.newline].isSuffixOf raw then
        lost
      else
        ((library.loads raw).bind checkReply).getD lost

private theorem checkReply_toJson {reply : Dispatcher.Reply}
    (consistent : consistent reply = true) :
    checkReply reply.toJson = some reply.received := by
  have number (value : Option Nat) :
      ((Dispatcher.Reply.optional value).asInt).bind Int.toNat? = value := by
    cases value <;> rfl
  have same : Sdk.consistent reply.received = true := consistent
  unfold Dispatcher.Reply.received at same ⊢
  cases attempts : reply.attempts with
  | none =>
      rw [attempts] at same
      simp [checkReply, Dispatcher.Reply.toJson, attempts, List.lookup_cons, number,
        Dispatcher.Reply.readBody_getD, same]
  | some begun =>
      rw [attempts] at same
      have count := number (some begun)
      rw [Dispatcher.Reply.optional_some] at count
      simp [checkReply, Dispatcher.Reply.toJson, attempts, List.lookup_cons, number, count,
        Dispatcher.Reply.readBody_getD, same]

end Sdk

namespace Dispatcher

open JsonLibrary

variable {library : JsonLibrary} {fits : Json → Prop} {text : List UInt8}

/-! ## Requests -/

theorem readFrame_append (line : newline ∉ text) (within : text.length < maxFrame) :
    readFrame (text ++ [newline]) = (some (text ++ [newline]), maxFrame - text.length) := by
  have read := Frame.readUntil_append line (Nat.lt_succ_of_lt within) []
  have spent : (Frame.readUntil newline (maxFrame + 1) (text ++ [newline])).1.length +
      (Frame.readUntil newline (maxFrame + 1) (text ++ [newline])).2 = maxFrame + 1 :=
    Frame.length_readUntil _ _
  rw [read, List.length_append, List.length_singleton] at spent
  have room : (Frame.readUntil newline (maxFrame + 1) (text ++ [newline])).2 =
      maxFrame - text.length := by omega
  have ends : [newline].isSuffixOf (text ++ [newline]) = true :=
    List.isSuffixOf_iff_suffix.mpr (List.suffix_append _ _)
  simp only [readFrame, read, room]
  rw [if_pos ⟨by rw [List.length_append]; exact within, ends⟩]

private theorem receive_append {submission : Submission} (line : newline ∉ text)
    (within : text.length < maxFrame)
    (read : library.fromSlice (text ++ [newline]) = some submission.toJson) :
    library.receive (text ++ [newline]) = some submission := by
  rw [receive, readFrame_append line within]
  simp only [Option.bind_some, read, submission.ofJson_toJson]

private theorem submit_eq_some {submission : Submission} {frame : List UInt8} :
    library.submit submission = some frame ↔
      (library.toVec submission.toJson).length < maxFrame ∧
        frame = library.toVec submission.toJson ++ [newline] := by
  unfold submit
  dsimp only
  split
  · rename_i small
    simp [small, eq_comm]
  · rename_i large
    simp [large]

theorem payload_eq_some {submission : Submission} {frame : List UInt8} :
    library.payload submission = some frame ↔ ∃ text,
      library.dumps submission.toJson = some text ∧ text.length < maxFrame ∧
        frame = text ++ [newline] := by
  unfold payload
  cases library.dumps submission.toJson with
  | none => simp
  | some text =>
      dsimp only
      split
      · rename_i large
        rw [List.length_append] at large
        simp only [reduceCtorEq, Option.some.injEq, exists_eq_left', false_iff, not_and]
        exact fun small => absurd small (Nat.not_lt.mpr (Nat.le_of_lt_succ large))
      · rename_i small
        rw [List.length_append] at small
        simp [eq_comm, Nat.lt_of_succ_le (Nat.not_lt.mp small)]

/-! ## Replies -/

/-- A reply of a request is what the connectors accept, and counts the attempts. -/
structure Reply.Sound (reply : Reply) : Prop where
  /-- The connectors accept it. -/
  consistent : Sdk.consistent reply = true
  /-- It counts the attempts. -/
  counted : reply.attempts.isSome

theorem sound_error {code execution : String} (attempts : Nat)
    (known : execution = "not_started" ∨ execution = "unknown") :
    (Reply.error code execution attempts).Sound := by
  rcases known with rfl | rfl <;> exact ⟨rfl, rfl⟩

private theorem sound_failure (progress : Progress) (code : String) (status : Option Nat)
    (body : Option Json) : Reply.Sound { progress.failure code with status, body } := by
  unfold Progress.failure
  split <;> exact ⟨rfl, rfl⟩

private theorem sound_completed {number attempts : Nat} {response : HttpReply}
    (completed : verdict number response = .completed) :
    Reply.Sound
      { ok := true
        code := "completed"
        execution := "completed"
        attempts := some attempts
        status := some response.status
        body := response.body } := by
  have success : response.isSuccess = true := by
    unfold verdict at completed
    split at completed
    · assumption
    · split at completed
      · cases completed
      · split at completed <;> cases completed
  refine ⟨?_, rfl⟩
  simpa [Sdk.consistent, HttpReply.isSuccess] using success

private theorem sound_accept {settings : Settings} {frame : Frame} {reply : Reply}
    (refused : settings.accept frame = .error reply) : reply.Sound := by
  have sound (code : String) : (Reply.error code "not_started" 0).Sound :=
    sound_error 0 (.inl rfl)
  unfold Settings.accept at refused
  repeat' split at refused
  all_goals first | cases refused; exact sound _ | cases refused

section Runs

variable {settings : Settings} {before after : Dispatcher} {event : Event} {request : RequestId}
  {reply : Reply}

theorem answered_update {dispatcher : Dispatcher} {holder : RequestId} {connection : Connection}
    (connections : after.connections = Function.update dispatcher.connections holder connection)
    (answered : after.Answered request reply) :
    dispatcher.Answered request reply ∨ connection = .refused reply ∨
      connection = .replied reply := by
  unfold Answered at answered ⊢
  rw [connections] at answered
  by_cases same : request = holder
  · subst same
    rw [Function.update_self] at answered
    exact .inr answered
  · rw [Function.update_of_ne same] at answered
    exact .inl answered

theorem answered_fail {dispatcher : Dispatcher} {holder : RequestId} {error : String}
    {response : Option HttpReply}
    (answered : (dispatcher.fail holder error response).Answered request reply) :
    dispatcher.Answered request reply ∨ reply.Sound := by
  rcases answered_update rfl answered with known | ⟨⟨⟩⟩ | ⟨⟨⟩⟩
  · exact .inl known
  · exact .inr (sound_failure _ _ _ _)

/-- What a step answers is sound. -/
theorem answered_step (step : Step settings before event after)
    (answered : after.Answered request reply) : before.Answered request reply ∨ reply.Sound := by
  cases step with
  | full refused fresh =>
      rcases answered_update rfl answered with known | ⟨⟨⟩⟩ | ⟨⟨⟩⟩
      · exact .inl known
      · exact .inr (sound_error 0 (.inl rfl))
  | refuse refused frame refusal fresh refuses =>
      rcases answered_update rfl answered with known | ⟨⟨⟩⟩ | ⟨⟨⟩⟩
      · exact .inl known
      · exact .inr (sound_accept refuses)
  | accept accepted | enqueue accepted | wake accepted | disconnect accepted =>
      rcases answered_update rfl answered with known | ⟨⟨⟩⟩ | ⟨⟨⟩⟩
      exact .inl known
  | reject holder | lose holder | expire holder => exact answered_fail answered
  | receive holder number result awaiting sent =>
      cases result with
      | error error => exact answered_fail answered
      | ok response =>
          simp only [Dispatcher.resume] at answered
          split at answered
          · rename_i completed
            rcases answered_update rfl answered with known | ⟨⟨⟩⟩ | ⟨⟨⟩⟩
            · exact .inl known
            · exact .inr (sound_completed completed)
          · exact answered_fail answered
          · rcases answered_update rfl answered with known | ⟨⟨⟩⟩ | ⟨⟨⟩⟩
            exact .inl known
  | _ => exact .inl answered

/-- Every reply of a run is sound. -/
theorem sound_run {trace : List Event} (run : Run settings .start trace after)
    (answered : after.Answered request reply) : reply.Sound := by
  refine run.invariant (fun dispatcher => dispatcher.Answered request reply → reply.Sound) ?_ ?_
    answered
  · intro before after event sound step answered
    exact (answered_step step answered).elim sound id
  · rintro (⟨⟨⟩⟩ | ⟨⟨⟩⟩)

end Runs

/-! ## Agreement -/

/-- What `send_reply` sends of a reply. -/
def JsonLibrary.sent (library : JsonLibrary) (reply : Reply) : Reply :=
  reply.framed (maxFrame ≤ (library.toVec reply.toJson).length)

theorem sendReply_eq (library : JsonLibrary) (reply : Reply) :
    library.sendReply reply = library.toVec (library.sent reply).toJson ++ [newline] := by
  unfold sendReply sent
  by_cases large : maxFrame ≤ (library.toVec reply.toJson).length
  · simp only [ge_iff_le, large, if_true, decide_true]
    rfl
  · simp only [ge_iff_le, large, if_false, decide_false]
    rfl

private theorem sent_fits (exchanges : library.Exchanges fits) {reply : Reply} (sound : reply.Sound)
    (typed : reply.Typed) (fit : fits reply.toJson) :
    (library.sent reply).Sound ∧ (library.sent reply).Typed ∧ fits (library.sent reply).toJson ∧
      (library.toVec (library.sent reply).toJson).length < maxFrame := by
  unfold sent
  by_cases large : maxFrame ≤ (library.toVec reply.toJson).length
  · obtain ⟨fit', short⟩ := exchanges.replaced reply fit
    rw [decide_eq_true large]
    refine ⟨sound_error _ (.inr rfl), ⟨?_, nofun⟩, fit', short⟩
    rintro attempts ⟨⟩
    cases counted : reply.attempts with
    | none => decide
    | some attempts => exact typed.attempts attempts counted
  · rw [decide_eq_false large]
    exact ⟨sound, typed, fit, Nat.not_le.mp large⟩

theorem awaitReply_append (exchanges : library.Exchanges fits) {reply : Reply}
    (sound : reply.Sound) (typed : reply.Typed) (fit : fits reply.toJson)
    (small : (library.toVec reply.toJson).length < maxFrame) :
    library.awaitReply (library.toVec reply.toJson ++ [newline]) = reply.received ∧
      Sdk.awaitReply library (library.toVec reply.toJson ++ [newline]) = reply.received := by
  have line := exchanges.line reply.toJson
  constructor
  · rw [awaitReply, readFrame_append line small]
    simp only [Option.bind_some, exchanges.submitted _ fit, reply.ofJson_toJson typed,
      Option.getD_some]
  · have ends : [newline].isSuffixOf (library.toVec reply.toJson ++ [newline]) = true :=
      List.isSuffixOf_iff_suffix.mpr (List.suffix_append _ _)
    have within : ¬(library.toVec reply.toJson ++ [newline]).length > maxFrame := by
      rw [List.length_append, List.length_singleton]
      omega
    simp only [Sdk.awaitReply, Frame.readline_append line small.le []]
    rw [if_neg (by simp only [within, ends]; simp)]
    simp only [exchanges.loaded _ fit, Option.bind_some, Sdk.checkReply_toJson sound.consistent,
      Option.getD_some]

/-- The local wire.  Both connectors send a request exactly if its frame is within the limit, and
`connection` then receives that request and still has room for one more byte; and whatever the
dispatcher answers, both connectors receive the reply which is sent, a null body as none, and never
report it as lost. -/
theorem wire_agreement (exchanges : library.Exchanges fits) :
    (∀ submission,
      (library.submit submission =
        if (library.toVec submission.toJson ++ [newline]).length ≤ maxFrame then
          some (library.toVec submission.toJson ++ [newline])
        else none) ∧
      (∀ text, library.dumps submission.toJson = some text →
        library.payload submission =
          if (text ++ [newline]).length ≤ maxFrame then some (text ++ [newline]) else none) ∧
      (fits submission.toJson → ∀ frame,
        library.submit submission = some frame ∨ library.payload submission = some frame →
          library.receive frame = some submission ∧ 1 ≤ (readFrame frame).2)) ∧
    ∀ settings trace dispatcher request reply, Run settings .start trace dispatcher →
      dispatcher.Answered request reply → reply.Typed → fits reply.toJson →
        library.awaitReply (library.sendReply reply) = (library.sent reply).received ∧
        Sdk.awaitReply library (library.sendReply reply) = (library.sent reply).received ∧
        (library.sent reply).received ≠
          Sdk.connectionError "dispatcher_response_lost" "unknown" := by
  refine ⟨fun submission => ⟨?_, fun text dumped => ?_, fun fit frame sends => ?_⟩, ?_⟩
  · simp only [submit, List.length_append, List.length_singleton, Nat.succ_le_iff]
  · simp only [payload, dumped, gt_iff_lt, ← Nat.not_le, ite_not]
  · obtain ⟨text, line, small, read, rfl⟩ : ∃ text, newline ∉ text ∧ text.length < maxFrame ∧
        library.fromSlice (text ++ [newline]) = some submission.toJson ∧
          frame = text ++ [newline] := by
      rcases sends with submits | sends
      · obtain ⟨small, rfl⟩ := submit_eq_some.mp submits
        exact ⟨_, exchanges.line _, small, exchanges.submitted _ fit, rfl⟩
      · obtain ⟨text, dumped, small, rfl⟩ := payload_eq_some.mp sends
        exact ⟨text, exchanges.dumpedLine _ _ dumped, small, exchanges.dumped _ fit _ dumped, rfl⟩
    refine ⟨receive_append line small read, ?_⟩
    rw [readFrame_append line small]
    exact Nat.sub_pos_of_lt small
  · intro settings trace dispatcher request reply run answered typed fit
    obtain ⟨sound, typed, fit, small⟩ := sent_fits exchanges (sound_run run answered) typed fit
    obtain ⟨rust, python⟩ := awaitReply_append exchanges sound typed fit small
    rw [sendReply_eq]
    refine ⟨rust, python, fun lost => ?_⟩
    have counted := sound.counted
    have uncounted : (library.sent reply).attempts = none := congrArg Reply.attempts lost
    rw [uncounted] at counted
    cases counted

/-! ### A library of three documents -/

def asking : Submission where
  request := { id := "task", token := "credential", operation := "documents", params := .null }
  deadline := .unsigned 1000
  finite := rfl

def nothing : Reply where
  ok := true
  code := "completed"
  execution := "completed"
  attempts := some 1
  status := some 200
  body := some .null

/-- The text of an object with these members, with the separators of `json.dumps` or without
blanks. -/
def written (spaced : Bool) (members : List (String × String)) : List UInt8 :=
  let comma := if spaced then [',', ' '] else [',']
  let colon := if spaced then [':', ' '] else [':']
  let entries := members.map fun entry =>
    ['"'] ++ entry.1.toList ++ ['"'] ++ colon ++ entry.2.toList
  (['\x7b'] ++ comma.intercalate entries ++ ['\x7d']).map fun char => char.toNat.toUInt8

/-- The text of one of the documents. -/
def textOf (spaced : Bool) : Json → List UInt8
  | .object (("id", _) :: _) =>
      written spaced [("id", "\"task\""), ("token", "\"credential\""),
        ("operation", "\"documents\""), ("params", "null"), ("deadline_unix_ms", "1000")]
  | .object (("ok", .bool true) :: _) =>
      written spaced [("ok", "true"), ("code", "\"completed\""),
        ("execution", "\"completed\""), ("attempts", "1"), ("status", "200"), ("body", "null")]
  | _ =>
      written spaced [("ok", "false"), ("code", "\"dispatcher_response_too_large\""),
        ("execution", "\"unknown\""), ("attempts", "1"), ("status", "null"), ("body", "null")]

def documents : List Json :=
  [asking.toJson, nothing.toJson, nothing.tooLarge.toJson]

/-- The document of a text. -/
def ofText (bytes : List UInt8) : Option Json :=
  documents.find? fun document =>
    bytes = textOf false document ++ [newline] || bytes = textOf true document ++ [newline]

/-- A library which knows these documents. -/
def miniature : JsonLibrary where
  toVec := textOf false
  fromSlice := ofText
  dumps document := some (textOf true document)
  loads := ofText

private theorem textOf_line (spaced : Bool) (document : Json) :
    newline ∉ textOf spaced document := by
  cases spaced <;> unfold textOf <;> split <;> decide +kernel

theorem ofText_textOf (spaced : Bool) :
    ∀ document ∈ documents, ofText (textOf spaced document ++ [newline]) = some document := by
  simp only [documents, List.forall_mem_cons]
  refine ⟨?_, ?_, ?_, nofun⟩
  · exact List.find?_cons_of_pos (by cases spaced <;> decide +kernel)
  · rw [ofText, documents, List.find?_cons_of_neg (by cases spaced <;> decide +kernel)]
    exact List.find?_cons_of_pos (by cases spaced <;> decide +kernel)
  · rw [ofText, documents, List.find?_cons_of_neg (by cases spaced <;> decide +kernel),
      List.find?_cons_of_neg (by cases spaced <;> decide +kernel)]
    exact List.find?_cons_of_pos (by cases spaced <;> decide +kernel)

theorem miniature_exchanges : miniature.Exchanges (· ∈ documents) where
  submitted := ofText_textOf false
  dumped := by
    rintro document fit text ⟨⟩
    exact ofText_textOf true document fit
  loaded := ofText_textOf false
  line := textOf_line false
  dumpedLine := by
    rintro document text ⟨⟩
    exact textOf_line true document
  replaced := by
    intro reply fit
    have once : reply.attempts = some 1 := by
      cases counted : reply.attempts with
      | none => simp [documents, Submission.toJson, Reply.toJson, counted, nothing,
          Reply.tooLarge, Reply.framed, Reply.error] at fit
      | some attempts =>
          simp only [documents, Submission.toJson, Reply.toJson, counted, nothing,
            Reply.tooLarge, Reply.framed, Reply.error, Reply.optional_some, List.mem_cons,
            Json.object.injEq, List.cons.injEq, Prod.mk.injEq, Json.unsigned.injEq,
            Option.getD_some, if_true] at fit
          rcases fit with ⟨⟨name, -⟩, -⟩ | ⟨-, -, -, ⟨-, rfl⟩, -⟩ | ⟨-, -, -, ⟨-, rfl⟩, -⟩ | none
          · exact absurd name (by decide)
          · rfl
          · rfl
          · cases none
    have same : reply.tooLarge = nothing.tooLarge := by
      simp [Reply.tooLarge, Reply.framed, once, nothing]
    rw [same]
    exact ⟨by simp [documents], by decide +kernel⟩

def documenting : Settings where
  routes := [("documents", "documents")]
  tokens := ["credential"]
  capacity := 1

theorem nothing_run : ∃ trace dispatcher, Run documenting .start trace dispatcher ∧
    dispatcher.Answered 0 nothing := by
  have begun : Run documenting .start [] _ := .refl _
  have accepted := begun.tail
    (.accept _ 0 { request := some asking.request, remaining := some 1000 } _ 1000 rfl rfl)
  have queued := (accepted.tail (.enqueue _ 0 1 _ rfl nofun (by decide) rfl)).tail
    (.take _ _ [] rfl rfl)
  have granted := (queued.tail (.policy _
    { version := 3, principalId := "owner", clientClass := "agent", policyRevision := 1
      refreshAfterMs := 1000, outstanding := 0
      limits := { scope := "principal", maxOutstanding := 1 } } _ rfl)).tail
    (.acquire _ _ _ rfl rfl)
  have sent := (granted.tail (.check _ _ rfl fun closed => closed rfl)).tail
    (.begin _ _ _ rfl rfl)
  have returned := sent.tail
    (.return _ [] [] _ (.ok { status := 200, retryAfter := none, body := some .null }) rfl)
  have told := (((returned.tail (.mark _ [] [] _ _ rfl)).tail (.release _ [] [] _ _ rfl)).tail
    (.reply _ [] [] _ _ rfl)).tail (.receive _ 0 1 _ rfl rfl)
  exact ⟨_, _, told, .inr rfl⟩

theorem nothing_typed : nothing.Typed :=
  ⟨by rintro _ ⟨⟩; decide, by rintro _ ⟨⟩; decide⟩

private theorem small_nothing : (miniature.toVec nothing.toJson).length < maxFrame := by
  decide +kernel

private theorem sent_nothing : miniature.sent nothing = nothing := by
  rw [sent, decide_eq_false (Nat.not_le.mpr small_nothing)]
  rfl

theorem wire_agreement_sample :
    miniature.receive (textOf true asking.toJson ++ [newline]) = some asking ∧
      miniature.awaitReply (miniature.sendReply nothing) = { nothing with body := none } ∧
      Sdk.awaitReply miniature (miniature.sendReply nothing) = { nothing with body := none } := by
  obtain ⟨requests, replies⟩ := wire_agreement miniature_exchanges
  have sends : miniature.payload asking = some (textOf true asking.toJson ++ [newline]) :=
    payload_eq_some.mpr ⟨_, rfl, by decide +kernel, rfl⟩
  obtain ⟨trace, dispatcher, run, answered⟩ := nothing_run
  have received := replies _ _ _ _ _ run answered nothing_typed (by simp [documents])
  rw [sent_nothing] at received
  exact ⟨((requests asking).2.2 (by simp [documents]) _ (.inr sends)).1, received.1, received.2.1⟩

/-- A null body is not received as one. -/
theorem wire_null : ¬∀ (library : JsonLibrary) (fits : Json → Prop), library.Exchanges fits →
    ∀ settings trace dispatcher request reply, Run settings .start trace dispatcher →
      dispatcher.Answered request reply → reply.Typed → fits reply.toJson →
        library.awaitReply (library.sendReply reply) = library.sent reply := by
  intro always
  obtain ⟨trace, dispatcher, run, answered⟩ := nothing_run
  have same := always miniature _ miniature_exchanges _ _ _ _ _ run answered nothing_typed
    (by simp [documents])
  rw [sendReply_eq, sent_nothing] at same
  have received := (awaitReply_append miniature_exchanges (sound_run run answered) nothing_typed
    (by simp [documents]) small_nothing).1
  cases congrArg Reply.body (same.symm.trans received)

end Dispatcher

end AiProtocol
