import Mathlib.Data.List.Basic
import AiProtocol.Gateway.Upstream

/-!
# Errors and the response bound

What the caller of an executed action is promised: the exact body of a success within the bound,
`response_too_large` for a larger one, and the code of the actual cause otherwise.  The errors of
the gateway pass through `to_bytes` under the same bound as the data they stand for, so that a bound
below their own size replaces the cause.
-/

namespace AiProtocol

/-- The bytes of an upstream body which arrive before its end or its failure. -/
def UpstreamReply.received : List (Option (List UInt8)) → List UInt8
  | some chunk :: chunks => chunk ++ received chunks
  | _ => []

/-- The upstream body is larger than a bound, by its length or by what arrives of it. -/
def UpstreamReply.exceeds (reply : UpstreamReply) (maxResponseBytes : Nat) : Bool :=
  (reply.contentLength.any fun size => size > maxResponseBytes) ||
    (received reply.chunks).length > maxResponseBytes

/-- The body of a successful native response fails while it is read. -/
def World.breaks (world : World) : TaskAction → Bool
  | .native _ _ =>
      200 ≤ world.handler.status && world.handler.status < 300 && world.handler.content.isNone
  | .mapped _ => false

/-- Status and code of the actual cause, if an action failed within its time and not by the size of
its result. -/
def World.failure (world : World) (upstreamUrl : Option String) (maxResponseBytes : Nat)
    (action : TaskAction) : Option (Nat × String) :=
  match action with
  | .native _ _ =>
      if 200 ≤ world.handler.status ∧ world.handler.status < 300 ∧
          world.handler.content.isSome then
        none
      else
        some (502, "operation_failed")
  | .mapped _ =>
      match upstreamUrl, world.upstream with
      | none, _ => some (500, "internal_error")
      | some _, .failed true => some (504, "execution_timeout")
      | some _, .failed false => some (502, "upstream_unavailable")
      | some _, .replied reply =>
          if reply.status ≠ 200 then some (502, "upstream_status")
          else if !reply.exceeds maxResponseBytes && reply.chunks.contains none then
            some (502, "upstream_body_error")
          else none

/-- The result of an action which did not fail: its status, its `Retry-After` header and its body.
-/
def World.success (world : World) : TaskAction → Nat × Option String × List UInt8
  | .native _ _ =>
      (world.handler.status, world.handler.retryAfter, world.handler.content.getD [])
  | .mapped _ =>
      match world.upstream with
      | .replied reply => (200, none, UpstreamReply.received reply.chunks)
      | .failed _ => (200, none, [])

/-- The result is larger than a bound. -/
def World.oversized (world : World) (maxResponseBytes : Nat) : TaskAction → Bool
  | .native _ _ => (world.handler.content.getD []).length > maxResponseBytes
  | .mapped _ =>
      match world.upstream with
      | .replied reply => reply.exceeds maxResponseBytes
      | .failed _ => false

/-- The response the caller of an action is promised. -/
def promised (upstreamUrl : Option String) (settings : RuntimeSettings) (action : TaskAction)
    (world : World) : Response :=
  if world.elapsed then
    protocolError 504 "execution_timeout" "unknown"
  else
    match world.failure upstreamUrl settings.maxResponseBytes action with
    | some (status, code) => protocolError status code "unknown"
    | none =>
        if world.oversized settings.maxResponseBytes action then
          protocolError 502 "response_too_large" "unknown"
        else
          let (status, retryAfter, content) := world.success action
          { status, retryAfter, body := .bytes content }

private theorem utf8ByteSize_frame (front code middle execution back : String) :
    (front ++ code ++ middle ++ execution ++ back).utf8ByteSize =
      front.utf8ByteSize + code.utf8ByteSize + middle.utf8ByteSize + execution.utf8ByteSize +
        back.utf8ByteSize := by
  simp only [String.utf8ByteSize_append]

private theorem size_error (code : String) :
    (Body.error code "unknown").size = 43 + code.utf8ByteSize := by
  have frame := utf8ByteSize_frame "\x7b\"error\":\x7b\"code\":\"" code
    "\",\"execution\":\"" "unknown" "\"\x7d\x7d"
  have front : "\x7b\"error\":\x7b\"code\":\"".utf8ByteSize = 18 := by decide
  have middle : "\",\"execution\":\"".utf8ByteSize = 15 := by decide
  have unknown : "unknown".utf8ByteSize = 7 := by decide
  have back : "\"\x7d\x7d".utf8ByteSize = 3 := by decide
  rw [front, middle, unknown, back] at frame
  exact frame.trans (by omega)

/-- The loop over the chunks compares the whole body with the bound. -/
theorem readBody_eq {maxResponseBytes : Nat} (chunks : List (Option (List UInt8)))
    {start : List UInt8} (within : start.length ≤ maxResponseBytes) :
    readBody maxResponseBytes chunks start =
      if (start ++ UpstreamReply.received chunks).length > maxResponseBytes then
        .error (protocolError 502 "response_too_large" "unknown")
      else if chunks.contains none then
        .error (protocolError 502 "upstream_body_error" "unknown")
      else
        .ok (start ++ UpstreamReply.received chunks) := by
  induction chunks generalizing start with
  | nil => simp [readBody, UpstreamReply.received, within]
  | cons chunk chunks induction =>
      cases chunk with
      | none =>
          have small : ¬(start ++ []).length > maxResponseBytes := by simpa using within
          have nothing : UpstreamReply.received (none :: chunks) = [] := rfl
          rw [nothing, if_neg small]
          simp [readBody]
      | some chunk =>
          rw [readBody, UpstreamReply.received, ← List.append_assoc]
          split
          · rename_i fits
            have longer : (start ++ chunk).length ≤ maxResponseBytes := by
              rw [List.length_append]
              omega
            rw [induction longer]
            simp
          · rename_i larger
            rw [if_pos]
            simp only [List.length_append]
            omega

/-- The response to a mapped operation, before it is materialized. -/
theorem callMapped_eq (upstreamUrl : Option String) (settings : RuntimeSettings)
    (request : UpstreamRequest) {world : World} (inTime : world.elapsed = false) :
    callMapped upstreamUrl settings.maxResponseBytes world.upstream =
      promised upstreamUrl settings (.mapped request) world := by
  unfold callMapped promised World.failure
  rw [inTime]
  cases upstreamUrl with
  | none => rfl
  | some origin =>
      cases sent : world.upstream with
      | failed isTimeout => cases isTimeout <;> rfl
      | replied reply =>
          by_cases ok : reply.status = 200
          · cases declared : reply.contentLength.any fun size =>
              size > settings.maxResponseBytes with
            | true => simp [ok, declared, UpstreamReply.exceeds, World.oversized, sent]
            | false =>
                have empty : ([] : List UInt8).length ≤ settings.maxResponseBytes := Nat.zero_le _
                have read := readBody_eq reply.chunks empty
                rw [List.nil_append] at read
                simp only [ok, declared, read, UpstreamReply.exceeds, World.oversized,
                  World.success, sent]
                by_cases larger : (UpstreamReply.received reply.chunks).length >
                    settings.maxResponseBytes
                · simp [larger]
                · cases broken : reply.chunks.contains none <;> simp [larger]
          · simp [ok]

theorem materialize_eq (maxResponseBytes status : Nat) (retryAfter : Option String) (body : Body) :
    materialize maxResponseBytes { status, retryAfter, body := some body } =
      if body.size ≤ maxResponseBytes then
        { status, retryAfter, body }
      else
        protocolError 502 "response_too_large" "unknown" := by
  by_cases fits : body.size ≤ maxResponseBytes <;> simp [materialize, Option.filter, fits]

theorem materialize_error (maxResponseBytes status : Nat) (code : String) :
    materialize maxResponseBytes (.ofResponse (protocolError status code "unknown")) =
      if 43 + code.utf8ByteSize ≤ maxResponseBytes then
        protocolError status code "unknown"
      else
        protocolError 502 "response_too_large" "unknown" := by
  rw [← size_error]
  exact materialize_eq maxResponseBytes status none (.error code "unknown")

private theorem materialize_bytes {maxResponseBytes status : Nat} {retryAfter : Option String}
    {content : List UInt8} (fits : content.length ≤ maxResponseBytes) :
    materialize maxResponseBytes { status, retryAfter, body := some (.bytes content) } =
      { status, retryAfter, body := .bytes content } := by
  rw [materialize_eq]
  exact if_pos fits

private theorem materialize_larger {maxResponseBytes status : Nat} {retryAfter : Option String}
    {content : List UInt8} (larger : ¬content.length ≤ maxResponseBytes) :
    materialize maxResponseBytes { status, retryAfter, body := some (.bytes content) } =
      protocolError 502 "response_too_large" "unknown" := by
  rw [materialize_eq]
  exact if_neg larger

private theorem failure_code {world : World} {upstreamUrl : Option String}
    {maxResponseBytes status : Nat}
    {action : TaskAction} {code : String}
    (failed : world.failure upstreamUrl maxResponseBytes action = some (status, code)) :
    code ≠ "response_too_large" := by
  rintro rfl
  unfold World.failure at failed
  split at failed
  · split at failed <;> simp at failed
  · split at failed
    · simp at failed
    · simp at failed
    · simp at failed
    · split at failed
      · simp at failed
      · split at failed <;> simp at failed

private theorem materialize_error_eq {maxResponseBytes status : Nat} {code : String}
    (other : code ≠ "response_too_large") :
    materialize maxResponseBytes (.ofResponse (protocolError status code "unknown")) =
        protocolError status code "unknown" ↔
      43 + code.utf8ByteSize ≤ maxResponseBytes := by
  rw [materialize_error]
  constructor
  · intro kept
    by_contra small
    rw [if_neg small] at kept
    exact other (by simpa [protocolError] using (congrArg Response.body kept).symm)
  · intro large
    rw [if_pos large]

section

variable {upstreamUrl : Option String} {settings : RuntimeSettings} {action : TaskAction}
  {world : World} {status : Nat} {code : String}

private theorem promised_failed (inTime : world.elapsed = false)
    (failed : world.failure upstreamUrl settings.maxResponseBytes action = some (status, code)) :
    promised upstreamUrl settings action world = protocolError status code "unknown" := by
  simp [promised, inTime, failed]

private theorem callUpstream_failed (inTime : world.elapsed = false)
    (whole : world.breaks action = false)
    (failed : world.failure upstreamUrl settings.maxResponseBytes action = some (status, code)) :
    callUpstream upstreamUrl settings.maxResponseBytes action world =
      .ofResponse (protocolError status code "unknown") := by
  cases action with
  | native operation params =>
      by_cases ok : 200 ≤ world.handler.status ∧ world.handler.status < 300
      · cases content : world.handler.content <;>
          simp [World.failure, World.breaks, ok, content] at failed whole
      · have refused : ¬(200 ≤ world.handler.status ∧ world.handler.status < 300 ∧
            world.handler.content.isSome) := fun all => ok ⟨all.1, all.2.1⟩
        simp only [World.failure, if_neg refused, Option.some.injEq, Prod.mk.injEq] at failed
        simp only [callUpstream, callNative, if_neg ok, failed]
  | mapped request =>
      rw [callUpstream, callMapped_eq upstreamUrl settings request inTime,
        promised_failed inTime failed]

private theorem execute_broken (broken : world.breaks action = true) :
    world.failure upstreamUrl settings.maxResponseBytes action = some (502, "operation_failed") ∧
      materialize settings.maxResponseBytes
          (callUpstream upstreamUrl settings.maxResponseBytes action world) =
        protocolError 502 "response_too_large" "unknown" := by
  cases action with
  | native operation params =>
      simp only [World.breaks, Bool.and_eq_true, decide_eq_true_eq, Option.isNone_iff_eq_none]
        at broken
      obtain ⟨ok, none⟩ := broken
      constructor
      · simp [World.failure, none]
      · simp [callUpstream, callNative, ok, none, materialize, Option.filter]
  | mapped request => cases broken

/-- What did not fail is returned within the bound and replaced beyond it. -/
theorem execute_succeeded (inTime : world.elapsed = false)
    (succeeded : world.failure upstreamUrl settings.maxResponseBytes action = none) :
    world.breaks action = false ∧
      materialize settings.maxResponseBytes
          (callUpstream upstreamUrl settings.maxResponseBytes action world) =
        promised upstreamUrl settings action world := by
  have whole : promised upstreamUrl settings action world =
      if world.oversized settings.maxResponseBytes action then
        protocolError 502 "response_too_large" "unknown"
      else
        { status := (world.success action).1
          retryAfter := (world.success action).2.1
          body := .bytes (world.success action).2.2 } := by
    simp [promised, inTime, succeeded]
  cases action with
  | native operation params =>
      by_cases ok : 200 ≤ world.handler.status ∧ world.handler.status < 300
      · cases content : world.handler.content with
        | none => simp [World.failure, content] at succeeded
        | some bytes =>
            constructor
            · simp [World.breaks, content]
            · have called : callUpstream upstreamUrl settings.maxResponseBytes
                  (.native operation params) world =
                    { status := world.handler.status
                      retryAfter := world.handler.retryAfter
                      body := some (.bytes bytes) } := by
                simp [callUpstream, callNative, ok, content]
              rw [called, whole]
              by_cases fits : bytes.length ≤ settings.maxResponseBytes
              · rw [materialize_bytes fits]
                simp [World.oversized, World.success, content, Nat.not_lt.mpr fits]
              · rw [materialize_larger fits]
                simp [World.oversized, content, Nat.lt_of_not_le fits]
      · have refused : ¬(200 ≤ world.handler.status ∧ world.handler.status < 300 ∧
            world.handler.content.isSome) := fun all => ok ⟨all.1, all.2.1⟩
        simp [World.failure, if_neg refused] at succeeded
  | mapped request =>
      constructor
      · rfl
      · rw [callUpstream, callMapped_eq upstreamUrl settings request inTime, whole]
        cases larger : world.oversized settings.maxResponseBytes (.mapped request) with
        | true =>
            rw [if_pos rfl, materialize_error, ite_self]
        | false =>
            rw [if_neg Bool.false_ne_true]
            refine materialize_bytes ?_
            cases sent : world.upstream with
            | failed isTimeout => simp [World.success, sent]
            | replied reply =>
                simp only [World.oversized, sent, UpstreamReply.exceeds, Bool.or_eq_false_iff,
                  decide_eq_false_iff_not, Nat.not_lt] at larger
                simpa [World.success, sent] using larger.2

end

/-- The caller is told what is promised, except when the body of a native response breaks or the
bound is smaller than the error which names the cause. -/
theorem error_taxonomy (upstreamUrl : Option String) (settings : RuntimeSettings)
    (action : TaskAction) (world : World) :
    execute upstreamUrl settings action world = promised upstreamUrl settings action world ↔
      world.elapsed = true ∨ world.breaks action = false ∧ ∀ status code,
        world.failure upstreamUrl settings.maxResponseBytes action = some (status, code) →
          43 + code.utf8ByteSize ≤ settings.maxResponseBytes := by
  cases elapsed : world.elapsed with
  | true => simp [execute, promised, elapsed]
  | false =>
      have run : execute upstreamUrl settings action world = materialize settings.maxResponseBytes
          (callUpstream upstreamUrl settings.maxResponseBytes action world) := by
        simp [execute, elapsed]
      rw [run]
      simp only [Bool.false_eq_true, false_or]
      cases failed : world.failure upstreamUrl settings.maxResponseBytes action with
      | none =>
          obtain ⟨whole, same⟩ := execute_succeeded elapsed failed
          simp [whole, same]
      | some cause =>
          obtain ⟨status, code⟩ := cause
          rw [promised_failed elapsed failed]
          cases broken : world.breaks action with
          | true =>
              obtain ⟨operation, masked⟩ :
                  _ = some (502, "operation_failed") ∧ _ := execute_broken broken
              obtain ⟨rfl, rfl⟩ : (502, "operation_failed") = (status, code) :=
                Option.some.inj (operation.symm.trans failed)
              rw [masked]
              simp [protocolError]
          | false =>
              rw [callUpstream_failed elapsed broken failed,
                materialize_error_eq (failure_code failed)]
              simp

/-- With a bound of one byte the failure of the upstream service is reported as a large response. -/
theorem error_taxonomy_masked : ¬∀ (upstreamUrl : Option String) (settings : RuntimeSettings)
    (action : TaskAction) (world : World), settings.validate = .ok settings →
      execute upstreamUrl settings action world = promised upstreamUrl settings action world := by
  intro promise
  have told := promise (some "http://127.0.0.1:4000")
    { RuntimeSettings.default with maxResponseBytes := 1 }
    (.mapped { path := "/products", query := [] })
    { handler := { status := 200, retryAfter := none, content := none }
      upstream := .replied { status := 500, contentLength := none, chunks := [] }
      elapsed := false } rfl
  exact absurd (congrArg Response.code told) (by decide)

end AiProtocol
