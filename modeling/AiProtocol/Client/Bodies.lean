import AiProtocol.Client.Policy
import AiProtocol.Gateway.Upstream
import AiProtocol.Library.Buffer

/-!
# Bodies

The gateway reads the body of an upstream response and the Python client the body of any response
chunk by chunk, up to a limit.  The gateway subtracts the size of what it has from the limit, the
client adds the size of the chunk to it.
-/

namespace AiProtocol

/-! ## The gateway -/

/-- The test of `call_upstream`; the difference is one of unsigned numbers. -/
def remainingFits (maxResponseBytes held next : Nat) : Bool :=
  next ≤ maxResponseBytes - held

theorem keeps_remainingFits (maxResponseBytes : Nat) :
    Buffer.Keeps (remainingFits maxResponseBytes) maxResponseBytes := by
  intro held next within
  simp only [remainingFits, decide_eq_true_eq]
  omega

theorem readBody_eq_collect (maxResponseBytes : Nat) (chunks : List (Option (List UInt8)))
    (body : List UInt8) :
    readBody maxResponseBytes chunks body =
      match Buffer.collect (remainingFits maxResponseBytes) chunks body with
      | .whole body => .ok body
      | .broken => .error (protocolError 502 "upstream_body_error" "unknown")
      | .oversized => .error (protocolError 502 "response_too_large" "unknown") := by
  induction chunks generalizing body with
  | nil => rfl
  | cons chunk chunks induction =>
      cases chunk with
      | none => rfl
      | some chunk =>
          rw [readBody, Buffer.collect]
          by_cases passed : chunk.length ≤ maxResponseBytes - body.length
          · rw [if_pos passed, if_pos (by simpa [remainingFits] using passed), induction]
          · rw [if_neg passed, if_neg (by simpa [remainingFits] using passed)]

theorem readBody_chunks (maxResponseBytes : Nat) (chunks : List (List UInt8)) :
    readBody maxResponseBytes (chunks.map some) [] =
      if chunks.flatten.length ≤ maxResponseBytes then .ok chunks.flatten
      else .error (protocolError 502 "response_too_large" "unknown") := by
  rw [readBody_eq_collect, Buffer.collect_eq (keeps_remainingFits maxResponseBytes) (Nat.zero_le _),
    List.nil_append]
  by_cases within : chunks.flatten.length ≤ maxResponseBytes
  · simp only [if_pos within]
  · simp only [if_neg within]

private theorem callMapped_chunks (upstreamUrl : String) (maxResponseBytes : Nat)
    (contentLength : Option Nat) (chunks : List (List UInt8)) :
    callMapped (some upstreamUrl) maxResponseBytes
        (.replied { status := 200, contentLength, chunks := chunks.map some }) =
      if (∀ size, contentLength = some size → size ≤ maxResponseBytes) ∧
          chunks.flatten.length ≤ maxResponseBytes then
        { status := 200, retryAfter := none, body := .bytes chunks.flatten }
      else
        protocolError 502 "response_too_large" "unknown" := by
  have declared : (contentLength.any fun size => size > maxResponseBytes) = true ↔
      ¬∀ size, contentLength = some size → size ≤ maxResponseBytes := by
    cases contentLength <;> simp
  simp only [callMapped, ne_eq, not_true, if_false, readBody_chunks]
  by_cases told : ∀ size, contentLength = some size → size ≤ maxResponseBytes
  · rw [if_neg fun exceeds => declared.mp exceeds told]
    by_cases within : chunks.flatten.length ≤ maxResponseBytes
    · rw [if_pos within, if_pos (And.intro told within)]
    · rw [if_neg within, if_neg fun both : _ ∧ _ => within both.2]
  · rw [if_pos (declared.mpr told), if_neg fun both : _ ∧ _ => told both.1]

/-! ## The Python client -/

namespace Sdk

/-- `maximum or self._maximum_body`. -/
def bodyBound (maximum : Option Nat) (maximumBody : Nat) : Nat :=
  match maximum with
  | none | some 0 => maximumBody
  | some bound => bound

/-- The loop of `_request` over the chunks of a body. -/
def readBody (bound : Nat) :
    List (Option (List UInt8)) → List UInt8 → Except PyError (List UInt8)
  | [], body => .ok body
  | none :: _, _ => .error .http
  | some chunk :: chunks, body =>
      if body.length + chunk.length > bound then
        .error (.protocol "Response exceeds the configured size limit")
      else
        readBody bound chunks (body ++ chunk)

/-- The test of `_request`. -/
def sumFits (bound held next : Nat) : Bool :=
  !(held + next > bound)

private theorem keeps_sumFits (bound : Nat) : Buffer.Keeps (sumFits bound) bound := by
  intro held next within
  simp only [sumFits, Bool.not_eq_true', decide_eq_false_iff_not]
  omega

theorem readBody_eq_collect (bound : Nat) (chunks : List (Option (List UInt8)))
    (body : List UInt8) :
    readBody bound chunks body =
      match Buffer.collect (sumFits bound) chunks body with
      | .whole body => .ok body
      | .broken => .error .http
      | .oversized => .error (.protocol "Response exceeds the configured size limit") := by
  induction chunks generalizing body with
  | nil => rfl
  | cons chunk chunks induction =>
      cases chunk with
      | none => rfl
      | some chunk =>
          rw [readBody, Buffer.collect]
          by_cases exceeds : body.length + chunk.length > bound
          · rw [if_pos exceeds, if_neg (by simpa [sumFits] using exceeds)]
          · rw [if_neg exceeds, if_pos (by simpa [sumFits] using exceeds), induction]

end Sdk

private theorem readBody_eq_ok (bound : Nat) (chunks : List (Option (List UInt8)))
    (body : List UInt8) :
    Sdk.readBody bound chunks [] = .ok body ↔ readBody bound chunks [] = .ok body := by
  rw [Sdk.readBody_eq_collect, readBody_eq_collect, Buffer.collect_congr (Sdk.keeps_sumFits bound)
    (keeps_remainingFits bound) (Nat.zero_le _)]
  cases Buffer.collect (remainingFits bound) chunks [] <;> simp

/-- Bounded bodies.  At every turn of the loop of `call_upstream` the buffer is within the limit, so
that the difference never is negative; an upstream body which arrives is returned exactly if it and
its declared length are within the limit, and refused as too large otherwise; and with the same
positive limit the Python client accepts the same sequences of chunks. -/
theorem bounded_bodies :
    (∀ (maxResponseBytes : Nat) (chunks : List (Option (List UInt8))),
      ∀ held ∈ Buffer.buffers (remainingFits maxResponseBytes) chunks [],
        held.length ≤ maxResponseBytes ∧
          ((maxResponseBytes - held.length : Nat) : Int) = maxResponseBytes - held.length) ∧
    (∀ (maxResponseBytes : Nat) (chunks : List (List UInt8)),
      readBody maxResponseBytes (chunks.map some) [] =
        if chunks.flatten.length ≤ maxResponseBytes then .ok chunks.flatten
        else .error (protocolError 502 "response_too_large" "unknown")) ∧
    (∀ (upstreamUrl : String) (maxResponseBytes : Nat) (contentLength : Option Nat)
      (chunks : List (List UInt8)),
      callMapped (some upstreamUrl) maxResponseBytes
          (.replied { status := 200, contentLength, chunks := chunks.map some }) =
        if (∀ size, contentLength = some size → size ≤ maxResponseBytes) ∧
            chunks.flatten.length ≤ maxResponseBytes then
          { status := 200, retryAfter := none, body := .bytes chunks.flatten }
        else
          protocolError 502 "response_too_large" "unknown") ∧
    ∀ bound, 0 < bound → ∀ maximum maximumBody,
      maximum = some bound ∨ maximum = none ∧ maximumBody = bound →
        ∀ (chunks : List (Option (List UInt8))) (body : List UInt8),
          Sdk.readBody (Sdk.bodyBound maximum maximumBody) chunks [] = .ok body ↔
            readBody bound chunks [] = .ok body := by
  refine ⟨?_, readBody_chunks, ?_, ?_⟩
  · intro maxResponseBytes chunks held member
    have within := Buffer.length_of_mem_buffers (keeps_remainingFits maxResponseBytes)
      (Nat.zero_le _) held member
    exact ⟨within, by omega⟩
  · intro upstreamUrl maxResponseBytes contentLength chunks
    exact callMapped_chunks upstreamUrl maxResponseBytes contentLength chunks
  · intro bound positive maximum maximumBody given chunks body
    have same : Sdk.bodyBound maximum maximumBody = bound := by
      rcases given with rfl | ⟨rfl, rfl⟩
      · obtain ⟨rest, rfl⟩ := Nat.exists_eq_succ_of_ne_zero (Nat.ne_of_gt positive)
        rfl
      · rfl
    rw [same]
    exact readBody_eq_ok bound chunks body

end AiProtocol
