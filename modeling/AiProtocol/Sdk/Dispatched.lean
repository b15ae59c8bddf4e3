import AiProtocol.Dispatcher.Job
import AiProtocol.Sdk.Certainty

/-!
# Direct and dispatched calls

One call with the responses of the gateway to its attempts, sent by the client itself or by its
dispatcher.  The two read the bytes of a response with parsers of their own.
-/

namespace AiProtocol

/-- How bodies are read on either side of a dispatcher. -/
structure Parsers extends Readers where
  /-- What the Python client reads of a value which the dispatcher wrote. -/
  reread : Json → Json

namespace Sdk

variable (parsers : Parsers)

/-- How `call` ends without a dispatcher. -/
def direct (responses : Nat → RawReply) (left : Nat → Nat) : Nat → Nat → Option Ending
  | 0, _ => none
  | rounds + 1, number =>
      match directTurn parsers.toReaders number (left number) (responses number) with
      | .ends ending => some ending
      | .sleeps _ => direct responses left rounds (number + 1)

/-- How `call` ends with a reply of its dispatcher. -/
def replied (call : Call) (reply : Dispatcher.Reply) : Option Ending :=
  let seen : Dispatcher.Reply := { reply with body := reply.body.map parsers.reread }
  let result : Dispatcher.Reply :=
    if consistent seen then seen else connectionError "dispatcher_response_lost" "unknown"
  match Connected.outcome call (.reply result) with
  | .ended ending => some ending
  | .response _ => none

/-- How `call` ends with a dispatcher. -/
def dispatched (call : Call) (responses : Nat → RawReply) (rounds number : Nat)
    (progress : Dispatcher.Progress) : Option Ending :=
  (Dispatcher.job (fun number => (responses number).relayed parsers.toReaders) rounds number
    progress).bind (replied parsers call)

/-- Two calls have the same outcome. -/
def Ending.Agrees : Ending → Ending → Prop
  | .returned value, .returned value' => value = value'
  | .operationError _ execution status attempts, .operationError _ execution' status' attempts' =>
      execution = execution' ∧ status = status' ∧ attempts = attempts'
  | _, _ => False

/-- The client and the dispatcher read a response alike. -/
structure Alike (number : Nat) (raw : RawReply) : Prop where
  /-- The client receives it. -/
  received : raw.Received parsers.toReaders
  /-- A body which the client cannot decode raises a `ValueError`. -/
  decodes : raw.Decodes parsers.toReaders
  /-- A success carries the value which the dispatcher relays. -/
  returns : (raw.direct parsers.toReaders).isSuccess = true →
    parsers.python raw.body = .ok (((parsers.rust raw.body).map parsers.reread).getD .null)
  /-- A failure is a denial to both or to neither. -/
  denies : (raw.direct parsers.toReaders).isSuccess = false →
    ((raw.direct parsers.toReaders).Denies ↔ (raw.relayed parsers.toReaders).Denies)
  /-- And repeated by both or by neither. -/
  retries : number < 5 →
    ((raw.direct parsers.toReaders).Retryable ↔ (raw.relayed parsers.toReaders).Retryable)
  /-- Its pause has no more digits than the interpreter converts. -/
  short : number < 5 → (raw.direct parsers.toReaders).Retryable → Short raw.retryAfter

/-- The pauses asked for fit the deadline, and a day. -/
def Patient (responses : Nat → RawReply) (left : Nat → Nat) : Prop :=
  ∀ number, 1 ≤ number → number < 5 →
    ((responses number).direct parsers.toReaders).Retryable ∨
        ((responses number).relayed parsers.toReaders).Retryable →
      pauseSeconds (responses number).retryAfter ≤ 86400 ∧
        pauseSeconds (responses number).retryAfter * second < left number

/-! ## One attempt -/

/-- What an ending says about an execution. -/
def certainty (denied : Bool) : String :=
  if denied then "not_started" else "unknown"

private theorem certainty_eq_iff {direct relayed : HttpReply} :
    certainty (known direct) = certainty (Dispatcher.notStarted relayed) ↔
      (direct.Denies ↔ relayed.Denies) := by
  rw [← known_iff, ← Dispatcher.notStarted_iff]
  unfold certainty
  cases known direct <;> cases Dispatcher.notStarted relayed <;> simp

section Direct

variable {parsers : Parsers} {responses : Nat → RawReply} {left : Nat → Nat} {rounds number : Nat}

private theorem direct_oversized (big : parsers.maximum < (responses number).body.length) :
    direct parsers responses left (rounds + 1) number =
      some (.operationError "transport_error" "unknown" none (some number)) := by
  rw [direct, directTurn_oversized _ big]

private theorem direct_raised (fits : (responses number).body.length ≤ parsers.maximum)
    (foreign : ¬((responses number).isAscii = true ∧
      (responses number).Decodes parsers.toReaders)) :
    ∃ error, direct parsers responses left (rounds + 1) number = some (.raised error) := by
  obtain ⟨error, raises⟩ := directTurn_raised (left number) fits foreign
  exact ⟨error, by rw [direct, raises]⟩

variable (received : (responses number).Received parsers.toReaders)
  (decodes : (responses number).Decodes parsers.toReaders)
include received decodes

theorem direct_success (success : ((responses number).direct parsers.toReaders).isSuccess = true) :
    direct parsers responses left (rounds + 1) number =
      match parsers.python (responses number).body with
      | .ok value => some (.returned value)
      | .error _ => some (.operationError "invalid_response" "unknown" none (some number)) := by
  unfold direct
  rw [directTurn_of_received _ received decodes, turn, if_pos success]
  cases read : parsers.python (responses number).body <;>
    simp [RawReply.direct, read, Except.toOption]

theorem direct_final (failure : ((responses number).direct parsers.toReaders).isSuccess = false)
    (final : number = 5 ∨ ¬((responses number).direct parsers.toReaders).Retryable) :
    ∃ code, direct parsers responses left (rounds + 1) number =
      some (.operationError code (certainty (known ((responses number).direct parsers.toReaders)))
        (some (responses number).status) (some number)) := by
  have stops : (!safeToRetry ((responses number).direct parsers.toReaders) || number = 5) =
      true := by
    rcases final with last | other
    · simp [last]
    · rw [← safeToRetry_iff, Bool.not_eq_true] at other
      simp [other]
  refine ⟨errorCode ((responses number).direct parsers.toReaders), ?_⟩
  unfold direct
  rw [directTurn_of_received _ received decodes, turn, failure, stops]
  rfl

theorem direct_retryable (retryable : ((responses number).direct parsers.toReaders).Retryable)
    (more : number < 5)
    (patient : pauseSeconds (responses number).retryAfter * second < left number) :
    (Short (responses number).retryAfter →
      direct parsers responses left (rounds + 1) number =
        direct parsers responses left rounds (number + 1)) ∧
      (¬Short (responses number).retryAfter →
        ∃ error, direct parsers responses left (rounds + 1) number = some (.raised error)) := by
  have goes : (!safeToRetry ((responses number).direct parsers.toReaders) || number = 5) =
      false := by
    have other : number ≠ 5 := by omega
    simp [safeToRetry_iff.mpr retryable, other]
  have header : ((responses number).direct parsers.toReaders).retryAfter =
      (responses number).retryAfter := rfl
  rw [direct, directTurn_of_received _ received decodes, turn, retryable.not_success, goes, header]
  constructor
  · intro short
    simp only [Bool.false_eq_true, ↓reduceIte, retrySeconds_of_short short,
      Nat.not_le.mpr patient]
  · intro long
    simp only [Bool.false_eq_true, ↓reduceIte, retrySeconds_of_long long]
    exact ⟨_, rfl⟩

end Direct

section Dispatched

variable {parsers : Parsers} {call : Call} {responses : Nat → RawReply} {rounds number : Nat}
  {progress : Dispatcher.Progress}

private theorem replied_completed {reply : Dispatcher.Reply} {status : Nat} (ok : reply.ok = true)
    (completed : reply.execution = "completed") (told : reply.status = some status)
    (least : 200 ≤ status) (most : status < 300) :
    replied parsers call reply =
      some (.returned ((reply.body.map parsers.reread).getD .null)) := by
  have checked : consistent { reply with body := reply.body.map parsers.reread } = true := by
    simp [consistent, ok, completed, told, least, most]
  unfold replied
  dsimp only
  rw [if_pos checked]
  unfold Connected.outcome
  dsimp only
  rw [if_pos ok]

private theorem replied_failed {reply : Dispatcher.Reply} {denied : Bool}
    (failed : reply.ok = false)
    (told : reply.execution = certainty denied) :
    ∃ code, replied parsers call reply =
      some (.operationError code (certainty denied) reply.status reply.attempts) := by
  have checked : consistent { reply with body := reply.body.map parsers.reread } = true := by
    cases denied <;> simp [consistent, failed, told, certainty]
  unfold replied
  dsimp only
  rw [if_pos checked]
  unfold Connected.outcome
  dsimp only
  rw [if_neg (by simp [failed]), told]
  exact ⟨_, rfl⟩

theorem dispatched_success
    (success : ((responses number).direct parsers.toReaders).isSuccess = true) :
    dispatched parsers call responses (rounds + 1) number progress =
      some (.returned (((parsers.rust (responses number).body).map parsers.reread).getD
        .null)) := by
  have decided : Dispatcher.verdict number ((responses number).relayed parsers.toReaders) =
      .completed := if_pos success
  obtain ⟨least, most⟩ := Bool.and_eq_true_iff.mp success
  simp only [dispatched, Dispatcher.job, decided, Option.bind_some]
  exact replied_completed rfl rfl rfl (of_decide_eq_true least) (of_decide_eq_true most)

theorem dispatched_final (failure : ((responses number).direct parsers.toReaders).isSuccess = false)
    (final : number = 5 ∨ ¬((responses number).relayed parsers.toReaders).Retryable) :
    ∃ code, dispatched parsers call responses (rounds + 1) number progress =
      some (.operationError code
        (certainty (Dispatcher.notStarted ((responses number).relayed parsers.toReaders)))
        (some (responses number).status) (some (progress.attempts + 1))) := by
  have stops : (number = 5 ||
      !Dispatcher.safeToRetry ((responses number).relayed parsers.toReaders)) = true := by
    rcases final with last | other
    · simp [last]
    · rw [← Dispatcher.safeToRetry_iff, Bool.not_eq_true] at other
      simp [other]
  have same : ((responses number).relayed parsers.toReaders).isSuccess = false := failure
  obtain ⟨error, decided⟩ : ∃ error,
      Dispatcher.verdict number ((responses number).relayed parsers.toReaders) = .failed error := by
    unfold Dispatcher.verdict
    rw [same, stops]
    exact ⟨_, rfl⟩
  simp only [dispatched, Dispatcher.job, decided, Option.bind_some]
  cases Dispatcher.notStarted ((responses number).relayed parsers.toReaders) <;>
    exact replied_failed rfl rfl

theorem dispatched_retryable (retryable : ((responses number).relayed parsers.toReaders).Retryable)
    (more : number < 5) (patient : pauseSeconds (responses number).retryAfter ≤ 86400) :
    dispatched parsers call responses (rounds + 1) number progress =
      dispatched parsers call responses rounds (number + 1)
        { progress with attempts := progress.attempts + 1, mayHaveExecuted := false } := by
  have goes : (number = 5 ||
      !Dispatcher.safeToRetry ((responses number).relayed parsers.toReaders)) = false := by
    have other : number ≠ 5 := by omega
    simp [Dispatcher.safeToRetry_iff.mpr retryable, other]
  have denied : Dispatcher.notStarted ((responses number).relayed parsers.toReaders) = true :=
    Dispatcher.notStarted_of_safeToRetry (Dispatcher.safeToRetry_iff.mpr retryable)
  obtain ⟨seconds, decided⟩ : ∃ seconds,
      Dispatcher.verdict number ((responses number).relayed parsers.toReaders) =
        .pause seconds := by
    have header : ((responses number).relayed parsers.toReaders).retryAfter =
        Dispatcher.headerText (responses number).retryAfter := rfl
    unfold Dispatcher.verdict
    rw [retryable.not_success, goes, header, Dispatcher.retrySeconds_headerText _ patient]
    exact ⟨_, rfl⟩
  simp only [dispatched, Dispatcher.job, decided, denied, ↓reduceIte, Dispatcher.Progress.deny]

end Dispatched

/-! ## Five attempts -/

section Attempts

variable {parsers : Parsers} {call : Call} {responses : Nat → RawReply} {left : Nat → Nat}

private theorem directTurn_attempts {readers : Readers} {number left : Nat} {raw : RawReply}
    {code told : String} {status attempts : Option Nat}
    (ends : directTurn readers number left raw =
      .ends (.operationError code told status attempts)) :
    attempts = some number := by
  by_cases fits : raw.body.length ≤ readers.maximum
  · by_cases got : raw.isAscii = true ∧ raw.Decodes readers
    · rw [directTurn_of_received _ ⟨fits, got.1⟩ got.2] at ends
      unfold turn at ends
      split at ends
      · split at ends <;> cases ends
        rfl
      · split at ends
        · cases ends
          rfl
        · split at ends
          · cases ends
          · split at ends <;> cases ends
    · obtain ⟨error, raises⟩ := directTurn_raised left fits got
      rw [raises] at ends
      cases ends
  · rw [directTurn_oversized _ (Nat.not_le.mp fits)] at ends
    cases ends
    rfl

private theorem direct_attempts {rounds number : Nat} {code told : String}
    {status attempts : Option Nat}
    (ended : direct parsers responses left rounds number =
      some (.operationError code told status attempts)) :
    ∃ made, attempts = some made ∧ number ≤ made := by
  induction rounds generalizing number with
  | zero => cases ended
  | succ rounds induction =>
      unfold direct at ended
      split at ended
      · rename_i ending ends
        cases ended
        exact ⟨number, directTurn_attempts ends, le_rfl⟩
      · obtain ⟨made, reported, le⟩ := induction ended
        exact ⟨made, reported, by omega⟩

/-- So are those a dispatcher reports, with a status. -/
theorem dispatched_attempts (patient : Patient parsers responses left) {rounds number : Nat}
    {progress : Dispatcher.Progress} {code told : String} {status attempts : Option Nat}
    (first : 1 ≤ number) (last : number + rounds ≤ 6)
    (ended : dispatched parsers call responses rounds number progress =
      some (.operationError code told status attempts)) :
    status.isSome = true ∧ ∃ made, attempts = some made ∧ progress.attempts + 1 ≤ made := by
  induction rounds generalizing number progress with
  | zero => cases ended
  | succ rounds induction =>
      cases success : ((responses number).direct parsers.toReaders).isSuccess with
      | true =>
          rw [dispatched_success success] at ended
          cases ended
      | false =>
          by_cases final : number = 5 ∨ ¬((responses number).relayed parsers.toReaders).Retryable
          · obtain ⟨code, made⟩ : ∃ code, dispatched parsers call responses (rounds + 1) number
                progress = some (.operationError code _ _ _) := dispatched_final success final
            rw [made] at ended
            cases ended
            exact ⟨rfl, _, rfl, le_rfl⟩
          · rw [not_or, not_not] at final
            have more : number < 5 := by omega
            have pause := (patient number first more (.inr final.2)).1
            rw [dispatched_retryable final.2 more pause] at ended
            obtain ⟨told, made, reported, le⟩ := induction (by omega) (by omega) ended
            exact ⟨told, made, reported, by dsimp only at le; omega⟩

/-- The calls agree from an attempt on. -/
def Agreed (parsers : Parsers) (call : Call) (responses : Nat → RawReply) (left : Nat → Nat)
    (rounds number : Nat) (progress : Dispatcher.Progress) : Prop :=
  ∃ ending ending', direct parsers responses left rounds number = some ending ∧
    dispatched parsers call responses rounds number progress = some ending' ∧
      ending.Agrees ending'

theorem final_of_not_retried {number : Nat} {direct relayed : Prop} (limit : number ≤ 5)
    (alike : number < 5 → (direct ↔ relayed)) (other : ¬(number < 5 ∧ direct)) :
    (number = 5 ∨ ¬direct) ∧ (number = 5 ∨ ¬relayed) := by
  rcases Nat.lt_or_eq_of_le limit with more | last
  · have stops : ¬direct := fun retried => other ⟨more, retried⟩
    exact ⟨.inr stops, .inr (mt (alike more).mpr stops)⟩
  · exact ⟨.inl last, .inl last⟩

section Step

variable {rounds number : Nat} {progress : Dispatcher.Progress}

theorem agreed_succ (patient : Patient parsers responses left) (first : 1 ≤ number)
    (more : number < 5) (alike : Alike parsers number (responses number))
    (both : BothRetry parsers.toReaders (responses number)) :
    Agreed parsers call responses left (rounds + 1) number progress ↔
      Agreed parsers call responses left rounds (number + 1)
        { progress with attempts := progress.attempts + 1, mayHaveExecuted := false } := by
  obtain ⟨day, deadline⟩ := patient number first more (.inl both.1)
  have short := alike.short more both.1
  unfold Agreed
  rw [(direct_retryable alike.received alike.decodes both.1 more deadline).1 short,
    dispatched_retryable both.2 more day]

theorem Agreed.of_alike (patient : Patient parsers responses left) (first : 1 ≤ number)
    (limit : number ≤ 5) (counted : progress.attempts + 1 = number)
    (alike : Alike parsers number (responses number))
    (rest : number < 5 → BothRetry parsers.toReaders (responses number) →
      Agreed parsers call responses left rounds (number + 1)
        { progress with attempts := progress.attempts + 1, mayHaveExecuted := false }) :
    Agreed parsers call responses left (rounds + 1) number progress := by
  cases success : ((responses number).direct parsers.toReaders).isSuccess with
  | true =>
      have returned : direct parsers responses left (rounds + 1) number = _ :=
        direct_success alike.received alike.decodes success
      rw [alike.returns success] at returned
      exact ⟨_, _, returned, dispatched_success success, rfl⟩
  | false =>
      by_cases retried : number < 5 ∧ ((responses number).direct parsers.toReaders).Retryable
      · obtain ⟨more, retryable⟩ := retried
        have both : BothRetry parsers.toReaders (responses number) :=
          ⟨retryable, (alike.retries more).mp retryable⟩
        exact (agreed_succ patient first more alike both).mpr (rest more both)
      · obtain ⟨final, final'⟩ := final_of_not_retried limit alike.retries retried
        obtain ⟨code, direct⟩ := direct_final alike.received alike.decodes success final
        obtain ⟨code', dispatched⟩ := dispatched_final success final'
        refine ⟨_, _, direct, dispatched, ?_, rfl, by rw [counted]⟩
        exact certainty_eq_iff.mpr (alike.denies success)

theorem direct_goes_on (patient : Patient parsers responses left) (first : 1 ≤ number)
    (more : number < 5) (received : (responses number).Received parsers.toReaders)
    (decodes : (responses number).Decodes parsers.toReaders)
    (retryable : ((responses number).direct parsers.toReaders).Retryable) {ending : Ending}
    (ended : Sdk.direct parsers responses left (rounds + 1) number = some ending)
    (unraised : ∀ error, ending ≠ .raised error) :
    Short (responses number).retryAfter ∧
      Sdk.direct parsers responses left rounds (number + 1) = some ending := by
  have deadline := (patient number first more (.inl retryable)).2
  obtain ⟨goes, raises⟩ := direct_retryable received decodes retryable more deadline
  by_cases short : Short (responses number).retryAfter
  · exact ⟨short, (goes short).symm.trans ended⟩
  · obtain ⟨error, raised⟩ := raises short
    rw [raised] at ended
    cases ended
    exact absurd rfl (unraised _)

theorem Ending.Agrees.unraised {ending ending' : Ending} (agrees : ending.Agrees ending')
    (error : PyError) : ending ≠ .raised error := by
  rintro rfl
  exact agrees

/-- No dispatcher agrees with a body over the limit. -/
theorem Agreed.fits (patient : Patient parsers responses left) (first : 1 ≤ number)
    (last : number + rounds = 5)
    (agreed : Agreed parsers call responses left (rounds + 1) number progress) :
    (responses number).body.length ≤ parsers.maximum := by
  obtain ⟨ending, ending', direct, dispatched, agrees⟩ := agreed
  by_contra big
  rw [direct_oversized (Nat.not_le.mp big)] at direct
  cases direct
  cases ending' with
  | operationError code told status attempts =>
      obtain ⟨isSome, -⟩ := dispatched_attempts patient first (by omega) dispatched
      obtain ⟨-, none, -⟩ := agrees
      simp [← none] at isSome
  | _ => exact agrees

theorem Agreed.read (fits : (responses number).body.length ≤ parsers.maximum)
    (agreed : Agreed parsers call responses left (rounds + 1) number progress) :
    (responses number).Received parsers.toReaders ∧
      (responses number).Decodes parsers.toReaders := by
  obtain ⟨ending, ending', direct, dispatched, agrees⟩ := agreed
  by_cases got : (responses number).isAscii = true ∧ (responses number).Decodes parsers.toReaders
  · exact ⟨⟨fits, got.1⟩, got.2⟩
  · obtain ⟨error, raises⟩ := direct_raised fits got
    rw [raises] at direct
    cases direct
    exact agrees.elim

/-- Calls which agree made the same number of attempts, so they repeat this one or neither does. -/
theorem Agreed.retries (patient : Patient parsers responses left) (first : 1 ≤ number)
    (last : number + rounds = 5) (counted : progress.attempts + 1 = number)
    (agreed : Agreed parsers call responses left (rounds + 1) number progress)
    (more : number < 5) :
    ((responses number).direct parsers.toReaders).Retryable ↔
      ((responses number).relayed parsers.toReaders).Retryable := by
  obtain ⟨received, decodes⟩ := agreed.read (agreed.fits patient first last)
  obtain ⟨ending, ending', direct, dispatched, agrees⟩ := agreed
  constructor
  · intro retryable
    by_contra other
    obtain ⟨-, later⟩ := direct_goes_on patient first more received decodes retryable direct
      agrees.unraised
    obtain ⟨code, final⟩ : ∃ code, Sdk.dispatched parsers call responses (rounds + 1) number
        progress = some (.operationError code _ _ _) :=
      dispatched_final retryable.not_success (.inr other)
    rw [final] at dispatched
    cases dispatched
    cases ending with
    | operationError code told status attempts =>
        obtain ⟨made, reported, le⟩ := direct_attempts later
        obtain ⟨-, -, same⟩ := agrees
        rw [reported, Option.some.injEq] at same
        omega
    | _ => exact agrees
  · intro retryable
    by_contra other
    have day := (patient number first more (.inr retryable)).1
    rw [dispatched_retryable retryable more day] at dispatched
    obtain ⟨code, final⟩ : ∃ code, Sdk.direct parsers responses left (rounds + 1) number =
        some (.operationError code _ _ _) :=
      direct_final received decodes retryable.not_success (.inr other)
    rw [final] at direct
    cases direct
    cases ending' with
    | operationError code told status attempts =>
        obtain ⟨-, made, reported, le⟩ :=
          dispatched_attempts patient (by omega) (by omega) dispatched
        obtain ⟨-, -, same⟩ := agrees
        rw [reported, Option.some.injEq] at same
        dsimp only at le
        omega
    | _ => exact agrees

/-- Calls which agree read their attempt alike. -/
theorem Agreed.alike (patient : Patient parsers responses left) (first : 1 ≤ number)
    (last : number + rounds = 5) (counted : progress.attempts + 1 = number)
    (agreed : Agreed parsers call responses left (rounds + 1) number progress) :
    Alike parsers number (responses number) := by
  obtain ⟨received, decodes⟩ := agreed.read (agreed.fits patient first last)
  have retries := agreed.retries patient first last counted
  obtain ⟨ending, ending', direct, dispatched, agrees⟩ := agreed
  refine ⟨received, decodes, ?_, ?_, retries, fun more retryable =>
    (direct_goes_on patient first more received decodes retryable direct agrees.unraised).1⟩
  · intro success
    rw [direct_success received decodes success] at direct
    rw [dispatched_success success] at dispatched
    cases dispatched
    cases read : parsers.python (responses number).body with
    | error error =>
        rw [read] at direct
        cases direct
        exact agrees.elim
    | ok value =>
        rw [read] at direct
        cases direct
        exact congrArg Except.ok agrees
  · intro failure
    by_cases retried : number < 5 ∧ ((responses number).direct parsers.toReaders).Retryable
    · obtain ⟨more, retryable⟩ := retried
      exact iff_of_true (denies_of_retryable retryable)
        (denies_of_retryable ((retries more).mp retryable))
    · obtain ⟨final, final'⟩ := final_of_not_retried (by omega) retries retried
      obtain ⟨code, ended⟩ : ∃ code, Sdk.direct parsers responses left (rounds + 1) number =
          some (.operationError code _ _ _) := direct_final received decodes failure final
      obtain ⟨code', ended'⟩ : ∃ code, Sdk.dispatched parsers call responses (rounds + 1) number
          progress = some (.operationError code _ _ _) := dispatched_final failure final'
      rw [ended] at direct
      rw [ended'] at dispatched
      cases direct
      cases dispatched
      exact certainty_eq_iff.mp agrees.1

end Step

/-- From an attempt on, calls agree exactly if they read every attempt they reach alike. -/
theorem agreed_iff (patient : Patient parsers responses left) {rounds number : Nat}
    {progress : Dispatcher.Progress} (first : 1 ≤ number) (last : number + rounds = 5)
    (counted : progress.attempts + 1 = number) :
    Agreed parsers call responses left (rounds + 1) number progress ↔
      ∀ later, number ≤ later → later ≤ 5 →
        (∀ earlier, number ≤ earlier → earlier < later →
            BothRetry parsers.toReaders (responses earlier)) →
          Alike parsers later (responses later) := by
  induction rounds generalizing number progress with
  | zero =>
      constructor
      · intro agreed later least most _
        obtain rfl : number = later := by omega
        exact agreed.alike patient first last counted
      · intro alike
        apply Agreed.of_alike patient first (by omega) counted
        · exact alike number le_rfl (by omega) fun earlier le lt => absurd lt (Nat.not_lt.mpr le)
        · intro more
          omega
  | succ rounds induction =>
      have next : Agreed parsers call responses left (rounds + 1) (number + 1)
          { progress with attempts := progress.attempts + 1, mayHaveExecuted := false } ↔ _ :=
        induction (by omega) (by omega) (by rw [counted])
      constructor
      · intro agreed later least most retried
        rcases Nat.eq_or_lt_of_le least with rfl | beyond
        · exact agreed.alike patient first last counted
        · have both := retried number le_rfl beyond
          have rest := (agreed_succ patient first (by omega)
            (agreed.alike patient first last counted) both).mp agreed
          exact next.mp rest later beyond most fun earlier le lt => retried earlier (by omega) lt
      · intro alike
        apply Agreed.of_alike patient first (by omega) counted
        · exact alike number le_rfl (by omega) fun earlier le lt => absurd lt (Nat.not_lt.mpr le)
        · intro _ both
          apply next.mpr
          intro later least most retried
          apply alike later (by omega) most
          intro earlier le lt
          rcases Nat.eq_or_lt_of_le le with rfl | beyond
          · exact both
          · exact retried earlier beyond lt

/-- Dispatched calls end as direct calls do, for responses whose pauses fit the deadline, exactly if
the client and the dispatcher read alike the response to every attempt they both make.  So end the
requests of every run of the dispatcher whose attempts were given these responses and whose reply
tells the status of one. -/
theorem direct_dispatched (patient : Patient parsers responses left) :
    (Agreed parsers call responses left 5 1 .default ↔
      ∀ number, 1 ≤ number → number ≤ 5 →
        (∀ earlier, 1 ≤ earlier → earlier < number →
          BothRetry parsers.toReaders (responses earlier)) →
            Alike parsers number (responses number)) ∧
    ∀ (settings : Dispatcher.Settings) (trace : List Dispatcher.Event) (dispatcher : Dispatcher)
      (request : Dispatcher.RequestId) (reply : Dispatcher.Reply),
      Dispatcher.Run settings .start trace dispatcher →
      (∀ attempt response, .return attempt (.ok response) ∈ trace → attempt.request = request →
        response = (responses attempt.number).relayed parsers.toReaders) →
      dispatcher.connections request = .replied reply → reply.status.isSome = true →
        dispatched parsers call responses 5 1 .default = replied parsers call reply := by
  refine ⟨agreed_iff patient le_rfl rfl rfl, ?_⟩
  intro settings trace dispatcher request reply run told ended status
  rw [dispatched, Dispatcher.job_run run told ended status]
  rfl

end Attempts

def digit : Parsers where
  toReaders := digitReaders
  reread := id

open Dispatcher in
/-- The dispatcher repeats a rejected attempt a second later. -/
theorem rejecting_run : ∃ (trace : List Dispatcher.Event) (dispatcher : Dispatcher)
    (reply : Dispatcher.Reply), Dispatcher.Run .single .start trace dispatcher ∧
      dispatcher.connections 0 = .replied reply ∧ reply.status.isSome = true ∧
      ∀ attempt response, .return attempt (.ok response) ∈ trace → attempt.request = 0 →
        response = (rejecting 0 1 attempt.number).relayed digitReaders := by
  let first : HttpReply := (rejecting 0 1 1).relayed digitReaders
  let second : HttpReply := (rejecting 0 1 2).relayed digitReaders
  have begun : Dispatcher.Run .single .start [] _ := .refl _
  have accepted := begun.tail (.accept _ 0
    { request := some task, remaining := some (5000 * millisecond) } task (5000 * millisecond)
    rfl rfl)
  have sent := (((((accepted.tail (.enqueue _ 0 1 _ rfl nofun (by decide) rfl)).tail
    (.take _ _ [] rfl rfl)).tail (.policy _ frugal _ rfl)).tail (.acquire _ _ _ rfl rfl)).tail
    (.check _ _ rfl fun closed => closed rfl)).tail (.begin _ _ _ rfl rfl)
  have rejected := ((((sent.tail (.return _ [] [] _ (.ok first) rfl)).tail
    (.mark _ [] [] _ _ rfl)).tail (.release _ [] [] _ _ rfl)).tail
    (.reply _ [] [] _ _ rfl)).tail (.receive _ 0 1 _ rfl rfl)
  have decided : Dispatcher.verdict 1 first = .pause 1 := by
    have asked : pauseSeconds (padded 0).retryAfter = 1 := pauseSeconds_padded 0
    have told : Dispatcher.retrySeconds first.retryAfter = .ok 1 := by
      have header : first.retryAfter = headerText (padded 0).retryAfter := rfl
      rw [header, Dispatcher.retrySeconds_headerText _ (by rw [asked]; decide), asked, ite_self]
    have failure : first.isSuccess = false := rfl
    have goes : (1 = 5 || !Dispatcher.safeToRetry first) = false := rfl
    unfold Dispatcher.verdict
    simp only [failure, goes, told, Bool.false_eq_true, ↓reduceIte]
  have resumed : ∀ dispatcher : Dispatcher, dispatcher.resume 0 1 (.ok first) =
      { dispatcher with
        connections := Function.update dispatcher.connections 0
          (.pausing 1 (dispatcher.clock + 1 * 1000 * millisecond)) } := by
    intro dispatcher
    simp only [Dispatcher.resume, decided]
  rw [resumed] at rejected
  have woken := (rejected.tail (.tick _ (1000 * millisecond) (by decide))).tail
    (.wake _ 0 1 _ rfl (by decide))
  have resent := ((((woken.tail (.enqueue _ 0 2 _ rfl nofun (by decide) rfl)).tail
    (.take _ _ [] rfl rfl)).tail (.acquire _ _ _ rfl rfl)).tail
    (.check _ _ rfl fun closed => closed rfl)).tail (.begin _ _ _ rfl rfl)
  have replied := ((((resent.tail (.return _ [] [] _ (.ok second) rfl)).tail
    (.mark _ [] [] _ _ rfl)).tail (.release _ [] [] _ _ rfl)).tail
    (.reply _ [] [] _ _ rfl)).tail (.receive _ 0 2 _ rfl rfl)
  refine ⟨_, _, _, replied, rfl, rfl, ?_⟩
  intro attempt response member _
  simp only [List.mem_append, List.mem_singleton, reduceCtorEq, or_false, false_or,
    List.not_mem_nil, Dispatcher.Event.return.injEq] at member
  rcases member with ⟨rfl, ⟨rfl⟩⟩ | ⟨rfl, ⟨rfl⟩⟩ <;> rfl

/-- Calls agree on an attempt which is repeated and one which succeeds. -/
theorem direct_dispatched_sample :
    direct digit (rejecting 0 1) (fun _ => 2 * second) 5 1 = some (.returned (.unsigned 1)) ∧
      dispatched digit roomyCall (rejecting 0 1) 5 1 .default =
        some (.returned (.unsigned 1)) ∧
      ∃ (trace : List Dispatcher.Event) (dispatcher : Dispatcher) (reply : Dispatcher.Reply),
        Dispatcher.Run .single .start trace dispatcher ∧
          dispatcher.connections 0 = .replied reply ∧
            replied digit roomyCall reply = some (.returned (.unsigned 1)) := by
  have patient : Patient digit (rejecting 0 1) fun _ => 2 * second :=
    fun _ _ _ either => pause_rejecting either
  have alike : ∀ number, Alike digit number (rejecting 0 1 number) := by
    intro number
    refine ⟨received_rejecting number, decodes_rejecting number, ?_, ?_, fun _ => ?_, ?_⟩
    · unfold rejecting
      split
      · exact nofun
      · exact fun _ => rfl
    · intro failure
      rcases bothRetry_rejecting number with ⟨both, -⟩ | success
      · exact iff_of_true (denies_of_retryable both.1) (denies_of_retryable both.2)
      · exact Bool.noConfusion (failure.symm.trans success)
    · rcases bothRetry_rejecting number with ⟨both, -⟩ | success
      · exact iff_of_true both.1 both.2
      · exact iff_of_false (HttpReply.not_retryable_of_success success)
          (HttpReply.not_retryable_of_success success)
    · intro _ python
      rcases bothRetry_rejecting number with ⟨-, short, -⟩ | success
      · exact short
      · exact absurd python (HttpReply.not_retryable_of_success success)
  have agreed : Agreed digit roomyCall (rejecting 0 1) (fun _ => 2 * second) 5 1 .default :=
    (direct_dispatched patient).1.mpr fun number _ _ _ => alike number
  have both : BothRetry digitReaders (rejecting 0 1 1) := bothRetry_padded digitReaders 0
  have room := (patient 1 le_rfl (by decide) (.inl both.1)).2
  have repeats : direct digit (rejecting 0 1) (fun _ => 2 * second) 5 1 =
      direct digit (rejecting 0 1) (fun _ => 2 * second) 4 2 :=
    (direct_retryable (received_rejecting 1) (decodes_rejecting 1) both.1 (by decide) room).1
      ((short_padded_iff 0).mpr (by decide))
  have succeeds : direct digit (rejecting 0 1) (fun _ => 2 * second) 5 1 =
      some (.returned (.unsigned 1)) :=
    repeats.trans (direct_success (received_rejecting 2) (decodes_rejecting 2) rfl)
  obtain ⟨ending, ending', ended, ended', agrees⟩ := agreed
  rw [succeeds] at ended
  cases ended
  cases ending' with
  | returned value =>
      obtain rfl : _ = value := agrees
      obtain ⟨trace, dispatcher, reply, run, answered, status, told⟩ := rejecting_run
      exact ⟨succeeds, ended', trace, dispatcher, reply, run, answered,
        ((direct_dispatched patient).2 _ _ _ _ _ run told answered status).symm.trans ended'⟩
  | _ => exact agrees.elim

/-- The gateway succeeds with a body. -/
def success (body : List UInt8) : Nat → RawReply := fun _ =>
  { status := 200, retryAfter := none, others := [], body }

/-- A success whose body is no JSON is an error to a direct call and the value null to a dispatched
one. -/
theorem direct_dispatched_null :
    direct digit (success [111, 107]) (fun _ => second) 5 1 =
        some (.operationError "invalid_response" "unknown" none (some 1)) ∧
      dispatched digit roomyCall (success [111, 107]) 5 1 .default = some (.returned .null) :=
  ⟨rfl, rfl⟩

end Sdk

end AiProtocol
