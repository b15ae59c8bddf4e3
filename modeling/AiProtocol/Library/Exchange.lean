import Mathlib.Logic.Function.Basic
import AiProtocol.Library.Execution

/-!
# Remote calls with certainty

One call of a remote service over a transport which delivers it at most once.  The service executes
a delivered call at most once, and some of its answers deny the execution: a call with such an
answer was not executed and never will be.  A client with many calls can conclude what it knows
about the executions from the answers it has seen.
-/

/-- What happened to one call. -/
@[ext] structure Exchange (Response : Type*) where
  /-- The client sent it. -/
  sent : Bool
  /-- The service executed it. -/
  executed : Bool
  /-- The answer of the service. -/
  answer : Option Response

namespace Exchange

/-- An event of one call. -/
inductive Event (Response : Type*) where
  | send
  | execute
  | answer (response : Response)

/-- A call which was not sent. -/
def fresh {Response : Type*} : Exchange Response where
  sent := false
  executed := false
  answer := none

variable {Response : Type*} (denies : Response → Prop)

/-- The call has an answer which denies its execution. -/
def Denied (exchange : Exchange Response) : Prop :=
  ∃ response, exchange.answer = some response ∧ denies response

/-- One step of a call. -/
inductive Step : Exchange Response → Event Response → Exchange Response → Prop
  | send (exchange : Exchange Response) (unsent : exchange.sent = false) :
      Step exchange .send { exchange with sent := true }
  | execute (exchange : Exchange Response) (sent : exchange.sent = true)
      (first : exchange.executed = false) (undenied : ¬exchange.Denied denies) :
      Step exchange .execute { exchange with executed := true }
  | answer (exchange : Exchange Response) (response : Response) (sent : exchange.sent = true)
      (first : exchange.answer = none) (honest : denies response → exchange.executed = false) :
      Step exchange (.answer response) { exchange with answer := some response }

/-- The life of a call. -/
abbrev Run := Labelled.Execution (Step denies)

/-- What the service guarantees of a call. -/
structure Sound (exchange : Exchange Response) : Prop where
  /-- Only sent calls are executed. -/
  sent : exchange.executed = true → exchange.sent = true
  /-- Only sent calls are answered. -/
  answered : ∀ response, exchange.answer = some response → exchange.sent = true
  /-- Denials are true. -/
  honest : exchange.Denied denies → exchange.executed = false

variable {denies} {before after : Exchange Response} {event : Event Response}

theorem sound_fresh : Sound denies (fresh : Exchange Response) :=
  ⟨nofun, nofun, fun _ => rfl⟩

theorem Sound.send (sound : Sound denies before) : Sound denies { before with sent := true } :=
  ⟨fun _ => rfl, fun _ _ => rfl, sound.honest⟩

theorem Sound.step (sound : Sound denies before) (step : Step denies before event after) :
    Sound denies after := by
  cases step with
  | send unsent => exact sound.send
  | execute sent first undenied => exact ⟨fun _ => sent, sound.answered, fun denied =>
      absurd denied undenied⟩
  | answer response sent first honest =>
      refine ⟨sound.sent, fun _ _ => sent, ?_⟩
      rintro ⟨told, ⟨⟩, denied⟩
      exact honest denied

/-- A denial is final. -/
theorem Denied.step (denied : before.Denied denies) (step : Step denies before event after) :
    after.Denied denies := by
  cases step with
  | answer response sent first =>
      obtain ⟨told, answered, -⟩ := denied
      rw [first] at answered
      cases answered
  | _ => exact denied

theorem sound_run {trace : List (Event Response)} (run : Run denies fresh trace after) :
    Sound denies after :=
  run.invariant (Sound denies) Sound.step sound_fresh

namespace Event

/-- The client sends the call. -/
def isSend : Event Response → Bool
  | .send => true
  | _ => false

/-- The service executes the call. -/
def isExecute : Event Response → Bool
  | .execute => true
  | _ => false

/-- The service answers the call. -/
def isAnswer : Event Response → Bool
  | .answer _ => true
  | _ => false

end Event

/-- A call is sent, executed and answered at most once each. -/
theorem counts_run {trace : List (Event Response)} (run : Run denies fresh trace after) :
    trace.countP Event.isSend = after.sent.toNat ∧
      trace.countP Event.isExecute = after.executed.toNat ∧
        trace.countP Event.isAnswer = after.answer.isSome.toNat := by
  refine run.invariantTrace (fun trace (after : Exchange Response) =>
    trace.countP Event.isSend = after.sent.toNat ∧
      trace.countP Event.isExecute = after.executed.toNat ∧
        trace.countP Event.isAnswer = after.answer.isSome.toNat) ⟨rfl, rfl, rfl⟩ ?_
  rintro trace before after event - ⟨sends, executes, answers⟩ step
  simp only [List.countP_append, List.countP_singleton, sends, executes, answers]
  cases step with
  | send unsent => simp [Event.isSend, Event.isExecute, Event.isAnswer, unsent]
  | execute sent first => simp [Event.isSend, Event.isExecute, Event.isAnswer, first]
  | answer response sent first => simp [Event.isSend, Event.isExecute, Event.isAnswer, first]

/-! ## Many calls -/

section Family

variable {Call : Type*}

/-- At most one of the sent calls lacks a denial. -/
def Single (denies : Response → Prop) (exchanges : Call → Exchange Response) : Prop :=
  ∀ left right, (exchanges left).sent = true → (exchanges right).sent = true → left ≠ right →
    (exchanges left).Denied denies ∨ (exchanges right).Denied denies

theorem Single.of_others {exchanges : Call → Exchange Response} (call : Call)
    (others : ∀ other, (exchanges other).sent = true → other ≠ call →
      (exchanges other).Denied denies) : Single denies exchanges := by
  intro left right left_sent right_sent different
  by_cases same : left = call
  · exact .inr (others right right_sent fun equal => different (same.trans equal.symm))
  · exact .inl (others left left_sent same)

/-- At most one call was executed when all sent calls but one are denied. -/
theorem Single.executed {exchanges : Call → Exchange Response} (single : Single denies exchanges)
    (sound : ∀ call, Sound denies (exchanges call)) {left right : Call}
    (first : (exchanges left).executed = true) (second : (exchanges right).executed = true) :
    left = right := by
  by_contra different
  rcases single left right ((sound left).sent first) ((sound right).sent second) different with
    denied | denied
  · rw [(sound left).honest denied] at first
    cases first
  · rw [(sound right).honest denied] at second
    cases second

variable [DecidableEq Call]

/-- One step of one of many calls. -/
inductive Calls (denies : Response → Prop) :
    (Call → Exchange Response) → Call → Event Response → (Call → Exchange Response) → Prop
  | step (exchanges : Call → Exchange Response) (call : Call) (event : Event Response)
      (after : Exchange Response) (step : Step denies (exchanges call) event after) :
      Calls denies exchanges call event (Function.update exchanges call after)

namespace Calls

variable {exchanges later : Call → Exchange Response} {call : Call}

theorem sound (calls : Calls denies exchanges call event later)
    (sound : ∀ other, Sound denies (exchanges other)) (other : Call) :
    Sound denies (later other) := by
  cases calls with
  | step after step =>
      by_cases same : other = call
      · subst same
        rw [Function.update_self]
        exact (sound other).step step
      · rw [Function.update_of_ne same]
        exact sound other

theorem denied (calls : Calls denies exchanges call event later) {other : Call}
    (denied : (exchanges other).Denied denies) : (later other).Denied denies := by
  cases calls with
  | step after step =>
      by_cases same : other = call
      · subst same
        rw [Function.update_self]
        exact denied.step step
      · rwa [Function.update_of_ne same]

/-- An answer is final. -/
theorem answered (calls : Calls denies exchanges call event later) {other : Call}
    {response : Response} (answered : (exchanges other).answer = some response) :
    (later other).answer = some response := by
  cases calls with
  | step after step =>
      by_cases same : other = call
      · subst same
        rw [Function.update_self]
        cases step with
        | answer told sent first =>
            rw [first] at answered
            cases answered
        | _ => exact answered
      · rwa [Function.update_of_ne same]

/-- A call is sent by its own event alone. -/
theorem sent (calls : Calls denies exchanges call event later) (other : Call) :
    (later other).sent = true ↔
      (exchanges other).sent = true ∨ other = call ∧ event = .send := by
  cases calls with
  | step after step =>
      by_cases same : other = call
      · subst same
        rw [Function.update_self]
        cases step <;> simp [*]
      · simp [same]

/-- A call is executed by its own event alone, and once. -/
theorem executed (calls : Calls denies exchanges call event later) (other : Call) :
    ((later other).executed = true ↔
      (exchanges other).executed = true ∨ other = call ∧ event = .execute) ∧
        (event = .execute → (exchanges call).executed = false) := by
  cases calls with
  | step after step =>
      by_cases same : other = call
      · subst same
        rw [Function.update_self]
        cases step <;> simp [*]
      · rw [Function.update_of_ne same]
        cases step <;> simp [*]

/-- Sending a call keeps the others denied. -/
theorem single (calls : Calls denies exchanges call event later) (single : Single denies exchanges)
    (alone : event = .send → ∀ other, (exchanges other).sent = true → other ≠ call →
      (exchanges other).Denied denies) : Single denies later := by
  intro left right left_sent right_sent different
  rw [calls.sent] at left_sent right_sent
  rcases left_sent with left_sent | ⟨rfl, sending⟩
  · rcases right_sent with right_sent | ⟨rfl, sending⟩
    · exact (single left right left_sent right_sent different).imp calls.denied calls.denied
    · exact .inl (calls.denied (alone sending left left_sent different))
  · rcases right_sent with right_sent | ⟨rfl, -⟩
    · exact .inr (calls.denied (alone sending right right_sent different.symm))
    · exact absurd rfl different

end Calls

end Family

end Exchange
