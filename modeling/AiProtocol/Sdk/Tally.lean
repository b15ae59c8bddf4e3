import Mathlib.Data.Set.Card
import Mathlib.Order.Interval.Finset.Nat
import AiProtocol.Sdk.Certainty

/-!
# The attempts which errors report

A call without a dispatcher numbers the HTTP POSTs it starts and keeps count of them.  `_acquire`
does not know the count: of all errors only those it raises for a retry report another one.
-/

namespace AiProtocol

namespace Sdk

/-- The HTTP POSTs which a call has started. -/
noncomputable def System.posts (system : System) (id : Nat) : Nat :=
  {number | (system.exchanges (id, number)).sent = true}.ncard

/-- The attempts which an error reports. -/
def Ending.Counts (attempts : Nat) : Ending → Prop
  | .operationError _ _ _ counted => counted = some attempts
  | .deadlineExceeded _ counted => counted = attempts
  | _ => True

/-- Every error reports the HTTP POSTs which its call has started. -/
def System.Counts (system : System) : Prop :=
  ∀ id (call : Call) (ending : Ending), system.calls[id]? = some call →
    call.point = .done ending → ending.Counts (system.posts id)

/-- A woken call tests the gate. -/
def Call.tests (call : Call) (client : Client) : Input → Bool
  | .woken =>
      !client.locked &&
        match call.point with
        | .lockEnter | .waiting true | .lockWake none | .sleeping => true
        | _ => false
  | _ => false

/-- A call which tests the gate finds it open, and its operation once it is admitted. -/
def Client.Serves (settings : Settings) (client : Client) (operation : String) : Prop :=
  client.closed = false ∧
    (client.admits settings = true → (client.descriptor operation).isSome = true)

/-- The event does not make a retry test a gate which does not serve its operation any more. -/
def System.Retains (settings : Settings) (system : System) : Event → Prop
  | .resume id _ input _ =>
      ∀ call, system.calls[id]? = some call → call.tests system.client input = true →
        1 ≤ call.attempts → system.client.Serves settings call.operation
  | _ => True

/-! ## Counting -/

/-- What an outcome of an attempt reports. -/
def Call.Reports (call : Call) : Outcome → Prop
  | .response _ => call.attempts = call.number
  | .ended ending => ending.Counts call.attempts

/-- The count of a call where it is; without a dispatcher it never connects. -/
def Call.Tallied (call : Call) : Prop :=
  match call.point with
  | .lockEnter | .waiting _ | .lockWake _ => call.attempts + 1 = call.number
  | .sending | .sleeping => call.attempts = call.number
  | .connecting | .exchanging | .hangingUp _ => False
  | .lockLeave outcome => call.Reports outcome
  | .done ending => ending.Counts call.attempts

/-- The count of a call and its attempts. -/
structure Call.Tally (attempts : Attempts) (call : Call) : Prop where
  /-- The attempts it counts were sent, and no other. -/
  sent : ∀ number, (attempts number).sent = true ↔ 1 ≤ number ∧ number ≤ call.attempts
  /-- Its count. -/
  tallied : call.Tallied

/-- A call which went on counts. -/
def Segment.Tally (attempts : Attempts) (segment : Segment) : Prop :=
  segment.call.Tally (attempts.afterSend segment.call)

section Segments

variable {settings : Settings} {attempts : Attempts} {client : Client} {call : Call}

theorem Segment.Tally.of_unsent {segment : Segment}
    (sent : ∀ number, (attempts number).sent = true ↔ 1 ≤ number ∧ number ≤ call.attempts)
    (unsent : segment.call.isSent = false) (same : segment.call.attempts = call.attempts)
    (tallied : segment.call.Tallied) : segment.Tally attempts := by
  refine ⟨?_, tallied⟩
  rw [Attempts.afterSend_of_unsent unsent, same]
  exact sent

theorem interruption_counts (interrupt : Interrupt) :
    (call.interruption interrupt).Counts call.attempts := by
  cases interrupt with
  | cancel => trivial
  | timeout => rfl

private theorem turn_counts {number left : Nat} {response : HttpReply} {ending : Ending}
    (ends : turn number left response = .ends ending) : ending.Counts number := by
  unfold turn at ends
  split at ends
  · split at ends
    · cases ends
      trivial
    · cases ends
      rfl
  · split at ends
    · cases ends
      rfl
    · split at ends
      · cases ends
        trivial
      · split at ends
        · cases ends
          rfl
        · cases ends

theorem conclude_tallied {outcome : Outcome} (left : Nat) (reports : call.Reports outcome) :
    (call.conclude left outcome).Tallied ∧
      (call.conclude left outcome).attempts = call.attempts := by
  cases outcome with
  | ended ending => exact ⟨reports, rfl⟩
  | response response =>
      have marked : (if response.isSuccess then call
          else { call with mayHaveExecuted := !known response }).attempts = call.attempts := by
        split <;> rfl
      have numbered : (if response.isSuccess then call
          else { call with mayHaveExecuted := !known response }).number = call.number := by
        split <;> rfl
      cases turned : turn call.number left response with
      | ends ending =>
          simp only [Call.conclude, turned]
          refine ⟨?_, marked⟩
          have counts := turn_counts turned
          rw [← reports, ← marked] at counts
          exact counts
      | sleeps seconds =>
          simp only [Call.conclude, turned]
          refine ⟨?_, marked⟩
          exact marked.trans (Eq.trans reports numbered.symm)

variable (sent : ∀ number, (attempts number).sent = true ↔ 1 ≤ number ∧ number ≤ call.attempts)
include sent

theorem leave_tally (left : Nat) {outcome : Outcome} (reports : call.Reports outcome) :
    (leave settings client call left outcome).Tally attempts := by
  obtain ⟨tallied, same⟩ := conclude_tallied left reports
  have unsent : (call.conclude left outcome).isSent = false :=
    (Call.conclude_away left outcome).isSent
  unfold leave
  split
  · exact .of_unsent sent unsent same tallied
  · split
    · exact .of_unsent sent rfl rfl reports
    · exact .of_unsent sent unsent same tallied

private theorem attempt_tally (direct : settings.dispatcher = false)
    (next : call.attempts + 1 = call.number) (surroundings : Surroundings) (descriptor : Json) :
    (attempt settings client call surroundings descriptor).Tally attempts := by
  unfold attempt
  cases settings.validates descriptor call.params with
  | error error => exact leave_tally sent _ trivial
  | ok valid =>
      cases valid with
      | false => exact leave_tally sent _ rfl
      | true =>
          simp only [direct, Bool.false_eq_true, ↓reduceIte]
          constructor
          · intro number
            by_cases last : number = call.number
            · simp [Attempts.afterSend, Call.isSent, last]
              omega
            · simp only [Attempts.afterSend, Call.isSent, ↓reduceIte, Function.update_of_ne last]
              rw [sent]
              omega
          · rfl

/-- A call which tests a gate that serves it keeps its count. -/
theorem check_tally (direct : settings.dispatcher = false)
    (next : call.attempts + 1 = call.number)
    (serves : 1 ≤ call.attempts → client.Serves settings call.operation)
    (surroundings : Surroundings) :
    (check settings client.acquire call surroundings).Tally attempts := by
  have first : ∀ code : String, ¬client.Serves settings call.operation →
      (Ending.operationError code "not_started" none (some 0)).Counts call.attempts := by
    intro code refused
    rcases Nat.eq_zero_or_pos call.attempts with none | retried
    · rw [none]
      rfl
    · exact absurd (serves retried) refused
  unfold check
  split
  · rename_i closed
    refine .of_unsent sent rfl rfl (first "client_closed" fun open_gate => ?_)
    simp [Client.acquire, open_gate.1] at closed
  · split
    · rename_i admitted
      split
      · rename_i missing
        refine .of_unsent sent rfl rfl (first "operation_not_permitted" fun open_gate => ?_)
        have found := open_gate.2 admitted
        rw [show client.descriptor call.operation = none from missing] at found
        cases found
      · dsimp only
        split
        · exact .of_unsent sent rfl rfl trivial
        · exact attempt_tally sent direct next surroundings _
    · exact .of_unsent sent rfl rfl next

omit sent in
theorem check_lost (refused : ¬client.Serves settings call.operation)
    (surroundings : Surroundings) :
    ∃ code, (check settings client.acquire call surroundings).call.point =
      .done (.operationError code "not_started" none (some 0)) := by
  unfold check
  split
  · exact ⟨_, rfl⟩
  · rename_i isOpen
    split
    · rename_i admitted
      split
      · exact ⟨_, rfl⟩
      · rename_i descriptor found
        refine absurd ⟨by simpa [Client.acquire] using isOpen, fun _ => ?_⟩ refused
        rw [show client.descriptor call.operation = some descriptor from found]
        rfl
    · rename_i waits
      refine absurd ⟨by simpa [Client.acquire] using isOpen, fun admitted => ?_⟩ refused
      exact absurd admitted waits

theorem enter_tally (direct : settings.dispatcher = false)
    (next : call.attempts + 1 = call.number)
    (serves : client.locked = false → 1 ≤ call.attempts →
      client.Serves settings call.operation)
    (surroundings : Surroundings) :
    (enter settings client call surroundings).Tally attempts := by
  unfold enter
  split
  · exact .of_unsent sent rfl rfl next
  · rename_i free
    exact check_tally sent direct next (serves (by simpa using free)) surroundings

theorem wake_tally (direct : settings.dispatcher = false)
    (next : call.attempts + 1 = call.number) {interrupt : Option Interrupt}
    (serves : interrupt = none → client.locked = false → 1 ≤ call.attempts →
      client.Serves settings call.operation)
    (surroundings : Surroundings) :
    (wake settings client call surroundings interrupt).Tally attempts := by
  unfold wake
  split
  · exact .of_unsent sent rfl rfl next
  · rename_i free
    cases interrupt with
    | none => exact check_tally sent direct next (serves rfl (by simpa using free)) surroundings
    | some interrupt => exact .of_unsent sent rfl rfl (interruption_counts interrupt)

omit sent

/-- A call which goes on keeps its count, unless it tests a gate that does not serve it. -/
theorem resume_tally (direct : settings.dispatcher = false) (tally : call.Tally attempts)
    {surroundings : Surroundings} {answer : Option Answer} {input : Input} {segment : Segment}
    (serves : call.tests client input = true → 1 ≤ call.attempts →
      client.Serves settings call.operation)
    (resuming : resume settings client call surroundings answer input = some segment) :
    segment.Tally attempts := by
  obtain ⟨sent, tallied⟩ := tally
  cases resumes_of_resume resuming with
  | enters point =>
      simp only [Call.Tallied, point] at tallied
      exact enter_tally sent direct tallied
        (fun free => serves (by simp [Call.tests, free, point])) surroundings
  | notified point =>
      simp only [Call.Tallied, point] at tallied
      exact wake_tally sent direct tallied
        (fun _ free => serves (by simp [Call.tests, free, point])) surroundings
  | stirred notified interrupt point =>
      simp only [Call.Tallied, point] at tallied
      exact wake_tally sent direct tallied (by simp) surroundings
  | wakes interrupt point =>
      simp only [Call.Tallied, point] at tallied
      refine wake_tally sent direct tallied (fun none free => ?_) surroundings
      subst none
      exact serves (by simp [Call.tests, free, point])
  | delayed earlier interrupt point =>
      simp only [Call.Tallied, point] at tallied
      exact .of_unsent sent rfl rfl tallied
  | responds response point answered =>
      simp only [Call.Tallied, point] at tallied
      exact leave_tally sent _ tallied
  | fails point => exact leave_tally sent _ rfl
  | raises error point => exact leave_tally sent _ trivial
  | interrupted interrupt point => exact leave_tally sent _ (interruption_counts interrupt)
  | blocked outcome point locked =>
      simp only [Call.Tallied, point] at tallied
      exact .of_unsent sent (by simp [Call.isSent, point]) rfl (by simpa [Call.Tallied, point])
  | settles outcome point free =>
      simp only [Call.Tallied, point] at tallied
      obtain ⟨concluded, same⟩ := conclude_tallied surroundings.left tallied
      exact .of_unsent sent (Call.conclude_away _ _).isSent same concluded
  | retries point =>
      simp only [Call.Tallied, point] at tallied
      have entered : ∀ next : Call, next.attempts = call.attempts →
          next.operation = call.operation → next.number = call.number + 1 →
            (enter settings client next surroundings).Tally attempts := by
        intro next same named following
        apply enter_tally (by rwa [same]) direct (by omega)
        intro free retried
        rw [named]
        exact serves (by simp [Call.tests, free, point]) (same ▸ retried)
      exact entered _ rfl rfl rfl
  | abandons interrupt point => exact .of_unsent sent rfl rfl (interruption_counts interrupt)
  | connects point | unreachable point | replies reply point | loses point
    | fallsOver error point | cutOff interrupt point | hungUp result point =>
      simp [Call.Tallied, point] at tallied

/-- A call which tests a gate that does not serve it reports no attempt. -/
theorem resume_lost {surroundings : Surroundings} {answer : Option Answer} {input : Input}
    {segment : Segment} (tests : call.tests client input = true)
    (refused : ¬client.Serves settings call.operation)
    (resuming : resume settings client call surroundings answer input = some segment) :
    ∃ code, segment.call.point = .done (.operationError code "not_started" none (some 0)) := by
  have free : client.locked = false := by
    by_contra locked
    cases input <;> simp [Call.tests, locked] at tests
  have entered : ∀ {other : Call}, ¬client.Serves settings other.operation →
      ∃ code, (enter settings client other surroundings).call.point =
        .done (.operationError code "not_started" none (some 0)) := by
    intro other refused
    unfold enter
    rw [free]
    exact check_lost refused surroundings
  have woken : ∃ code, (wake settings client call surroundings none).call.point =
      .done (.operationError code "not_started" none (some 0)) := by
    unfold wake
    rw [free]
    exact check_lost refused surroundings
  cases resumes_of_resume resuming with
  | enters point => exact entered refused
  | notified point => exact woken
  | wakes interrupt point =>
      cases interrupt with
      | none => exact woken
      | some interrupt => simp [Call.tests, point] at tests
  | retries point => exact entered refused
  | stirred | delayed | responds | fails | unreachable | replies | loses | fallsOver | cutOff
    | raises | interrupted | abandons =>
      simp [Call.tests] at tests
  | connects point | hungUp result point | blocked outcome point | settles outcome point =>
      simp [Call.tests, point] at tests

end Segments

/-! ## Runs -/

section Runs

variable {settings : Settings} {before after : System} {event : Event}

private theorem lasting_tally : Lasting Call.Tally where
  notified {attempts call} notify tally := by
    rcases call.notified_eq notify with same | ⟨-, waiting, changed⟩
    · rwa [same]
    · rw [changed]
      obtain ⟨sent, tallied⟩ := tally
      simp only [Call.Tallied, waiting] at tallied
      exact ⟨sent, tallied⟩
  onward onward tally := by
    refine ⟨fun number => ?_, tally.tallied⟩
    rw [(onward number).1]
    exact tally.sent number

theorem System.Every.tally_step (direct : settings.dispatcher = false)
    (every : before.Every Call.Tally) (step : Step settings before event after)
    (retains : before.Retains settings event) : after.Every Call.Tally := by
  have fresh : ∀ {attempts : Attempts}, (∀ number, (attempts number).sent = false) →
      ∀ number, (attempts number).sent = true ↔ 1 ≤ number ∧ number ≤ 0 := by
    intro attempts unsent number
    rw [unsent]
    simp
    omega
  apply every.step lasting_tally step
  · intro attempts operation params frames surroundings unsent
    exact enter_tally (fresh unsent) direct rfl (fun _ retried =>
      absurd retried (Nat.not_succ_le_zero 0)) surroundings
  · intro attempts operation params frames ending unsent refusal
    refine ⟨fresh unsent, ?_⟩
    cases refusal with
    | invalid => trivial
    | late => rfl
  · intro front back call surroundings input segment here same resuming tally
    subst same
    refine resume_tally direct tally (fun tests retried => ?_) resuming
    exact retains call (by simp [here]) tests retried

theorem posts_eq {system : System} {id : Nat} {call : Call}
    (tally : call.Tally (system.attempts id)) : system.posts id = call.attempts := by
  have same : {number | (system.exchanges (id, number)).sent = true} =
      ↑(Finset.Icc 1 call.attempts) := by
    ext number
    rw [Finset.coe_Icc, Set.mem_Icc]
    exact tally.sent number
  rw [System.posts, same, Set.ncard_coe_finset, Nat.card_Icc, Nat.add_sub_cancel]

theorem posts_resumed {front back : List Call} {segment : Segment} {id : Nat}
    (unsent : segment.call.isSent = false) :
    (before.resumed front back segment).posts id = before.posts id := by
  have same : (before.resumed front back segment).exchanges = before.exchanges := by
    simp [System.resumed, unsent]
  rw [System.posts, same]
  rfl

theorem System.Counts.of_every {system : System} (every : system.Every Call.Tally) :
    system.Counts := by
  intro id call ending found done
  have tally := every.calls id call found
  rw [posts_eq tally]
  have tallied := tally.tallied
  simpa only [Call.Tallied, done] using tallied

/-- A retry which tests a gate that does not serve it loses its count. -/
theorem System.Every.lost (every : before.Every Call.Tally)
    (step : Step settings before event after) (lost : ¬before.Retains settings event) :
    ¬after.Counts := by
  intro counts
  cases step with
  | resume front back call surroundings input segment here resuming =>
      apply lost
      intro other found tests retried
      obtain rfl : call = other := by simpa [here] using found
      by_contra refused
      obtain ⟨code, ends⟩ := resume_lost tests refused resuming
      have tally := every.calls front.length call (by simp [here])
      have same : (before.resumed front back segment).posts front.length = call.attempts := by
        rw [← posts_eq tally]
        exact posts_resumed (by simp [Call.isSent, ends])
      have listed : (before.resumed front back segment).calls[front.length]? =
          some (segment.call.notified segment.notify) := by
        simp [System.resumed]
      have unmoved : segment.call.notified segment.notify = segment.call := by
        simp [Call.notified, ends]
      rw [unmoved] at listed
      have counted := counts front.length segment.call _ listed ends
      rw [same] at counted
      have none : 0 = call.attempts := Option.some.inj counted
      omega
  | _ => exact lost trivial

/-- Runs in which no retry tests a gate that does not serve its operation any more. -/
abbrev RetainingRun (settings : Settings) :=
  Labelled.Execution fun before event after =>
    Step settings before event after ∧ System.Retains settings before event

private theorem tally_run (direct : settings.dispatcher = false) {trace : List Event}
    {system : System}
    (run : RetainingRun settings .start trace system) : system.Every Call.Tally := by
  apply run.invariant (System.Every Call.Tally)
  · rintro before after event every ⟨step, retains⟩
    exact every.tally_step direct step retains
  · exact ⟨nofun, fun _ _ _ => rfl⟩

/-- Errors count, as long as no retry finds the client closed or its operation gone.  Whatever the
responses, the policies, the pauses and the interruptions, an error reports the HTTP POSTs its call
has started.  The first retry which tests a gate that does not serve it breaks this. -/
theorem attempts_reported (direct : settings.dispatcher = false) {trace : List Event}
    {system : System} (run : RetainingRun settings .start trace system) :
    system.Counts ∧ ∀ event later, Step settings system event later →
      (later.Counts ↔ system.Retains settings event) := by
  have every := tally_run direct run
  refine ⟨.of_every every, fun event later step => ⟨fun counts => ?_, fun retains => ?_⟩⟩
  · by_contra lost
    exact every.lost step lost counts
  · exact .of_every (every.tally_step direct step retains)

end Runs

def forbidden : HttpReply where
  status := 403
  retryAfter := none
  body := none

theorem attempts_reported_sample : ∃ trace system call,
    RetainingRun lenient .start trace system ∧ system.calls[0]? = some call ∧
      call.point = .done (.operationError "http_error" "not_started" (some 403) (some 1)) ∧
        system.posts 0 = 1 := by
  obtain ⟨_, _, asked, stored⟩ := informed_steps
  have earlier : RetainingRun lenient .start _ informed :=
    .tail (.single ⟨asked, trivial⟩) ⟨stored, trivial⟩
  have sends : Step lenient informed (.begin roomyCall leisure (some search)) _ :=
    .begin informed "search" .null 60 leisure _ (.inl rfl) rfl
  have answers := earlier.tail ⟨sends, trivial⟩ |>.tail
    ⟨.remote _ (0, 1) (.answer (.response forbidden)) _ (by simp)
      (.answer _ _ rfl rfl fun _ => rfl), trivial⟩
  have ends := answers.tail
    ⟨.resume _ [] [] { roomyCall with attempts := 1, mayHaveExecuted := true, point := .sending }
      leisure .answered _ rfl rfl, fun _ _ tests => absurd tests Bool.false_ne_true⟩
  have counts := (attempts_reported rfl ends).1 0 _ _ rfl rfl
  exact ⟨_, _, _, ends, rfl, rfl, (Option.some.inj counts).symm⟩

/-- A retry which finds the client closed reports no attempt. -/
theorem attempts_reported_lost : ∃ trace system call, Run lenient .start trace system ∧
    system.calls[0]? = some call ∧
      call.point = .done (.operationError "client_closed" "not_started" none (some 0)) ∧
        system.posts 0 = 1 := by
  obtain ⟨_, _, asked, stored⟩ := informed_steps
  have earlier : RetainingRun lenient .start _ informed :=
    .tail (.single ⟨asked, trivial⟩) ⟨stored, trivial⟩
  have sends : Step lenient informed (.begin roomyCall leisure (some search)) _ :=
    .begin informed "search" .null 60 leisure _ (.inl rfl) rfl
  have answers := earlier.tail ⟨sends, trivial⟩ |>.tail
    ⟨.remote _ (0, 1) (.answer (.response throttled)) _ (by simp)
      (.answer _ _ rfl rfl fun _ => rfl), trivial⟩
  have sleeps := answers.tail
    ⟨.resume _ [] [] { roomyCall with attempts := 1, mayHaveExecuted := true, point := .sending }
      leisure .answered _ rfl rfl, fun _ _ tests => absurd tests Bool.false_ne_true⟩
  have counted := posts_eq ((tally_run rfl sleeps).calls 0 _ rfl)
  have lost := ((sleeps.mono And.left).tail (.close _)).tail (.resume _ [] []
    { roomyCall with attempts := 1, mayHaveExecuted := false, point := .sleeping } leisure .woken _
    rfl rfl)
  exact ⟨_, _, _, lost, rfl, rfl, (posts_resumed rfl).trans counted⟩

end Sdk

end AiProtocol
