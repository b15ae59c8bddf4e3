import AiProtocol.Sdk.Slots

/-!
# Certainty of calls

What a call knows about its attempts.  Every attempt before the last was denied with a response that
may be repeated, and a call which claims that nothing started has a denial for each attempt it made.
-/

namespace AiProtocol

namespace Sdk

/-- The attempts of one call. -/
abbrev Attempts := Nat → Exchange Answer

namespace Attempts

/-- Every attempt was denied. -/
def Clear (attempts : Attempts) : Prop :=
  ∀ number, (attempts number).sent = true → (attempts number).Denied Answer.Denies

/-- An attempt was answered by a response. -/
def Answered (attempts : Attempts) (number : Nat) (response : HttpReply) : Prop :=
  (attempts number).answer = some (.response response)

/-- An attempt was answered by a response after which it may be repeated. -/
def Repeatable (attempts : Attempts) (number : Nat) : Prop :=
  ∃ response, attempts.Answered number response ∧ response.Retryable

/-- A call is sent. -/
def afterSend (attempts : Attempts) (call : Call) : Attempts :=
  if call.isSent then
    Function.update attempts call.number { attempts call.number with sent := true }
  else
    attempts

end Attempts

/-- The ending claims that nothing started. -/
def Ending.NotStarted : Ending → Prop
  | .operationError _ execution _ _ | .deadlineExceeded execution _ => execution = "not_started"
  | _ => False

namespace Call

/-- What a call knows wherever it is. -/
structure Basis (settings : Settings) (attempts : Attempts) (call : Call) : Prop where
  /-- Attempts are numbered. -/
  numbered : ∀ number, (attempts number).sent = true → 1 ≤ number ∧ number ≤ call.number
  /-- There is a first attempt. -/
  first : 1 ≤ call.number
  /-- There are at most five. -/
  last : call.number ≤ 5
  /-- There is one submission to the dispatcher. -/
  single : settings.dispatcher = true → call.number = 1
  /-- All attempts but the last may be repeated. -/
  earlier : ∀ number, 1 ≤ number → number < call.number → attempts.Repeatable number
  /-- A call which may not have executed has a denial for each attempt. -/
  flag : call.mayHaveExecuted = false → attempts.Clear

/-- What an outcome of the attempt tells. -/
def Settled (settings : Settings) (attempts : Attempts) (call : Call) : Outcome → Prop
  | .response response =>
      settings.dispatcher = false ∧ attempts.Answered call.number response
  | .ended ending => ending.NotStarted → attempts.Clear

/-- What a call knows where it is. -/
def Aware (settings : Settings) (attempts : Attempts) (call : Call) : Prop :=
  match call.point with
  | .lockEnter | .waiting _ | .lockWake _ =>
      call.mayHaveExecuted = false ∧ (attempts call.number).sent = false
  | .sending => settings.dispatcher = false
  | .connecting =>
      settings.dispatcher = true ∧ call.mayHaveExecuted = true ∧
        (attempts call.number).sent = false
  | .exchanging => settings.dispatcher = true
  | .hangingUp result =>
      settings.dispatcher = true ∧ call.Settled settings attempts (result.outcome call)
  | .lockLeave outcome => call.Settled settings attempts outcome
  | .sleeping =>
      settings.dispatcher = false ∧ call.mayHaveExecuted = false ∧ call.number < 5 ∧
        attempts.Repeatable call.number
  | .done ending => ending.NotStarted → attempts.Clear

/-- What a call knows. -/
structure Sound (settings : Settings) (attempts : Attempts) (call : Call) : Prop where
  /-- Wherever it is. -/
  basis : call.Basis settings attempts
  /-- Where it is. -/
  aware : call.Aware settings attempts

end Call

section Calls

variable {settings : Settings} {attempts : Attempts} {call : Call}

theorem denies_of_retryable {response : HttpReply} (retryable : response.Retryable) :
    response.Denies :=
  Dispatcher.notStarted_iff.mp
    (Dispatcher.notStarted_of_safeToRetry (Dispatcher.safeToRetry_iff.mpr retryable))

private theorem turn_certain (number left : Nat) (response : HttpReply) :
    (∃ ending, turn number left response = .ends ending ∧
      (ending.NotStarted → response.Denies)) ∨
    ∃ seconds, turn number left response = .sleeps seconds ∧ response.Retryable ∧ number ≠ 5 := by
  unfold turn
  split
  · cases response.body with
    | none => exact .inl ⟨_, rfl, by simp [Ending.NotStarted]⟩
    | some value => exact .inl ⟨_, rfl, nofun⟩
  · split
    · refine .inl ⟨_, rfl, fun claimed => known_iff.mp ?_⟩
      by_contra unknown
      simp [Ending.NotStarted, unknown] at claimed
    · rename_i repeats
      simp only [Bool.or_eq_true, Bool.not_eq_true', decide_eq_true_eq, not_or,
        Bool.not_eq_false] at repeats
      have retryable := safeToRetry_iff.mp repeats.1
      cases retrySeconds response.retryAfter with
      | error error => exact .inl ⟨_, rfl, nofun⟩
      | ok seconds =>
          dsimp only
          split
          · exact .inl ⟨_, rfl, fun _ => denies_of_retryable retryable⟩
          · exact .inr ⟨seconds, rfl, retryable, repeats.2⟩

theorem Attempts.Repeatable.denied {number : Nat} (repeatable : attempts.Repeatable number) :
    (attempts number).Denied Answer.Denies := by
  obtain ⟨response, answered, retryable⟩ := repeatable
  exact ⟨.response response, answered, denies_of_retryable retryable⟩

/-- All attempts are denied once the last is. -/
theorem Call.Basis.clear (basis : call.Basis settings attempts)
    (denied : (attempts call.number).sent = true → (attempts call.number).Denied Answer.Denies) :
    attempts.Clear := by
  intro number sent
  obtain ⟨first, last⟩ := basis.numbered number sent
  rcases Nat.lt_or_eq_of_le last with before | rfl
  · exact (basis.earlier number first before).denied
  · exact denied sent

theorem Call.Basis.suspend (basis : call.Basis settings attempts) (point : Point) :
    (call.suspend point).Basis settings attempts :=
  ⟨basis.numbered, basis.first, basis.last, basis.single, basis.earlier, basis.flag⟩

/-- The code after the `finally` block concludes what the attempts tell. -/
theorem Call.Basis.conclude (basis : call.Basis settings attempts) (left : Nat) {outcome : Outcome}
    (settled : call.Settled settings attempts outcome) :
    (call.conclude left outcome).Sound settings attempts := by
  cases outcome with
  | ended ending => exact ⟨basis.suspend _, settled⟩
  | response response =>
      obtain ⟨direct, answered⟩ := settled
      have clear : response.Denies → attempts.Clear := fun denies =>
        basis.clear fun _ => ⟨.response response, answered, denies⟩
      have marked : ∀ flag : Bool, (flag = false → attempts.Clear) →
          Call.Basis settings attempts { call with mayHaveExecuted := flag } :=
        fun flag certain =>
          ⟨basis.numbered, basis.first, basis.last, basis.single, basis.earlier, certain⟩
      have marks : Call.Basis settings attempts
          (if response.isSuccess then call
            else { call with mayHaveExecuted := !known response }) := by
        split
        · exact basis
        · exact marked _ fun isKnown => clear (known_iff.mp (by simpa using isKnown))
      rcases turn_certain call.number left response with
        ⟨ending, ends, certain⟩ | ⟨seconds, sleeps, retryable, more⟩
      · simp only [Call.conclude, ends]
        exact ⟨marks.suspend _, fun claimed => clear (certain claimed)⟩
      · simp only [Call.conclude, sleeps]
        have isKnown := known_iff.mpr (denies_of_retryable retryable)
        refine ⟨marks.suspend _, ?_⟩
        rw [if_neg (by simp [retryable.not_success])]
        have last := basis.last
        refine ⟨direct, by simp [Call.suspend, isKnown], ?_, response, answered, retryable⟩
        change call.number < 5
        omega

theorem Attempts.afterSend_of_unsent (unsent : call.isSent = false) :
    attempts.afterSend call = attempts := by
  simp [Attempts.afterSend, unsent]

/-- A call which is about to be sent. -/
theorem Call.Basis.send (basis : call.Basis settings attempts) {next : Call}
    (number : next.number = call.number) (sends : next.isSent = true)
    (doubtful : next.mayHaveExecuted = true) : next.Basis settings (attempts.afterSend next) := by
  have others : ∀ other, other ≠ call.number → attempts.afterSend next other = attempts other := by
    intro other different
    simp [Attempts.afterSend, sends, number, different]
  constructor
  · intro other sent
    rw [number]
    by_cases same : other = call.number
    · rw [same]
      exact ⟨basis.first, le_rfl⟩
    · rw [others other same] at sent
      exact basis.numbered other sent
  · rw [number]
    exact basis.first
  · rw [number]
    exact basis.last
  · rw [number]
    exact basis.single
  · intro other first before
    rw [number] at before
    obtain ⟨response, answered, retryable⟩ := basis.earlier other first before
    refine ⟨response, ?_, retryable⟩
    unfold Attempts.Answered at answered ⊢
    rw [others other (Nat.ne_of_lt before)]
    exact answered
  · intro certain
    rw [doubtful] at certain
    cases certain

/-- What a call which took a step knows. -/
def Segment.Sound (settings : Settings) (attempts : Attempts) (segment : Segment) : Prop :=
  segment.call.Sound settings (attempts.afterSend segment.call)

theorem Segment.Sound.of_unsent {segment : Segment} (unsent : segment.call.isSent = false)
    (sound : segment.call.Sound settings attempts) : segment.Sound settings attempts := by
  unfold Segment.Sound
  rwa [Attempts.afterSend_of_unsent unsent]

theorem Call.Away.isSent (away : call.Away) : call.isSent = false := by
  cases here : call.point <;> simp_all [Call.Away, Call.isSent]

variable {client : Client}

theorem leave_sound (basis : call.Basis settings attempts) (left : Nat) {outcome : Outcome}
    (settled : call.Settled settings attempts outcome) :
    (leave settings client call left outcome).Sound settings attempts := by
  have concluded : (call.conclude left outcome).Sound settings attempts :=
    basis.conclude left settled
  have unsent : (call.conclude left outcome).isSent = false :=
    (Call.conclude_away left outcome).isSent
  unfold leave
  split
  · exact .of_unsent unsent concluded
  · split
    · exact .of_unsent rfl ⟨basis.suspend _, settled⟩
    · exact .of_unsent unsent concluded

private theorem attempt_sound (basis : call.Basis settings attempts)
    (certain : call.mayHaveExecuted = false) (unsent : (attempts call.number).sent = false)
    (surroundings : Surroundings) (descriptor : Json) :
    (attempt settings client call surroundings descriptor).Sound settings attempts := by
  unfold attempt
  cases settings.validates descriptor call.params with
  | error error => exact leave_sound basis _ nofun
  | ok valid =>
      cases valid with
      | false => exact leave_sound basis _ fun _ => basis.flag certain
      | true =>
          dsimp only
          split
          · rename_i dispatched
            have begun : Call.Basis settings attempts { call with mayHaveExecuted := true } :=
              ⟨basis.numbered, basis.first, basis.last, basis.single, basis.earlier, nofun⟩
            cases surroundings.prelude with
            | refused code => exact leave_sound begun _ fun _ => basis.flag certain
            | raised error => exact leave_sound begun _ nofun
            | connects => exact .of_unsent rfl ⟨begun.suspend _, dispatched, rfl, unsent⟩
          · rename_i direct
            exact ⟨basis.send rfl rfl rfl, Bool.eq_false_iff.mpr direct⟩

theorem check_sound (basis : call.Basis settings attempts)
    (certain : call.mayHaveExecuted = false) (unsent : (attempts call.number).sent = false)
    (surroundings : Surroundings) :
    (check settings client call surroundings).Sound settings attempts := by
  have clear := basis.flag certain
  unfold check
  split
  · exact .of_unsent rfl ⟨basis.suspend _, fun _ => clear⟩
  · split
    · split
      · exact .of_unsent rfl ⟨basis.suspend _, fun _ => clear⟩
      · dsimp only
        split
        · exact .of_unsent rfl ⟨basis.suspend _, nofun⟩
        · exact attempt_sound basis certain unsent surroundings _
    · exact .of_unsent rfl ⟨basis.suspend _, certain, unsent⟩

theorem enter_sound (basis : call.Basis settings attempts)
    (certain : call.mayHaveExecuted = false) (unsent : (attempts call.number).sent = false)
    (surroundings : Surroundings) :
    (enter settings client call surroundings).Sound settings attempts := by
  unfold enter
  split
  · exact .of_unsent rfl ⟨basis.suspend _, certain, unsent⟩
  · exact check_sound basis certain unsent surroundings

private theorem Call.interruption_notStarted {interrupt : Interrupt}
    (claimed : (call.interruption interrupt).NotStarted) : call.mayHaveExecuted = false := by
  cases interrupt with
  | cancel => cases claimed
  | timeout =>
      by_contra doubtful
      simp [Call.interruption, Ending.NotStarted, doubtful] at claimed

theorem wake_sound (basis : call.Basis settings attempts)
    (certain : call.mayHaveExecuted = false) (unsent : (attempts call.number).sent = false)
    (surroundings : Surroundings) (interrupt : Option Interrupt) :
    (wake settings client call surroundings interrupt).Sound settings attempts := by
  unfold wake
  split
  · exact .of_unsent rfl ⟨basis.suspend _, certain, unsent⟩
  · cases interrupt with
    | none => exact check_sound basis certain unsent surroundings
    | some interrupt => exact .of_unsent rfl ⟨basis.suspend _, fun _ => basis.flag certain⟩

theorem Call.Basis.interrupted (basis : call.Basis settings attempts) (interrupt : Interrupt) :
    call.Settled settings attempts (.ended (call.interruption interrupt)) :=
  fun claimed => basis.flag (Call.interruption_notStarted claimed)

private theorem Call.Basis.clear_of_reply (basis : call.Basis settings attempts)
    {reply : Dispatcher.Reply}
    (answered : (attempts call.number).answer = some (.reply reply))
    (denies : reply.execution = "not_started") : attempts.Clear :=
  basis.clear fun _ => ⟨.reply reply, answered, denies⟩

theorem settled_reply {reply : Dispatcher.Reply}
    (certain : reply.execution = "not_started" → attempts.Clear) :
    call.Settled settings attempts (Connected.outcome call (.reply reply)) := by
  unfold Connected.outcome
  dsimp only
  split
  · nofun
  · exact certain

theorem Call.Basis.next (basis : call.Basis settings attempts)
    (direct : settings.dispatcher = false)
    (more : call.number < 5) (repeatable : attempts.Repeatable call.number) :
    Call.Basis settings attempts { call with number := call.number + 1 } := by
  constructor
  · intro number sent
    obtain ⟨first, last⟩ := basis.numbered number sent
    exact ⟨first, Nat.le_succ_of_le last⟩
  · exact Nat.succ_le_succ (Nat.zero_le _)
  · exact more
  · intro dispatched
    rw [direct] at dispatched
    cases dispatched
  · intro number first before
    rcases Nat.lt_or_eq_of_le (Nat.le_of_lt_succ before) with earlier | rfl
    · exact basis.earlier number first earlier
    · exact repeatable
  · exact basis.flag

private theorem resume_sound (sound : call.Sound settings attempts) {surroundings : Surroundings}
    {input : Input} {segment : Segment}
    (resuming : resume settings client call surroundings (attempts call.number).answer input =
      some segment) : segment.Sound settings attempts := by
  obtain ⟨basis, aware⟩ := sound
  have hangs : call.point = .exchanging → ∀ result : Connected,
      call.Settled settings attempts (result.outcome call) → Segment.Sound settings attempts
        { client, call := call.suspend (.hangingUp result), notify := false, granted := none } := by
    intro point result settled
    simp only [Call.Aware, point] at aware
    exact .of_unsent rfl ⟨basis.suspend _, aware, settled⟩
  have lost : call.Settled settings attempts (Connected.outcome call
      (.reply (connectionError "dispatcher_response_lost" "unknown"))) :=
    settled_reply (by simp [connectionError])
  cases resumes_of_resume resuming with
  | enters point =>
      simp only [Call.Aware, point] at aware
      exact enter_sound basis aware.1 aware.2 surroundings
  | notified point =>
      simp only [Call.Aware, point] at aware
      exact wake_sound basis aware.1 aware.2 surroundings none
  | stirred notified interrupt point =>
      simp only [Call.Aware, point] at aware
      exact wake_sound basis aware.1 aware.2 surroundings interrupt
  | wakes interrupt point =>
      simp only [Call.Aware, point] at aware
      exact wake_sound basis aware.1 aware.2 surroundings interrupt
  | delayed earlier interrupt point =>
      simp only [Call.Aware, point] at aware
      exact .of_unsent rfl ⟨basis.suspend _, aware⟩
  | responds response point answered =>
      simp only [Call.Aware, point] at aware
      exact leave_sound basis _ ⟨aware, answered⟩
  | fails point => exact leave_sound basis _ (by simp [Call.Settled, Ending.NotStarted])
  | connects point =>
      simp only [Call.Aware, point] at aware
      exact ⟨basis.send rfl rfl aware.2.1, aware.1⟩
  | unreachable point =>
      simp only [Call.Aware, point] at aware
      have clear : attempts.Clear := basis.clear fun sent => by simp [aware.2.2] at sent
      exact leave_sound basis _ (settled_reply fun _ => clear)
  | replies reply point answered =>
      apply hangs point
      split
      · exact settled_reply fun denies => basis.clear_of_reply answered denies
      · exact lost
  | loses point => exact hangs point _ lost
  | fallsOver error point => exact hangs point _ (fun unsent => unsent.elim)
  | cutOff interrupt point => exact hangs point _ (basis.interrupted interrupt)
  | hungUp result point =>
      simp only [Call.Aware, point] at aware
      exact leave_sound basis _ aware.2
  | raises error point => exact leave_sound basis _ (fun unsent => unsent.elim)
  | interrupted interrupt point => exact leave_sound basis _ (basis.interrupted interrupt)
  | blocked outcome point locked =>
      simp only [Call.Aware, point] at aware
      exact .of_unsent (by simp [Call.isSent, point]) ⟨basis, by simpa [Call.Aware, point]⟩
  | settles outcome point free =>
      simp only [Call.Aware, point] at aware
      exact .of_unsent (Call.conclude_away _ _).isSent (basis.conclude _ aware)
  | retries point =>
      simp only [Call.Aware, point] at aware
      obtain ⟨direct, certain, more, repeatable⟩ := aware
      have unsent : (attempts (call.number + 1)).sent = false := by
        rw [Bool.eq_false_iff]
        intro sent
        have known := (basis.numbered _ sent).2
        omega
      exact enter_sound (basis.next direct more repeatable) certain unsent surroundings
  | abandons interrupt point =>
      exact .of_unsent rfl ⟨basis.suspend _, basis.interrupted interrupt⟩

end Calls

/-! ## Runs -/

/-- Nothing was sent, and no answer was lost. -/
def Attempts.Onward (before after : Attempts) : Prop :=
  ∀ number, (after number).sent = (before number).sent ∧
    ∀ answer, (before number).answer = some answer → (after number).answer = some answer

section Onward

variable {settings : Settings} {before after : Attempts} {call : Call}

theorem Attempts.Onward.clear (onward : before.Onward after) (clear : before.Clear) :
    after.Clear := by
  intro number sent
  obtain ⟨same, kept⟩ := onward number
  rw [same] at sent
  obtain ⟨answer, answered, denies⟩ := clear number sent
  exact ⟨answer, kept answer answered, denies⟩

theorem Attempts.Onward.repeatable (onward : before.Onward after) {number : Nat}
    (repeatable : before.Repeatable number) : after.Repeatable number := by
  obtain ⟨response, answered, retryable⟩ := repeatable
  exact ⟨response, (onward number).2 _ answered, retryable⟩

theorem Attempts.Onward.settled (onward : before.Onward after) {outcome : Outcome}
    (settled : call.Settled settings before outcome) : call.Settled settings after outcome := by
  cases outcome with
  | response response => exact ⟨settled.1, (onward _).2 _ settled.2⟩
  | ended ending => exact fun claimed => onward.clear (settled claimed)

theorem Call.Sound.onward (sound : call.Sound settings before) (onward : before.Onward after) :
    call.Sound settings after := by
  obtain ⟨basis, aware⟩ := sound
  constructor
  · constructor
    · intro number sent
      rw [(onward number).1] at sent
      exact basis.numbered number sent
    · exact basis.first
    · exact basis.last
    · exact basis.single
    · exact fun number first before => onward.repeatable (basis.earlier number first before)
    · exact fun certain => onward.clear (basis.flag certain)
  · have same := (onward call.number).1
    unfold Call.Aware at aware ⊢
    cases point : call.point <;> simp only [point, same] at aware ⊢
    case hangingUp result => exact ⟨aware.1, onward.settled aware.2⟩
    case lockLeave outcome => exact onward.settled aware
    case sleeping => exact ⟨aware.1, aware.2.1, aware.2.2.1, onward.repeatable aware.2.2.2⟩
    case done ending => exact fun claimed => onward.clear (aware claimed)
    all_goals exact aware

theorem Call.Sound.notified (sound : call.Sound settings before) (notify : Bool) :
    (call.notified notify).Sound settings before := by
  rcases call.notified_eq notify with same | ⟨-, waiting, changed⟩
  · rwa [same]
  · rw [changed]
    obtain ⟨basis, aware⟩ := sound
    simp only [Call.Aware, waiting] at aware
    exact ⟨basis.suspend _, aware⟩

end Onward

/-- The attempts of one call. -/
def System.attempts (system : System) (id : Nat) : Attempts :=
  fun number => system.exchanges (id, number)

/-- A property of every call and its attempts; nothing was sent for a call which was not made. -/
structure System.Every (Holds : Attempts → Call → Prop) (system : System) : Prop where
  /-- Every call. -/
  calls : ∀ id (call : Call), system.calls[id]? = some call → Holds (system.attempts id) call
  /-- No call was made. -/
  unsent : ∀ id, system.calls.length ≤ id → ∀ number, (system.attempts id number).sent = false

/-- A property of a call which only its own steps can break. -/
structure Lasting (Holds : Attempts → Call → Prop) : Prop where
  /-- A notification reaches the call. -/
  notified : ∀ {attempts : Attempts} {call : Call} (notify : Bool), Holds attempts call →
    Holds attempts (call.notified notify)
  /-- Something happens to its attempts. -/
  onward : ∀ {before after : Attempts} {call : Call}, before.Onward after → Holds before call →
    Holds after call

/-- All calls know what they claim to know. -/
structure System.Certain (settings : Settings) (system : System) : Prop where
  /-- Every call. -/
  calls : ∀ id (call : Call), system.calls[id]? = some call →
    call.Sound settings (system.attempts id)
  /-- Nothing was sent for a call which was not made. -/
  unsent : ∀ id, system.calls.length ≤ id → ∀ number, (system.attempts id number).sent = false
  /-- The gateway and the dispatcher are truthful. -/
  sound : ∀ exchange, (system.exchanges exchange).Sound Answer.Denies

section Runs

variable {settings : Settings} {before after : System} {event : Event}
  {Holds : Attempts → Call → Prop}

theorem attempts_resumed (front back : List Call) (segment : Segment) (id : Nat) :
    (before.resumed front back segment).attempts id =
      if id = front.length then (before.attempts id).afterSend segment.call
      else before.attempts id := by
  funext number
  unfold System.attempts System.resumed Attempts.afterSend
  by_cases here : id = front.length
  · subst here
    by_cases sends : segment.call.isSent = true
    · by_cases same : number = segment.call.number
      · simp [sends, same]
      · simp [sends, same, Function.update]
    · simp [sends]
  · by_cases sends : segment.call.isSent = true
    · simp [sends, here, Function.update]
    · simp [sends, here]

theorem getElem?_replaced {front back : List Call} {left right : Call} {id : Nat}
    (different : id ≠ front.length) :
    (front ++ left :: back)[id]? = (front ++ right :: back)[id]? := by
  rcases Nat.lt_or_gt_of_ne different with earlier | later
  · rw [List.getElem?_append_left earlier, List.getElem?_append_left earlier]
  · rw [List.getElem?_append_right (by omega), List.getElem?_append_right (by omega)]
    obtain ⟨offset, shifted⟩ : ∃ offset, id - front.length = offset + 1 :=
      ⟨id - front.length - 1, by omega⟩
    rw [shifted, List.getElem?_cons_succ, List.getElem?_cons_succ]

/-- One call goes on. -/
theorem System.Every.resumed (every : before.Every Holds) (lasting : Lasting Holds)
    {front back : List Call} {segment : Segment}
    (others : ∀ id, id ≠ front.length →
      (front ++ segment.call :: back)[id]? = before.calls[id]?)
    (held : Holds ((before.attempts front.length).afterSend segment.call) segment.call) :
    (before.resumed front back segment).Every Holds := by
  constructor
  · intro id call found
    have mapped : ((front ++ segment.call :: back).map fun call : Call =>
        call.notified segment.notify)[id]? = some call := found
    rw [List.getElem?_map] at mapped
    obtain ⟨earlier, listed, rfl⟩ := Option.map_eq_some_iff.mp mapped
    apply lasting.notified
    rw [attempts_resumed]
    by_cases here : id = front.length
    · subst here
      obtain rfl : segment.call = earlier := by simpa using listed
      rw [if_pos rfl]
      exact held
    · rw [if_neg here]
      rw [others id here] at listed
      exact every.calls id earlier listed
  · intro id beyond number
    have outside : (front ++ segment.call :: back)[id]? = none := by
      rw [List.getElem?_eq_none_iff]
      simpa [System.resumed] using beyond
    have here : id ≠ front.length := by
      rintro rfl
      simp at outside
    rw [others id here, List.getElem?_eq_none_iff] at outside
    rw [attempts_resumed, if_neg here]
    exact every.unsent id outside number

private theorem onward_remote {target : Nat × Nat} {event : Exchange.Event Answer}
    {exchange : Exchange Answer} (distinct : event ≠ .send)
    (acts : Exchange.Step Answer.Denies (before.exchanges target) event exchange) (id : Nat) :
    (before.attempts id).Onward (System.attempts { before with
      exchanges := Function.update before.exchanges target exchange } id) := by
  intro number
  unfold System.attempts
  dsimp only
  by_cases here : (id, number) = target
  · rw [here, Function.update_self]
    cases acts with
    | send => exact absurd rfl distinct
    | execute => exact ⟨rfl, fun _ answered => answered⟩
    | answer response sent first =>
        refine ⟨rfl, fun answer answered => ?_⟩
        rw [first] at answered
        cases answered
  · rw [Function.update_of_ne here]
    exact ⟨rfl, fun _ answered => answered⟩

theorem System.Every.notify (every : before.Every Holds) (lasting : Lasting Holds)
    (client : Client) (refreshers : List Refresher) (notify : Bool) :
    System.Every Holds
      { before with
        client
        calls := before.calls.map fun call => call.notified notify
        refreshers } := by
  constructor
  · intro id call found
    simp only [List.getElem?_map] at found
    obtain ⟨earlier, listed, rfl⟩ := Option.map_eq_some_iff.mp found
    exact lasting.notified notify (every.calls id earlier listed)
  · intro id beyond
    exact every.unsent id (by simpa using beyond)

/-- Every step keeps a lasting property, as far as the calls it begins and resumes keep it. -/
theorem System.Every.step (every : before.Every Holds) (lasting : Lasting Holds)
    (step : Step settings before event after)
    (begun : ∀ (attempts : Attempts) (operation : String) (params : Json) (frames : Nat)
      (surroundings : Surroundings), (∀ number, (attempts number).sent = false) →
      let segment := enter settings before.client (.new operation params frames) surroundings
      Holds (attempts.afterSend segment.call) segment.call)
    (refused : ∀ (attempts : Attempts) (operation : String) (params : Json) (frames : Nat)
      (ending : Ending), (∀ number, (attempts number).sent = false) → Refusal ending →
      Holds attempts ((Call.new operation params frames).suspend (.done ending)))
    (resumed : ∀ (front back : List Call) (call : Call) (surroundings : Surroundings)
      (input : Input) (segment : Segment), before.calls = front ++ call :: back →
      event = .resume front.length surroundings input segment.granted →
      resume settings before.client call surroundings
        (before.attempts front.length call.number).answer input = some segment →
      Holds (before.attempts front.length) call →
      Holds ((before.attempts front.length).afterSend segment.call) segment.call) :
    after.Every Holds := by
  cases step with
  | begin operation params frames surroundings segment entered entering =>
      subst entering
      apply every.resumed lasting
      · intro id different
        rcases Nat.lt_or_gt_of_ne different with before | beyond
        · rw [List.getElem?_append_left before]
        · rw [List.getElem?_eq_none (by simp; omega), List.getElem?_eq_none (by omega)]
      · exact begun _ operation params frames surroundings (every.unsent _ le_rfl)
  | refuse operation params frames ending refusal =>
      constructor
      · intro id call found
        rcases Nat.lt_trichotomy id before.calls.length with known | rfl | beyond
        · exact every.calls id call (by rwa [List.getElem?_append_left known] at found)
        · obtain rfl : (Call.new operation params frames).suspend (.done ending) = call := by
            simpa using found
          exact refused _ operation params frames ending (every.unsent _ le_rfl) refusal
        · rw [List.getElem?_eq_none (by simp; omega)] at found
          cases found
      · intro id beyond
        exact every.unsent id (by simp at beyond; omega)
  | resume front back call surroundings input segment here resuming =>
      apply every.resumed lasting
      · intro id different
        rw [here]
        exact getElem?_replaced different
      · exact resumed front back call surroundings input segment here rfl resuming
          (every.calls front.length call (by simp [here]))
  | stir front back call here waiting =>
      have stirred : call.suspend (.waiting true) = call.notified true := by
        simp [Call.notified, waiting]
      constructor
      · intro id other found
        dsimp only at found
        by_cases same : id = front.length
        · subst same
          obtain rfl : call.suspend (.waiting true) = other := by simpa using found
          rw [stirred]
          exact lasting.notified true (every.calls front.length call (by simp [here]))
        · apply every.calls id other
          rw [here, ← found]
          exact getElem?_replaced same
      · intro id beyond
        exact every.unsent id (by simpa [here] using beyond)
  | refresh | renew | close => exact every.notify lasting _ _ _
  | remote call event exchange distinct acts =>
      have onward := onward_remote distinct acts
      constructor
      · exact fun id call found => lasting.onward (onward id) (every.calls id call found)
      · intro id beyond number
        rw [(onward id number).1]
        exact every.unsent id beyond number

private theorem lasting_sound : Lasting (Call.Sound settings) where
  notified notify sound := sound.notified notify
  onward onward sound := sound.onward onward

/-- Exchanges stay truthful. -/
theorem sound_step (sound : ∀ exchange, (before.exchanges exchange).Sound Answer.Denies)
    (step : Step settings before event after) (exchange : Nat × Nat) :
    (after.exchanges exchange).Sound Answer.Denies := by
  have resumed : ∀ (front back : List Call) (segment : Segment),
      ((before.resumed front back segment).exchanges exchange).Sound Answer.Denies := by
    intro front back segment
    unfold System.resumed
    dsimp only
    split
    · by_cases same : exchange = (front.length, segment.call.number)
      · rw [same, Function.update_self]
        exact (sound _).send
      · rw [Function.update_of_ne same]
        exact sound exchange
    · exact sound exchange
  cases step with
  | begin => exact resumed _ _ _
  | resume => exact resumed _ _ _
  | remote target event exchange' distinct acts =>
      dsimp only
      by_cases here : exchange = target
      · rw [here, Function.update_self]
        exact (sound target).step acts
      · rw [Function.update_of_ne here]
        exact sound exchange
  | _ => exact sound exchange

theorem Call.basis_new {attempts : Attempts} (unsent : ∀ number, (attempts number).sent = false)
    (operation : String) (params : Json) (frames : Nat) :
    (Call.new operation params frames).Basis settings attempts := by
  have clear : attempts.Clear := by
    intro number sent
    rw [unsent] at sent
    cases sent
  refine ⟨?_, le_rfl, Nat.succ_le_succ (Nat.zero_le 4), fun _ => rfl, ?_, fun _ => clear⟩
  · intro number sent
    rw [unsent] at sent
    cases sent
  · intro number first before
    change number < 1 at before
    omega

theorem System.Certain.step (certain : before.Certain settings)
    (step : Step settings before event after) : after.Certain settings := by
  have every : before.Every (Call.Sound settings) := ⟨certain.calls, certain.unsent⟩
  have next : after.Every (Call.Sound settings) := by
    apply every.step lasting_sound step
    · intro attempts operation params frames surroundings unsent
      exact enter_sound (Call.basis_new unsent operation params frames) rfl (unsent 1) surroundings
    · intro attempts operation params frames ending unsent refusal
      have basis : (Call.new operation params frames).Basis settings attempts :=
        Call.basis_new unsent operation params frames
      exact ⟨basis.suspend _, fun _ => basis.flag rfl⟩
    · intro front back call surroundings input segment here same resuming sound
      exact resume_sound sound resuming
  exact ⟨next.calls, next.unsent, sound_step certain.sound step⟩

theorem System.Certain.start : System.start.Certain settings := by
  constructor
  · intro id call found
    simp [System.start] at found
  · exact fun _ _ _ => rfl
  · exact fun _ => Exchange.sound_fresh

/-- A call which is done stays so. -/
theorem done_step {id : Nat} {ending : Ending}
    (done : before.calls[id]?.map Call.point = some (.done ending))
    (step : Step settings before event after) :
    after.calls[id]?.map Call.point = some (.done ending) := by
  obtain ⟨call, found, ended⟩ := Option.map_eq_some_iff.mp done
  have known : id < before.calls.length := (List.getElem?_eq_some_iff.mp found).1
  have notified : ∀ notify, (call.notified notify).point = .done ending := by
    intro notify
    rcases call.notified_eq notify with same | ⟨-, waiting, -⟩
    · rw [same, ended]
    · rw [ended] at waiting
      cases waiting
  cases step with
  | begin operation params frames surroundings segment entered entering =>
      have kept : (before.calls ++ [segment.call])[id]? = some call := by
        rw [List.getElem?_append_left known, found]
      simp [System.resumed, -List.map_append, kept, notified]
  | refuse => simp [List.getElem?_append_left known, found, ended]
  | resume front back other surroundings input segment here resuming =>
      have different : id ≠ front.length := by
        rintro rfl
        obtain rfl : other = call := by simpa [here] using found
        simp [resume, ended] at resuming
      have kept : (front ++ segment.call :: back)[id]? = some call := by
        rw [getElem?_replaced different, ← here]
        exact found
      simp [System.resumed, -List.map_append, kept, notified]
  | stir front back other here waiting =>
      have different : id ≠ front.length := by
        rintro rfl
        obtain rfl : other = call := by simpa [here] using found
        rw [ended] at waiting
        cases waiting
      have kept : (front ++ other.suspend (.waiting true) :: back)[id]? = some call := by
        rw [getElem?_replaced different, ← here]
        exact found
      simp [kept, ended]
  | refresh | renew | close => simp [System.refreshed, found, notified]
  | remote => exact done

theorem done_run {trace : List Event} {id : Nat} {ending : Ending}
    (run : Run settings before trace after)
    (done : before.calls[id]?.map Call.point = some (.done ending)) :
    after.calls[id]?.map Call.point = some (.done ending) :=
  run.invariant (fun system => system.calls[id]?.map Call.point = some (.done ending))
    done_step done

/-- Nothing was executed for a call whose attempts are all denied. -/
theorem System.Certain.unexecuted (certain : before.Certain settings) {id : Nat}
    (clear : (before.attempts id).Clear) (number : Nat) :
    (before.exchanges (id, number)).executed = false := by
  rw [Bool.eq_false_iff]
  intro executed
  have sound := certain.sound (id, number)
  have unexecuted := sound.honest (clear number (sound.sent executed))
  rw [executed] at unexecuted
  cases unexecuted

theorem answer_resumed (front back : List Call) (segment : Segment) (other : Nat × Nat) :
    ((before.resumed front back segment).exchanges other).answer = (before.exchanges other).answer ∧
      ((before.exchanges other).sent = true →
        ((before.resumed front back segment).exchanges other).sent = true) := by
  unfold System.resumed
  dsimp only
  split
  · by_cases same : other = (front.length, segment.call.number)
    · rw [same, Function.update_self]
      exact ⟨rfl, fun _ => rfl⟩
    · rw [Function.update_of_ne same]
      exact ⟨rfl, id⟩
  · exact ⟨rfl, id⟩

/-- Nothing is answered in a step which sends an attempt. -/
theorem answer_of_send (step : Step settings before event after) {exchange : Nat × Nat}
    (unsent : (before.exchanges exchange).sent = false)
    (sent : (after.exchanges exchange).sent = true) (other : Nat × Nat) :
    (after.exchanges other).answer = (before.exchanges other).answer ∧
      ((before.exchanges other).sent = true → (after.exchanges other).sent = true) := by
  cases step with
  | begin => exact answer_resumed _ _ _ _
  | resume => exact answer_resumed _ _ _ _
  | remote call event exchange' distinct acts =>
      exfalso
      by_cases here : exchange = call
      · subst here
        simp only [Function.update_self] at sent
        cases acts with
        | send => exact distinct rfl
        | execute =>
            rw [unsent] at sent
            cases sent
        | answer =>
            rw [unsent] at sent
            cases sent
      · simp only [Function.update_of_ne here] at sent
        rw [unsent] at sent
        cases sent
  | _ => exact absurd (unsent.symm.trans sent) Bool.false_ne_true

theorem System.Certain.basis_of_sent (certain : before.Certain settings) {id number : Nat}
    (sent : (before.exchanges (id, number)).sent = true) :
    ∃ call : Call, call.Basis settings (before.attempts id) := by
  rcases Nat.lt_or_ge id before.calls.length with known | beyond
  · exact ⟨_, (certain.calls id _ (List.getElem?_eq_getElem known)).basis⟩
  · have unsent := certain.unsent id beyond number
    rw [System.attempts, sent] at unsent
    cases unsent

theorem System.Certain.last_of_executed (certain : before.Certain settings) {id number : Nat}
    {call : Call} (basis : call.Basis settings (before.attempts id))
    (executed : (before.exchanges (id, number)).executed = true) : number = call.number := by
  obtain ⟨least, most⟩ := basis.numbered number ((certain.sound _).sent executed)
  by_contra different
  have denied := (basis.earlier number least (Nat.lt_of_le_of_ne most different)).denied
  have unexecuted := (certain.sound (id, number)).honest denied
  rw [executed] at unexecuted
  cases unexecuted

private theorem System.Certain.last_of_send (certain : before.Certain settings)
    (step : Step settings before event after) {id number : Nat} {call : Call}
    (basis : call.Basis settings (after.attempts id))
    (unsent : (before.exchanges (id, number)).sent = false)
    (sent : (after.exchanges (id, number)).sent = true) : number = call.number := by
  obtain ⟨least, most⟩ := basis.numbered number sent
  by_contra different
  obtain ⟨response, answered, -⟩ := basis.earlier number least (Nat.lt_of_le_of_ne most different)
  rw [Attempts.Answered, System.attempts, (answer_of_send step unsent sent (id, number)).1]
    at answered
  have already := (certain.sound (id, number)).answered _ answered
  rw [unsent] at already
  cases already

theorem certain_run {trace : List Event} {system : System}
    (run : Run settings .start trace system) : system.Certain settings :=
  run.invariant (System.Certain settings) System.Certain.step .start

/-- At most once.  Of the attempts of one call at most one is ever executed; there are at most five,
and one submission to a dispatcher; an attempt is sent only after every earlier one was answered
with a response that may be repeated; and nothing is or will be executed for a call which claims
that nothing started. -/
theorem at_most_once {trace : List Event} {system : System} (run : Run settings .start trace system)
    (id : Nat) :
    (∀ first second, (system.exchanges (id, first)).executed = true →
      (system.exchanges (id, second)).executed = true → first = second) ∧
    (∀ number, (system.exchanges (id, number)).sent = true →
      1 ≤ number ∧ number ≤ 5 ∧ (settings.dispatcher = true → number = 1)) ∧
    (∀ event later number, Step settings system event later →
      (system.exchanges (id, number)).sent = false → (later.exchanges (id, number)).sent = true →
        ∀ earlier, (system.exchanges (id, earlier)).sent = true → earlier < number ∧
          ∃ response, (system.exchanges (id, earlier)).answer = some (.response response) ∧
            response.Retryable) ∧
    (∀ call ending, system.calls[id]? = some call → call.point = .done ending →
      ending.NotStarted → ∀ continuation later, Run settings system continuation later →
        ∀ number, (later.exchanges (id, number)).executed = false) := by
  have certain := certain_run run
  refine ⟨?_, ?_, ?_, ?_⟩
  · intro first second firstExecuted secondExecuted
    obtain ⟨call, basis⟩ := certain.basis_of_sent ((certain.sound _).sent firstExecuted)
    rw [certain.last_of_executed basis firstExecuted,
      certain.last_of_executed basis secondExecuted]
  · intro number sent
    obtain ⟨call, basis⟩ := certain.basis_of_sent sent
    obtain ⟨least, most⟩ := basis.numbered number sent
    have bound := basis.last
    refine ⟨least, by omega, fun dispatched => ?_⟩
    have single := basis.single dispatched
    omega
  · intro event later number step unsent sent earlier before
    obtain ⟨call, basis⟩ := (certain_run (run.tail step)).basis_of_sent sent
    have latest := certain.last_of_send step basis unsent sent
    obtain ⟨kept, stays⟩ := answer_of_send step unsent sent (id, earlier)
    obtain ⟨least, most⟩ := basis.numbered earlier (stays before)
    have precedes : earlier < number := by
      have different : earlier ≠ number := by
        rintro rfl
        rw [unsent] at before
        cases before
      omega
    obtain ⟨response, answered, retryable⟩ := basis.earlier earlier least (by omega)
    exact ⟨precedes, response, kept ▸ answered, retryable⟩
  · intro call ending found ended claimed continuation later further number
    have whole := certain_run (run.trans further)
    have still := done_run further (by rw [found, Option.map_some, ended])
    obtain ⟨final, kept, done⟩ := Option.map_eq_some_iff.mp still
    have aware := (whole.calls id final kept).aware
    simp only [Call.Aware, done] at aware
    exact whole.unexecuted (aware claimed) number

end Runs

def throttled : HttpReply where
  status := 429
  retryAfter := none
  body := none

theorem at_most_once_sample : ∃ trace system, Run lenient .start trace system ∧
    (system.exchanges (0, 1)).answer = some (.response throttled) ∧
    (system.exchanges (0, 2)).sent = true ∧
    ∀ first second, (system.exchanges (0, first)).executed = true →
      (system.exchanges (0, second)).executed = true → first = second := by
  obtain ⟨trace, first⟩ := informed_run
  have earlier : Run lenient .start trace informed := first.mono And.left
  have sends : Step lenient informed (.begin roomyCall leisure (some search)) _ :=
    .begin informed "search" .null 60 leisure _ (.inl rfl) rfl
  have answers := earlier.tail sends |>.tail
    (.remote _ (0, 1) (.answer (.response throttled)) _ nofun
    (.answer _ _ rfl rfl fun _ => rfl))
  have sleeps := answers.tail (.resume _ [] []
    { roomyCall with attempts := 1, mayHaveExecuted := true, point := .sending } leisure .answered _
    rfl rfl)
  have repeats := sleeps.tail (.resume _ [] []
    { roomyCall with attempts := 1, mayHaveExecuted := false, point := .sleeping } leisure .woken _
    rfl rfl)
  exact ⟨_, _, repeats, rfl, rfl, (at_most_once repeats 0).1⟩

end Sdk

end AiProtocol
