import AiProtocol.Dispatcher.Order

/-!
# A job from its responses

`job` without the queue, the gate and the clock, as a function of the responses to its attempts.  It
tells how every request ends which the dispatcher answers with the status of a response.
-/

namespace AiProtocol

namespace Dispatcher

/-- `job`, with the responses to its attempts; every attempt begins and is executed in time. -/
def job (responses : Nat → HttpReply) : Nat → Nat → Progress → Option Reply
  | 0, _, _ => none
  | rounds + 1, number, progress =>
      let response := responses number
      let begun : Progress :=
        { progress with attempts := progress.attempts + 1, mayHaveExecuted := true }
      let marked := if notStarted response then begun.deny else begun
      match verdict number response with
      | .completed => some
          { ok := true
            code := "completed"
            execution := "completed"
            attempts := some marked.attempts
            status := some response.status
            body := response.body }
      | .failed error => some
          { marked.failure error with
            status := some response.status
            body := response.body }
      | .pause _ => job responses rounds (number + 1) marked

/-- The progress after a response. -/
def Progress.heard (response : HttpReply) (progress : Progress) : Progress :=
  if notStarted response then progress.deny else progress

theorem Progress.heard_close (response : HttpReply) (progress : Progress) :
    progress.close.heard response = (progress.heard response).close := by
  unfold heard
  split <;> rfl

/-- How `job` goes on with a response. -/
def conclude (responses : Nat → HttpReply) (rounds number : Nat) (progress : Progress) :
    Option Reply :=
  match verdict number (responses number) with
  | .completed => some
      { ok := true
        code := "completed"
        execution := "completed"
        attempts := some progress.attempts
        status := some (responses number).status
        body := (responses number).body }
  | .failed error => some
      { progress.failure error with
        status := some (responses number).status
        body := (responses number).body }
  | .pause _ => job responses rounds (number + 1) progress

section Rounds

variable (responses : Nat → HttpReply) (rounds number : Nat) (progress : Progress)

private theorem job_succ :
    job responses (rounds + 1) number progress = conclude responses rounds number
      (Progress.heard (responses number)
        { progress with attempts := progress.attempts + 1, mayHaveExecuted := true }) :=
  rfl

theorem job_close :
    job responses rounds number progress.close = job responses rounds number progress := by
  induction rounds generalizing number progress with
  | zero => rfl
  | succ rounds induction =>
      let begun : Progress :=
        { progress with attempts := progress.attempts + 1, mayHaveExecuted := true }
      have closed : job responses (rounds + 1) number progress.close =
          conclude responses rounds number (begun.close.heard (responses number)) := rfl
      rw [closed, Progress.heard_close, job_succ]
      unfold conclude
      split
      · rfl
      · rfl
      · exact induction _ _

private theorem conclude_close :
    conclude responses rounds number progress.close =
      conclude responses rounds number progress := by
  unfold conclude
  split
  · rfl
  · rfl
  · exact job_close responses rounds _ progress

end Rounds

/-! ## The machine plays the job -/

private theorem runningTurns_eq_nil {running : List HttpTask} {request : RequestId} :
    runningTurns running request = [] ↔ ∀ task ∈ running, task.attempt.request ≠ request := by
  simp [runningTurns]

variable {settings : Settings} {responses : Nat → HttpReply} {request : RequestId}
  {before after dispatcher : Dispatcher} {event : Event} {trace : List Event} {number : Nat}
  {progress : Progress}

/-- The job is before an attempt. -/
def Reaches (responses : Nat → HttpReply) (number : Nat) (progress : Progress) : Prop :=
  number ≤ 5 ∧ job responses (6 - number) number progress = job responses 5 1 .default

/-- The job is at the response to an attempt. -/
def Concludes (responses : Nat → HttpReply) (number : Nat) (progress : Progress) : Prop :=
  number ≤ 5 ∧ conclude responses (5 - number) number progress = job responses 5 1 .default

theorem Reaches.concludes (reaches : Reaches responses number progress) :
    Concludes responses number (Progress.heard (responses number)
      { progress with attempts := progress.attempts + 1, mayHaveExecuted := true }) := by
  obtain ⟨limit, same⟩ := reaches
  have round : 6 - number = (5 - number) + 1 := by omega
  rw [round, job_succ] at same
  exact ⟨limit, same⟩

theorem Reaches.close (reaches : Reaches responses number progress) :
    Reaches responses number progress.close :=
  ⟨reaches.1, (job_close _ _ _ _).trans reaches.2⟩

theorem Concludes.close (concludes : Concludes responses number progress) :
    Concludes responses number progress.close :=
  ⟨concludes.1, (conclude_close _ _ _ _).trans concludes.2⟩

/-- Where a connection task is in its job, with its result channel. -/
def Connection.Plays (responses : Nat → HttpReply) (outcomes : Nat → Outcome)
    (progress : Progress) : Connection → Prop
  | .trying number => Reaches responses number progress
  | .pausing number _ => Reaches responses (number + 1) progress
  | .awaiting number => ∀ response, outcomes number = .sent (.ok response) →
      response = responses number ∧ Concludes responses number progress
  | .replied reply => reply.status.isSome = true → job responses 5 1 .default = some reply
  | _ => True

/-- Where an HTTP task is in the job of its request. -/
def Stage.Plays (responses : Nat → HttpReply) (number : Nat) (progress : Progress) :
    Stage → Prop
  | .sending => Concludes responses number (progress.heard (responses number))
  | .returned result => ∀ response, result = .ok response →
      response = responses number ∧
        Concludes responses number (progress.heard (responses number))
  | .marked result | .released result => ∀ response, result = .ok response →
      response = responses number ∧ Concludes responses number progress

/-- The dispatcher plays the job of a request. -/
structure Plays (responses : Nat → HttpReply) (request : RequestId) (dispatcher : Dispatcher) :
    Prop where
  /-- The connection task. -/
  connection : (dispatcher.connections request).Plays responses
    (fun number => dispatcher.outcomes (request, number)) (dispatcher.progress request)
  /-- The attempts which did not begin. -/
  waiting : ∀ attempt ∈ dispatcher.waitingAttempts, attempt.request = request →
    Reaches responses attempt.number (dispatcher.progress request)
  /-- The HTTP tasks. -/
  running : ∀ task ∈ dispatcher.running, task.attempt.request = request →
    task.stage.Plays responses task.attempt.number (dispatcher.progress request)

theorem Connection.Plays.close {connection : Connection} {outcomes : Nat → Outcome}
    (plays : connection.Plays responses outcomes progress) :
    connection.Plays responses outcomes progress.close := by
  cases connection with
  | trying number => exact Reaches.close plays
  | pausing number moment => exact Reaches.close plays
  | awaiting number => exact fun response sent => (plays response sent).imp_right Concludes.close
  | _ => exact plays

theorem Stage.Plays.close {stage : Stage} (plays : stage.Plays responses number progress) :
    stage.Plays responses number progress.close := by
  cases stage with
  | sending =>
      unfold Stage.Plays at plays ⊢
      rw [Progress.heard_close]
      exact plays.close
  | returned result =>
      intro response told
      obtain ⟨same, concludes⟩ := plays response told
      rw [Progress.heard_close]
      exact ⟨same, concludes.close⟩
  | marked result => exact fun response told => (plays response told).imp_right Concludes.close
  | released result => exact fun response told => (plays response told).imp_right Concludes.close

namespace Plays

/-- The connection task moves, the attempts and the HTTP tasks of its request are old ones. -/
theorem goes (plays : Plays responses request before)
    (connection : (after.connections request).Plays responses
      (fun number => after.outcomes (request, number)) (after.progress request))
    (progress : after.progress request = before.progress request ∨
      after.progress request = (before.progress request).close)
    (waiting : ∀ attempt ∈ after.waitingAttempts, attempt.request = request →
      attempt ∈ before.waitingAttempts)
    (running : ∀ task ∈ after.running, task.attempt.request = request → task ∈ before.running) :
    Plays responses request after := by
  refine ⟨connection, fun attempt member own => ?_, fun task member own => ?_⟩
  · have reaches := plays.waiting attempt (waiting attempt member own) own
    rcases progress with same | closed
    · rwa [same]
    · rw [closed]
      exact reaches.close
  · have stage := plays.running task (running task member own) own
    rcases progress with same | closed
    · rwa [same]
    · rw [closed]
      exact stage.close

private theorem same_connection (plays : Plays responses request before)
    (connections : after.connections request = before.connections request)
    (outcomes : ∀ number response,
      after.outcomes (request, number) = .sent (.ok response) →
        before.outcomes (request, number) = .sent (.ok response)) :
    (after.connections request).Plays responses
      (fun number => after.outcomes (request, number)) (before.progress request) := by
  have connection := plays.connection
  rw [connections]
  cases held : before.connections request with
  | awaiting number =>
      rw [held] at connection
      exact fun response sent => connection response (outcomes number response sent)
  | _ => rwa [held] at connection

/-- Nothing happens to the request, apart from the end of its attempts without a response. -/
theorem quiet (plays : Plays responses request before)
    (connections : after.connections request = before.connections request)
    (outcomes : ∀ number response,
      after.outcomes (request, number) = .sent (.ok response) →
        before.outcomes (request, number) = .sent (.ok response))
    (progress : after.progress request = before.progress request ∨
      after.progress request = (before.progress request).close)
    (waiting : ∀ attempt ∈ after.waitingAttempts, attempt.request = request →
      attempt ∈ before.waitingAttempts)
    (running : ∀ task ∈ after.running, task.attempt.request = request → task ∈ before.running) :
    Plays responses request after := by
  have connection := plays.same_connection connections outcomes
  refine plays.goes ?_ progress waiting running
  rcases progress with same | closed
  · rwa [same]
  · rw [closed]
    exact connection.close

/-- A connection task without a turn does not read the progress. -/
theorem turnless (plays : Plays responses request before)
    (none : connectionTurns before request = [])
    (connections : after.connections request = before.connections request)
    (outcomes : ∀ number, after.outcomes (request, number) = before.outcomes (request, number)) :
    (after.connections request).Plays responses
      (fun number => after.outcomes (request, number)) (after.progress request) := by
  have connection := plays.connection
  rw [connections]
  unfold connectionTurns at none
  cases held : before.connections request with
  | trying number => simp [held] at none
  | pausing number moment => simp [held] at none
  | awaiting number =>
      intro response sent
      dsimp only at sent
      rw [outcomes] at sent
      simp [held, sent] at none
  | _ => rwa [held] at connection

/-- The task of a request moves its connection. -/
theorem connect (plays : Plays responses request before) {holder : RequestId}
    {connection : Connection} {progress : Progress}
    (own : holder = request → connection.Plays responses
      (fun number => before.outcomes (request, number)) progress)
    (closes : progress = before.progress holder ∨ progress = (before.progress holder).close) :
    Plays responses request { before with
      connections := Function.update before.connections holder connection
      progress := Function.update before.progress holder progress } := by
  by_cases same : holder = request
  · subst same
    refine plays.goes ?_ ?_ (fun _ member _ => member) fun _ member _ => member
    · simpa using own rfl
    · simpa using closes
  · have other := Ne.symm same
    exact plays.quiet (Function.update_of_ne other _ _) (fun _ _ => id)
      (.inl (Function.update_of_ne other _ _)) (fun _ member _ => member) fun _ member _ => member

/-- A request ends without a response. -/
theorem fail (plays : Plays responses request before) (holder : RequestId) (error : String) :
    Plays responses request (before.fail holder error none) :=
  plays.connect (fun _ => nofun) (.inr rfl)

theorem move (plays : Plays responses request before) {holder : RequestId}
    {connection : Connection} (own : holder = request → connection.Plays responses
      (fun number => before.outcomes (request, number)) (before.progress holder)) :
    Plays responses request { before with
      connections := Function.update before.connections holder connection } := by
  simpa only [Function.update_eq_self] using plays.connect own (.inl rfl)

/-- An attempt ends before it began. -/
theorem drop (plays : Plays responses request before) {id : AttemptId} {outcome : Outcome}
    (silent : ∀ response, outcome ≠ .sent (.ok response)) {executor : Executor}
    (none : executor.attempt = none) :
    Plays responses request { before with
      executor
      outcomes := Function.update before.outcomes id outcome } := by
  refine plays.quiet rfl (fun number response sent => ?_) (.inl rfl) (fun attempt member _ => ?_)
    fun _ member _ => member
  · dsimp only at sent
    by_cases same : (request, number) = id
    · rw [same, Function.update_self] at sent
      exact absurd sent (silent response)
    · rwa [Function.update_of_ne same] at sent
  · rw [waitingAttempts_none none] at member
    exact List.mem_append_right _ member

section Coherent

variable {exchanges : AttemptId → Exchange HttpReply}
  (coherent : ({ dispatcher := before, exchanges } : System).Coherent request)
include coherent

theorem accept (plays : Plays responses request before) (accepted : RequestId) (payload : Request)
    (deadline : Nat) (fresh : before.connections accepted = .absent) :
    Plays responses request { before with
      connections := Function.update before.connections accepted (.trying 1)
      payloads := Function.update before.payloads accepted payload
      deadlines := Function.update before.deadlines accepted deadline
      progress := Function.update before.progress accepted .default } := by
  by_cases same : accepted = request
  · subst same
    obtain ⟨none, progress, -⟩ := coherent.idle (.inl fresh)
    refine plays.goes ?_ (.inl ?_) (fun _ member _ => member) fun _ member _ => member
    · have first : Reaches responses 1 .default := ⟨by decide, rfl⟩
      simpa [Connection.Plays] using first
    · rw [progress]
      exact Function.update_self _ _ _
  · have other := Ne.symm same
    exact plays.quiet (Function.update_of_ne other _ _) (fun _ _ => id)
      (.inl (Function.update_of_ne other _ _)) (fun _ member _ => member) fun _ member _ => member

theorem enqueue (plays : Plays responses request before) {attempt : Attempt}
    (trying : before.connections attempt.request = .trying attempt.number) :
    Plays responses request { before with
      connections :=
        Function.update before.connections attempt.request (.awaiting attempt.number)
      queue := before.queue ++ [attempt] } := by
  have moved : Plays responses request { before with
      connections :=
        Function.update before.connections attempt.request (.awaiting attempt.number) } := by
    refine plays.move fun own response sent => ?_
    subst own
    obtain ⟨⟨-, -, unset⟩, -⟩ := coherent.of_connection (connectionTurns_trying trying)
    cases sent.symm.trans (unset attempt.number le_rfl)
  obtain ⟨connection, waiting, running⟩ := moved
  refine ⟨connection, fun queued member own => ?_, running⟩
  rcases List.mem_append.mp member with held | inside
  · exact waiting queued (List.mem_append_left _ held) own
  · rcases List.mem_append.mp inside with old | new
    · exact waiting queued (List.mem_append_right _ old) own
    · obtain rfl := List.mem_singleton.mp new
      have reaches := plays.connection
      rwa [← own, trying, own] at reaches

/-- An HTTP task goes on. -/
theorem perform (plays : Plays responses request before) {front back : List HttpTask}
    {attempt : Attempt} {stage : Stage}
    (held : before.running = front ++ { attempt, stage } :: back) (stage' : Stage) (gate : Gate)
    (progress : Progress)
    (moves : attempt.request = request →
      stage.Plays responses attempt.number (before.progress attempt.request) →
        stage'.Plays responses attempt.number progress) :
    Plays responses request { before with
      gate
      progress := Function.update before.progress attempt.request progress
      running := front ++ { attempt, stage := stage' } :: back } := by
  by_cases same : attempt.request = request
  · subst same
    obtain ⟨-, unconnected, unqueued, others, others'⟩ := coherent.of_running held
    rw [waitingTurns_eq_nil] at unqueued
    rw [runningTurns_eq_nil] at others others'
    refine ⟨plays.turnless unconnected rfl fun _ => rfl, fun queued member own =>
      absurd own (unqueued queued member), fun task member own => ?_⟩
    rcases List.mem_append.mp member with early | late
    · exact absurd own (others task early)
    · rcases List.mem_cons.mp late with rfl | late
      · dsimp only
        rw [Function.update_self]
        refine moves rfl (plays.running { attempt, stage } ?_ rfl)
        simp [held]
      · exact absurd own (others' task late)
  · have other := Ne.symm same
    refine plays.quiet rfl (fun _ _ => id) (.inl (Function.update_of_ne other _ _))
      (fun _ member _ => member) fun task member own => ?_
    rw [held]
    rcases List.mem_append.mp member with early | late
    · exact List.mem_append_left _ early
    · rcases List.mem_cons.mp late with rfl | late
      · exact absurd own same
      · exact List.mem_append_right _ (List.mem_cons_of_mem _ late)

theorem begin (plays : Plays responses request before) {attempt : Attempt} {progress : Progress}
    (checked : before.executor = .checked attempt)
    (begun : (before.progress attempt.request).begin attempt.deadline before.clock =
      some progress) :
    Plays responses request { before with
      executor := .idle
      progress := Function.update before.progress attempt.request progress
      running := before.running ++ [{ attempt, stage := .sending }] } := by
  have holds : before.waitingAttempts = attempt :: before.queue :=
    waitingAttempts_some (by rw [checked]; rfl)
  by_cases same : attempt.request = request
  · subst same
    obtain ⟨-, -, unconnected, unqueued, unperformed⟩ := coherent.of_checked checked
    rw [waitingTurns_eq_nil] at unqueued
    rw [runningTurns_eq_nil] at unperformed
    refine ⟨plays.turnless unconnected rfl fun _ => rfl, fun queued member own =>
      absurd own (unqueued queued member), fun task member own => ?_⟩
    rcases List.mem_append.mp member with old | new
    · exact absurd own (unperformed task old)
    · obtain rfl := List.mem_singleton.mp new
      obtain ⟨-, -, rfl⟩ := Progress.begin_eq_some.mp begun
      dsimp only
      rw [Function.update_self]
      refine (plays.waiting attempt ?_ rfl).concludes
      rw [holds]
      exact List.mem_cons_self
  · have other := Ne.symm same
    refine plays.quiet rfl (fun _ _ => id) (.inl (Function.update_of_ne other _ _))
      (fun queued member _ => ?_) fun task member own => ?_
    · rw [holds]
      exact List.mem_cons_of_mem _ member
    · rcases List.mem_append.mp member with old | new
      · exact old
      · obtain rfl := List.mem_singleton.mp new
        exact absurd own same

/-- The answer to an attempt is taken into account. -/
theorem mark (plays : Plays responses request before) {front back : List HttpTask}
    {attempt : Attempt} {result : Result}
    (held : before.running = front ++ { attempt, stage := .returned result } :: back) :
    Plays responses request { before with
      progress :=
        match result with
        | .ok response =>
            if notStarted response then
              Function.update before.progress attempt.request
                (before.progress attempt.request).deny
            else
              before.progress
        | .error _ => before.progress
      running := front ++ { attempt, stage := .marked result } :: back } := by
  cases result with
  | error error =>
      have performed := plays.perform coherent held (.marked (.error error)) before.gate
        (before.progress attempt.request) fun _ _ => nofun
      simpa only [Function.update_eq_self] using performed
  | ok response =>
      have performed := plays.perform coherent held (.marked (.ok response)) before.gate
        ((before.progress attempt.request).heard response) fun own returned _ ok => by
          subst own
          obtain rfl := Except.ok.inj ok
          obtain ⟨same, concludes⟩ := returned response rfl
          rw [← same] at concludes
          exact ⟨same, concludes⟩
      unfold Progress.heard at performed
      split at performed
      · rename_i denied
        simpa only [denied, ↓reduceIte] using performed
      · rename_i undenied
        simpa only [undenied, Bool.false_eq_true, ↓reduceIte, Function.update_eq_self]
          using performed

end Coherent

theorem reply (plays : Plays responses request before) {front back : List HttpTask}
    {attempt : Attempt} {result : Result}
    (held : before.running = front ++ { attempt, stage := .released result } :: back) :
    Plays responses request { before with
      outcomes := Function.update before.outcomes attempt.id (.sent result)
      running := front ++ back } := by
  have fewer : ∀ task ∈ front ++ back, task ∈ before.running := by
    intro task member
    rw [held]
    exact List.mem_append.mpr ((List.mem_append.mp member).imp_right (List.mem_cons_of_mem _))
  refine plays.goes ?_ (.inl rfl) (fun _ member _ => member) fun task member _ => fewer task member
  have connection := plays.connection
  cases connected : before.connections request with
  | awaiting number =>
      rw [connected] at connection
      intro response sent
      dsimp only at sent
      by_cases same : (request, number) = attempt.id
      · rw [same, Function.update_self] at sent
        obtain ⟨own, rfl⟩ := Prod.mk.inj same
        exact plays.running { attempt, stage := .released result } (by simp [held]) own.symm
          response (Outcome.sent.inj sent)
      · rw [Function.update_of_ne same] at sent
        exact connection response sent
  | _ => rwa [connected] at connection

/-- `retry::run` goes on. -/
theorem resume (plays : Plays responses request before) {holder : RequestId} {number : Nat}
    {result : Result} (awaiting : before.connections holder = .awaiting number)
    (sent : before.outcomes (holder, number) = .sent result) :
    Plays responses request (before.resume holder number result) := by
  unfold Dispatcher.resume
  split
  · exact plays.fail holder _
  · rename_i response
    have concludes : holder = request → response = responses number ∧
        Concludes responses number (before.progress holder) := by
      rintro rfl
      have connection := plays.connection
      rw [awaiting] at connection
      exact connection response sent
    split
    · rename_i decided
      refine plays.move fun own _ => ?_
      obtain ⟨rfl, -, same⟩ := concludes own
      rw [← same, conclude, decided]
    · rename_i error decided
      refine plays.connect (fun own _ => ?_) (.inr rfl)
      obtain ⟨rfl, -, same⟩ := concludes own
      rw [← same, conclude, decided]
      rfl
    · rename_i seconds decided
      refine plays.move fun own => ?_
      obtain ⟨rfl, limit, same⟩ := concludes own
      have more := (of_verdict_pause decided).2
      rw [conclude, decided] at same
      refine ⟨by omega, ?_⟩
      rw [← same]
      congr 1
      omega

theorem step {exchanges : AttemptId → Exchange HttpReply} (plays : Plays responses request before)
    (coherent : ({ dispatcher := before, exchanges } : System).Coherent request)
    (told : ∀ attempt response, event = .return attempt (.ok response) →
      attempt.request = request → response = responses attempt.number)
    (step : Step settings before event after) : Plays responses request after := by
  have kept : ∀ executor : Executor, executor.attempt.toList ++ before.queue =
      before.waitingAttempts → ∀ gate : Gate,
        Plays responses request { before with executor, gate } := by
    intro executor same gate
    exact plays.quiet rfl (fun _ _ => id) (.inl rfl) (fun _ member _ => same ▸ member)
      fun _ member _ => member
  cases step with
  | full refused fresh => exact plays.move fun _ => trivial
  | refuse refused frame reply fresh _ => exact plays.move fun _ => trivial
  | accept accepted frame payload remaining fresh _ =>
      exact plays.accept coherent accepted payload _ fresh
  | enqueue holder number attempt trying isOpen room made =>
      obtain ⟨rfl, rfl⟩ : attempt.request = holder ∧ attempt.number = number := by
        rw [made]
        exact ⟨rfl, rfl⟩
      exact plays.enqueue coherent trying
  | reject holder number trying stopped => exact plays.fail holder _
  | receive holder number result awaiting sent => exact plays.resume awaiting sent
  | lose holder number awaiting dropped => exact plays.fail holder _
  | wake holder number moment pausing due =>
      refine plays.move fun own => ?_
      have reaches := plays.connection
      subst own
      rwa [pausing] at reaches
  | expire holder busy due => exact plays.fail holder _
  | disconnect holder busy => exact plays.connect (fun _ => trivial) (.inr rfl)
  | hangUp holder reply replied =>
      refine plays.quiet rfl (fun _ _ => id) ?_ (fun _ member _ => member) fun _ member _ => member
      by_cases same : request = holder
      · subst same
        exact .inr (Function.update_self _ _ _)
      · exact .inl (Function.update_of_ne same _ _)
  | take attempt rest idle next =>
      refine plays.quiet rfl (fun _ _ => id) (.inl rfl) (fun queued member _ => ?_)
        fun _ member _ => member
      rw [waitingAttempts_none (by rw [idle]; rfl), next]
      exact member
  | skip | halt | overdue | declineClosed | decline => exact plays.drop (by simp) rfl
  | acquire attempt gate waiting acquired =>
      exact kept (.granted attempt) (waitingAttempts_some (by rw [waiting]; rfl)).symm gate
  | check attempt granted isOpen =>
      exact kept (.checked attempt) (waitingAttempts_some (by rw [granted]; rfl)).symm before.gate
  | yield declined => exact kept .idle (waitingAttempts_none (by rw [declined]; rfl)).symm _
  | begin attempt progress checked begun => exact plays.begin coherent checked begun
  | «return» front back attempt result sending =>
      have performed := plays.perform coherent sending (.returned result) before.gate
        (before.progress attempt.request) fun own concludes response ok =>
          ⟨told attempt response (by rw [ok]) own, concludes⟩
      simpa only [Function.update_eq_self] using performed
  | mark front back attempt result returned => exact plays.mark coherent returned
  | release front back attempt result marked =>
      have performed := plays.perform coherent marked (.released result) before.gate.release
        (before.progress attempt.request) fun _ => id
      simpa only [Function.update_eq_self] using performed
  | reply front back attempt result released => exact plays.reply released
  | close done =>
      refine plays.quiet rfl (fun number response sent => ?_) (.inl rfl) nofun
        fun _ member _ => member
      dsimp only at sent
      split at sent
      · cases sent
      · exact sent
  | _ =>
      exact plays.quiet rfl (fun _ _ => id) (.inl rfl) (fun _ member _ => member)
        fun _ member _ => member

end Plays

/-- The machine plays the job: a request which ends with the status of a response ends as `job` does
with the responses to its attempts. -/
theorem job_run (run : Run settings .start trace dispatcher)
    (told : ∀ attempt response, .return attempt (.ok response) ∈ trace →
      attempt.request = request → response = responses attempt.number) {reply : Reply}
    (replied : dispatcher.connections request = .replied reply)
    (status : reply.status.isSome = true) : job responses 5 1 .default = some reply := by
  have plays : Plays responses request dispatcher := by
    revert told
    refine run.invariantTrace (fun trace dispatcher =>
      (∀ attempt response, .return attempt (.ok response) ∈ trace → attempt.request = request →
        response = responses attempt.number) → Plays responses request dispatcher) ?_ ?_
    · exact fun _ => ⟨trivial, nofun, nofun⟩
    · intro trace before after event earlier plays step told
      obtain ⟨path, exchanges, along, -⟩ := system_run earlier
      refine (plays fun attempt response member => told attempt response ?_).step
        (System.coherent_run along request) (fun attempt response same => ?_) step
      · exact List.mem_append_left _ member
      · exact told attempt response (by simp [same])
  have connection := plays.connection
  rw [replied] at connection
  exact connection status

end Dispatcher

end AiProtocol
