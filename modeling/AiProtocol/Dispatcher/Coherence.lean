import AiProtocol.Dispatcher.Turns

/-!
# Turns in every run

Every step of the composition keeps the turns of every request in order.
-/

namespace AiProtocol

namespace Dispatcher

namespace System

variable {settings : Settings} {system : System} {request : RequestId}

/-! ## The connection tasks -/

theorem Coherent.refuse (coherent : system.Coherent request) (refused : RequestId) (reply : Reply)
    (fresh : system.dispatcher.connections refused = .absent) :
    ({ system with
      dispatcher := { system.dispatcher with
        connections := Function.update system.dispatcher.connections refused (.refused reply) } } :
          System).Coherent request := by
  have settled := coherent.settle refused (.refused reply) (system.dispatcher.progress refused)
    (fun dispatcher refused => by rw [connectionTurns, refused]) rfl (fun _ => ⟨fresh, rfl⟩)
  simpa only [Function.update_eq_self] using settled

theorem Coherent.complete (coherent : system.Coherent request) (completed : RequestId)
    (reply : Reply) :
    ({ system with
      dispatcher := { system.dispatcher with
        connections := Function.update system.dispatcher.connections completed
          (.replied reply) } } :
          System).Coherent request := by
  have settled := coherent.settle completed (.replied reply) (system.dispatcher.progress completed)
    (fun _ => connectionTurns_replied) rfl (by simp)
  simpa only [Function.update_eq_self] using settled

theorem Coherent.accept (coherent : system.Coherent request) (accepted : RequestId)
    (payload : Request) (deadline : Nat)
    (fresh : system.dispatcher.connections accepted = .absent) :
    ({ system with
      dispatcher := { system.dispatcher with
        connections := Function.update system.dispatcher.connections accepted (.trying 1)
        payloads := Function.update system.dispatcher.payloads accepted payload
        deadlines := Function.update system.dispatcher.deadlines accepted deadline
        progress := Function.update system.dispatcher.progress accepted .default } } :
          System).Coherent request := by
  by_cases other : request = accepted
  · subst other
    obtain ⟨none, -, unsent, unset⟩ := coherent.idle (.inl fresh)
    obtain ⟨-, waiting, running⟩ : _ ∧ _ ∧ _ := by
      simpa only [turns, List.append_eq_nil_iff] using none
    have absent : ∀ number, (system.exchanges (request, number)).sent = true → False := by
      simp [unsent]
    refine Coherent.hand (.inr ⟨.trying 1, turns_of_connection ?_ waiting running, ?_⟩) ?_
      coherent.single (by simp)
    · exact connectionTurns_trying (Function.update_self _ _ _)
    · exact ⟨by simp [Progress.default], fun number sent => (absent number sent).elim,
        fun later _ => unset later (Nat.zero_le _)⟩
    · exact fun _ number sent => (absent number sent).elim
  · refine coherent.shrink ?_ (by simp [other]) (fun _ => rfl) (fun _ => rfl) ?_
    · exact turns_sublist (connectionTurns_congr (Function.update_of_ne other _ _) fun _ => rfl)
        rfl rfl
    · simp only [Function.update_of_ne other]
      exact fun early => ⟨early, trivial⟩

private theorem waitingTurns_enqueue (dispatcher : Dispatcher) (attempt : Attempt)
    (request : RequestId) :
    waitingTurns ({ dispatcher with queue := dispatcher.queue ++ [attempt] } :
      Dispatcher).waitingAttempts request =
        waitingTurns dispatcher.waitingAttempts request ++ waitingTurns [attempt] request := by
  rw [waitingAttempts, waitingAttempts, ← List.append_assoc, waitingTurns_append]

theorem Coherent.enqueue (coherent : system.Coherent request) {attempt : Attempt}
    (trying : system.dispatcher.connections attempt.request = .trying attempt.number) :
    ({ system with
      dispatcher := { system.dispatcher with
        connections :=
          Function.update system.dispatcher.connections attempt.request (.awaiting attempt.number)
        queue := system.dispatcher.queue ++ [attempt] } } : System).Coherent request := by
  by_cases same : request = attempt.request
  · subst same
    obtain ⟨known, waiting, performing⟩ :=
      coherent.of_connection (connectionTurns_trying trying)
    refine Coherent.hand (.inr ⟨.waiting attempt.number, turns_of_waiting ?_ ?_ performing, known⟩)
      coherent.clear coherent.single (by simp)
    · exact connectionTurns_unset (Function.update_self _ _ _)
        (known.2.2 attempt.number (Nat.le_refl _))
    · exact (waitingTurns_enqueue system.dispatcher attempt attempt.request).trans
        (by rw [waiting, waitingTurns_self]; rfl)
  · refine coherent.shrink ?_ rfl (fun _ => rfl) (fun _ => rfl) ?_
    · refine turns_sublist (connectionTurns_congr (Function.update_of_ne same _ _) fun _ => rfl)
        ?_ rfl
      exact (waitingTurns_enqueue system.dispatcher attempt request).trans
        (by rw [waitingTurns_other [] (Ne.symm same)]; exact List.append_nil _)
    · simp only [Function.update_of_ne same]
      exact fun early => ⟨early, trivial⟩

theorem Coherent.wake (coherent : system.Coherent request) {holder : RequestId}
    {number moment : Nat}
    (pausing : system.dispatcher.connections holder = .pausing number moment) :
    ({ system with
      dispatcher := { system.dispatcher with
        connections := Function.update system.dispatcher.connections holder
          (.trying (number + 1)) } } : System).Coherent request :=
  coherent.turn holder (connectionTurns_pausing pausing) (fun _ => connectionTurns_trying)
    (by simp) id

theorem Coherent.resume (coherent : system.Coherent request) {holder : RequestId} {number : Nat}
    {result : Result} (awaiting : system.dispatcher.connections holder = .awaiting number)
    (sent : system.dispatcher.outcomes (holder, number) = .sent result) :
    ({ system with dispatcher := system.dispatcher.resume holder number result } :
      System).Coherent request := by
  have held : connectionTurns system.dispatcher holder = [.settled number (.sent result)] := by
    rw [connectionTurns_settled awaiting (by simp [sent]), sent]
  unfold Dispatcher.resume
  split
  · exact coherent.fail holder _ _
  · rename_i response
    split
    · exact coherent.complete holder _
    · exact coherent.fail holder _ _
    · rename_i seconds paused
      refine coherent.turn holder held (fun _ => connectionTurns_pausing) (by simp) ?_
      rintro ⟨below, unset, recorded⟩
      exact ⟨recorded _ rfl response rfl (of_verdict_pause paused).1, below, unset⟩

theorem Coherent.hangUp (coherent : system.Coherent request) {holder : RequestId} {reply : Reply}
    (replied : system.dispatcher.connections holder = .replied reply) :
    ({ system with
      dispatcher := { system.dispatcher with
        progress := Function.update system.dispatcher.progress holder
          (system.dispatcher.progress holder).close } } : System).Coherent request := by
  have settled := coherent.settle holder (.replied reply)
    (system.dispatcher.progress holder).close (fun _ => connectionTurns_replied) rfl (by simp)
  rwa [← replied, Function.update_eq_self] at settled

/-! ## The executor -/

/-- With an attempt about to begin there is no other turn. -/
theorem Coherent.of_checked {attempt : Attempt} (coherent : system.Coherent attempt.request)
    (checked : system.dispatcher.executor = .checked attempt) :
    system.Knows attempt.request (.waiting attempt.number) ∧
      turns system.dispatcher attempt.request ≠ [] ∧
      connectionTurns system.dispatcher attempt.request = [] ∧
        waitingTurns system.dispatcher.queue attempt.request = [] ∧
          runningTurns system.dispatcher.running attempt.request = [] := by
  have waiting : system.dispatcher.waitingAttempts = [] ++ attempt :: system.dispatcher.queue :=
    waitingAttempts_some (by rw [checked]; rfl)
  obtain ⟨known, unconnected, -, rest, running⟩ := coherent.of_waiting waiting
  refine ⟨known, ?_, unconnected, rest, running⟩
  rw [turns, waiting, List.nil_append, waitingTurns_self]
  simp

/-- An attempt about to begin was not sent before. -/
theorem Coherent.unsent {attempt : Attempt} (coherent : system.Coherent attempt.request)
    (checked : system.dispatcher.executor = .checked attempt) :
    (system.exchanges attempt.id).sent = false := by
  obtain ⟨⟨-, below, -⟩, -⟩ := coherent.of_checked checked
  rw [Bool.eq_false_iff]
  intro sent
  exact absurd (below attempt.number sent) (Nat.lt_irrefl _)

/-- To begin an attempt is to send its call. -/
theorem Coherent.calls {attempt : Attempt} (coherent : system.Coherent attempt.request)
    (checked : system.dispatcher.executor = .checked attempt) :
    Exchange.Calls HttpReply.Denies system.exchanges attempt.id .send
      (Function.update system.exchanges attempt.id
        { system.exchanges attempt.id with sent := true }) :=
  .step _ _ _ _ (.send _ (coherent.unsent checked))

theorem Coherent.begin (coherent : ∀ request, system.Coherent request) {attempt : Attempt}
    {progress : Progress} (checked : system.dispatcher.executor = .checked attempt)
    (begun : (system.dispatcher.progress attempt.request).begin attempt.deadline
      system.dispatcher.clock = some progress) (request : RequestId) :
    ({ dispatcher := { system.dispatcher with
        executor := .idle
        progress := Function.update system.dispatcher.progress attempt.request progress
        running := system.dispatcher.running ++ [{ attempt, stage := .sending }] }
       exchanges := Function.update system.exchanges attempt.id
        { system.exchanges attempt.id with sent := true } } : System).Coherent request := by
  have calls := (coherent attempt.request).calls checked
  by_cases same : attempt.request = request
  · subst same
    obtain ⟨⟨clear, below, unset⟩, held, unconnected, rest, running⟩ :=
      (coherent attempt.request).of_checked checked
    obtain ⟨isOpen, early, rfl⟩ := Progress.begin_eq_some.mp begun
    have others : ∀ number, (Function.update system.exchanges attempt.id
          { system.exchanges attempt.id with sent := true } (attempt.request, number)).sent = true →
        number ≠ attempt.number → (Function.update system.exchanges attempt.id
          { system.exchanges attempt.id with sent := true } (attempt.request, number)).Denied
            HttpReply.Denies := by
      intro number sent other
      rcases (calls.sent _).mp sent with before | ⟨same, -⟩
      · exact calls.denied ((coherent attempt.request).clear clear number before)
      · exact absurd (congrArg Prod.snd same) other
    refine Coherent.hand (.inr ⟨.running attempt.number .sending,
      turns_of_running unconnected rest ?_, ?_, unset, ?_, others⟩) ?_
      (.of_others attempt.number others) ((coherent attempt.request).busy held)
    · rw [runningTurns_append, running]
      exact runningTurns_self attempt .sending []
    · intro number sent
      rcases (calls.sent _).mp sent with before | ⟨same, -⟩
      · exact (below number before).trans (Nat.lt_succ_self _)
      · exact (congrArg Prod.snd same).trans_lt (Nat.lt_succ_self _)
    · simp
    · simp
  · have exchanges : ∀ number, Function.update system.exchanges attempt.id
        { system.exchanges attempt.id with sent := true } (request, number) =
          system.exchanges (request, number) :=
      fun number => Function.update_of_ne (fun equal => same (congrArg Prod.fst equal).symm) _ _
    have progress : Function.update system.dispatcher.progress attempt.request progress request =
        system.dispatcher.progress request := Function.update_of_ne (Ne.symm same) _ _
    refine (coherent request).shrink ?_ (congrArg _ progress) (fun _ => rfl) exchanges
      fun early => ⟨early, progress⟩
    refine turns_sublist rfl ?_ ?_
    · have waiting : system.dispatcher.waitingAttempts = attempt :: system.dispatcher.queue :=
        waitingAttempts_some (by rw [checked]; rfl)
      exact ((congrArg (waitingTurns · request) waiting).trans (waitingTurns_other _ same)).symm
    · rw [runningTurns_append, runningTurns_other .sending [] same]
      exact List.append_nil _

/-! ## The HTTP tasks -/

/-- An HTTP task goes on. -/
theorem Coherent.perform (coherent : system.Coherent request) {front back : List HttpTask}
    {attempt : Attempt} {stage : Stage} (stage' : Stage) (gate : Gate) (progress : Progress)
    (held : system.dispatcher.running = front ++ { attempt, stage } :: back)
    (clear : progress.mayHaveExecuted = false → ∀ number,
      (system.exchanges (attempt.request, number)).sent = true →
        (system.exchanges (attempt.request, number)).Denied HttpReply.Denies)
    (knows : system.Knows attempt.request (.running attempt.number stage) →
      ({ system with
        dispatcher := { system.dispatcher with
          gate
          progress := Function.update system.dispatcher.progress attempt.request progress
          running := front ++ { attempt, stage := stage' } :: back } } : System).Knows
            attempt.request (.running attempt.number stage')) :
    ({ system with
      dispatcher := { system.dispatcher with
        gate
        progress := Function.update system.dispatcher.progress attempt.request progress
        running := front ++ { attempt, stage := stage' } :: back } } :
          System).Coherent request := by
  by_cases same : attempt.request = request
  · subst same
    obtain ⟨known, unconnected, waiting, before, behind⟩ :=
      coherent.of_running held
    refine Coherent.hand (.inr ⟨.running attempt.number stage',
      turns_of_running unconnected waiting ?_, knows known⟩) ?_ coherent.single (coherent.busy ?_)
    · rw [runningTurns_append, before]
      exact (runningTurns_self attempt stage' back).trans (congrArg _ behind)
    · simpa only [Function.update_self] using clear
    · rw [turns, held, runningTurns_append, runningTurns_self attempt stage back]
      simp
  · have elsewhere : Function.update system.dispatcher.progress attempt.request progress request =
        system.dispatcher.progress request := Function.update_of_ne (Ne.symm same) _ _
    refine coherent.shrink ?_ (congrArg _ elsewhere) (fun _ => rfl) (fun _ => rfl)
      fun early => ⟨early, elsewhere⟩
    refine turns_sublist rfl rfl ?_
    rw [held, runningTurns_append, runningTurns_append, runningTurns_other stage' back same,
      runningTurns_other stage back same]

theorem Coherent.return (coherent : ∀ request, system.Coherent request)
    {front back : List HttpTask} {attempt : Attempt} (result : Result)
    (held : system.dispatcher.running = front ++ { attempt, stage := .sending } :: back)
    (told : ∀ response, result = .ok response →
      (system.exchanges attempt.id).answer = some response) (request : RequestId) :
    ({ system with
      dispatcher := { system.dispatcher with
        running := front ++ { attempt, stage := .returned result } :: back } } :
          System).Coherent request := by
  have performed := (coherent request).perform (.returned result) system.dispatcher.gate
    (system.dispatcher.progress attempt.request) held (coherent attempt.request).clear
    fun ⟨below, unset, _, others⟩ => ⟨below, unset, others, told⟩
  simpa only [Function.update_eq_self] using performed

/-- A denial closes the books on the attempts sent so far. -/
theorem Coherent.mark (coherent : ∀ request, system.Coherent request)
    {front back : List HttpTask} {attempt : Attempt} {response : HttpReply}
    (held : system.dispatcher.running =
      front ++ { attempt, stage := .returned (.ok response) } :: back)
    (denied : notStarted response) (request : RequestId) :
    ({ system with
      dispatcher := { system.dispatcher with
        progress := Function.update system.dispatcher.progress attempt.request
          (system.dispatcher.progress attempt.request).deny
        running := front ++ { attempt, stage := .marked (.ok response) } :: back } } :
          System).Coherent request := by
  obtain ⟨⟨-, -, others, told⟩, -⟩ := (coherent attempt.request).of_running held
  refine (coherent request).perform (.marked (.ok response)) system.dispatcher.gate
    (system.dispatcher.progress attempt.request).deny held ?_ ?_
  · intro _ number sent
    by_cases same : number = attempt.number
    · subst same
      exact ⟨response, told response rfl, notStarted_iff.mp denied⟩
    · exact others number sent same
  · rintro ⟨below, unset, -⟩
    refine ⟨below, unset, fun _ _ _ => ?_⟩
    simp [Progress.deny]

/-- Nothing is recorded for other results. -/
theorem Coherent.unmarked (coherent : ∀ request, system.Coherent request)
    {front back : List HttpTask} {attempt : Attempt} {result : Result}
    (held : system.dispatcher.running = front ++ { attempt, stage := .returned result } :: back)
    (undenied : ∀ response, result = .ok response → notStarted response = false)
    (request : RequestId) :
    ({ system with
      dispatcher := { system.dispatcher with
        running := front ++ { attempt, stage := .marked result } :: back } } :
          System).Coherent request := by
  have performed := (coherent request).perform (.marked result) system.dispatcher.gate
    (system.dispatcher.progress attempt.request) held (coherent attempt.request).clear
    fun ⟨below, unset, _⟩ => ⟨below, unset, fun response ok denied => by
      rw [undenied response ok] at denied
      cases denied⟩
  simpa only [Function.update_eq_self] using performed

theorem Coherent.release (coherent : ∀ request, system.Coherent request)
    {front back : List HttpTask} {attempt : Attempt} {result : Result} (gate : Gate)
    (held : system.dispatcher.running = front ++ { attempt, stage := .marked result } :: back)
    (request : RequestId) :
    ({ system with
      dispatcher := { system.dispatcher with
        gate
        running := front ++ { attempt, stage := .released result } :: back } } :
          System).Coherent request := by
  have performed := (coherent request).perform (.released result) gate
    (system.dispatcher.progress attempt.request) held (coherent attempt.request).clear
    fun ⟨below, unset, recorded⟩ => ⟨below, unset, by simpa only [Function.update_eq_self]⟩
  simpa only [Function.update_eq_self] using performed

theorem Coherent.reply (coherent : system.Coherent request) {front back : List HttpTask}
    {attempt : Attempt} {result : Result}
    (held : system.dispatcher.running = front ++ { attempt, stage := .released result } :: back) :
    ({ system with
      dispatcher := { system.dispatcher with
        outcomes := Function.update system.dispatcher.outcomes attempt.id (.sent result)
        running := front ++ back } } : System).Coherent request := by
  by_cases same : attempt.request = request
  · subst same
    obtain ⟨⟨below, unset, recorded⟩, unconnected, waiting, before, behind⟩ :=
      coherent.of_running held
    have sent : Function.update system.dispatcher.outcomes attempt.id (.sent result)
        (attempt.request, attempt.number) = .sent result := Function.update_self _ _ _
    refine coherent.conclude attempt.number ?_ rfl rfl update_outcome
      (sent.trans_ne nofun) unconnected waiting ?_ below unset ?_
    · rw [turns, held, runningTurns_append, runningTurns_self]
      simp
    · rw [runningTurns_append, before, behind]
      rfl
    · rintro _ told
      obtain ⟨rfl⟩ := sent.symm.trans told
      exact recorded
  · refine coherent.bystand rfl rfl (update_outcome_of_ne same) rfl ?_
    rw [held, runningTurns_append, runningTurns_append, runningTurns_other _ _ same]

/-- The attempts in the queue are dropped with it. -/
theorem Coherent.close (coherent : system.Coherent request)
    (done : system.dispatcher.executor.attempt = none) :
    ({ system with
      dispatcher := { system.dispatcher with
        executor := .stopped
        queue := []
        outcomes := fun id =>
          if system.dispatcher.queue.any fun attempt => attempt.id = id then .dropped
          else system.dispatcher.outcomes id } } : System).Coherent request := by
  have waiting := waitingAttempts_none done
  by_cases queued : ∃ attempt ∈ system.dispatcher.queue, attempt.request = request
  · obtain ⟨attempt, member, rfl⟩ := queued
    obtain ⟨front, back, held⟩ := List.append_of_mem member
    obtain ⟨⟨clear, below, unset⟩, unconnected, before, behind, running⟩ :=
      coherent.of_waiting (waiting.trans held)
    rw [waitingTurns_eq_nil] at before behind
    have nonempty : turns system.dispatcher attempt.request ≠ [] := by
      rw [turns, waiting, held, waitingTurns_append, waitingTurns_self]
      simp
    refine coherent.conclude attempt.number nonempty rfl rfl ?_ ?_ unconnected rfl running
      (fun sent began => (below sent began).trans (Nat.lt_succ_self _)) unset ?_
    · intro other different
      refine if_neg ?_
      simp only [List.any_eq_true, decide_eq_true_eq, not_exists, not_and, held, List.mem_append,
        List.mem_cons]
      rintro queued (early | rfl | late) equal
      · exact before queued early (congrArg Prod.fst equal)
      · exact different (congrArg Prod.snd equal).symm
      · exact behind queued late (congrArg Prod.fst equal)
    · simp only [held, List.any_append, List.any_cons]
      simp [Attempt.id]
    · simp only [held, List.any_append, List.any_cons]
      simp [Attempt.id]
  · simp only [not_exists, not_and] at queued
    have none := waitingTurns_eq_nil.mpr queued
    refine coherent.bystand rfl rfl (fun number => if_neg ?_) ?_ rfl
    · simp only [List.any_eq_true, decide_eq_true_eq, not_exists, not_and]
      exact fun attempt member equal => queued attempt member (congrArg Prod.fst equal)
    · rw [waiting, none]
      rfl

/-! ## The gateway -/

theorem Coherent.remote (coherent : system.Coherent request) {attempt : AttemptId}
    {event : Exchange.Event HttpReply} {exchanges : AttemptId → Exchange HttpReply}
    (delivered : event ≠ .send)
    (calls : Exchange.Calls HttpReply.Denies system.exchanges attempt event exchanges) :
    ({ system with exchanges } : System).Coherent request := by
  obtain ⟨alone, knows, clear, single, idle⟩ := coherent
  have sent : ∀ id, (exchanges id).sent = true ↔ (system.exchanges id).sent = true := fun id => by
    rw [calls.sent]
    simp [delivered]
  have below : ∀ number, system.Below request number →
      ({ system with exchanges } : System).Below request number :=
    fun number below later began => below later ((sent _).mp began)
  have others : ∀ number, system.Others request number →
      ({ system with exchanges } : System).Others request number :=
    fun number others other began different =>
      calls.denied (others other ((sent _).mp began) different)
  refine ⟨alone, fun turn member => ?_, ?_, ?_, fun early => ?_⟩
  · have known := knows turn member
    cases turn with
    | running number stage =>
        cases stage with
        | sending => exact ⟨below _ known.1, known.2.1, known.2.2.1, others _ known.2.2.2⟩
        | returned result =>
            exact ⟨below _ known.1, known.2.1, others _ known.2.2.1,
              fun response ok => calls.answered (known.2.2.2 response ok)⟩
        | _ => exact ⟨below _ known.1, known.2⟩
    | settled number outcome => exact ⟨below _ known.1, known.2⟩
    | _ => exact ⟨known.1, below _ known.2.1, known.2.2⟩
  · exact fun unexecuted number began => calls.denied (clear unexecuted number ((sent _).mp began))
  · exact fun left right left_sent right_sent different =>
      (single left right ((sent _).mp left_sent) ((sent _).mp right_sent) different).imp
        calls.denied calls.denied
  · obtain ⟨none, fresh, unsent, unset⟩ := idle early
    refine ⟨none, fresh, fun number => ?_, unset⟩
    rw [Bool.eq_false_iff, Ne, sent, unsent number]
    exact Bool.false_ne_true

/-! ## Runs -/

theorem Coherent.step {before after : System} {event : SystemEvent}
    (coherent : ∀ request, before.Coherent request) (step : SystemStep settings before event after)
    (request : RequestId) : after.Coherent request := by
  cases step with
  | dispatcher event after own step =>
      cases step with
      | tick now later => exact (coherent request).same rfl rfl rfl rfl rfl
      | policy policy gate applied => exact (coherent request).same rfl rfl rfl rfl rfl
      | pause => exact (coherent request).same rfl rfl rfl rfl rfl
      | stop => exact (coherent request).same rfl rfl rfl rfl rfl
      | full refused fresh => exact (coherent request).refuse refused _ fresh
      | refuse refused frame reply fresh _ => exact (coherent request).refuse refused reply fresh
      | accept accepted frame payload remaining fresh _ =>
          exact (coherent request).accept accepted payload _ fresh
      | enqueue holder number attempt trying isOpen room made =>
          obtain ⟨rfl, rfl⟩ : attempt.request = holder ∧ attempt.number = number := by
            rw [made]
            exact ⟨rfl, rfl⟩
          exact (coherent request).enqueue trying
      | reject holder number trying stopped => exact (coherent request).fail holder _ _
      | receive holder number result awaiting sent => exact (coherent request).resume awaiting sent
      | lose holder number awaiting dropped => exact (coherent request).fail holder _ _
      | wake holder number moment pausing due => exact (coherent request).wake pausing
      | expire holder busy due => exact (coherent request).fail holder _ _
      | disconnect holder busy =>
          exact (coherent request).settle holder .vanished
            (before.dispatcher.progress holder).close
            (fun dispatcher vanished => by rw [connectionTurns, vanished]) rfl (by simp)
      | hangUp holder reply replied => exact (coherent request).hangUp replied
      | take attempt rest idle next =>
          refine (coherent request).same rfl rfl rfl ?_ rfl
          exact ((waitingAttempts_none (by rw [idle]; rfl)).trans next).symm
      | skip attempt waiting closed =>
          exact (coherent request).abandon before.dispatcher.gate .dropped
            (by rw [waiting]; rfl) rfl
            (.inl rfl)
      | overdue attempt waiting due =>
          exact (coherent request).abandon before.dispatcher.gate _ (by rw [waiting]; rfl) rfl
            (.inr ⟨_, rfl⟩)
      | acquire attempt gate waiting acquired =>
          refine (coherent request).same rfl rfl rfl ?_ rfl
          exact (waitingAttempts_some (by rw [waiting]; rfl)).symm
      | halt attempt error waiting stopped =>
          exact (coherent request).abandon before.dispatcher.gate .dropped
            (by rw [waiting]; rfl) rfl
            (.inl rfl)
      | check attempt granted isOpen =>
          refine (coherent request).same rfl rfl rfl ?_ rfl
          exact (waitingAttempts_some (by rw [granted]; rfl)).symm
      | declineClosed attempt granted closed =>
          exact (coherent request).abandon before.dispatcher.gate _ (by rw [granted]; rfl) rfl
            (.inr ⟨_, rfl⟩)
      | decline attempt checked refused =>
          exact (coherent request).abandon before.dispatcher.gate _ (by rw [checked]; rfl) rfl
            (.inr ⟨_, rfl⟩)
      | yield declined =>
          refine (coherent request).same rfl rfl rfl ?_ rfl
          exact (waitingAttempts_none (by rw [declined]; rfl)).symm
      | begin => cases own
      | «return» => cases own
      | mark front back attempt result returned =>
          cases result with
          | error => exact Coherent.unmarked coherent returned (by simp) request
          | ok response =>
              cases denied : notStarted response with
              | false =>
                  have unmarked := Coherent.unmarked coherent returned (by simp [denied]) request
                  simpa [denied] using unmarked
              | true =>
                  have marked := Coherent.mark coherent returned denied request
                  simpa [denied] using marked
      | release front back attempt result marked =>
          exact Coherent.release coherent _ marked request
      | reply front back attempt result released => exact (coherent request).reply released
      | close done =>
          refine (coherent request).close ?_
          rcases done with ⟨closing, -⟩ | ⟨-, -, idle | closing⟩
          · rw [closing]; rfl
          · rw [idle]; rfl
          · rw [closing]; rfl
  | begin attempt after step =>
      cases step with
      | begin attempt progress checked begun => exact Coherent.begin coherent checked begun request
  | answered attempt response after answered step =>
      cases step with
      | «return» front back attempt result sending =>
          exact Coherent.return coherent _ sending (by simpa using answered) request
  | lost attempt error after step =>
      cases step with
      | «return» front back attempt result sending =>
          exact Coherent.return coherent _ sending (by simp) request
  | remote attempt event exchanges delivered calls =>
      exact (coherent request).remote delivered calls

private theorem coherent_start (request : RequestId) : System.start.Coherent request := by
  have none : turns System.start.dispatcher request = [] := rfl
  refine ⟨by simp [none], by simp [none], ?_, ?_, fun _ =>
    ⟨none, rfl, fun _ => rfl, fun _ _ => rfl⟩⟩
  · intro _ number sent
    simp [start, Exchange.fresh] at sent
  · intro left right sent
    simp [start, Exchange.fresh] at sent

/-- What holds of every state of a run. -/
theorem coherent_run {trace : List SystemEvent} (run : SystemRun settings start trace system)
    (request : RequestId) : system.Coherent request :=
  run.invariant (fun system => ∀ request, system.Coherent request) Coherent.step coherent_start
    request

/-- The calls of a run keep the promises of the gateway. -/
theorem exchanges_run {trace : List SystemEvent} (run : SystemRun settings start trace system)
    (id : AttemptId) : Exchange.Sound HttpReply.Denies (system.exchanges id) := by
  refine run.invariantTrace (fun _ system => ∀ id, Exchange.Sound HttpReply.Denies
    (system.exchanges id)) (fun _ => Exchange.sound_fresh) ?_ id
  intro trace before after event earlier sound step
  cases step with
  | begin attempt after step =>
      cases step with
      | begin attempt progress checked begun =>
          exact ((coherent_run earlier attempt.request).calls checked).sound sound
  | remote attempt event exchanges delivered calls => exact calls.sound sound
  | _ => exact sound

end System

end Dispatcher

end AiProtocol
