import AiProtocol.Gateway.Machine

/-!
# Callers

A request runs through the phases of `enqueue` once.  It enters the locked section at most once, so
that it takes at most one permit and pushes at most one job.
-/

namespace AiProtocol

/-- How far a request is. -/
def Call.stage {Action : Type} : Call Action → Nat
  | .absent => 0
  | .submitted _ _ => 1
  | .entered => 2
  | .pushed => 3
  | .waiting => 4
  | .answered _ => 5
  | .left => 5

/-- The request inside its locked section. -/
def Section.caller {Action : Type} : Section Action → Option ReplyId
  | .admitting call _ _ => some call
  | .placing call _ _ _ => some call
  | .refusing call => some call
  | _ => none

/-- The event takes a permit for a request. -/
def Event.acquires {Action : Type} (call : ReplyId) : Event Action → Bool
  | .acquire caller _ => caller = call
  | _ => false

/-- The event accepts the job of a request. -/
def Event.accepts {Action : Type} (call : ReplyId) : Event Action → Bool
  | .push _ _ job => job.reply = call
  | _ => false

namespace Gateway

variable {Action : Type}

@[simp] theorem move_calls_self (gateway : Gateway Action) (call : ReplyId) (phase : Call Action) :
    (gateway.move call phase).calls call = phase :=
  Function.update_self _ _ _

theorem move_calls_ne (gateway : Gateway Action) {call other : ReplyId} (phase : Call Action)
    (ne : other ≠ call) : (gateway.move call phase).calls other = gateway.calls other :=
  Function.update_of_ne ne _ _

/-- Only the request which moves changes its phase. -/
theorem calls_of_move {gateway : Gateway Action} {caller call : ReplyId} {phase now : Call Action}
    (moved : (gateway.move caller phase).calls call = now) :
    gateway.calls call = now ∨ caller = call ∧ phase = now := by
  by_cases same : call = caller
  · subst same
    rw [move_calls_self] at moved
    exact .inr ⟨rfl, moved⟩
  · rw [move_calls_ne _ _ same] at moved
    exact .inl moved

@[simp] theorem perform_calls (gateway : Gateway Action) (effect : Effect) :
    (gateway.perform effect).calls = gateway.calls := by
  cases effect <;> rfl

@[simp] theorem perform_lock (gateway : Gateway Action) (effect : Effect) :
    (gateway.perform effect).lock = gateway.lock := by
  cases effect <;> rfl

@[simp] theorem perform_running (gateway : Gateway Action) (effect : Effect) :
    (gateway.perform effect).running = gateway.running := by
  cases effect <;> rfl

/-- What holds of all executions still holds after one of them made progress. -/
theorem forall_progress {Holds : Execution Action → Prop}
    {running front back : List (Execution Action)}
    {execution execution' : Execution Action} (all : ∀ execution ∈ running, Holds execution)
    (spawned : running = front ++ execution :: back) (next : Holds execution → Holds execution') :
    ∀ execution ∈ front ++ execution' :: back, Holds execution := by
  subst spawned
  simp only [List.mem_append, List.mem_cons] at all ⊢
  rintro other (early | rfl | late)
  · exact all other (.inl early)
  · exact next (all execution (.inr (.inl rfl)))
  · exact all other (.inr (.inr late))

/-- The request inside its locked section is in its locked phase. -/
def Inside (gateway : Gateway Action) : Prop :=
  ∀ call, gateway.lock.caller = some call → gateway.calls call = .entered

/-- Moving a request which is not inside its section leaves the others inside theirs. -/
theorem Inside.move {gateway : Gateway Action} (inside : gateway.Inside) {call : ReplyId}
    (outside : gateway.calls call ≠ .entered) (phase : Call Action) :
    ∀ other, gateway.lock.caller = some other →
      (gateway.move call phase).calls other = .entered := by
  intro other holds
  have entered := inside other holds
  rw [move_calls_ne]
  · exact entered
  · rintro rfl
    exact outside entered

theorem Inside.step {config : Config Action} {before after : Gateway Action} {event : Event Action}
    (inside : before.Inside) (step : Step config before event after) : after.Inside := by
  cases step with
  | submit call identity action fresh => exact inside.move (by simp [fresh]) _
  | refuseTest call identity action fresh => exact inside.move (by simp [fresh]) _
  | respond call response fresh => exact inside.move (by simp [fresh]) _
  | leave call awaiting =>
      refine inside.move ?_ _
      rcases awaiting with ⟨identity, action, submitted⟩ | waiting
      · simp [submitted]
      · simp [waiting]
  | turnAway call identity action submitted => exact inside.move (by simp [submitted]) _
  | enter call identity action closed submitted =>
      rintro other ⟨_⟩
      exact move_calls_self _ _ _
  | perform effect rest next =>
      intro call holds
      change (before.perform effect).lock.caller = some call at holds
      change (before.perform effect).calls call = .entered
      rw [perform_lock] at holds
      rw [perform_calls]
      exact inside call holds
  | acquire call identity action observed holds =>
      rintro other ⟨_⟩
      exact inside call (by rw [holds]; rfl)
  | overflow call identity action observed holds =>
      rintro other ⟨_⟩
      exact inside call (by rw [holds]; rfl)
  | notify call pushed => exact inside.move (by simp [pushed]) _
  | receive call response awaiting => exact inside.move (by simp [awaiting]) _
  | lose call awaiting => exact inside.move (by simp [awaiting]) _
  | pop later observe popped => intro other; dsimp only; split <;> exact nofun
  | exhausted | refuse | push | scan | saturated | spawn | finish | park | reject | inspect
  | unlock => exact nofun
  | _ => exact inside

theorem inside_run {config : Config Action} {gateway : Gateway Action} {trace : List (Event Action)}
    (run : Run config (start config) trace gateway) : gateway.Inside :=
  run.invariant Inside Inside.step nofun

theorem calls_move {gateway : Gateway Action} {call : ReplyId} {phase : Call Action}
    (forward : (gateway.calls call).stage < phase.stage) (other : ReplyId) :
    (gateway.move call phase).calls other = gateway.calls other ∨
      (gateway.calls other).stage < ((gateway.move call phase).calls other).stage := by
  by_cases same : other = call
  · subst same
    rw [move_calls_self]
    exact .inr forward
  · exact .inl (move_calls_ne _ _ same)

/-- Requests stay where they are or move forward. -/
theorem calls_step {config : Config Action} {before after : Gateway Action} {event : Event Action}
    (inside : before.Inside) (step : Step config before event after) (other : ReplyId) :
    after.calls other = before.calls other ∨
      (before.calls other).stage < (after.calls other).stage := by
  have entered : ∀ call, before.lock.caller = some call → (before.calls call).stage = 2 := by
    intro call holds
    rw [inside call holds]
    rfl
  cases step with
  | submit call identity action fresh => exact calls_move (by simp [fresh, Call.stage]) other
  | refuseTest call identity action fresh => exact calls_move (by simp [fresh, Call.stage]) other
  | respond call response fresh => exact calls_move (by simp [fresh, Call.stage]) other
  | leave call awaiting =>
      refine calls_move ?_ other
      rcases awaiting with ⟨identity, action, submitted⟩ | waiting
      · simp [submitted, Call.stage]
      · simp [waiting, Call.stage]
  | turnAway call identity action submitted =>
      exact calls_move (by simp [submitted, Call.stage]) other
  | enter call identity action closed submitted =>
      exact calls_move (by simp [submitted, Call.stage]) other
  | perform effect rest next => exact .inl (congrFun (perform_calls before effect) other)
  | exhausted call identity action holds =>
      exact calls_move (by rw [entered call (by rw [holds]; rfl)]; simp [Call.stage]) other
  | refuse call holds =>
      exact calls_move (by rw [entered call (by rw [holds]; rfl)]; simp [Call.stage]) other
  | push call identity action observed job holds =>
      exact calls_move (by rw [entered call (by rw [holds]; rfl)]; simp [Call.stage]) other
  | notify call pushed => exact calls_move (by simp [pushed, Call.stage]) other
  | receive call response awaiting => exact calls_move (by simp [awaiting, Call.stage]) other
  | lose call awaiting => exact calls_move (by simp [awaiting, Call.stage]) other
  | _ => exact .inl rfl

theorem stage_step {config : Config Action} {before after : Gateway Action} {event : Event Action}
    (inside : before.Inside) (step : Step config before event after) (call : ReplyId) :
    (before.calls call).stage ≤ (after.calls call).stage := by
  rcases calls_step inside step call with same | forward
  · rw [same]
  · exact forward.le

/-- An answer is final. -/
theorem answered_step {config : Config Action} {before after : Gateway Action}
    {event : Event Action} (inside : before.Inside) (step : Step config before event after)
    {call : ReplyId} {response : Response} (answered : before.calls call = .answered response) :
    after.calls call = .answered response := by
  rcases calls_step inside step call with same | forward
  · rw [same, answered]
  · rw [answered] at forward
    cases later : after.calls call <;> simp [later, Call.stage] at forward

/-- Where a step answers a request. -/
inductive Answering (config : Config Action) (before : Gateway Action) (call : ReplyId) :
    Response → Prop
  | test (fresh : before.calls call = .absent) :
      Answering config before call (overloaded "test_rejection" "2")
  | decided (response : Response) (fresh : before.calls call = .absent)
      (decided : config.decides (.respond response)) : Answering config before call response
  | closed (identity : ClientIdentity) (action : Action)
      (submitted : before.calls call = .submitted identity action) :
      Answering config before call gatewayClosed
  | exhausted (identity : ClientIdentity) (action : Action)
      (holds : before.lock = .admitting call identity action) :
      Answering config before call (overloaded "budget_exhausted" "1")
  | full (holds : before.lock = .refusing call) (idle : before.todo = []) :
      Answering config before call (overloaded "queue_full" "1")
  | received (response : Response) (sent : before.channels call = .sent response) :
      Answering config before call response
  | lost (dropped : before.channels call = .dropped) : Answering config before call internalError

theorem answering_of_move {config : Config Action} {before : Gateway Action}
    {caller call : ReplyId} {phase : Call Action} {response : Response}
    (fresh : phase = .answered response → Answering config before caller response)
    (answered : (before.move caller phase).calls call = .answered response) :
    before.calls call = .answered response ∨ Answering config before call response := by
  rcases calls_of_move answered with already | ⟨rfl, told⟩
  · exact .inl already
  · exact .inr (fresh told)

/-- An answer was there before, or the step gives it. -/
theorem answering_of_step {config : Config Action} {before after : Gateway Action}
    {event : Event Action} (step : Step config before event after) {call : ReplyId}
    {response : Response} (answered : after.calls call = .answered response) :
    before.calls call = .answered response ∨ Answering config before call response := by
  cases step with
  | submit | leave | enter | push | notify => exact answering_of_move (by simp) answered
  | refuseTest caller identity action fresh =>
      refine answering_of_move ?_ answered
      rintro ⟨⟩
      exact .test fresh
  | respond caller told fresh decided =>
      refine answering_of_move ?_ answered
      rintro ⟨⟩
      exact .decided response fresh decided
  | turnAway caller identity action submitted =>
      refine answering_of_move ?_ answered
      rintro ⟨⟩
      exact .closed identity action submitted
  | exhausted caller identity action holds =>
      refine answering_of_move ?_ answered
      rintro ⟨⟩
      exact .exhausted identity action holds
  | refuse caller holds idle =>
      refine answering_of_move ?_ answered
      rintro ⟨⟩
      exact .full holds idle
  | receive caller told awaiting sent =>
      refine answering_of_move ?_ answered
      rintro ⟨⟩
      exact .received response sent
  | lose caller awaiting dropped =>
      refine answering_of_move ?_ answered
      rintro ⟨⟩
      exact .lost dropped
  | perform effect => exact .inl (by simpa using answered)
  | _ => exact .inl answered

/-- A request has not passed `try_acquire_observed` yet. -/
def Unspent (call : ReplyId) (gateway : Gateway Action) : Prop :=
  (gateway.calls call).stage ≤ 1 ∨
    ∃ identity action, gateway.lock = .admitting call identity action

/-- A request has not pushed a job yet. -/
def Unpushed (call : ReplyId) (gateway : Gateway Action) : Prop :=
  (gateway.calls call).stage ≤ 2

private theorem unspent_of_step {config : Config Action} {before after : Gateway Action}
    {event : Event Action} (inside : before.Inside) (step : Step config before event after)
    {call : ReplyId} (fresh : after.Unspent call) : before.Unspent call := by
  have forward := stage_step inside step call
  rcases fresh with early | ⟨identity, action, holds⟩
  · exact .inl (forward.trans early)
  · cases step with
    | enter caller =>
        obtain ⟨rfl, rfl, rfl⟩ : _ ∧ _ ∧ _ := by simpa using holds
        rename_i submitted _ _ _
        exact .inl (by simp [submitted, Call.stage])
    | perform effect rest next =>
        change (before.perform effect).lock = _ at holds
        rw [perform_lock] at holds
        exact .inr ⟨identity, action, holds⟩
    | pop => revert holds; dsimp only; split <;> exact nofun
    | _ => first | exact .inr ⟨identity, action, holds⟩ | exact nomatch holds

/-- A request takes at most one permit, and none before `try_acquire_observed`. -/
theorem acquires_run {config : Config Action} {gateway : Gateway Action}
    {trace : List (Event Action)} (run : Run config (start config) trace gateway)
    (call : ReplyId) : trace.countP (Event.acquires call) ≤ 1 ∧
      (gateway.Unspent call → trace.countP (Event.acquires call) = 0) := by
  refine run.once (Unspent call) (Event.acquires call) ?_ ?_
  · intro trace before after event earlier step acquires
    have inside := inside_run earlier
    cases step with
    | acquire caller identity action observed holds =>
        obtain rfl : caller = call := by simpa [Event.acquires] using acquires
        refine ⟨.inr ⟨identity, action, holds⟩, ?_⟩
        rintro (early | ⟨_, _, ⟨⟩⟩)
        have entered := inside caller (by rw [holds]; rfl)
        simp [entered, Call.stage] at early
    | _ => simp [Event.acquires] at acquires
  · intro trace before after event earlier step fresh
    exact unspent_of_step (inside_run earlier) step fresh

theorem acquires_once {config : Config Action} {gateway : Gateway Action}
    {trace : List (Event Action)} (run : Run config (start config) trace gateway)
    (call : ReplyId) : trace.countP (Event.acquires call) ≤ 1 :=
  (acquires_run run call).1

theorem entered_of_accepts {config : Config Action} {before after : Gateway Action}
    {event : Event Action} (inside : before.Inside) (step : Step config before event after)
    {call : ReplyId} (accepts : event.accepts call) :
    before.calls call = .entered ∧ after.calls call = .pushed := by
  cases step with
  | push caller identity action observed job holds idle room accepted =>
      obtain rfl : caller = call := by simpa [Event.accepts, accepted] using accepts
      exact ⟨inside caller (by rw [holds]; rfl), move_calls_self _ _ _⟩
  | _ => simp [Event.accepts] at accepts

/-- A request pushes at most one job, and none before the end of its locked section. -/
theorem accepts_once {config : Config Action} {gateway : Gateway Action}
    {trace : List (Event Action)} (run : Run config (start config) trace gateway)
    (call : ReplyId) : trace.countP (Event.accepts call) ≤ 1 ∧
      (gateway.Unpushed call → trace.countP (Event.accepts call) = 0) := by
  refine run.once (Unpushed call) (Event.accepts call) ?_ ?_
  · intro trace before after event earlier step accepts
    obtain ⟨entered, pushed⟩ := entered_of_accepts (inside_run earlier) step accepts
    exact ⟨by simp [Unpushed, entered, Call.stage], by simp [Unpushed, pushed, Call.stage]⟩
  · intro trace before after event earlier step fresh
    exact (stage_step (inside_run earlier) step call).trans fresh

end Gateway

end AiProtocol
