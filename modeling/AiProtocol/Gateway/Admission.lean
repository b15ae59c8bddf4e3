import AiProtocol.Gateway.Accounting

/-!
# Admission under dynamic limits

The locked section of `enqueue` as one function of the gateway, with the decision it takes.  The
section is a run of the gateway, and its decision depends on the state after the scan alone.
-/

namespace AiProtocol

/-- How the locked section of `enqueue` ends. -/
inductive Admission where
  /-- `gateway_closed`. -/
  | closed
  /-- `budget_exhausted`. -/
  | exhausted
  /-- `queue_full`. -/
  | full
  /-- The job is queued; the snapshot was taken with its permit. -/
  | admitted (observed : Snapshot)

namespace Gateway

variable {Action : Type}

/-- The gateway after `maintain` at its clock. -/
def maintained (gateway : Gateway Action) (closed : ReplyId → Bool) : Gateway Action :=
  (gateway.queues.maintain closed gateway.clock).2.foldl perform
    { gateway with queues := (gateway.queues.maintain closed gateway.clock).1 }

/-- The job `enqueue` pushes. -/
def accepted (config : Config Action) (gateway : Gateway Action) (call : ReplyId)
    (identity : ClientIdentity) (action : Action) : Job Action where
  reply := call
  action := action
  permit := identity.budget
  acceptedAt := gateway.clock
  maxWait := config.queueSettings.forClass identity.clientClass
  order := gateway.queues.takeOrder.1

/-- The locked section of `enqueue`, without interruption. -/
def enqueue (config : Config Action) (gateway : Gateway Action) (call : ReplyId)
    (identity : ClientIdentity) (action : Action) (closed : ReplyId → Bool) :
    Admission × Gateway Action :=
  if gateway.closing then
    (.closed, gateway.move call (.answered gatewayClosed))
  else
    let swept := gateway.maintained closed
    match (swept.budgets identity.budget).tryAcquireObserved with
    | none => (.exhausted, swept.move call (.answered (overloaded "budget_exhausted" "1")))
    | some observed =>
        let taken :=
          { swept with budgets := Function.update swept.budgets identity.budget observed }
        if (taken.queues.takeOrder.2.get identity.clientClass).length ≥
            config.settings.queueCapacity then
          (.full,
            ({ taken with queues := taken.queues.takeOrder.2 }.perform
              (.release call identity.budget)).move call (.answered (overloaded "queue_full" "1")))
        else
          (.admitted observed,
            { taken with
              queues := taken.queues.takeOrder.2.push identity.clientClass
                (accepted config taken call identity action) }.move call .pushed)

/-! ## The section is a run -/

/-- The gateway with another holder of its lock. -/
def heldBy (gateway : Gateway Action) (lock : Section Action) (todo : List Effect)
    (calls : ReplyId → Call Action) : Gateway Action :=
  { gateway with lock, todo, calls }

private theorem run_perform {config : Config Action} (effects : List Effect)
    (gateway : Gateway Action)
    (lock : Section Action) (calls : ReplyId → Call Action) :
    Run config (gateway.heldBy lock effects calls) (effects.map .perform)
      ((effects.foldl perform gateway).heldBy lock [] calls) := by
  induction effects generalizing gateway with
  | nil => exact .refl _
  | cons effect effects induction =>
      have first : Run config (gateway.heldBy lock (effect :: effects) calls) [.perform effect]
          ((gateway.perform effect).heldBy lock effects calls) := by
        cases effect <;> exact .single (.perform _ _ effects rfl)
      exact first.trans (induction (gateway.perform effect))

private theorem run_maintained {config : Config Action} {gateway : Gateway Action} {call : ReplyId}
    {identity : ClientIdentity} {action : Action} {closed : ReplyId → Bool}
    (submitted : gateway.calls call = .submitted identity action) (free : gateway.lock = .free)
    (isOpen : gateway.closing = false) (seen : gateway.Sees closed) :
    ∃ trace, Run config gateway trace ((gateway.maintained closed).heldBy
      (.admitting call identity action) [] (Function.update gateway.calls call .entered)) := by
  have entered : Run config gateway _ _ :=
    .single (.enter gateway call identity action closed submitted free isOpen seen)
  exact ⟨_, entered.trans (run_perform (gateway.queues.maintain closed gateway.clock).2
    { gateway with queues := (gateway.queues.maintain closed gateway.clock).1 }
    (.admitting call identity action) (Function.update gateway.calls call .entered))⟩

private theorem maintained_fields (gateway : Gateway Action) (closed : ReplyId → Bool) :
    (gateway.maintained closed).calls = gateway.calls ∧
      (gateway.maintained closed).lock = gateway.lock ∧
        (gateway.maintained closed).todo = gateway.todo := by
  unfold maintained
  generalize (gateway.queues.maintain closed gateway.clock).2 = effects
  generalize (gateway.queues.maintain closed gateway.clock).1 = queues
  have fields : ∀ later : Gateway Action, (effects.foldl perform later).calls = later.calls ∧
      (effects.foldl perform later).lock = later.lock ∧
        (effects.foldl perform later).todo = later.todo := by
    induction effects with
    | nil => exact fun later => ⟨rfl, rfl, rfl⟩
    | cons effect effects induction =>
        intro later
        rw [List.foldl_cons]
        cases effect <;> exact induction _
  exact fields { gateway with queues }

theorem move_eq_heldBy {gateway : Gateway Action} (free : gateway.lock = .free)
    (idle : gateway.todo = []) (call : ReplyId) (early phase : Call Action) :
    gateway.move call phase =
      gateway.heldBy .free [] (Function.update (Function.update gateway.calls call early)
        call phase) := by
  rw [Function.update_idem, ← free, ← idle]
  rfl

/-- The locked section of `enqueue` is a run of the gateway. -/
theorem run_enqueue {config : Config Action} {gateway : Gateway Action} {call : ReplyId}
    {identity : ClientIdentity} {action : Action} {closed : ReplyId → Bool}
    (submitted : gateway.calls call = .submitted identity action) (free : gateway.lock = .free)
    (idle : gateway.todo = []) (seen : gateway.Sees closed) :
    ∃ trace, Run config gateway trace
      (enqueue config gateway call identity action closed).2 := by
  unfold enqueue
  split
  · rename_i closing
    exact ⟨_, .single (.turnAway gateway call identity action submitted free closing)⟩
  · rename_i isOpen
    obtain ⟨trace, scanned⟩ : ∃ trace, Run config gateway trace _ :=
      run_maintained submitted free (by simpa using isOpen) seen
    obtain ⟨calls, lock, todo⟩ := maintained_fields gateway closed
    rw [← calls] at scanned
    rw [free] at lock
    rw [idle] at todo
    generalize gateway.maintained closed = swept at scanned lock todo ⊢
    dsimp only
    split
    · rename_i full
      rw [move_eq_heldBy lock todo call .entered]
      exact ⟨_, scanned.tail (.exhausted _ call identity action rfl rfl full)⟩
    · rename_i observed room
      have acquired := scanned.tail (.acquire _ call identity action observed rfl rfl room)
      split
      · rename_i full
        rw [move_eq_heldBy ?_ ?_ call .entered]
        · exact ⟨_, ((acquired.tail
            (.overflow _ call identity action observed rfl rfl full)).tail
              (.perform _ (.release call identity.budget) [] rfl)).tail (.refuse _ call rfl rfl)⟩
        · exact lock
        · exact todo
      · rename_i space
        rw [move_eq_heldBy ?_ ?_ call .entered]
        · exact ⟨_, acquired.tail
            (.push _ call identity action observed _ rfl rfl (Nat.lt_of_not_le space) rfl)⟩
        · exact lock
        · exact todo

/-! ## What the section decides -/

private theorem release_acquired {budgets : Budgets} {budget : BudgetRef} {observed : Snapshot}
    (room : (budgets budget).tryAcquireObserved = some observed) :
    Budgets.release (Function.update budgets budget observed) budget = budgets := by
  obtain ⟨-, rfl⟩ := Snapshot.tryAcquireObserved_eq_some.mp room
  rw [Budgets.release, Function.update_self, Function.update_idem, Function.update_eq_self_iff]
  rfl

/-- The decision of `enqueue` and what it leaves behind, by the state `S` after the scan. -/
inductive Decided (config : Config Action) (gateway : Gateway Action) (call : ReplyId)
    (identity : ClientIdentity) (action : Action) (scanned : Gateway Action) :
    Admission × Gateway Action → Prop
  | closed (closing : gateway.closing = true) (later : Gateway Action)
      (budgets : later.budgets = gateway.budgets) (queues : later.queues = gateway.queues) :
      Decided config gateway call identity action scanned (.closed, later)
  | exhausted (isOpen : gateway.closing = false)
      (full : (scanned.budgets identity.budget).maximum ≤
        (scanned.budgets identity.budget).outstanding) (later : Gateway Action)
      (budgets : later.budgets = scanned.budgets) (queues : later.queues = scanned.queues) :
      Decided config gateway call identity action scanned (.exhausted, later)
  | full (isOpen : gateway.closing = false)
      (full : config.settings.queueCapacity ≤ (scanned.queues.get identity.clientClass).length)
      (later : Gateway Action) (budgets : later.budgets = scanned.budgets)
      (queues : later.queues = scanned.queues.takeOrder.2) :
      Decided config gateway call identity action scanned (.full, later)
  | admitted (isOpen : gateway.closing = false) (observed : Snapshot)
      (room : (scanned.budgets identity.budget).tryAcquireObserved = some observed)
      (space : (scanned.queues.get identity.clientClass).length < config.settings.queueCapacity)
      (later : Gateway Action)
      (budgets : later.budgets = Function.update scanned.budgets identity.budget observed)
      (queues : later.queues = scanned.queues.takeOrder.2.push identity.clientClass
        (accepted config scanned call identity action)) :
      Decided config gateway call identity action scanned (.admitted observed, later)

private theorem decided_enqueue (config : Config Action) (gateway : Gateway Action) (call : ReplyId)
    (identity : ClientIdentity) (action : Action) (closed : ReplyId → Bool) :
    Decided config gateway call identity action (gateway.maintained closed)
      (enqueue config gateway call identity action closed) := by
  unfold enqueue
  split
  · rename_i closing
    exact .closed closing _ rfl rfl
  · rename_i isOpen
    have isOpen : gateway.closing = false := by simpa using isOpen
    dsimp only
    split
    · rename_i full
      exact .exhausted isOpen (Snapshot.tryAcquireObserved_eq_none.mp full) _ rfl rfl
    · rename_i observed room
      split
      · rename_i full
        exact .full isOpen (by simpa using full) _ (release_acquired room) rfl
      · rename_i space
        exact .admitted isOpen observed room (by simpa using space) _ rfl rfl

namespace Decided

variable {config : Config Action} {gateway scanned : Gateway Action} {call : ReplyId}
  {identity : ClientIdentity} {action : Action} {outcome : Admission × Gateway Action}

private theorem admitted_iff
    (decided : Decided config gateway call identity action scanned outcome) :
    (∃ observed, outcome.1 = .admitted observed) ↔
      gateway.closing = false ∧
        (scanned.budgets identity.budget).outstanding <
          (scanned.budgets identity.budget).maximum ∧
        (scanned.queues.get identity.clientClass).length < config.settings.queueCapacity := by
  cases decided with
  | closed closing => simp [closing]
  | exhausted isOpen full => simp [isOpen, full.not_gt]
  | full isOpen full => simp [isOpen, full.not_gt]
  | admitted isOpen observed room space =>
      simp [isOpen, space, (Snapshot.tryAcquireObserved_eq_some.mp room).1]

private theorem of_admitted (decided : Decided config gateway call identity action scanned outcome)
    {observed : Snapshot} (admitted : outcome.1 = .admitted observed) :
    observed = { scanned.budgets identity.budget with
        outstanding := (scanned.budgets identity.budget).outstanding + 1 } ∧
      outcome.2.budgets = Function.update scanned.budgets identity.budget observed ∧
      0 < observed.outstanding ∧ observed.outstanding ≤ observed.maximum ∧
      outcome.2.queues.get identity.clientClass =
        scanned.queues.get identity.clientClass ++
          [accepted config scanned call identity action] ∧
      outcome.2.queues.get identity.clientClass.other =
        scanned.queues.get identity.clientClass.other := by
  cases decided with
  | admitted isOpen taken room space later budgets queues =>
      obtain rfl : taken = observed := by simpa using admitted
      obtain ⟨free, snapshot⟩ := Snapshot.tryAcquireObserved_eq_some.mp room
      refine ⟨snapshot, budgets, ?_, ?_, ?_, ?_⟩
      · rw [snapshot]
        exact Nat.succ_pos _
      · rw [snapshot]
        exact free
      · rw [queues, Queues.push, Queues.get_set_self, Queues.get_takeOrder]
      · rw [queues, Queues.push, Queues.get_set_other, Queues.get_takeOrder]
  | _ => simp at admitted

private theorem of_refused (decided : Decided config gateway call identity action scanned outcome) :
    (outcome.1 = .exhausted →
        outcome.2.budgets = scanned.budgets ∧ outcome.2.queues = scanned.queues) ∧
      (outcome.1 = .full → outcome.2.budgets = scanned.budgets ∧
        outcome.2.queues = { scanned.queues with nextOrder := scanned.queues.nextOrder + 1 }) ∧
      (outcome.1 = .closed →
        outcome.2.budgets = gateway.budgets ∧ outcome.2.queues = gateway.queues) := by
  cases decided with
  | closed _ later budgets queues => exact ⟨nofun, nofun, fun _ => ⟨budgets, queues⟩⟩
  | exhausted _ _ later budgets queues => exact ⟨fun _ => ⟨budgets, queues⟩, nofun, nofun⟩
  | full _ _ later budgets queues => exact ⟨nofun, fun _ => ⟨budgets, queues⟩, nofun⟩
  | admitted => exact ⟨nofun, nofun, nofun⟩

end Decided

/-! ## Ceilings along a run -/

end Gateway

/-- The event changes the ceiling of a budget. -/
def Event.changes {Action : Type} (budget : BudgetRef) : Event Action → Bool
  | .resize resized previous maximum => resized = budget && previous ≠ maximum
  | _ => false

namespace Gateway

variable {Action : Type}

/-- What one step does to a budget. -/
inductive Adjusted (before : Snapshot) : Snapshot → Prop
  | same : Adjusted before before
  | acquired (room : before.outstanding < before.maximum) :
      Adjusted before { before with outstanding := before.outstanding + 1 }
  | released : Adjusted before before.release

theorem Adjusted.bounds {before after : Snapshot} (adjusted : Adjusted before after) :
    after.outstanding ≤ before.outstanding + 1 ∧
      (before.maximum ≤ before.outstanding → after.outstanding ≤ before.outstanding) ∧
      (before.outstanding ≤ before.maximum → after.outstanding ≤ after.maximum) := by
  cases adjusted with
  | same => exact ⟨Nat.le_succ _, fun _ => le_rfl, id⟩
  | acquired room => exact ⟨le_rfl, fun full => absurd full room.not_ge, fun _ => room⟩
  | released =>
      have less : before.release.outstanding ≤ before.outstanding := Nat.sub_le _ _
      exact ⟨less.trans (Nat.le_succ _), fun _ => less, fun within => less.trans within⟩

theorem adjusted_release (budgets : Budgets) (released budget : BudgetRef) :
    Adjusted (budgets budget) (budgets.release released budget) := by
  by_cases same : budget = released
  · subst same
    rw [Budgets.release, Function.update_self]
    exact .released
  · rw [Budgets.release, Function.update_of_ne same]
    exact .same

/-- A step which does not resize a budget leaves it alone, or takes or drops one of its permits. -/
theorem adjusted_step {config : Config Action} {before after : Gateway Action}
    {event : Event Action} (step : Step config before event after) (budget : BudgetRef) :
    Adjusted (before.budgets budget) (after.budgets budget) ∧ event.changes budget = false ∨
      ∃ maximum, event = .resize budget (before.budgets budget).maximum maximum ∧
        after.budgets budget = (before.budgets budget).setMaximum maximum := by
  cases step with
  | resize resized maximum =>
      by_cases same : resized = budget
      · subst same
        exact .inr ⟨maximum, rfl, Function.update_self _ _ _⟩
      · refine .inl ⟨?_, by simp [Event.changes, same]⟩
        simp only [Budgets.resize, Function.update_of_ne (Ne.symm same)]
        exact .same
  | acquire call identity action observed holds idle room =>
      refine .inl ⟨?_, rfl⟩
      obtain ⟨free, rfl⟩ := Snapshot.tryAcquireObserved_eq_some.mp room
      by_cases same : budget = identity.budget
      · subst same
        simp only [Function.update_self]
        exact .acquired free
      · simp only [Function.update_of_ne same]
        exact .same
  | perform effect =>
      refine .inl ⟨?_, rfl⟩
      cases effect with
      | discard reply permit => exact adjusted_release before.budgets permit budget
      | release reply permit => exact adjusted_release before.budgets permit budget
      | answer => exact .same
  | giveBack front back execution => exact .inl ⟨adjusted_release before.budgets _ budget, rfl⟩
  | _ => exact .inl ⟨.same, rfl⟩

private theorem revision_run {config : Config Action} {gateway : Gateway Action}
    {trace : List (Event Action)} (run : Run config (start config) trace gateway)
    (budget : BudgetRef) :
    (gateway.budgets budget).revision = 1 + trace.countP (Event.changes budget) := by
  refine run.invariantTrace (fun trace gateway => (gateway.budgets budget).revision =
    1 + trace.countP (Event.changes budget)) rfl ?_
  intro trace before after event earlier counted step
  rw [List.countP_append, List.countP_singleton]
  rcases adjusted_step step budget with ⟨adjusted, unchanged⟩ | ⟨maximum, rfl, resized⟩
  · rw [unchanged]
    generalize before.budgets budget = state at adjusted counted
    generalize after.budgets budget = state' at adjusted ⊢
    cases adjusted <;> simpa using counted
  · rw [resized, Snapshot.setMaximum_revision, counted]
    by_cases same : (before.budgets budget).maximum = maximum <;> simp [Event.changes, same]
    omega

/-- Equal revisions mean equal ceilings. -/
theorem maximum_of_revision {config : Config Action} {before after : Gateway Action}
    {trace : List (Event Action)} (run : Run config before trace after) (budget : BudgetRef) :
    (before.budgets budget).revision ≤ (after.budgets budget).revision ∧
      ((before.budgets budget).revision = (after.budgets budget).revision →
        (before.budgets budget).maximum = (after.budgets budget).maximum) := by
  refine run.invariantTrace (fun _ later =>
    (before.budgets budget).revision ≤ (later.budgets budget).revision ∧
      ((before.budgets budget).revision = (later.budgets budget).revision →
        (before.budgets budget).maximum = (later.budgets budget).maximum)) ⟨le_rfl, fun _ => rfl⟩ ?_
  rintro trace middle later event - ⟨ordered, coherent⟩ step
  rcases adjusted_step step budget with ⟨adjusted, -⟩ | ⟨maximum, -, resized⟩
  · generalize middle.budgets budget = state at adjusted ordered coherent
    generalize later.budgets budget = state' at adjusted ⊢
    cases adjusted <;> exact ⟨ordered, coherent⟩
  · rw [resized, Snapshot.setMaximum_revision, Snapshot.setMaximum_maximum]
    split
    · rename_i same
      subst same
      exact ⟨ordered, coherent⟩
    · exact ⟨by omega, fun equal => absurd equal (by omega)⟩

/-- A counter exceeds its ceiling only after a reduction of the ceiling. -/
theorem reduced_of_exceeds {config : Config Action} {gateway : Gateway Action}
    {trace : List (Event Action)} (run : Run config (start config) trace gateway)
    (budget : BudgetRef)
    (exceeds : (gateway.budgets budget).maximum < (gateway.budgets budget).outstanding) :
    ∃ previous maximum, .resize budget previous maximum ∈ trace ∧ maximum < previous := by
  revert exceeds
  refine run.invariantTrace (fun trace gateway =>
    (gateway.budgets budget).maximum < (gateway.budgets budget).outstanding →
      ∃ previous maximum, .resize budget previous maximum ∈ trace ∧ maximum < previous)
    (by simp [start, Snapshot.new]) ?_
  intro trace before after event earlier reduced step exceeds
  have kept : (before.budgets budget).maximum < (before.budgets budget).outstanding →
      ∃ previous maximum, .resize budget previous maximum ∈ trace ++ [event] ∧
        maximum < previous := by
    intro already
    obtain ⟨previous, maximum, member, less⟩ := reduced already
    exact ⟨previous, maximum, List.mem_append_left _ member, less⟩
  rcases adjusted_step step budget with ⟨adjusted, -⟩ | ⟨maximum, rfl, resized⟩
  · generalize before.budgets budget = state at adjusted kept
    generalize after.budgets budget = state' at adjusted exceeds
    cases adjusted with
    | same => exact kept exceeds
    | acquired room =>
        dsimp only at exceeds
        omega
    | released =>
        refine kept (exceeds.trans_le ?_)
        exact Nat.sub_le _ _
  · rw [resized, Snapshot.setMaximum_maximum, Snapshot.setMaximum_outstanding] at exceeds
    by_cases less : maximum < (before.budgets budget).maximum
    · exact ⟨_, maximum, by simp, less⟩
    · exact kept (by omega)

/-! ## Interrupted sections -/

/-- A section without its permit goes on by the ceiling of the moment. -/
theorem leaves_admitting {config : Config Action} {before after : Gateway Action}
    {event : Event Action} (step : Step config before event after) {call : ReplyId}
    {identity : ClientIdentity} {action : Action}
    (held : before.lock = .admitting call identity action) (moves : after.lock ≠ before.lock) :
    ((before.budgets identity.budget).outstanding < (before.budgets identity.budget).maximum ∧
        ∃ observed, observed = { before.budgets identity.budget with
            outstanding := (before.budgets identity.budget).outstanding + 1 } ∧
          after = { before with
            budgets := Function.update before.budgets identity.budget observed
            lock := .placing call identity action observed }) ∨
      ((before.budgets identity.budget).maximum ≤ (before.budgets identity.budget).outstanding ∧
        after = { before.move call (.answered (overloaded "budget_exhausted" "1")) with
          lock := .free }) := by
  cases step with
  | acquire caller taken acted observed holds idle room =>
      obtain ⟨rfl, rfl, rfl⟩ := Section.admitting.inj (holds.symm.trans held)
      obtain ⟨below, observes⟩ := Snapshot.tryAcquireObserved_eq_some.mp room
      exact .inl ⟨below, observed, observes, rfl⟩
  | exhausted caller taken acted holds idle full =>
      obtain ⟨rfl, rfl, rfl⟩ := Section.admitting.inj (holds.symm.trans held)
      exact .inr ⟨Snapshot.tryAcquireObserved_eq_none.mp full, rfl⟩
  | perform effect => exact absurd (perform_lock before effect) moves
  | enter _ _ _ _ _ free | scan _ _ free | reject _ free | inspect free =>
      rw [held] at free
      cases free
  | overflow _ _ _ _ holds | refuse _ holds | push _ _ _ _ _ holds | pop _ _ _ holds
  | saturated holds | spawn _ holds | finish holds | park holds =>
      rw [held] at holds
      cases holds
  | unlock holds => simp [held] at holds
  | _ => exact absurd rfl moves

/-- A section with its permit goes on by the length of the queue at the moment. -/
theorem leaves_placing {config : Config Action} {before after : Gateway Action}
    {event : Event Action} (step : Step config before event after) {call : ReplyId}
    {identity : ClientIdentity} {action : Action} {observed : Snapshot}
    (held : before.lock = .placing call identity action observed)
    (moves : after.lock ≠ before.lock) :
    after.budgets = before.budgets ∧
      ((before.queues.get identity.clientClass).length < config.settings.queueCapacity ∧
          after.lock = .free ∧
          after.queues.get identity.clientClass = before.queues.get identity.clientClass ++
            [accepted config before call identity action] ∧
          after.queues.get identity.clientClass.other =
            before.queues.get identity.clientClass.other ∨
        config.settings.queueCapacity ≤ (before.queues.get identity.clientClass).length ∧
          after.lock = .refusing call ∧ after.todo = [.release call identity.budget] ∧
          after.queues = { before.queues with nextOrder := before.queues.nextOrder + 1 }) := by
  cases step with
  | overflow caller taken acted snapshot holds idle full =>
      obtain ⟨rfl, rfl, rfl, rfl⟩ := Section.placing.inj (holds.symm.trans held)
      exact ⟨rfl, .inr ⟨full, rfl, rfl, rfl⟩⟩
  | push caller taken acted snapshot job holds idle room made =>
      obtain ⟨rfl, rfl, rfl, rfl⟩ := Section.placing.inj (holds.symm.trans held)
      refine ⟨rfl, .inl ⟨room, rfl, ?_, ?_⟩⟩
      · rw [made]
        simp [Queues.push, accepted]
      · simp [Queues.push]
  | perform effect => exact absurd (perform_lock before effect) moves
  | enter _ _ _ _ _ free | scan _ _ free | reject _ free | inspect free =>
      rw [held] at free
      cases free
  | acquire _ _ _ _ holds | exhausted _ _ _ holds | refuse _ holds | pop _ _ _ holds
  | saturated holds | spawn _ holds | finish holds | park holds =>
      rw [held] at holds
      cases holds
  | unlock holds => simp [held] at holds
  | _ => exact absurd rfl moves

private theorem observed_run {config : Config Action} {gateway : Gateway Action}
    {trace : List (Event Action)} (run : Run config (start config) trace gateway) {call : ReplyId}
    {identity : ClientIdentity} {action : Action} {observed : Snapshot}
    (held : gateway.lock = .placing call identity action observed) :
    0 < observed.outstanding ∧ observed.outstanding ≤ observed.maximum := by
  refine run.invariant (fun gateway => ∀ call identity action observed,
    gateway.lock = .placing call identity action observed →
      0 < observed.outstanding ∧ observed.outstanding ≤ observed.maximum) ?_ nofun _ _ _ _ held
  intro before after event bounded step call identity action observed placing
  cases step with
  | acquire caller taken acted snapshot holds idle room =>
      obtain ⟨rfl, rfl, rfl, rfl⟩ := Section.placing.inj placing
      obtain ⟨below, rfl⟩ := Snapshot.tryAcquireObserved_eq_some.mp room
      exact ⟨Nat.succ_pos _, below⟩
  | perform effect =>
      rw [perform_lock] at placing
      exact bounded call identity action observed placing
  | pop popped =>
      dsimp only at placing
      split at placing <;> cases placing
  | _ => first | exact bounded call identity action observed placing | cases placing

/-- The admission law under dynamic limits, in every reachable state.  With the state after the scan
of `enqueue`: a job is admitted exactly if the gateway is open and its budget and its class queue
have room; then one permit is taken, one job is appended and the snapshot taken is within the
ceiling; refusals leave budgets and queues as the scan left them, up to the order counter, and a
closed gateway is not touched.  The section is a run of the gateway.  In every run a counter grows
only below its ceiling, exceeds it only through a reduction, a resize touches nothing else, and the
revision counts the changes, so that equal revisions mean equal ceilings.  A section which other
steps interrupt decides by the budget when it takes its permit and by the queue when it pushes. -/
theorem admission_law {config : Config Action} {gateway : Gateway Action}
    {trace : List (Event Action)} (run : Run config (start config) trace gateway) :
    (∀ call identity action closed,
      let scanned := gateway.maintained closed
      let budget := identity.budget
      let outcome := enqueue config gateway call identity action closed
      ((∃ observed, outcome.1 = .admitted observed) ↔
        gateway.closing = false ∧
          (scanned.budgets budget).outstanding < (scanned.budgets budget).maximum ∧
          (scanned.queues.get identity.clientClass).length < config.settings.queueCapacity) ∧
      (∀ observed, outcome.1 = .admitted observed →
        observed = { scanned.budgets budget with
          outstanding := (scanned.budgets budget).outstanding + 1 } ∧
        outcome.2.budgets = Function.update scanned.budgets budget observed ∧
        0 < observed.outstanding ∧ observed.outstanding ≤ observed.maximum ∧
        outcome.2.queues.get identity.clientClass =
          scanned.queues.get identity.clientClass ++
            [accepted config scanned call identity action] ∧
        outcome.2.queues.get identity.clientClass.other =
          scanned.queues.get identity.clientClass.other) ∧
      (outcome.1 = .exhausted →
        outcome.2.budgets = scanned.budgets ∧ outcome.2.queues = scanned.queues) ∧
      (outcome.1 = .full → outcome.2.budgets = scanned.budgets ∧
        outcome.2.queues = { scanned.queues with nextOrder := scanned.queues.nextOrder + 1 }) ∧
      (outcome.1 = .closed →
        outcome.2.budgets = gateway.budgets ∧ outcome.2.queues = gateway.queues) ∧
      (gateway.lock = .free → gateway.calls call = .submitted identity action →
        gateway.Sees closed → ∃ back, Run config gateway back outcome.2)) ∧
    (∀ budget event after, Step config gateway event after →
      (after.budgets budget).outstanding ≤ (gateway.budgets budget).outstanding + 1 ∧
      ((gateway.budgets budget).maximum ≤ (gateway.budgets budget).outstanding →
        (after.budgets budget).outstanding ≤ (gateway.budgets budget).outstanding) ∧
      ((gateway.budgets budget).outstanding ≤ (gateway.budgets budget).maximum →
        (after.budgets budget).maximum < (after.budgets budget).outstanding →
          ∃ maximum, event = .resize budget (gateway.budgets budget).maximum maximum ∧
            maximum < (gateway.budgets budget).maximum)) ∧
    (∀ budget previous maximum after, Step config gateway (.resize budget previous maximum) after →
      after = { gateway with budgets := gateway.budgets.resize budget maximum } ∧
        (after.budgets budget).outstanding = (gateway.budgets budget).outstanding) ∧
    (∀ budget,
      ((gateway.budgets budget).maximum < (gateway.budgets budget).outstanding →
        ∃ previous maximum, .resize budget previous maximum ∈ trace ∧ maximum < previous) ∧
      (gateway.budgets budget).revision = 1 + trace.countP (Event.changes budget) ∧
      ∀ back later, Run config gateway back later →
        (gateway.budgets budget).revision = (later.budgets budget).revision →
          (gateway.budgets budget).maximum = (later.budgets budget).maximum) ∧
    ∀ call identity action event after, Step config gateway event after →
      after.lock ≠ gateway.lock →
      (gateway.lock = .admitting call identity action →
        ((gateway.budgets identity.budget).outstanding <
            (gateway.budgets identity.budget).maximum ∧
          ∃ observed, observed = { gateway.budgets identity.budget with
              outstanding := (gateway.budgets identity.budget).outstanding + 1 } ∧
            after = { gateway with
              budgets := Function.update gateway.budgets identity.budget observed
              lock := .placing call identity action observed }) ∨
        ((gateway.budgets identity.budget).maximum ≤
            (gateway.budgets identity.budget).outstanding ∧
          after = { gateway.move call (.answered (overloaded "budget_exhausted" "1")) with
            lock := .free })) ∧
      ∀ observed, gateway.lock = .placing call identity action observed →
        (0 < observed.outstanding ∧ observed.outstanding ≤ observed.maximum) ∧
        after.budgets = gateway.budgets ∧
        (((gateway.queues.get identity.clientClass).length < config.settings.queueCapacity ∧
            after.lock = .free ∧
            after.queues.get identity.clientClass =
              gateway.queues.get identity.clientClass ++
                [accepted config gateway call identity action] ∧
            after.queues.get identity.clientClass.other =
              gateway.queues.get identity.clientClass.other) ∨
          (config.settings.queueCapacity ≤ (gateway.queues.get identity.clientClass).length ∧
            after.lock = .refusing call ∧ after.todo = [.release call identity.budget] ∧
            after.queues =
              { gateway.queues with nextOrder := gateway.queues.nextOrder + 1 })) := by
  refine ⟨?_, ?_, ?_, ?_, ?_⟩
  · intro call identity action closed
    have decided := decided_enqueue config gateway call identity action closed
    obtain ⟨exhausted, full, turnedAway⟩ := decided.of_refused
    exact ⟨decided.admitted_iff, fun observed admitted => decided.of_admitted admitted, exhausted,
      full, turnedAway, fun free submitted seen =>
        run_enqueue submitted free (idle_run run free) seen⟩
  · intro budget event after step
    rcases adjusted_step step budget with ⟨adjusted, -⟩ | ⟨maximum, rfl, resized⟩
    · have bounds := adjusted.bounds
      exact ⟨bounds.1, bounds.2.1, fun within exceeds => absurd (bounds.2.2 within) exceeds.not_ge⟩
    · rw [resized, Snapshot.setMaximum_outstanding, Snapshot.setMaximum_maximum]
      exact ⟨Nat.le_succ _, fun _ => le_rfl, fun within exceeds =>
        ⟨maximum, rfl, exceeds.trans_le within⟩⟩
  · rintro budget previous maximum after ⟨⟩
    exact ⟨rfl, by simp [Budgets.resize]⟩
  · exact fun budget => ⟨reduced_of_exceeds run budget, revision_run run budget,
      fun back later continued => (maximum_of_revision continued budget).2⟩
  · intro call identity action event after step moves
    refine ⟨fun held => leaves_admitting step held moves, fun observed held => ?_⟩
    exact ⟨observed_run run held, leaves_placing step held moves⟩

/-- A budget reduced below its outstanding work keeps it, under a new revision. -/
theorem admission_law_sample :
    ∃ gateway : Gateway Unit, (gateway.budgets 7).maximum < (gateway.budgets 7).outstanding ∧
      (gateway.budgets 7).revision = 2 ∧
      ¬∃ observed, (enqueue (.arbitrary 1) gateway 1 ⟨"reader", .agent, [], 7⟩ ()
        fun _ => false).1 = .admitted observed := by
  have begun : Run (.arbitrary 1) (start (.arbitrary 1)) [] _ := .refl _
  have run := ((((begun.tail
    (.submit _ 0 ⟨"reader", .agent, [], 7⟩ () rfl trivial nofun)).tail
    (.enter _ 0 _ _ (fun _ => false) rfl rfl rfl nofun)).tail
    (.acquire _ 0 _ _ _ rfl rfl rfl)).tail
    (.push _ 0 _ _ _ _ rfl rfl (by decide) rfl)).tail (.resize _ 7 0)
  have law := admission_law run
  refine ⟨_, by decide, (law.2.2.2.1 7).2.1.trans (by decide), fun admitted => ?_⟩
  exact absurd ((law.1 1 _ () fun _ => false).1.mp admitted).2.1 (by decide)

end Gateway

end AiProtocol
