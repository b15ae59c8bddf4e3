import AiProtocol.Dispatcher.Gate
import AiProtocol.Library.Watch

/-!
# The gate and its waiters

The tasks around one gate, cut where the lock is released: a task changes the state and signals
later, and a waiter looks at the state before it parks on the watch channel.
-/

namespace AiProtocol

namespace Dispatcher

namespace Gate

/-- What becomes of a gate. -/
structure Follows (before after : Gate) : Prop where
  /-- Revisions do not decrease. -/
  revision : before.revision ≤ after.revision
  /-- The owner stays. -/
  principal : ∀ principal, before.principal = some principal → after.principal = some principal
  /-- A revision has one ceiling. -/
  maximum : before.revision = after.revision → before.maximum = after.maximum
  /-- Stopping is final. -/
  stopped : before.stopped = true → after.stopped = true

variable {before middle after : Gate} {policy : Policy}

theorem Follows.refl (gate : Gate) : Follows gate gate :=
  ⟨le_rfl, fun _ => id, fun _ => rfl, id⟩

theorem Follows.trans (first : Follows before middle) (second : Follows middle after) :
    Follows before after where
  revision := first.revision.trans second.revision
  principal principal known := second.principal principal (first.principal principal known)
  maximum same := by
    have left := first.revision
    have right := second.revision
    exact (first.maximum (by omega)).trans (second.maximum (by omega))
  stopped known := second.stopped (first.stopped known)

theorem Follows.apply (applied : before.apply policy = .ok after) : Follows before after := by
  unfold Gate.apply at applied
  split at applied
  · cases applied
  · split at applied
    · cases applied
    · rename_i consistent
      obtain ⟨same, newer, agreed⟩ : ¬before.principal.any (fun principal =>
            principal ≠ policy.principalId) ∧ ¬policy.policyRevision < before.revision ∧
          ¬(policy.policyRevision = before.revision ∧
            policy.limits.maxOutstanding ≠ before.maximum) := by
        simpa only [not_or] using consistent
      cases applied
      constructor
      · exact Nat.not_lt.mp newer
      · intro principal known
        have equal : principal = policy.principalId := by simpa [known] using same
        rw [equal]
      · intro equal
        by_contra different
        exact agreed ⟨equal.symm, fun same => different same.symm⟩
      · exact id

theorem acquire_ready (acquired : before.acquire = some (.ok after)) :
    before.ready = true ∧ before.stopped = false ∧ before.active < before.maximum ∧
      after = { before with active := before.active + 1 } := by
  unfold Gate.acquire at acquired
  split at acquired
  · cases acquired
  · rename_i going
    split at acquired
    · rename_i room
      cases acquired
      exact ⟨room.1, by simpa using going, room.2, rfl⟩
    · cases acquired

end Gate

/-- Where a task is which called `Gate::acquire`. -/
inductive Waiter where
  /-- About to look at the state; it saw this version before. -/
  | subscribed (seen : Nat)
  /-- It found no room and is about to call `changed`. -/
  | refused (seen : Nat)
  /-- It awaits a version it did not see. -/
  | parked (seen : Nat)
  /-- It took a permit and is about to signal. -/
  | taking
  /-- It has its `Attempt`. -/
  | holding
  /-- It failed, was dropped while parked, or dropped its `Attempt`. -/
  | done
  deriving DecidableEq

/-- The task holds a permit. -/
def Waiter.live : Waiter → Bool
  | .taking | .holding => true
  | _ => false

/-- The task is about to signal. -/
def Waiter.signals : Waiter → Bool
  | .taking => true
  | _ => false

/-- The version seen by a task which found no room. -/
def Waiter.seen : Waiter → Option Nat
  | .refused seen | .parked seen => some seen
  | _ => none

/-- A gate with its watch channel and the tasks around it. -/
structure Watching where
  /-- The state behind the mutex. -/
  gate : Gate
  /-- The version of the watch channel. -/
  version : Nat
  /-- Tasks between a change of the state and their `send_replace`. -/
  signalling : Nat
  /-- The calls of `Gate::acquire`. -/
  waiters : List Waiter

namespace Watching

/-- `Gate::new`. -/
def start : Watching where
  gate := .default
  version := 0
  signalling := 0
  waiters := []

/-- What happens around a gate. -/
inductive Event where
  /-- `Gate::apply` decides on a policy. -/
  | apply (policy : Policy)
  /-- `Gate::pause` changes the state. -/
  | pause
  /-- `Gate::stop` changes the state. -/
  | stop
  /-- A task which changed the state calls `send_replace`. -/
  | signal
  /-- `Gate::acquire` is called and subscribes. -/
  | subscribe
  /-- `Gate::acquire` fails. -/
  | fail
  /-- `Gate::acquire` takes a permit. -/
  | acquire
  /-- `Gate::acquire` finds no room. -/
  | refuse
  /-- `changed` has nothing new. -/
  | park
  /-- `changed` has a new version. -/
  | wake
  /-- `Gate::acquire` signals and returns its `Attempt`. -/
  | return
  /-- A parked `Gate::acquire` is dropped. -/
  | cancel
  /-- `Attempt::drop` changes the state. -/
  | drop

/-- One step around a gate. -/
inductive Step : Watching → Event → Watching → Prop
  | apply (watching : Watching) (policy : Policy) (gate : Gate)
      (applied : watching.gate.apply policy = .ok gate) :
      Step watching (.apply policy)
        { watching with gate, signalling := watching.signalling + 1 }
  | reject (watching : Watching) (policy : Policy) (error : String)
      (rejected : watching.gate.apply policy = .error error) :
      Step watching (.apply policy) watching
  | pause (watching : Watching) :
      Step watching .pause
        { watching with gate := watching.gate.pause, signalling := watching.signalling + 1 }
  | stop (watching : Watching) :
      Step watching .stop
        { watching with gate := watching.gate.stop, signalling := watching.signalling + 1 }
  | signal (watching : Watching) (signalling : Nat)
      (changed : watching.signalling = signalling + 1) :
      Step watching .signal { watching with version := watching.version + 1, signalling }
  | subscribe (watching : Watching) :
      Step watching .subscribe
        { watching with waiters := watching.waiters ++ [.subscribed watching.version] }
  | fail (watching : Watching) (front back : List Waiter) (seen : Nat) (error : String)
      (subscribed : watching.waiters = front ++ .subscribed seen :: back)
      (failed : watching.gate.acquire = some (.error error)) :
      Step watching .fail { watching with waiters := front ++ .done :: back }
  | acquire (watching : Watching) (front back : List Waiter) (seen : Nat) (gate : Gate)
      (subscribed : watching.waiters = front ++ .subscribed seen :: back)
      (acquired : watching.gate.acquire = some (.ok gate)) :
      Step watching .acquire { watching with gate, waiters := front ++ .taking :: back }
  | refuse (watching : Watching) (front back : List Waiter) (seen : Nat)
      (subscribed : watching.waiters = front ++ .subscribed seen :: back)
      (waits : watching.gate.acquire = none) :
      Step watching .refuse { watching with waiters := front ++ .refused seen :: back }
  | park (watching : Watching) (front back : List Waiter) (seen : Nat)
      (refused : watching.waiters = front ++ .refused seen :: back)
      (known : seen = watching.version) :
      Step watching .park { watching with waiters := front ++ .parked seen :: back }
  | notice (watching : Watching) (front back : List Waiter) (seen : Nat)
      (refused : watching.waiters = front ++ .refused seen :: back)
      (new : seen ≠ watching.version) :
      Step watching .wake
        { watching with waiters := front ++ .subscribed watching.version :: back }
  | wake (watching : Watching) (front back : List Waiter) (seen : Nat)
      (parked : watching.waiters = front ++ .parked seen :: back)
      (new : seen ≠ watching.version) :
      Step watching .wake
        { watching with waiters := front ++ .subscribed watching.version :: back }
  | return (watching : Watching) (front back : List Waiter)
      (taking : watching.waiters = front ++ .taking :: back) :
      Step watching .return
        { watching with
          version := watching.version + 1
          waiters := front ++ .holding :: back }
  | cancel (watching : Watching) (front back : List Waiter) (seen : Nat)
      (parked : watching.waiters = front ++ .parked seen :: back) :
      Step watching .cancel { watching with waiters := front ++ .done :: back }
  | drop (watching : Watching) (front back : List Waiter)
      (holding : watching.waiters = front ++ .holding :: back) :
      Step watching .drop
        { watching with
          gate := watching.gate.release
          signalling := watching.signalling + 1
          waiters := front ++ .done :: back }

/-- A run around a gate. -/
abbrev Run := Labelled.Execution Step

variable {before after watching later : Watching} {event : Event} {trace more : List Event}

/-! ## Permits -/

/-- The gate counts the permits of its tasks. -/
def Counts (watching : Watching) : Prop :=
  watching.gate.active = watching.waiters.countP Waiter.live

theorem countP_waiter (select : Waiter → Bool) (front back : List Waiter) (waiter : Waiter) :
    (front ++ waiter :: back).countP select =
      (front ++ back).countP select + if select waiter then 1 else 0 := by
  simp only [List.countP_append, List.countP_cons]
  omega

theorem Counts.step (counts : before.Counts) (step : Step before event after) : after.Counts := by
  unfold Counts at counts ⊢
  cases step with
  | apply policy gate applied => rw [(Gate.apply_eq_ok applied).2.1]; exact counts
  | reject policy error rejected => exact counts
  | pause | stop | signal => exact counts
  | subscribe => simpa [Waiter.live] using counts
  | acquire front back seen gate subscribed acquired =>
      obtain ⟨-, -, -, rfl⟩ := Gate.acquire_ready acquired
      rw [subscribed, countP_waiter] at counts
      rw [countP_waiter]
      simp [Waiter.live] at counts ⊢
      omega
  | drop front back holding =>
      rw [holding, countP_waiter] at counts
      rw [countP_waiter]
      simp [Waiter.live, Gate.release] at counts ⊢
      omega
  | fail front back seen error same | refuse front back seen same | park front back seen same
  | notice front back seen same | wake front back seen same | «return» front back same
  | cancel front back seen same =>
      rw [same, countP_waiter] at counts
      rw [countP_waiter]
      exact counts

theorem counts_run (run : Run start trace watching) : watching.Counts :=
  run.invariant Counts Counts.step rfl

/-! ## The watch channel -/

/-- What the channel knows about the tasks. -/
def view (watching : Watching) : Watched Gate where
  state := watching.gate
  version := watching.version
  due := watching.signalling + watching.waiters.countP Waiter.signals
  waiting := watching.waiters.filterMap Waiter.seen

/-- `Gate::acquire` would return. -/
def Returns (gate : Gate) : Prop :=
  gate.acquire ≠ none

theorem view_split (front back : List Waiter) (waiter : Waiter)
    (split : watching.waiters = front ++ waiter :: back) :
    watching.view =
      { state := watching.gate
        version := watching.version
        due := watching.signalling +
          ((front ++ back).countP Waiter.signals + if waiter.signals then 1 else 0)
        waiting := front.filterMap Waiter.seen ++
          (waiter.seen.toList ++ back.filterMap Waiter.seen) } := by
  unfold view
  rw [split, countP_waiter, List.filterMap_append]
  congr 2
  cases saw : waiter.seen with
  | none => exact List.filterMap_cons_none saw
  | some seen => exact List.filterMap_cons_some saw

/-- The versions which tasks saw were reached. -/
def Known (watching : Watching) : Prop :=
  ∀ seen, .subscribed seen ∈ watching.waiters → seen ≤ watching.version

theorem Known.step (known : before.Known) (step : Step before event after) : after.Known := by
  have passed : ∀ {front back : List Waiter} {waiter waiter' : Waiter},
      before.waiters = front ++ waiter :: back →
        (∀ seen, waiter' = .subscribed seen → seen ≤ before.version) →
          ∀ seen, .subscribed seen ∈ front ++ waiter' :: back → seen ≤ before.version := by
    intro front back waiter waiter' split new seen member
    rcases List.mem_append.mp member with early | here
    · exact known seen (split ▸ List.mem_append_left _ early)
    · rcases List.mem_cons.mp here with rfl | late
      · exact new seen rfl
      · exact known seen (split ▸ List.mem_append_right _ (List.mem_cons_of_mem _ late))
  intro seen member
  cases step with
  | apply | reject | pause | stop => exact known seen member
  | signal signalling changed => exact Nat.le_succ_of_le (known seen member)
  | subscribe =>
      rcases List.mem_append.mp member with old | new
      · exact known seen old
      · obtain ⟨rfl⟩ := List.mem_singleton.mp new
        exact le_rfl
  | «return» front back taking => exact Nat.le_succ_of_le (passed taking (by simp) seen member)
  | notice front back saw refused new | wake front back saw parked new =>
      refine passed ‹_› ?_ seen member
      rintro _ ⟨rfl⟩
      exact le_rfl
  | fail front back saw error split | acquire front back saw gate split
  | refuse front back saw split | park front back saw split | cancel front back saw split
  | drop front back split => exact passed split (by simp) seen member

theorem view_change (watching : Watching) (gate : Gate) :
    Watched.Step Returns watching.view .change
      ({ watching with gate, signalling := watching.signalling + 1 } : Watching).view := by
  have changed : Watched.Step Returns watching.view .change _ := .change watching.view gate
  simpa only [view, Nat.add_right_comm] using changed

theorem view_leave {front back : List Waiter} {waiter waiter' : Waiter} {seen : Nat}
    (split : watching.waiters = front ++ waiter :: back) (slept : waiter.seen = some seen)
    (quiet : waiter.signals = false) (left : waiter'.seen = none)
    (quiet' : waiter'.signals = false) :
    Watched.Step Returns watching.view .leave
      ({ watching with waiters := front ++ waiter' :: back } : Watching).view := by
  have after : ({ watching with waiters := front ++ waiter' :: back } : Watching).view = _ :=
    view_split front back waiter' rfl
  rw [view_split front back _ split, after, slept, quiet, left, quiet']
  exact .leave _ _ _ seen rfl

/-- Every step keeps the watch channel as it is or is a step of its protocol. -/
theorem view_step (known : before.Known) (step : Step before event after) :
    after.view = before.view ∨
      ∃ event', Watched.Step Returns before.view event' after.view := by
  cases step with
  | reject policy error rejected => exact .inl rfl
  | apply policy gate applied => exact .inr ⟨.change, before.view_change gate⟩
  | pause => exact .inr ⟨.change, before.view_change before.gate.pause⟩
  | stop => exact .inr ⟨.change, before.view_change before.gate.stop⟩
  | signal signalling changed =>
      refine .inr ⟨.signal, ?_⟩
      apply Watched.Step.signal
      simp only [view, changed]
      omega
  | subscribe =>
      refine .inl ?_
      simp [view, Waiter.seen, Waiter.signals]
  | fail front back seen error subscribed failed =>
      refine .inl ?_
      rw [view_split front back _ subscribed]
      exact view_split front back .done rfl
  | acquire front back seen gate subscribed acquired =>
      refine .inr ⟨.change, ?_⟩
      have taking :
          ({ before with gate, waiters := front ++ .taking :: back } : Watching).view = _ :=
        view_split front back .taking rfl
      rw [view_split front back _ subscribed, taking]
      exact .change _ gate
  | refuse front back seen subscribed waits =>
      refine .inr ⟨.wait, ?_⟩
      have refused :
          ({ before with waiters := front ++ .refused seen :: back } : Watching).view = _ :=
        view_split front back (.refused seen) rfl
      rw [view_split front back _ subscribed, refused]
      refine .wait _ _ _ seen (known seen ?_) (fun returns => returns waits) rfl
      rw [subscribed]
      exact List.mem_append_right _ List.mem_cons_self
  | park front back seen refused current =>
      refine .inl ?_
      rw [view_split front back _ refused]
      exact view_split front back (.parked seen) rfl
  | notice front back seen refused new =>
      exact .inr ⟨.leave, view_leave refused rfl rfl rfl rfl⟩
  | wake front back seen parked new =>
      exact .inr ⟨.leave, view_leave parked rfl rfl rfl rfl⟩
  | «return» front back taking =>
      refine .inr ⟨.signal, ?_⟩
      have holding : ({ before with
          version := before.version + 1, waiters := front ++ .holding :: back } :
            Watching).view = _ :=
        view_split front back .holding rfl
      rw [view_split front back _ taking, holding]
      exact .signal _ _ rfl
  | cancel front back seen parked =>
      exact .inr ⟨.leave, view_leave parked rfl rfl rfl rfl⟩
  | drop front back holding =>
      refine .inr ⟨.change, ?_⟩
      have done : ({ before with
          gate := before.gate.release
          signalling := before.signalling + 1
          waiters := front ++ .done :: back } : Watching).view = _ :=
        view_split front back .done rfl
      have changed : Watched.Step Returns before.view .change _ :=
        .change before.view before.gate.release
      rw [view_split front back _ holding] at changed ⊢
      rw [done]
      simp only [Nat.add_right_comm] at changed ⊢
      exact changed

theorem known_run (run : Run start trace watching) : watching.Known :=
  run.invariant Known Known.step nofun

theorem attentive_run (run : Run start trace watching) : watching.view.Attentive Returns := by
  refine run.invariantTrace (fun _ watching => watching.view.Attentive Returns)
    ⟨nofun, nofun⟩ ?_
  intro trace before after event earlier attentive step
  rcases view_step (known_run earlier) step with same | ⟨event', moved⟩
  · rw [same]
    exact attentive
  · exact attentive.step moved

private theorem parked_run (run : Run start trace watching)
    (parked : .parked watching.version ∈ watching.waiters) (returns : Returns watching.gate) :
    0 < watching.signalling + watching.waiters.countP Waiter.signals := by
  refine (attentive_run run).alert ?_ returns
  exact List.mem_filterMap.mpr ⟨_, parked, rfl⟩

private theorem signalled_run (run : Run start trace watching) (step : Step watching event after)
    (signalled : event = .signal ∨ event = .return) {seen : Nat}
    (parked : .parked seen ∈ after.waiters) : seen ≠ after.version := by
  have known : ∀ seen, .parked seen ∈ watching.waiters → seen ≤ watching.version :=
    fun seen member => (attentive_run run).known seen (List.mem_filterMap.mpr ⟨_, member, rfl⟩)
  cases step with
  | signal signalling changed => exact Nat.ne_of_lt (Nat.lt_succ_of_le (known seen parked))
  | «return» front back taking =>
      refine Nat.ne_of_lt (Nat.lt_succ_of_le (known seen ?_))
      rw [taking]
      rcases List.mem_append.mp parked with early | here
      · exact List.mem_append_left _ early
      · have late : .parked seen ∈ back := by simpa using here
        exact List.mem_append_right _ (List.mem_cons_of_mem _ late)
  | _ => simp at signalled

/-! ## The state -/

theorem follows_step (step : Step before event after) : before.gate.Follows after.gate := by
  cases step with
  | apply policy gate applied => exact .apply applied
  | stop => exact ⟨le_rfl, fun _ => id, fun _ => rfl, fun _ => rfl⟩
  | acquire front back seen gate subscribed acquired =>
      obtain ⟨-, -, -, rfl⟩ := Gate.acquire_ready acquired
      exact ⟨le_rfl, fun _ => id, fun _ => rfl, id⟩
  | pause | drop => exact ⟨le_rfl, fun _ => id, fun _ => rfl, id⟩
  | _ => exact .refl _

private theorem follows_run (future : Run watching more later) : watching.gate.Follows later.gate :=
  future.invariant (fun later => watching.gate.Follows later.gate)
    (fun follows step => follows.trans (follows_step step)) (.refl _)

theorem acquire_step (step : Step watching .acquire after) :
    watching.gate.ready = true ∧ watching.gate.stopped = false ∧
      watching.gate.active < watching.gate.maximum := by
  cases step with
  | acquire front back seen gate subscribed acquired =>
      obtain ⟨ready, going, room, -⟩ := Gate.acquire_ready acquired
      exact ⟨ready, going, room⟩

private theorem acquire_stopped (future : Run watching more later)
    (stopped : watching.gate.stopped = true) : .acquire ∉ more := by
  intro member
  obtain ⟨front, back, middle, next, -, reached, step, -⟩ := future.step_of_mem member
  have still := (follows_run reached).stopped stopped
  rw [(acquire_step step).2.1] at still
  cases still

/-- The gate counts the permits of its tasks and never loses one.  Permits are taken from a ready
gate with room which is not stopped; revisions, owners and ceilings stay consistent; rejected
policies change nothing; and who is parked and saw the last signal waits for a gate which has
nothing to tell, unless a task which changed its state is about to signal. -/
theorem gate_safety (run : Run start trace watching) (future : Run watching more later) :
    watching.gate.active = watching.waiters.countP Waiter.live ∧
      (.holding ∈ watching.waiters → 0 < watching.gate.active) ∧
      (∀ after, Step watching .acquire after → watching.gate.ready = true ∧
        watching.gate.stopped = false ∧ watching.gate.active < watching.gate.maximum) ∧
      (watching.gate.stopped = true → .acquire ∉ more) ∧
      watching.gate.Follows later.gate ∧
      (∀ policy error after, watching.gate.apply policy = .error error →
        Step watching (.apply policy) after → after = watching) ∧
      (.parked watching.version ∈ watching.waiters → Returns watching.gate →
        0 < watching.signalling + watching.waiters.countP Waiter.signals) ∧
      ∀ event after seen, Step watching event after → event = .signal ∨ event = .return →
        .parked seen ∈ after.waiters → seen ≠ after.version := by
  have counts : watching.gate.active = watching.waiters.countP Waiter.live := counts_run run
  refine ⟨counts, fun holding => ?_, fun after => acquire_step, acquire_stopped future,
    follows_run future, fun policy error after rejected step => ?_, parked_run run,
    fun event after seen step signalled => signalled_run run step signalled⟩
  · rw [counts]
    exact List.countP_pos_iff.mpr ⟨_, holding, rfl⟩
  · cases step with
    | apply policy gate applied => rw [applied] at rejected; cases rejected
    | reject => rfl

def single : Policy where
  version := 3
  principalId := "owner"
  clientClass := "agent"
  policyRevision := 1
  refreshAfterMs := 1000
  outstanding := 0
  limits := { scope := "principal", maxOutstanding := 1 }

private theorem parking_run :
    Run start [.subscribe, .refuse, .park] { start with waiters := [.parked 0] } := by
  have subscribed : Run start [.subscribe] _ := .single (.subscribe start)
  have refused := subscribed.tail (.refuse _ [] [] 0 rfl rfl)
  exact refused.tail (.park _ [] [] 0 rfl rfl)

/-- A waiter parks, a policy makes room, and its signal wakes the waiter, which takes the permit. -/
theorem gate_safety_sample : ∃ (trace : List Event) (watching : Watching),
    Run start trace watching ∧ .parked 0 ∉ watching.waiters ∧
      watching.gate.active = watching.waiters.countP Waiter.live ∧ watching.gate.active = 1 := by
  have signalled := (parking_run.tail (.apply _ single _ rfl)).tail (.signal _ 0 rfl)
  have woken := signalled.tail (.wake _ [] [] 0 rfl (by decide))
  have taken := woken.tail (.acquire _ [] [] 1 _ rfl rfl)
  obtain ⟨counts, -⟩ := gate_safety taken (.refl _)
  exact ⟨_, _, taken, by decide, counts, rfl⟩

/-- Between the change of the state and its signal a waiter is parked which saw the current version
while `Gate::acquire` would succeed. -/
theorem gate_safety_unsignalled : ∃ (trace : List Event) (watching : Watching) (gate : Gate),
    Run start trace watching ∧ .parked watching.version ∈ watching.waiters ∧
      watching.gate.acquire = some (.ok gate) :=
  ⟨_, _, _, parking_run.tail (.apply _ single _ rfl), by decide, rfl⟩

end Watching

end Dispatcher

end AiProtocol
