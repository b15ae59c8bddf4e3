import AiProtocol.Sdk.Machine

/-!
# Steps of the client

What the tasks of a client do to the state they share.  No task is ever suspended with the lock of
the condition or waits for it, and what a refresh does is read off the exception it meets.
-/

namespace AiProtocol

namespace Sdk

/-! ## The lock of the condition -/

/-- A client which differs in its active attempts only. -/
def Client.Alike (client other : Client) : Prop :=
  other = { client with active := other.active }

theorem Client.release_acquire {client : Client} (free : client.locked = false) :
    client.acquire.release = client := by
  cases client
  simp only at free
  simp [acquire, release, free]

namespace Call

/-- The call does not wait for the lock of the condition. -/
def Unlocked (call : Call) : Prop :=
  match call.point with
  | .lockEnter | .lockWake _ | .lockLeave _ => False
  | _ => True

/-- The call sleeps before a retry, or is done. -/
def Away (call : Call) : Prop :=
  match call.point with
  | .sleeping | .done _ => True
  | _ => False

variable {call : Call}

theorem Away.unlocked (away : call.Away) : call.Unlocked := by
  cases here : call.point <;> simp_all [Away, Unlocked]

theorem Away.not_waiting (away : call.Away) (notified : Bool) : call.point ≠ .waiting notified := by
  intro waiting
  simp [Away, waiting] at away

theorem away_done (ending : Ending) : (call.suspend (.done ending)).Away :=
  trivial

theorem conclude_away (left : Nat) (outcome : Outcome) : (call.conclude left outcome).Away := by
  cases outcome with
  | ended ending => trivial
  | response reply =>
      cases turned : turn call.number left reply <;> simp [conclude, turned, suspend, Away]

end Call

/-- What every step of a call does, with or without a dispatcher. -/
structure Segment.Quiet (client : Client) (segment : Segment) : Prop where
  /-- The policy stays, and whether the client is ready or closed. -/
  alike : client.Alike segment.client
  /-- The call does not wait for the lock. -/
  unlocked : segment.call.Unlocked
  /-- Nothing falls asleep once the client is closed. -/
  isOpen : segment.call.point = .waiting false → client.closed = false

section Segments

variable {settings : Settings} {client : Client} {call : Call} {surroundings : Surroundings}

/-- The client is as it was, and the call not about to wait. -/
theorem Segment.Quiet.same {notify : Bool} {granted : Option Json} (unlocked : call.Unlocked)
    (awake : ∀ notified, call.point ≠ .waiting notified) :
    Segment.Quiet client { client, call, notify, granted } :=
  ⟨rfl, unlocked, fun waiting => absurd waiting (awake false)⟩

theorem leave_quiet (free : client.locked = false) (left : Nat) (outcome : Outcome) :
    (leave settings client call left outcome).Quiet client := by
  have away : (call.conclude left outcome).Away := Call.conclude_away left outcome
  unfold leave
  split
  · exact .same away.unlocked away.not_waiting
  · simp only [free, Bool.false_eq_true, ↓reduceIte]
    constructor
    · simp [settle, Client.Alike, Client.acquire, Client.release, free]
    · exact away.unlocked
    · intro waiting
      exact absurd waiting (away.not_waiting false)

private theorem attempt_quiet (free : client.locked = false) (descriptor : Json) :
    (attempt settings client call surroundings descriptor).Quiet client := by
  unfold attempt
  cases settings.validates descriptor call.params with
  | error error => exact leave_quiet free _ _
  | ok valid =>
      cases valid with
      | false => exact leave_quiet free _ _
      | true =>
          dsimp only
          split
          · cases surroundings.prelude with
            | connects => exact .same trivial nofun
            | _ => exact leave_quiet free _ _
          · exact .same trivial nofun

theorem check_quiet (free : client.locked = false) :
    (check settings client.acquire call surroundings).Quiet client := by
  have released := Client.release_acquire free
  unfold check
  rw [released]
  split
  · exact .same trivial nofun
  · rename_i isOpen
    split
    · split
      · exact .same trivial nofun
      · rename_i descriptor found
        generalize admitted : (if settings.dispatcher = true then client.acquire
          else { client.acquire with active := client.acquire.active + 1 }) = taken
        have alike : client.Alike taken.release := by
          rw [← admitted]
          unfold Client.Alike
          split <;> simp [Client.acquire, Client.release, free]
        dsimp only
        split
        · exact ⟨alike, trivial, nofun⟩
        · have free' : taken.release.locked = false := rfl
          have quiet : (attempt settings taken.release call surroundings descriptor).Quiet
              taken.release := attempt_quiet free' descriptor
          refine ⟨?_, quiet.unlocked, fun waiting => ?_⟩
          · have next := quiet.alike
            unfold Client.Alike at alike next ⊢
            rw [next, alike]
          · have isOpen := quiet.isOpen waiting
            rw [alike] at isOpen
            exact isOpen
    · refine ⟨rfl, trivial, fun _ => ?_⟩
      simpa [Client.acquire] using isOpen

theorem enter_quiet (free : client.locked = false) :
    (enter settings client call surroundings).Quiet client := by
  unfold enter
  rw [free]
  exact check_quiet free

theorem wake_quiet (free : client.locked = false) (interrupt : Option Interrupt) :
    (wake settings client call surroundings interrupt).Quiet client := by
  unfold wake
  rw [free]
  cases interrupt with
  | none => exact check_quiet free
  | some interrupt =>
      rw [if_neg Bool.false_ne_true, Client.release_acquire free]
      exact .same trivial nofun

theorem resume_quiet (free : client.locked = false) (unlocked : call.Unlocked)
    {answer : Option Answer} {input : Input} {segment : Segment}
    (resuming : resume settings client call surroundings answer input = some segment) :
    segment.Quiet client := by
  cases resumes_of_resume resuming with
  | enters point | wakes interrupt point | delayed earlier interrupt point
    | blocked outcome point locked | settles outcome point settled =>
      simp [Call.Unlocked, point] at unlocked
  | notified point => exact wake_quiet free none
  | stirred notified interrupt point => exact wake_quiet free interrupt
  | responds response point answered => exact leave_quiet free _ _
  | fails point | unreachable point => exact leave_quiet free _ _
  | hungUp result point => exact leave_quiet free _ _
  | raises error point => exact leave_quiet free _ _
  | interrupted interrupt point => exact leave_quiet free _ _
  | connects point | loses point => exact .same trivial nofun
  | replies reply point answered => exact .same trivial nofun
  | fallsOver error point => exact .same trivial nofun
  | cutOff interrupt point => exact .same trivial nofun
  | retries point => exact enter_quiet free
  | abandons interrupt point =>
      exact .same (Call.away_done _).unlocked (Call.away_done _).not_waiting

end Segments

/-! ## Refreshes -/

/-- The exception a refresh meets between its request and the stored policy. -/
def failure (settings : Settings) (client : Client) (frames : Nat) : RefreshInput → Option PyError
  | .woken => none
  | .interrupted interrupt => some interrupt.error
  | .fetched (.error error) => some error
  | .fetched (.ok fetched) =>
      if ¬(200 ≤ fetched.status ∧ fetched.status < 300) then
        some .http
      else
        match fetched.body with
        | .error error => some error
        | .ok policy =>
            match validatePolicy settings.checkSchema frames policy client.policy with
            | .error error => some error
            | .ok () => none

/-- What a refresh does up to its next suspension. -/
inductive Renewal (settings : Settings) (client : Client) (frames : Nat) :
    RefreshPoint → RefreshInput → Refreshing → Prop
  | begins (input : RefreshInput) (isOpen : client.closed = false) :
      Renewal settings client frames .resting input
        { client, point := .fetching, notify := false }
  | late (input : RefreshInput) (closed : client.closed = true) :
      Renewal settings client frames .resting input
        { client, point := .done (.raised (.protocol "Client is closed")), notify := false }
  | cancelled :
      Renewal settings client frames .resting (.interrupted .cancel)
        { client, point := .done (.raised .cancelled), notify := false }
  | applied (input : RefreshInput) (policy : Json)
      (succeeds : failure settings client frames input = none)
      (valid : validatePolicy settings.checkSchema frames policy client.policy = .ok ())
      (isOpen : client.closed = false) :
      Renewal settings client frames .fetching input
        { client := { client with policy := some policy, ready := true }
          point := .done .applied
          notify := true }
  | skipped (input : RefreshInput) (succeeds : failure settings client frames input = none)
      (closed : client.closed = true) :
      Renewal settings client frames .fetching input
        { client, point := .done .skipped, notify := false }
  | pauses (input : RefreshInput) (error : PyError)
      (fails : failure settings client frames input = some error)
      (handled : PyError.handled error = true) :
      Renewal settings client frames .fetching input
        { client := { client with ready := false }
          point := .done (.raised
            (if error = .cancelled then .cancelled else .protocol "Policy refresh failed"))
          notify := true }
  | escapes (input : RefreshInput) (error : PyError)
      (fails : failure settings client frames input = some error)
      (unhandled : PyError.handled error = false) :
      Renewal settings client frames .fetching input
        { client, point := .done (.raised error), notify := false }

section Refreshes

variable {settings : Settings} {client : Client}

theorem refresh_renewal (settings : Settings) (free : client.locked = false) (frames : Nat)
    (input : RefreshInput) :
    Renewal settings client frames .resting input (refresh client) := by
  unfold refresh
  rw [free, if_neg Bool.false_ne_true, Client.release_acquire free]
  split
  · exact .late input ‹_›
  · rename_i isOpen
    exact .begins input (Bool.eq_false_iff.mpr isOpen)

theorem fail_renewal (free : client.locked = false) {frames : Nat} {input : RefreshInput}
    {error : PyError} (fails : failure settings client frames input = some error) :
    Renewal settings client frames .fetching input (fail client error) := by
  unfold fail
  cases handled : PyError.handled error with
  | false => exact .escapes input error fails handled
  | true =>
      have paused : pause client error =
          { client := { client with ready := false }
            point := .done (.raised
              (if error = .cancelled then .cancelled else .protocol "Policy refresh failed"))
            notify := true } := by
        simp [pause, Client.acquire, Client.release, free]
      rw [if_pos rfl, free, if_neg Bool.false_ne_true, paused]
      exact .pauses input error fails handled

private theorem fetch_renewal (free : client.locked = false) (frames : Nat)
    (result : Except PyError Fetched) :
    Renewal settings client frames .fetching (.fetched result)
      (fetch settings frames client result) := by
  cases result with
  | error error => exact fail_renewal free rfl
  | ok fetched =>
      simp only [fetch]
      split
      · rename_i failed
        exact fail_renewal free (by simp [failure, failed])
      · rename_i succeeded
        cases body : fetched.body with
        | error error => exact fail_renewal free (by simp [failure, succeeded, body])
        | ok policy =>
            have released := Client.release_acquire free
            have stored : client.acquire.policy = client.policy := rfl
            simp only [free, Bool.false_eq_true, ↓reduceIte, apply, stored, released]
            cases valid : validatePolicy settings.checkSchema frames policy client.policy with
            | error error => exact fail_renewal free (by simp [failure, succeeded, body, valid])
            | ok =>
                have succeeds : failure settings client frames (.fetched (.ok fetched)) = none := by
                  simp [failure, succeeded, body, valid]
                dsimp only
                split
                · exact .skipped _ succeeds ‹_›
                · rename_i isOpen
                  have stored : Client.release { client.acquire with
                      policy := some policy, ready := true } =
                        { client with policy := some policy, ready := true } := by
                    simp [Client.acquire, Client.release, free]
                  rw [stored]
                  exact .applied _ policy succeeds valid (Bool.eq_false_iff.mpr isOpen)

/-- A refresh which does not wait for the lock of the condition. -/
def RefreshPoint.Unlocked : RefreshPoint → Prop
  | .lockEnter | .lockApply _ | .lockFail _ => False
  | _ => True

theorem Refresher.resume_renewal (free : client.locked = false) {refresher : Refresher}
    (unlocked : refresher.point.Unlocked) {input : RefreshInput} {refreshing : Refreshing}
    (renewing : refresher.resume settings client input = some refreshing) :
    Renewal settings client refresher.frames refresher.point input refreshing := by
  cases point : refresher.point with
  | resting =>
      cases input with
      | woken =>
          simp only [Refresher.resume, point, Option.some.injEq] at renewing
          exact renewing ▸ refresh_renewal settings free refresher.frames .woken
      | interrupted interrupt =>
          cases interrupt <;>
            simp only [Refresher.resume, point, reduceCtorEq, Option.some.injEq] at renewing
          exact renewing ▸ .cancelled
      | fetched result => simp [Refresher.resume, point] at renewing
  | fetching =>
      cases input with
      | woken => simp [Refresher.resume, point] at renewing
      | interrupted interrupt =>
          simp only [Refresher.resume, point, Option.some.injEq] at renewing
          exact renewing ▸ fail_renewal free rfl
      | fetched result =>
          simp only [Refresher.resume, point, Option.some.injEq] at renewing
          exact renewing ▸ fetch_renewal free refresher.frames result
  | done result => cases input <;> simp [Refresher.resume, point] at renewing
  | _ => simp [RefreshPoint.Unlocked, point] at unlocked

end Refreshes

/-! ## The shared state -/

/-- What holds of a client between two steps. -/
structure Client.Coherent (client : Client) : Prop where
  /-- The lock of the condition is free. -/
  free : client.locked = false
  /-- A ready client is not closed. -/
  isOpen : client.ready = true → client.closed = false
  /-- A ready client has a policy. -/
  informed : client.ready = true → client.policy.isSome = true

theorem Client.Coherent.alike {client other : Client} (coherent : client.Coherent)
    (alike : client.Alike other) : other.Coherent := by
  rw [alike]
  exact ⟨coherent.free, coherent.isOpen, coherent.informed⟩

theorem Client.Coherent.close {client : Client} : client.close.Coherent :=
  ⟨rfl, nofun, nofun⟩

/-- What every step of a refresh does. -/
structure Refreshing.Quiet (client : Client) (refreshing : Refreshing) : Prop where
  /-- The client stays coherent. -/
  coherent : refreshing.client.Coherent
  /-- The attempts stay. -/
  active : refreshing.client.active = client.active
  /-- Nothing else changes without a notification. -/
  notified : refreshing.notify = false → refreshing.client = client
  /-- Closed clients stay closed. -/
  closed : client.closed = true → refreshing.client.closed = true
  /-- The refresh does not wait for the lock. -/
  unlocked : refreshing.point.Unlocked

section Quiet

variable {settings : Settings} {client : Client}

theorem Renewal.quiet {frames : Nat} {point : RefreshPoint} {input : RefreshInput}
    {refreshing : Refreshing} (renewal : Renewal settings client frames point input refreshing)
    (coherent : client.Coherent) : refreshing.Quiet client := by
  cases renewal with
  | applied _ policy succeeds valid isOpen =>
      exact ⟨⟨coherent.free, fun _ => isOpen, fun _ => rfl⟩, rfl, nofun, id, trivial⟩
  | pauses => exact ⟨⟨coherent.free, nofun, nofun⟩, rfl, nofun, id, trivial⟩
  | _ => exact ⟨coherent, rfl, fun _ => rfl, id, trivial⟩

/-- The owner of a refresh closes the client, or leaves it alone. -/
theorem Refreshing.Quiet.conclude {refreshing : Refreshing} (quiet : refreshing.Quiet client)
    (owner : Owner) : (owner.conclude refreshing).Quiet client := by
  cases owner with
  | caller => exact quiet
  | entering =>
      unfold Owner.conclude
      dsimp only
      split
      · exact ⟨.close, quiet.active, nofun, fun _ => rfl, quiet.unlocked⟩
      · exact quiet
  | poller =>
      unfold Owner.conclude
      dsimp only
      split
      · exact ⟨quiet.coherent, quiet.active, quiet.notified, quiet.closed, trivial⟩
      · exact ⟨quiet.coherent, quiet.active, quiet.notified, quiet.closed, trivial⟩
      · exact ⟨quiet.coherent, quiet.active, quiet.notified, quiet.closed, trivial⟩
      · exact quiet

end Quiet

/-- What holds between two steps. -/
structure System.Coherent (system : System) : Prop where
  /-- The client is coherent. -/
  client : system.client.Coherent
  /-- No call waits for the lock of the condition. -/
  calls : ∀ call ∈ system.calls, call.Unlocked
  /-- No refresh waits for it. -/
  refreshers : ∀ refresher ∈ system.refreshers, refresher.point.Unlocked
  /-- Nothing sleeps on a closed client. -/
  awake : ∀ call ∈ system.calls, call.point = .waiting false → system.client.closed = false

namespace Call

variable {call : Call}

theorem notified_eq (call : Call) (notify : Bool) :
    call.notified notify = call ∨
      notify = true ∧ call.point = .waiting false ∧ call.notified notify =
        call.suspend (.waiting true) := by
  unfold notified
  split
  · exact .inr ⟨rfl, ‹_›, rfl⟩
  · exact .inl rfl

theorem notified_unlocked (unlocked : call.Unlocked) (notify : Bool) :
    (call.notified notify).Unlocked := by
  rcases call.notified_eq notify with same | ⟨-, -, changed⟩
  · rwa [same]
  · rw [changed]
    trivial

/-- A call which is still asleep was not notified. -/
theorem notified_asleep {notify : Bool} (asleep : (call.notified notify).point = .waiting false) :
    notify = false ∧ call.point = .waiting false := by
  rcases call.notified_eq notify with same | ⟨-, -, changed⟩
  · rw [same] at asleep
    refine ⟨?_, asleep⟩
    cases notify with
    | false => rfl
    | true =>
        have points := congrArg Call.point same
        simp [notified, asleep, suspend] at points
  · rw [changed] at asleep
    cases asleep

end Call

namespace System.Coherent

variable {settings : Settings} {before after : System} {event : Event}

theorem resumed (coherent : before.Coherent) {front back : List Call} {segment : Segment}
    (others : ∀ call ∈ front ++ back, call ∈ before.calls) (quiet : segment.Quiet before.client) :
    (before.resumed front back segment).Coherent := by
  have listed : ∀ call ∈ front ++ segment.call :: back,
      call = segment.call ∨ call ∈ before.calls := by
    intro call member
    rcases List.mem_append.mp member with earlier | later
    · exact .inr (others call (List.mem_append_left _ earlier))
    · rcases List.mem_cons.mp later with same | later
      · exact .inl same
      · exact .inr (others call (List.mem_append_right _ later))
  constructor
  · exact coherent.client.alike quiet.alike
  · intro call member
    obtain ⟨earlier, here, rfl⟩ := List.mem_map.mp member
    apply Call.notified_unlocked
    rcases listed earlier here with rfl | known
    · exact quiet.unlocked
    · exact coherent.calls earlier known
  · exact coherent.refreshers
  · intro call member asleep
    obtain ⟨earlier, here, rfl⟩ := List.mem_map.mp member
    have isOpen : before.client.closed = false := by
      rcases listed earlier here with rfl | known
      · exact quiet.isOpen (Call.notified_asleep asleep).2
      · exact coherent.awake earlier known (Call.notified_asleep asleep).2
    change segment.client.closed = false
    rw [quiet.alike]
    exact isOpen

theorem refreshed (coherent : before.Coherent) {front back : List Refresher} {refresher : Refresher}
    {refreshing : Refreshing} (others : ∀ other ∈ front ++ back, other ∈ before.refreshers)
    (quiet : refreshing.Quiet before.client) :
    (before.refreshed front back refresher refreshing).Coherent := by
  have concluded := quiet.conclude refresher.owner
  constructor
  · exact concluded.coherent
  · intro call member
    obtain ⟨earlier, here, rfl⟩ := List.mem_map.mp member
    exact Call.notified_unlocked (coherent.calls earlier here) _
  · intro other member
    rcases List.mem_append.mp member with kept | spawned
    · rcases List.mem_append.mp kept with earlier | later
      · exact coherent.refreshers other (others other (List.mem_append_left _ earlier))
      · rcases List.mem_cons.mp later with rfl | later
        · exact concluded.unlocked
        · exact coherent.refreshers other (others other (List.mem_append_right _ later))
    · unfold Owner.spawns at spawned
      split at spawned
      · rw [List.mem_singleton.mp spawned]
        trivial
      · rw [List.mem_singleton.mp spawned]
        trivial
      · cases spawned
  · intro call member asleep
    obtain ⟨earlier, here, rfl⟩ := List.mem_map.mp member
    obtain ⟨silent, asleep⟩ := Call.notified_asleep asleep
    change (refresher.owner.conclude refreshing).client.closed = false
    rw [concluded.notified silent]
    exact coherent.awake earlier here asleep

theorem step (coherent : before.Coherent) (step : Step settings before event after) :
    after.Coherent := by
  cases step with
  | begin operation params frames surroundings segment entered entering =>
      subst entering
      apply coherent.resumed
      · simp
      · exact enter_quiet coherent.client.free
  | refuse operation params frames ending refusal =>
      constructor
      · exact coherent.client
      · intro call member
        rcases List.mem_append.mp member with known | new
        · exact coherent.calls call known
        · rw [List.mem_singleton.mp new]
          trivial
      · exact coherent.refreshers
      · intro call member asleep
        rcases List.mem_append.mp member with known | new
        · exact coherent.awake call known asleep
        · rw [List.mem_singleton.mp new] at asleep
          cases asleep
  | resume front back call surroundings input segment here resuming =>
      apply coherent.resumed
      · intro other member
        rw [here]
        exact List.mem_append.mpr ((List.mem_append.mp member).imp id (List.mem_cons_of_mem _))
      · exact resume_quiet coherent.client.free (coherent.calls call (by simp [here])) resuming
  | stir front back call here waiting =>
      have listed : ∀ other ∈ front ++ call.suspend (.waiting true) :: back,
          other.point = .waiting true ∨ other ∈ before.calls := by
        intro other member
        rw [here]
        rcases List.mem_append.mp member with earlier | later
        · exact .inr (List.mem_append_left _ earlier)
        · rcases List.mem_cons.mp later with rfl | later
          · exact .inl rfl
          · exact .inr (List.mem_append_right _ (List.mem_cons_of_mem _ later))
      constructor
      · exact coherent.client
      · intro other member
        rcases listed other member with stirred | known
        · simp [Call.Unlocked, stirred]
        · exact coherent.calls other known
      · exact coherent.refreshers
      · intro other member asleep
        rcases listed other member with stirred | known
        · rw [stirred] at asleep
          cases asleep
        · exact coherent.awake other known asleep
  | refresh owner frames distinct once =>
      apply coherent.refreshed
      · simp
      · exact (refresh_renewal settings coherent.client.free frames .woken).quiet
          coherent.client
  | renew front back refresher input refreshing here renewing kept =>
      apply coherent.refreshed
      · intro other member
        rw [here]
        exact List.mem_append.mpr ((List.mem_append.mp member).imp id (List.mem_cons_of_mem _))
      · exact (refresher.resume_renewal coherent.client.free
          (coherent.refreshers refresher (by simp [here])) renewing).quiet coherent.client
  | close =>
      constructor
      · exact .close
      · intro call member
        obtain ⟨earlier, here, rfl⟩ := List.mem_map.mp member
        exact Call.notified_unlocked (coherent.calls earlier here) _
      · exact coherent.refreshers
      · intro call member asleep
        obtain ⟨earlier, here, rfl⟩ := List.mem_map.mp member
        cases (Call.notified_asleep asleep).1
  | remote call event exchange distinct acts =>
      exact ⟨coherent.client, coherent.calls, coherent.refreshers, coherent.awake⟩

theorem start : System.start.Coherent := by
  refine ⟨⟨rfl, nofun, nofun⟩, ?_, ?_, ?_⟩ <;> simp [System.start]

theorem run {trace : List Event} (run : Run settings System.start trace after) : after.Coherent :=
  Labelled.Execution.invariant System.Coherent System.Coherent.step run start

end System.Coherent

end Sdk

end AiProtocol
