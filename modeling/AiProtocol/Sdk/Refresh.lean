import AiProtocol.Sdk.Slots

/-!
# Failing refreshes

A refresh which does not store a policy leaves a client which is not ready, and its poller polling,
unless it meets an exception which nothing on its way handles.
-/

namespace AiProtocol

namespace Sdk

/-- How the refresh of a step ended. -/
def Event.ended : Event → Option Refreshed
  | .refresh _ ended | .renew _ _ ended => ended
  | _ => none

/-- The pollers poll until the client is closed. -/
def System.Polls (system : System) : Prop :=
  system.client.closed = false → ∀ refresher ∈ system.refreshers, refresher.owner = .poller →
    ∀ result, refresher.point ≠ .done result

/-- A refresh ended without a policy. -/
structure System.FailsClosed (before after : System) : Prop where
  /-- The client is not ready. -/
  paused : after.client.ready = false
  /-- The stored policy is the one before. -/
  kept : after.client.policy = before.client.policy
  /-- All waiters were notified. -/
  notified : ∀ call ∈ after.calls, call.point ≠ .waiting false
  /-- The pollers poll. -/
  polls : after.Polls

/-- The exception which a refresh meets is handled; or the client is closed, or about to be; or a
caller of `refresh` meets it while the client is not ready and all its waiters are notified. -/
def System.Absorbs (system : System) (owner : Owner) (error : PyError) : Prop :=
  PyError.handled error = true ∨ system.client.closed = true ∨ owner = .entering ∨
    owner = .caller ∧ system.client.ready = false ∧
      ∀ call ∈ system.calls, call.point ≠ .waiting false

/-- An exception which a refresh meets in a step is absorbed. -/
def System.Contained (settings : Settings) (system : System) : Event → Prop
  | .renew id input _ => ∀ refresher, system.refreshers[id]? = some refresher →
      refresher.point = .fetching → ∀ error,
        failure settings system.client refresher.frames input = some error →
          system.Absorbs refresher.owner error
  | _ => True

/-- Runs in which every exception is contained. -/
abbrev ContainedRun (settings : Settings) :=
  Labelled.Execution fun before event after =>
    Step settings before event after ∧ System.Contained settings before event

/-- Only pollers rest. -/
def System.Rests (system : System) : Prop :=
  ∀ refresher ∈ system.refreshers, refresher.point = .resting → refresher.owner = .poller

section Steps

variable {settings : Settings} {before after : System} {event : Event}

theorem System.FailsClosed.of_closed (coherent : after.Coherent)
    (closed : after.client.closed = true)
    (kept : after.client.policy = before.client.policy) : before.FailsClosed after := by
  refine ⟨?_, kept, ?_, ?_⟩
  · rw [Bool.eq_false_iff]
    intro ready
    rw [coherent.client.isOpen ready] at closed
    cases closed
  · intro call member asleep
    rw [coherent.awake call member asleep] at closed
    cases closed
  · intro isOpen
    rw [isOpen] at closed
    cases closed

private theorem Owner.conclude_poller (refreshing : Refreshing) :
    (Owner.poller.conclude refreshing).client = refreshing.client := by
  unfold conclude
  dsimp only
  split <;> rfl

theorem mem_refreshed {front back : List Refresher} {refresher other : Refresher}
    {refreshing : Refreshing}
    (member : other ∈ (before.refreshed front back refresher refreshing).refreshers) :
    other ∈ front ++ back ∨
      other = { refresher with point := (refresher.owner.conclude refreshing).point } ∨
        other.owner = .poller ∧ other.point = .resting := by
  rcases List.mem_append.mp member with kept | spawned
  · rcases List.mem_append.mp kept with earlier | later
    · exact .inl (List.mem_append_left _ earlier)
    · rcases List.mem_cons.mp later with same | later
      · exact .inr (.inl same)
      · exact .inl (List.mem_append_right _ later)
  · unfold Owner.spawns at spawned
    split at spawned
    · exact .inr (.inr (List.mem_singleton.mp spawned ▸ ⟨rfl, rfl⟩))
    · exact .inr (.inr (List.mem_singleton.mp spawned ▸ ⟨rfl, rfl⟩))
    · cases spawned

theorem System.Polls.refreshed (polls : before.Polls) {front back : List Refresher}
    {refresher : Refresher} {refreshing : Refreshing}
    (others : ∀ other ∈ front ++ back, other ∈ before.refreshers)
    (quiet : refreshing.Quiet before.client)
    (own : refresher.owner = .poller → refreshing.client.closed = false →
      ∀ result, (refresher.owner.conclude refreshing).point ≠ .done result) :
    (before.refreshed front back refresher refreshing).Polls := by
  intro isOpen other member poller
  have opened : before.client.closed = false := by
    rw [Bool.eq_false_iff]
    intro closed
    have still := (quiet.conclude refresher.owner).closed closed
    change (refresher.owner.conclude refreshing).client.closed = false at isOpen
    rw [still] at isOpen
    cases isOpen
  rcases mem_refreshed member with known | rfl | ⟨-, resting⟩
  · exact polls opened other (others other known) poller
  · apply own poller
    have owned : refresher.owner = .poller := poller
    rw [← Owner.conclude_poller, ← owned]
    exact isOpen
  · intro result
    rw [resting]
    nofun

namespace Owner

private theorem conclude_kept (owner : Owner) (refreshing : Refreshing) :
    (owner.conclude refreshing).client.policy = refreshing.client.policy ∧
      (refreshing.client.ready = false → (owner.conclude refreshing).client.ready = false) ∧
        (refreshing.notify = true → (owner.conclude refreshing).notify = true) := by
  cases owner with
  | caller => exact ⟨rfl, id, id⟩
  | entering =>
      unfold conclude
      dsimp only
      split
      · exact ⟨rfl, fun _ => rfl, fun _ => rfl⟩
      · exact ⟨rfl, id, id⟩
  | poller =>
      unfold conclude
      dsimp only
      split <;> exact ⟨rfl, id, id⟩

private theorem conclude_raised (owner : Owner) {client : Client} {error : PyError} {notify : Bool}
    (foreign : PyError.handled error = false) :
    (owner.conclude { client, point := .done (.raised error), notify }).point =
      .done (.raised error) := by
  cases owner with
  | poller => cases error <;> first | rfl | cases foreign
  | _ => rfl

end Owner

section Ends

variable {front back : List Refresher} {refresher : Refresher} {input : RefreshInput}
  {refreshing : Refreshing}

/-- The pollers after a refresh whose exception is absorbed. -/
theorem Renewal.polls (polls : before.Polls) (coherent : before.Coherent)
    (renewal : Renewal settings before.client refresher.frames refresher.point input refreshing)
    (others : ∀ other ∈ front ++ back, other ∈ before.refreshers)
    (cancel : refresher.owner = .poller → refreshing.point = .done (.raised .cancelled) →
      before.client.closed = true)
    (absorbs : refresher.point = .fetching → ∀ error,
      failure settings before.client refresher.frames input = some error →
        before.Absorbs refresher.owner error) :
    (before.refreshed front back refresher refreshing).Polls := by
  apply polls.refreshed others (renewal.quiet coherent.client)
  intro poller isOpen result
  rw [poller] at cancel ⊢
  generalize point : refresher.point = here at renewal absorbs
  cases renewal with
  | begins => simp [Owner.conclude]
  | late | applied | skipped => simp [Owner.conclude]
  | cancelled =>
      have closed := cancel rfl rfl
      simp [closed] at isOpen
  | pauses _ error fails handled =>
      by_cases interrupted : error = .cancelled
      · have closed := cancel rfl (by simp [interrupted])
        simp [closed] at isOpen
      · simp [Owner.conclude, interrupted]
  | escapes _ error fails foreign =>
      exfalso
      rcases absorbs rfl error fails with handled | closed | entering | ⟨caller, -⟩
      · rw [foreign] at handled
        cases handled
      · simp [closed] at isOpen
      · rw [poller] at entering
        cases entering
      · rw [poller] at caller
        cases caller

/-- An exception which escapes and leaves the client closed to new attempts is absorbed. -/
theorem System.FailsClosed.absorbs {error : PyError} (foreign : PyError.handled error = false)
    (closes : before.FailsClosed (before.refreshed front back refresher
      { client := before.client, point := .done (.raised error), notify := false })) :
    before.Absorbs refresher.owner error := by
  right
  cases owner : refresher.owner with
  | entering => exact .inr (.inl rfl)
  | caller =>
      refine .inr (.inr ⟨rfl, ?_, ?_⟩)
      · have unready := closes.paused
        simpa [System.refreshed, owner, Owner.conclude] using unready
      · intro call member asleep
        have listed := List.mem_map_of_mem (f := fun call : Call => call.notified false) member
        apply closes.notified (call.notified false)
        · simpa [System.refreshed, owner, Owner.conclude] using listed
        · simp [Call.notified, asleep]
  | poller =>
      left
      by_contra isOpen
      have same := Owner.conclude_poller
        { client := before.client, point := .done (.raised error), notify := false }
      rw [← owner] at same
      apply closes.polls ((congrArg Client.closed same).trans (Bool.eq_false_iff.mpr isOpen))
        { refresher with point := .done (.raised error) } _ owner _ rfl
      simp [System.refreshed, Owner.conclude_raised _ foreign]

/-- A refresh which ends without a policy leaves the client closed to new attempts if and only if
its exception is absorbed. -/
theorem Renewal.fails_closed (polls : before.Polls) (coherent : before.Coherent)
    (renewal : Renewal settings before.client refresher.frames refresher.point input refreshing)
    (others : ∀ other ∈ front ++ back, other ∈ before.refreshers)
    (cancel : refresher.point = .resting ∨ refresher.owner = .poller →
      refreshing.point = .done (.raised .cancelled) → before.client.closed = true)
    {result : Refreshed} (ended : refreshing.point.ended = some result)
    (unapplied : result ≠ .applied) :
    before.FailsClosed (before.refreshed front back refresher refreshing) ↔
      (refresher.point = .fetching → ∀ error,
        failure settings before.client refresher.frames input = some error →
          before.Absorbs refresher.owner error) := by
  have quiet := renewal.quiet coherent.client
  have concluded := quiet.conclude refresher.owner
  have next : (before.refreshed front back refresher refreshing).Coherent :=
    coherent.refreshed others quiet
  have polled := renewal.polls polls coherent others fun poller => cancel (.inr poller)
  obtain ⟨policy, paused, notified⟩ := refresher.owner.conclude_kept refreshing
  have of_closed : (refresher.owner.conclude refreshing).client.closed = true →
      refreshing.client.policy = before.client.policy →
        before.FailsClosed (before.refreshed front back refresher refreshing) :=
    fun closed kept => .of_closed next closed (policy.trans kept)
  generalize point : refresher.point = here at renewal cancel polled
  cases renewal with
  | begins => cases ended
  | applied =>
      cases ended
      exact absurd rfl unapplied
  | late _ closed =>
      exact iff_of_true (of_closed (concluded.closed closed) rfl) nofun
  | skipped _ _ closed =>
      exact iff_of_true (of_closed (concluded.closed closed) rfl) fun _ _ _ => .inr (.inl closed)
  | cancelled =>
      exact iff_of_true (of_closed (concluded.closed (cancel (.inl rfl) rfl)) rfl) nofun
  | pauses _ error fails handled =>
      have absorbs : ∀ met, failure settings before.client refresher.frames input = some met →
          before.Absorbs refresher.owner met := by
        intro met again
        rw [fails] at again
        cases again
        exact .inl handled
      refine iff_of_true ⟨paused rfl, policy, ?_, polled fun _ => absorbs⟩ fun _ => absorbs
      intro call member asleep
      obtain ⟨earlier, here, rfl⟩ := List.mem_map.mp member
      have silent := (Call.notified_asleep asleep).1
      rw [notified rfl] at silent
      cases silent
  | escapes _ error fails foreign =>
      constructor
      · intro closes _ met again
        rw [fails] at again
        cases again
        exact closes.absorbs foreign
      · intro absorbs
        rcases absorbs rfl error fails with handled | closed | entering | ⟨caller, unready, awake⟩
        · rw [foreign] at handled
          cases handled
        · exact of_closed (concluded.closed closed) rfl
        · exact of_closed (by rw [entering]; rfl) rfl
        · refine ⟨paused unready, policy, ?_, polled absorbs⟩
          intro call member asleep
          obtain ⟨earlier, here, rfl⟩ := List.mem_map.mp member
          exact awake earlier here (Call.notified_asleep asleep).2

end Ends

/-- A refresh never stays at rest unless it is a poller's. -/
theorem Renewal.rests {frames : Nat} {point : RefreshPoint} {input : RefreshInput}
    {refreshing : Refreshing} {client : Client}
    (renewal : Renewal settings client frames point input refreshing) {owner : Owner}
    (resting : (owner.conclude refreshing).point = .resting) : owner = .poller := by
  cases owner with
  | poller => rfl
  | caller => cases renewal <;> cases resting
  | entering => cases renewal <;> cases resting

theorem System.Rests.refreshed (rests : before.Rests) {front back : List Refresher}
    {refresher : Refresher} {input : RefreshInput} {refreshing : Refreshing}
    (others : ∀ other ∈ front ++ back, other ∈ before.refreshers)
    (renewal : Renewal settings before.client refresher.frames refresher.point input refreshing) :
    (before.refreshed front back refresher refreshing).Rests := by
  intro other member resting
  rcases mem_refreshed member with known | rfl | ⟨poller, -⟩
  · exact rests other (others other known) resting
  · exact renewal.rests resting
  · exact poller

/-- What one step does to refreshes and pollers. -/
theorem System.Coherent.fails_closed (coherent : before.Coherent) (polls : before.Polls)
    (rests : before.Rests) (step : Step settings before event after) :
    (∀ result, event.ended = some result → result ≠ .applied →
      (before.FailsClosed after ↔ before.Contained settings event)) ∧
    (before.Contained settings event → after.Polls) ∧ after.Rests := by
  cases step with
  | refresh owner frames distinct once =>
      have others : ∀ other ∈ before.refreshers ++ [], other ∈ before.refreshers := by simp
      have uncancelled : ∀ refreshing,
          Renewal settings before.client frames .resting .woken refreshing →
          refreshing.point = .done (.raised .cancelled) → before.client.closed = true := by
        intro refreshing renewal cancelled
        cases renewal <;> cases cancelled
      have cancel := uncancelled _ (refresh_renewal settings coherent.client.free frames .woken)
      generalize made : ({ owner, frames, point := .resting } : Refresher) = fresh
      have resting : fresh.point ≠ .fetching := by
        rw [← made]
        nofun
      have renewal : Renewal settings before.client fresh.frames fresh.point .woken
          (refresh before.client) :=
        made ▸ refresh_renewal settings coherent.client.free frames .woken
      refine ⟨fun result ended unapplied => ?_, fun _ => ?_, rests.refreshed others renewal⟩
      · rw [renewal.fails_closed polls coherent others (fun _ => cancel) ended unapplied]
        exact iff_of_true (fun fetching => absurd fetching resting) trivial
      · exact renewal.polls polls coherent others (fun _ => cancel)
          fun fetching => absurd fetching resting
  | renew front back refresher input refreshing here renewing kept =>
      have member : refresher ∈ before.refreshers := by simp [here]
      have renewal := refresher.resume_renewal coherent.client.free
        (coherent.refreshers refresher member) renewing
      have others : ∀ other ∈ front ++ back, other ∈ before.refreshers := by
        intro other listed
        rw [here]
        exact List.mem_append.mpr ((List.mem_append.mp listed).imp id (List.mem_cons_of_mem _))
      have contained : before.Contained settings
          (.renew front.length input refreshing.point.ended) ↔
            (refresher.point = .fetching → ∀ error,
              failure settings before.client refresher.frames input = some error →
                before.Absorbs refresher.owner error) := by
        simp [System.Contained, here]
      refine ⟨fun result ended unapplied => ?_, fun absorbs => ?_, rests.refreshed others renewal⟩
      · rw [contained]
        apply renewal.fails_closed polls coherent others _ ended unapplied
        rintro (resting | poller)
        · exact kept (rests refresher member resting)
        · exact kept poller
      · exact renewal.polls polls coherent others kept (contained.mp absorbs)
  | resume front back call surroundings input segment here resuming =>
      have quiet := resume_quiet coherent.client.free (coherent.calls call (by simp [here]))
          resuming
      refine ⟨nofun, fun _ isOpen => polls ?_, rests⟩
      have same : segment.client.closed = before.client.closed := by rw [quiet.alike]
      exact same.symm.trans isOpen
  | begin operation params frames surroundings segment entered entering =>
      have quiet : (enter settings before.client (.new operation params frames)
          surroundings).Quiet before.client := enter_quiet coherent.client.free
      rw [entering] at quiet
      refine ⟨nofun, fun _ isOpen => polls ?_, rests⟩
      have same : segment.client.closed = before.client.closed := by rw [quiet.alike]
      exact same.symm.trans isOpen
  | close => exact ⟨nofun, fun _ => nofun, rests⟩
  | _ => exact ⟨nofun, fun _ => polls, rests⟩

end Steps

/-- Refreshes fail closed, as long as the exceptions they meet are absorbed.  After a refresh which
ended without a policy the client is not ready, its policy is the one before, its waiters were
notified, and its pollers poll until the client is closed.  The first refresh whose exception is not
absorbed breaks this. -/
theorem refresh_fails_closed {settings : Settings} {trace : List Event} {system : System}
    (run : ContainedRun settings .start trace system) :
    system.Polls ∧ ∀ event later, Step settings system event later →
      ∀ result, event.ended = some result → result ≠ .applied →
        (system.FailsClosed later ↔ system.Contained settings event) := by
  have invariant : system.Coherent ∧ system.Polls ∧ system.Rests := by
    apply run.invariant fun system => system.Coherent ∧ system.Polls ∧ system.Rests
    · rintro before after event ⟨coherent, polls, rests⟩ ⟨step, contained⟩
      obtain ⟨-, polled, rested⟩ := coherent.fails_closed polls rests step
      exact ⟨coherent.step step, polled contained, rested⟩
    · exact ⟨.start, nofun, nofun⟩
  obtain ⟨coherent, polls, rests⟩ := invariant
  exact ⟨polls, fun event later step => (coherent.fails_closed polls rests step).1⟩

theorem System.contained_of_shallow {settings : Settings}
    (documented : ∀ schema error, settings.checkSchema schema = .error error →
      error.isValue = true ∨ error = .schema)
    {system : System} {id status : Nat} {policy : Json} {ended : Option Refreshed}
    (shallow : ∀ refresher, system.refreshers[id]? = some refresher →
      policy.nested ((refresher.frames - 1) / 2) = true) :
    system.Contained settings (.renew id (.fetched (.ok { status, body := .ok policy }))
      ended) := by
  intro refresher found _ error fails
  left
  simp only [failure] at fails
  split at fails
  · cases fails
    rfl
  · split at fails
    · rename_i invalid
      cases fails
      have value := validatePolicy_shallow documented (shallow refresher found) invalid
      cases error <;> first | rfl | cases value
    · cases fails

def deeper : Json :=
  .object
    [("version", .unsigned 3), ("principal_id", .string "owner"), ("client_class", .string "agent"),
      ("policy_revision", .unsigned 2), ("refresh_after_ms", .unsigned 1000),
      ("outstanding", .unsigned 0),
      ("limits", .object [("scope", .string "principal"), ("max_outstanding", .unsigned 1)]),
      ("operations", .array [.object
        [("name", .string "search"), ("description", .string ""), ("method", .string "POST"),
          ("path", .string "/search"), ("input_schema", .object [("default", nesting 60)])]])]

/-- An entered client whose poller fetches a policy. -/
def polling : System where
  client :=
    { policy := some searches, active := 0, ready := true, closed := false, locked := false }
  calls := []
  refreshers :=
    [{ owner := .entering, frames := 100, point := .done .applied },
      { owner := .poller, frames := 100, point := .fetching }]
  exchanges _ := .fresh

private theorem lenient_documented (schema : Json) (error : PyError)
    (raised : lenient.checkSchema schema = .error error) :
    error.isValue = true ∨ error = .schema := by
  cases raised

theorem polling_run : ∃ trace, ContainedRun lenient .start trace polling := by
  have asked : Step lenient .start (.refresh .entering none)
      (System.start.refreshed [] [] { owner := .entering, frames := 100, point := .resting }
        (refresh .new)) := .refresh .start .entering 100 nofun fun _ => ⟨rfl, nofun⟩
  have entered : Step lenient (System.start.refreshed [] []
      { owner := .entering, frames := 100, point := .resting } (refresh .new))
      (.renew 0 (.fetched (.ok { status := 200, body := .ok searches })) (some .applied))
      { polling with refreshers :=
        [{ owner := .entering, frames := 100, point := .done .applied },
          { owner := .poller, frames := 100, point := .resting }] } :=
    .renew _ [] [] { owner := .entering, frames := 100, point := .fetching } _
      { client := polling.client, point := .done .applied, notify := true } rfl rfl nofun
  have woken : Step lenient
      { polling with refreshers :=
        [{ owner := .entering, frames := 100, point := .done .applied },
          { owner := .poller, frames := 100, point := .resting }] }
      (.renew 1 .woken none) polling :=
    .renew _ [{ owner := .entering, frames := 100, point := .done .applied }] []
      { owner := .poller, frames := 100, point := .resting } _
      { client := polling.client, point := .fetching, notify := false } rfl rfl nofun
  refine ⟨_, .tail (.tail (.single ⟨asked, trivial⟩) ⟨entered, ?_⟩) ⟨woken, ?_⟩⟩
  · refine System.contained_of_shallow lenient_documented fun refresher found => ?_
    obtain rfl := Option.some.inj found
    rfl
  · intro refresher found fetching
    obtain rfl := Option.some.inj found
    cases fetching

theorem refresh_fails_closed_sample : ∃ later,
    Step lenient polling (.renew 1 (.fetched (.ok { status := 500, body := .ok .null }))
      (some (.raised (.protocol "Policy refresh failed")))) later ∧
    polling.FailsClosed later := by
  obtain ⟨trace, run⟩ := polling_run
  have step : Step lenient polling (.renew 1 (.fetched (.ok { status := 500, body := .ok .null }))
      (some (.raised (.protocol "Policy refresh failed")))) _ :=
    .renew polling [{ owner := .entering, frames := 100, point := .done .applied }] []
      { owner := .poller, frames := 100, point := .fetching } _
      { client := { polling.client with ready := false }
        point := .done (.raised (.protocol "Policy refresh failed"))
        notify := true } rfl rfl nofun
  refine ⟨_, step, ((refresh_fails_closed run).2 _ _ step _ rfl nofun).mpr ?_⟩
  refine System.contained_of_shallow lenient_documented fun refresher found => ?_
  obtain rfl := Option.some.inj found
  rfl

/-- A policy too deep to copy leaves the client ready on the old one, with a dead poller. -/
theorem refresh_fails_open : ∃ trace later, Run lenient .start trace polling ∧
    Step lenient polling (.renew 1 (.fetched (.ok { status := 200, body := .ok deeper }))
      (some (.raised .recursion))) later ∧
    later.client.ready = true ∧ later.client.policy = some searches ∧
      later.refreshers.getLast?.map Refresher.point = some (.done (.raised .recursion)) := by
  obtain ⟨trace, run⟩ := polling_run
  have step : Step lenient polling (.renew 1 (.fetched (.ok { status := 200, body := .ok deeper }))
      (some (.raised .recursion))) _ :=
    .renew polling [{ owner := .entering, frames := 100, point := .done .applied }] []
      { owner := .poller, frames := 100, point := .fetching } _
      { client := polling.client, point := .done (.raised .recursion), notify := false }
      rfl rfl nofun
  exact ⟨trace, _, run.mono And.left, step, rfl, rfl, rfl⟩

end Sdk

end AiProtocol
