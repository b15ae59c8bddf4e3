import AiProtocol.Sdk.Refresh

/-!
# Entering and closing

`__aenter__` creates a poller after a refresh which suspends, and `aclose` waits for the poller
which is stored.  Nothing holds the lock of the condition across a suspension, so that the beginning
of `aclose` is one step.
-/

namespace AiProtocol

namespace Sdk

/-! ## Closing -/

/-- Where an `aclose` is. -/
inductive ClosePoint where
  /-- `await self._refresher`. -/
  | joining (poller : Nat)
  /-- `await self._http.aclose()`. -/
  | transport
  /-- It returned. -/
  | returned
  /-- It raised. -/
  | raised (error : PyError)

/-- An `aclose`. -/
structure Closing where
  /-- `__aenter__` runs it. -/
  entering : Bool
  /-- Where it is. -/
  point : ClosePoint

/-- The `aclose` is over. -/
def Closing.Ended (closing : Closing) : Prop :=
  closing.point = .returned ∨ ∃ error, closing.point = .raised error

namespace System

/-- The exception a poller ended with; `_poll` never returns. -/
def ending (system : System) (poller : Nat) : Option PyError :=
  match (system.refreshers[poller]?).map Refresher.point with
  | some (.done (.raised error)) => some error
  | _ => none

/-- `_refresher` and `aclose`, from `await self._refresher` up to the next suspension. -/
def join (system : System) (stored : Option Nat) (poller : Nat) : Option Nat × ClosePoint :=
  match system.ending poller with
  | none => (stored, .joining poller)
  | some .cancelled => (none, .transport)
  | some error => (stored, .raised error)

/-- `_refresher` and `aclose`, from the end of the condition up to the next suspension.  The poller
meets its cancellation at a later step of its own. -/
def stop (system : System) (stored : Option Nat) : Option Nat × ClosePoint :=
  match stored with
  | none => (none, .transport)
  | some poller => system.join stored poller

/-- The end of the refresh of an `__aenter__`. -/
def entered (system : System) : Event → Option Refreshed
  | .refresh .entering ended => ended
  | .renew id _ ended =>
      match system.refreshers[id]? with
      | some refresher => if refresher.owner = .entering then ended else none
      | none => none
  | _ => none

/-- A poller runs. -/
def Runs (system : System) (index : Nat) : Prop :=
  ∃ refresher, system.refreshers[index]? = some refresher ∧ refresher.owner = .poller ∧
    ∀ result, refresher.point ≠ .done result

end System

/-! ## Steps -/

/-- A client with its `_refresher`, by the place of the poller among the refreshes, and every
`aclose` which took the condition. -/
structure Lifecycle where
  /-- The client and its tasks. -/
  system : System
  /-- `_refresher`. -/
  refresher : Option Nat
  /-- What closes the client. -/
  closings : List Closing

namespace Lifecycle

/-- Before `__aenter__`. -/
def start : Lifecycle where
  system := .start
  refresher := none
  closings := []

/-- `aclose` begins. -/
def close (lifecycle : Lifecycle) (entering : Bool) (system : System) : Lifecycle where
  system := system
  refresher := (system.stop lifecycle.refresher).1
  closings := lifecycle.closings ++ [{ entering, point := (system.stop lifecycle.refresher).2 }]

/-- What `__aenter__` does as its refresh is done, in the same step. -/
def conclude (lifecycle : Lifecycle) (system : System) : Option Refreshed → Lifecycle
  | none => { lifecycle with system }
  | some (.raised _) => lifecycle.close true system
  | some .applied | some .skipped =>
      { lifecycle with system, refresher := some (system.refreshers.length - 1) }

/-- What a step did. -/
inductive Event where
  /-- A step of the client. -/
  | act (event : Sdk.Event)
  /-- An `aclose` learns that the poller is done. -/
  | join (closing : Nat)
  /-- The transport of an `aclose` is closed, or that raised. -/
  | hangUp (closing : Nat) (error : Option PyError)

/-- What a step of the client makes of the lifecycle. -/
def follow (lifecycle : Lifecycle) (event : Sdk.Event) (system : System) : Lifecycle :=
  match event with
  | .close => lifecycle.close false system
  | event => lifecycle.conclude system (lifecycle.system.entered event)

inductive Step (settings : Settings) : Lifecycle → Event → Lifecycle → Prop
  | act (lifecycle : Lifecycle) (event : Sdk.Event) (system : System)
      (step : Sdk.Step settings lifecycle.system event system)
      -- the check at the beginning of `__aenter__`
      (once : ∀ ended, event = .refresh .entering ended → lifecycle.refresher = none) :
      Step settings lifecycle (.act event) (lifecycle.follow event system)
  | join (lifecycle : Lifecycle) (front back : List Closing) (closing : Closing) (poller : Nat)
      (here : lifecycle.closings = front ++ closing :: back)
      (joining : closing.point = .joining poller)
      (ended : (lifecycle.system.ending poller).isSome) :
      Step settings lifecycle (.join front.length)
        { lifecycle with
          refresher := (lifecycle.system.join lifecycle.refresher poller).1
          closings := front ++
            { closing with point := (lifecycle.system.join lifecycle.refresher poller).2 } :: back }
  | hangUp (lifecycle : Lifecycle) (front back : List Closing) (closing : Closing)
      (error : Option PyError) (here : lifecycle.closings = front ++ closing :: back)
      (transport : closing.point = .transport) :
      Step settings lifecycle (.hangUp front.length error)
        { lifecycle with
          closings := front ++
            { closing with point := error.elim .returned .raised } :: back }

/-- Executions. -/
abbrev Run (settings : Settings) :=
  Labelled.Execution (Step settings)

/-- Every `__aenter__` is over. -/
def Entered (lifecycle : Lifecycle) : Prop :=
  (∀ refresher ∈ lifecycle.system.refreshers, refresher.owner = .entering →
    ∃ result, refresher.point = .done result) ∧
  ∀ closing ∈ lifecycle.closings, closing.entering = true → closing.Ended

/-- What is said of the pollers of a client. -/
structure OnePoller (lifecycle : Lifecycle) : Prop where
  /-- At most one runs. -/
  single : ∀ left right, lifecycle.system.Runs left → lifecycle.system.Runs right → left = right
  /-- It is the one which is stored. -/
  stored : ∀ index, lifecycle.system.Runs index → lifecycle.refresher = some index
  /-- A closed client is not ready. -/
  unready : lifecycle.system.client.closed = true → lifecycle.system.client.ready = false
  /-- None runs once an `aclose` has returned and every `__aenter__` is over. -/
  stopped : (∃ closing ∈ lifecycle.closings, closing.point = .returned) → lifecycle.Entered →
    ∀ index, ¬lifecycle.system.Runs index

/-- Where the refresh of an `__aenter__` returns, the client is open and no poller runs. -/
def Exclusive (lifecycle : Lifecycle) : Event → Prop
  | .act event => ∀ ended, lifecycle.system.entered event = some ended →
      (∀ error, ended ≠ .raised error) →
        lifecycle.system.client.closed = false ∧ ∀ index, ¬lifecycle.system.Runs index
  | _ => True

/-- Executions whose steps are exclusive. -/
abbrev ExclusiveRun (settings : Settings) :=
  Labelled.Execution fun before event after =>
    Step settings before event after ∧ before.Exclusive event

end Lifecycle

/-! ## What a step does to the pollers -/

theorem Owner.mem_spawns {owner : Owner} {frames : Nat} {point : RefreshPoint} {other : Refresher}
    (spawned : other ∈ owner.spawns frames point) :
    owner = .entering ∧ other = { owner := .poller, frames, point := .resting } ∧
      ∃ ended, point.ended = some ended ∧ ∀ error, ended ≠ .raised error := by
  unfold spawns at spawned
  split at spawned
  · exact ⟨rfl, List.mem_singleton.mp spawned, .applied, rfl, nofun⟩
  · exact ⟨rfl, List.mem_singleton.mp spawned, .skipped, rfl, nofun⟩
  · cases spawned

private theorem Refresher.not_done {settings : Settings} {client : Client} {refresher : Refresher}
    {input : RefreshInput} {refreshing : Refreshing}
    (renewing : refresher.resume settings client input = some refreshing) (result : Refreshed) :
    refresher.point ≠ .done result := by
  intro done
  cases input <;> simp [Refresher.resume, done] at renewing

namespace System

section Pollers

variable {settings : Settings} {before after : System} {event : Sdk.Event} {index : Nat}
  {front back : List Refresher} {refresher other : Refresher} {refreshing : Refreshing}

/-- Where the refreshes stand after one of them went on. -/
theorem getElem?_refreshed
    (found : (before.refreshed front back refresher refreshing).refreshers[index]? = some other) :
    (index ≠ front.length ∧ (front ++ refresher :: back)[index]? = some other) ∨
      (index = front.length ∧
        other = { refresher with point := (refresher.owner.conclude refreshing).point }) ∨
      (other ∈ refresher.owner.spawns refresher.frames refreshing.point ∧
        index = (before.refreshed front back refresher refreshing).refreshers.length - 1) := by
  generalize next : ({ refresher with
    point := (refresher.owner.conclude refreshing).point } : Refresher) = renewed
  generalize pollers : refresher.owner.spawns refresher.frames refreshing.point = spawned
  have listed : (before.refreshed front back refresher refreshing).refreshers =
      front ++ renewed :: back ++ spawned := by
    rw [← next, ← pollers]
    rfl
  rw [listed] at found ⊢
  by_cases inside : index < (front ++ renewed :: back).length
  · rw [List.getElem?_append_left inside] at found
    by_cases here : index = front.length
    · subst here
      rw [List.getElem?_append_right le_rfl, Nat.sub_self, List.getElem?_cons_zero] at found
      exact .inr (.inl ⟨rfl, (Option.some.inj found).symm⟩)
    · have replaced : (front ++ refresher :: back).set front.length renewed =
          front ++ renewed :: back := by simp
      rw [← replaced, List.getElem?_set_ne (Ne.symm here)] at found
      exact .inl ⟨here, found⟩
  · rw [List.getElem?_append_right (Nat.not_lt.mp inside)] at found
    have member := List.mem_of_getElem? found
    have short : spawned.length ≤ 1 := by
      rw [← pollers]
      unfold Owner.spawns
      split <;> simp
    have bound := (List.getElem?_eq_some_iff.mp found).1
    refine .inr (.inr ⟨member, ?_⟩)
    rw [List.length_append]
    omega

theorem entered_renew {input : RefreshInput} {ended : Option Refreshed}
    (here : before.refreshers = front ++ refresher :: back) :
    before.entered (.renew front.length input ended) =
      if refresher.owner = .entering then ended else none := by
  simp only [entered, here, List.getElem?_append_right le_rfl, Nat.sub_self,
    List.getElem?_cons_zero]

/-- A poller was one before, and stays as it is once it is done; or it is the one which `__aenter__`
has just created. -/
theorem pollers_step (step : Sdk.Step settings before event after)
    (found : after.refreshers[index]? = some other) (poller : other.owner = .poller) :
    (∃ earlier, before.refreshers[index]? = some earlier ∧ earlier.owner = .poller ∧
      ∀ result, earlier.point = .done result → other = earlier) ∨
    index = after.refreshers.length - 1 ∧
      ∃ ended, before.entered event = some ended ∧ ∀ error, ended ≠ .raised error := by
  cases step with
  | refresh owner frames distinct once =>
      rcases getElem?_refreshed found with ⟨elsewhere, same⟩ | ⟨-, rfl⟩ | ⟨spawned, last⟩
      · refine .inl ⟨other, ?_, poller, fun _ _ => rfl⟩
        rcases Nat.lt_or_ge index before.refreshers.length with inside | outside
        · rwa [List.getElem?_append_left inside] at same
        · rw [List.getElem?_append_right outside] at same
          have bound := (List.getElem?_eq_some_iff.mp same).1
          rw [List.length_singleton] at bound
          omega
      · exact (distinct poller).elim
      · obtain ⟨entering, -, ended, ends, normal⟩ := Owner.mem_spawns spawned
        refine .inr ⟨last, ended, ?_, normal⟩
        change owner = .entering at entering
        rw [entering]
        exact ends
  | renew front back refresher input refreshing here renewing kept =>
      rcases getElem?_refreshed found with ⟨-, same⟩ | ⟨rfl, rfl⟩ | ⟨spawned, last⟩
      · exact .inl ⟨other, here ▸ same, poller, fun _ _ => rfl⟩
      · refine .inl ⟨refresher, ?_, poller, fun result done => ?_⟩
        · rw [here]
          simp
        · exact absurd done (refresher.not_done renewing result)
      · obtain ⟨entering, -, ended, ends, normal⟩ := Owner.mem_spawns spawned
        refine .inr ⟨last, ended, ?_, normal⟩
        rw [entered_renew here, if_pos entering]
        exact ends
  | _ => exact .inl ⟨other, found, poller, fun _ _ => rfl⟩

theorem runs_step (step : Sdk.Step settings before event after) (runs : after.Runs index) :
    before.Runs index ∨ index = after.refreshers.length - 1 ∧
      ∃ ended, before.entered event = some ended ∧ ∀ error, ended ≠ .raised error := by
  obtain ⟨other, found, poller, running⟩ := runs
  refine (pollers_step step found poller).imp_left ?_
  rintro ⟨earlier, here, same, kept⟩
  exact ⟨earlier, here, same, fun result done => running result (kept result done ▸ done)⟩

private theorem closed_of_raised {error : PyError} (step : Sdk.Step settings before event after)
    (raised : before.entered event = some (.raised error)) : after.client.closed = true := by
  have closes {refreshing : Refreshing} (ended : refreshing.point.ended = some (.raised error)) :
      (Owner.entering.conclude refreshing).client.closed = true := by
    obtain ⟨client, point, notify⟩ := refreshing
    cases point with
    | done result =>
        obtain rfl : result = .raised error := Option.some.inj ended
        rfl
    | _ => cases ended
  cases step with
  | refresh owner frames distinct once =>
      cases owner with
      | entering => exact closes raised
      | _ => cases raised
  | renew front back refresher input refreshing here renewing kept =>
      rw [entered_renew here] at raised
      split at raised
      · rename_i entering
        change (refresher.owner.conclude refreshing).client.closed = true
        rw [entering]
        exact closes raised
      · cases raised
  | _ => cases raised

/-- A refresh which returns to `__aenter__` leaves a new poller running, beside those which ran. -/
theorem runs_refreshed (before : System) (front back : List Refresher) (refresher : Refresher)
    {ended : Refreshed} (entering : refresher.owner = .entering)
    (ends : refreshing.point.ended = some ended) (normal : ∀ error, ended ≠ .raised error) :
    let after := before.refreshed front back refresher refreshing
    after.Runs (after.refreshers.length - 1) ∧
      ∀ index other, (front ++ refresher :: back)[index]? = some other → other.owner = .poller →
        (∀ result, other.point ≠ .done result) →
          after.Runs index ∧ index ≠ after.refreshers.length - 1 := by
  intro after
  have spawned : refresher.owner.spawns refresher.frames refreshing.point =
      [{ owner := .poller, frames := refresher.frames, point := .resting }] := by
    obtain ⟨_, point, _⟩ := refreshing
    cases point with
    | done result =>
        obtain rfl : result = ended := Option.some.inj ends
        rw [entering]
        cases result with
        | raised error => exact absurd rfl (normal error)
        | _ => rfl
    | _ => cases ends
  obtain ⟨renewed, listed⟩ : ∃ renewed, after.refreshers = front ++ renewed :: back ++
      [{ owner := .poller, frames := refresher.frames, point := .resting }] :=
    ⟨_, congrArg (_ ++ ·) spawned⟩
  have size : after.refreshers.length - 1 = (front ++ renewed :: back).length := by
    rw [listed, List.length_append]
    rfl
  refine ⟨⟨{ owner := .poller, frames := refresher.frames, point := .resting }, ?_, rfl, nofun⟩,
    fun index other found poller running => ?_⟩
  · rw [size, listed, List.getElem?_append_right le_rfl, Nat.sub_self]
    rfl
  · have elsewhere : front.length ≠ index := by
      rintro rfl
      rw [List.getElem?_append_right le_rfl, Nat.sub_self, List.getElem?_cons_zero] at found
      obtain rfl := Option.some.inj found
      rw [entering] at poller
      cases poller
    have replaced : (front ++ refresher :: back).set front.length renewed =
        front ++ renewed :: back := by simp
    rw [← List.getElem?_set_ne elsewhere (a := renewed), replaced] at found
    have inside := (List.getElem?_eq_some_iff.mp found).1
    refine ⟨⟨other, ?_, poller, running⟩, size ▸ inside.ne⟩
    rw [listed, List.getElem?_append_left inside, found]

/-- So does a step with which the refresh of an `__aenter__` returns. -/
theorem runs_of_entered {ended : Refreshed} (step : Sdk.Step settings before event after)
    (ends : before.entered event = some ended) (normal : ∀ error, ended ≠ .raised error) :
    after.Runs (after.refreshers.length - 1) ∧
      ∀ index, before.Runs index → after.Runs index ∧ index ≠ after.refreshers.length - 1 := by
  cases step with
  | refresh owner frames distinct once =>
      cases owner with
      | entering =>
          obtain ⟨new, others⟩ := runs_refreshed before before.refreshers []
            { owner := .entering, frames, point := .resting } rfl ends normal
          refine ⟨new, ?_⟩
          rintro index ⟨other, found, poller, running⟩
          have inside := (List.getElem?_eq_some_iff.mp found).1
          exact others index other (by rwa [List.getElem?_append_left inside]) poller running
      | _ => cases ends
  | renew front back refresher input refreshing here renewing kept =>
      rw [entered_renew here] at ends
      split at ends
      · rename_i entering
        obtain ⟨new, others⟩ := runs_refreshed before front back refresher entering ends normal
        refine ⟨new, ?_⟩
        rintro index ⟨other, found, poller, running⟩
        exact others index other (here ▸ found) poller running
      · cases ends
  | _ => cases ends

/-- A closed client stays closed. -/
theorem Coherent.closed_step (coherent : before.Coherent)
    (step : Sdk.Step settings before event after) (closed : before.client.closed = true) :
    after.client.closed = true := by
  cases step with
  | begin operation params frames surroundings segment entered entering =>
      have quiet : (enter settings before.client (.new operation params frames)
        surroundings).Quiet before.client := enter_quiet coherent.client.free
      rw [entering] at quiet
      have same : segment.client.closed = before.client.closed := by rw [quiet.alike]
      exact same.trans closed
  | resume front back call surroundings input segment here resuming =>
      have quiet := resume_quiet coherent.client.free (coherent.calls call (by simp [here]))
        resuming
      have same : segment.client.closed = before.client.closed := by rw [quiet.alike]
      exact same.trans closed
  | refresh owner frames distinct once =>
      have renewal := refresh_renewal settings coherent.client.free frames .woken
      exact ((renewal.quiet coherent.client).conclude owner).closed closed
  | renew front back refresher input refreshing here renewing kept =>
      have renewal := refresher.resume_renewal coherent.client.free
        (coherent.refreshers refresher (by simp [here])) renewing
      exact ((renewal.quiet coherent.client).conclude refresher.owner).closed closed
  | close => rfl
  | _ => exact closed

end Pollers

theorem not_runs_of_ending {system : System} {poller : Nat}
    (ended : (system.ending poller).isSome) : ¬system.Runs poller := by
  rintro ⟨refresher, found, -, running⟩
  simp only [ending, found, Option.map_some] at ended
  split at ended
  · rename_i error done
    exact running _ (Option.some.inj done)
  · cases ended

theorem join_cases (system : System) (stored : Option Nat) (poller : Nat) :
    (system.ending poller = none ∧ system.join stored poller = (stored, .joining poller)) ∨
      (system.ending poller).isSome ∧ (system.join stored poller = (none, .transport) ∨
        ∃ error, system.join stored poller = (stored, .raised error)) := by
  unfold join
  cases ended : system.ending poller with
  | none => exact .inl ⟨rfl, rfl⟩
  | some error => cases error <;> exact .inr ⟨rfl, by simp⟩

end System

/-! ## Runs -/

namespace Lifecycle

section Steps

variable {settings : Settings} {before after : Lifecycle} {event : Event}

/-- What holds between two steps of any execution. -/
structure Sound (lifecycle : Lifecycle) : Prop where
  /-- The client is coherent. -/
  coherent : lifecycle.system.Coherent
  /-- An `aclose` which took the condition closed the client. -/
  closed : lifecycle.closings ≠ [] → lifecycle.system.client.closed = true
  /-- The check of `__aenter__` on `_refresher` finds every poller of an open client. -/
  known : lifecycle.system.client.closed = false → lifecycle.refresher = none →
    ∀ refresher ∈ lifecycle.system.refreshers, refresher.owner ≠ .poller

/-- What holds between two steps of an exclusive execution. -/
structure Kept (lifecycle : Lifecycle) : Prop where
  /-- A running poller is stored. -/
  stored : ∀ index, lifecycle.system.Runs index → lifecycle.refresher = some index
  /-- The poller an `aclose` waits for is not replaced. -/
  joining : ∀ closing ∈ lifecycle.closings, ∀ poller, closing.point = .joining poller →
    lifecycle.refresher = some poller ∨ lifecycle.refresher = none
  /-- No poller runs behind an `aclose` which waited. -/
  stopped : ∀ closing ∈ lifecycle.closings,
    closing.point = .transport ∨ closing.point = .returned → ∀ index, ¬lifecycle.system.Runs index

/-- What a step of the client makes of the lifecycle. -/
theorem follow_cases {event : Sdk.Event} {system : System}
    (step : Sdk.Step settings before.system event system) :
    (∃ entering, system.client.closed = true ∧
      (∀ ended, before.system.entered event = some ended → ∃ error, ended = .raised error) ∧
        before.follow event system = before.close entering system) ∨
    (before.system.entered event = none ∧ before.follow event system = { before with system }) ∨
    ∃ ended, before.system.entered event = some ended ∧ (∀ error, ended ≠ .raised error) ∧
      before.follow event system =
        { before with system, refresher := some (system.refreshers.length - 1) } := by
  by_cases closes : event = .close
  · subst closes
    cases step
    exact .inl ⟨false, rfl, nofun, rfl⟩
  · have follows : before.follow event system =
        before.conclude system (before.system.entered event) := by
      cases event <;> first | rfl | exact absurd rfl closes
    cases ended : before.system.entered event with
    | none => exact .inr (.inl ⟨rfl, by rw [follows, ended]; rfl⟩)
    | some result =>
        cases result with
        | raised error =>
            refine .inl ⟨true, System.closed_of_raised step ended, ?_, by rw [follows, ended]; rfl⟩
            rintro _ ⟨⟩
            exact ⟨error, rfl⟩
        | _ => exact .inr (.inr ⟨_, rfl, nofun, by rw [follows, ended]; rfl⟩)

theorem Sound.step (sound : before.Sound) (step : Step settings before event after) :
    after.Sound := by
  cases step with
  | act event system step once =>
      have coherent := sound.coherent.step step
      have closed : before.closings ≠ [] → system.client.closed = true :=
        fun some => sound.coherent.closed_step step (sound.closed some)
      rcases follow_cases step with ⟨entering, closes, -, follows⟩ | ⟨quiet, follows⟩ |
        ⟨ended, -, -, follows⟩
      · rw [follows]
        exact ⟨coherent, fun _ => closes, fun isOpen => by simp [close, closes] at isOpen⟩
      · rw [follows]
        refine ⟨coherent, closed, fun isOpen stored other member poller => ?_⟩
        obtain ⟨index, found⟩ := List.mem_iff_getElem?.mp member
        have opened : before.system.client.closed = false := by
          rw [Bool.eq_false_iff]
          intro late
          have still := sound.coherent.closed_step step late
          exact Bool.noConfusion (still.symm.trans isOpen)
        rcases System.pollers_step step found poller with ⟨earlier, here, same, -⟩ |
          ⟨-, result, normal, -⟩
        · exact sound.known opened stored earlier (List.mem_of_getElem? here) same
        · rw [quiet] at normal
          cases normal
      · rw [follows]
        exact ⟨coherent, closed, nofun⟩
  | join front back closing poller here joining ended =>
      have closed : before.system.client.closed = true := sound.closed (by simp [here])
      exact ⟨sound.coherent, fun _ => closed, fun isOpen => by simp [closed] at isOpen⟩
  | hangUp front back closing error here transport =>
      have closed : before.system.client.closed = true := sound.closed (by simp [here])
      exact ⟨sound.coherent, fun _ => closed, fun isOpen => by simp [closed] at isOpen⟩

private theorem stop_kept {system : System} {stored : Option Nat}
    (kept : ∀ index, system.Runs index → stored = some index) :
    (∀ index, system.Runs index → (system.stop stored).1 = some index) ∧
    ((system.stop stored).1 = stored ∨ (system.stop stored).1 = none) ∧
    (∀ poller, (system.stop stored).2 = .joining poller → stored = some poller) ∧
    ((system.stop stored).2 = .transport ∨ (system.stop stored).2 = .returned →
      ∀ index, ¬system.Runs index) := by
  cases stored with
  | none => exact ⟨kept, .inl rfl, nofun, fun _ index runs => nomatch kept index runs⟩
  | some poller =>
      have gone : (system.ending poller).isSome → ∀ index, ¬system.Runs index := by
        intro ended index runs
        obtain rfl := Option.some.inj (kept index runs)
        exact System.not_runs_of_ending ended runs
      rcases system.join_cases (some poller) poller with ⟨-, joining⟩ |
        ⟨ended, left | ⟨error, raised⟩⟩
      · simp only [System.stop, joining]
        exact ⟨kept, .inl trivial, by simp, by simp⟩
      · simp only [System.stop, left]
        exact ⟨fun index runs => absurd runs (gone ended index), .inr trivial, nofun,
          fun _ => gone ended⟩
      · simp only [System.stop, raised]
        exact ⟨kept, .inl trivial, nofun, fun _ => gone ended⟩

theorem mem_replaced {closings front back : List Closing} {closing changed other : Closing}
    (here : closings = front ++ closing :: back) (member : other ∈ front ++ changed :: back) :
    other = changed ∨ other ∈ closings := by
  rw [here]
  rcases List.mem_append.mp member with earlier | later
  · exact .inr (List.mem_append_left _ earlier)
  · exact (List.mem_cons.mp later).imp_right fun later =>
      List.mem_append_right _ (List.mem_cons_of_mem _ later)

theorem Kept.shrink (kept : before.Kept) {system : System}
    (fewer : ∀ index, system.Runs index → before.system.Runs index) :
    ({ before with system } : Lifecycle).Kept where
  stored index runs := kept.stored index (fewer index runs)
  joining := kept.joining
  stopped closing member reached index runs :=
    kept.stopped closing member reached index (fewer index runs)

theorem Kept.close {system : System} (kept : ({ before with system } : Lifecycle).Kept)
    (entering : Bool) : (before.close entering system).Kept := by
  obtain ⟨stored, same, joining, stopped⟩ := stop_kept kept.stored
  refine ⟨stored, ?_, ?_⟩
  · intro closing member poller waits
    rcases List.mem_append.mp member with known | new
    · rcases kept.joining closing known poller waits with here | gone
      · exact same.imp_left fun same => same.trans here
      · exact .inr (same.elim (fun same => same.trans gone) id)
    · rw [List.mem_singleton.mp new] at waits
      exact same.imp_left fun same => same.trans (joining poller waits)
  · intro closing member reached index runs
    rcases List.mem_append.mp member with known | new
    · exact kept.stopped closing known reached index runs
    · rw [List.mem_singleton.mp new] at reached
      exact stopped reached index runs

private theorem Kept.not_runs (kept : before.Kept) {closing : Closing}
    (member : closing ∈ before.closings)
    {poller : Nat} (joining : closing.point = .joining poller)
    (ended : (before.system.ending poller).isSome) (index : Nat) : ¬before.system.Runs index := by
  intro runs
  rcases kept.joining closing member poller joining with same | lost
  · obtain rfl := Option.some.inj (same.symm.trans (kept.stored index runs))
    exact System.not_runs_of_ending ended runs
  · cases lost.symm.trans (kept.stored index runs)

theorem Kept.step (kept : before.Kept) (sound : before.Sound)
    (step : Step settings before event after) (exclusive : before.Exclusive event) :
    after.Kept := by
  cases step with
  | act event system step once =>
      have earlier
          (late : ∀ ended, before.system.entered event = some ended →
            ∃ error, ended = .raised error)
          (index : Nat) (runs : system.Runs index) : before.system.Runs index := by
        rcases System.runs_step step runs with before | ⟨-, ended, ends, normal⟩
        · exact before
        · obtain ⟨error, raised⟩ := late ended ends
          exact absurd raised (normal error)
      rcases follow_cases step with ⟨entering, -, late, follows⟩ | ⟨quiet, follows⟩ |
        ⟨ended, ends, normal, follows⟩
      · rw [follows]
        exact (kept.shrink (earlier late)).close entering
      · rw [follows]
        refine kept.shrink (earlier fun ended ends => ?_)
        rw [quiet] at ends
        cases ends
      · rw [follows]
        obtain ⟨isOpen, idle⟩ := exclusive ended ends normal
        -- No `aclose` has begun, since the client is open.
        have none : before.closings = [] := by
          by_contra some
          exact Bool.noConfusion ((sound.closed some).symm.trans isOpen)
        refine ⟨fun index runs => ?_, ?_, ?_⟩
        · rcases System.runs_step step runs with before | ⟨last, -⟩
          · exact absurd before (idle index)
          · exact congrArg some last.symm
        · simp [none]
        · simp [none]
  | join front back closing poller here joining ended =>
      have gone := kept.not_runs (by simp [here]) joining ended
      refine ⟨fun index runs => absurd runs (gone index), ?_, fun _ _ _ => gone⟩
      intro other member waiting waits
      rcases before.system.join_cases before.refresher poller with ⟨running, -⟩ |
        ⟨-, left | ⟨error, raised⟩⟩
      · rw [running] at ended
        cases ended
      · exact .inr (congrArg Prod.fst left)
      · simp only [raised] at member ⊢
        rcases mem_replaced here member with rfl | known
        · cases waits
        · exact kept.joining other known waiting waits
  | hangUp front back closing error here transport =>
      refine ⟨kept.stored, fun other member waiting waits => ?_, fun other member reached => ?_⟩
      · rcases mem_replaced here member with rfl | known
        · cases error <;> cases waits
        · exact kept.joining other known waiting waits
      · rcases mem_replaced here member with rfl | known
        · exact kept.stopped closing (by simp [here]) (.inl transport)
        · exact kept.stopped other known reached

theorem sound_start : start.Sound :=
  ⟨.start, nofun, fun _ _ => nofun⟩

private theorem kept_start : start.Kept where
  stored := by
    rintro index ⟨refresher, found, -⟩
    cases found
  joining := nofun
  stopped := nofun

theorem Sound.run {trace : List Event} (sound : before.Sound)
    (run : Run settings before trace after) : after.Sound :=
  run.invariant Sound Sound.step sound

/-- A closed client stays closed in every execution. -/
theorem Sound.closed_run {trace : List Event} (sound : before.Sound)
    (run : Run settings before trace after) (closed : before.system.client.closed = true) :
    after.system.client.closed = true := by
  have both : after.Sound ∧ after.system.client.closed = true := by
    apply run.invariant fun lifecycle => lifecycle.Sound ∧ lifecycle.system.client.closed = true
    · rintro before after event ⟨sound, closed⟩ step
      refine ⟨sound.step step, ?_⟩
      cases step with
      | act event system step once =>
          have still := sound.coherent.closed_step step closed
          rcases follow_cases step with ⟨_, -, -, follows⟩ | ⟨-, follows⟩ | ⟨_, -, -, follows⟩ <;>
            exact follows ▸ still
      | _ => exact closed
    · exact ⟨sound, closed⟩
  exact both.2

private theorem Kept.onePoller (kept : after.Kept) (sound : after.Sound) : after.OnePoller where
  single left right runs runs' :=
    Option.some.inj ((kept.stored left runs).symm.trans (kept.stored right runs'))
  stored := kept.stored
  unready closed := by
    rw [Bool.eq_false_iff]
    intro ready
    exact Bool.noConfusion (closed.symm.trans (sound.coherent.client.isOpen ready))
  stopped := by
    rintro ⟨closing, member, returned⟩ -
    exact kept.stopped closing member (.inr returned)

end Steps

/-- One poller per client, as long as no refresh returns to an `__aenter__` while the client is
closed or a poller runs.  A closed client is never ready again, whatever happens; and a refresh
which returns to an `__aenter__` otherwise leaves two pollers running, or one in a closed client. -/
theorem one_poller (settings : Settings) :
    (∀ trace lifecycle, ExclusiveRun settings .start trace lifecycle → lifecycle.OnePoller) ∧
    (∀ trace lifecycle, Run settings .start trace lifecycle →
      lifecycle.system.client.closed = true → ∀ more later, Run settings lifecycle more later →
        later.system.client.closed = true ∧ later.system.client.ready = false) ∧
    ∀ trace lifecycle, Run settings .start trace lifecycle → ∀ event later,
      Step settings lifecycle event later → ¬lifecycle.Exclusive event →
        (∃ left right, left ≠ right ∧ later.system.Runs left ∧ later.system.Runs right) ∨
          later.system.client.closed = true ∧ ∃ index, later.system.Runs index := by
  refine ⟨fun trace lifecycle run => ?_, fun trace lifecycle run closed more later onward => ?_, ?_⟩
  · have both : lifecycle.Sound ∧ lifecycle.Kept := by
      apply run.invariant fun lifecycle => lifecycle.Sound ∧ lifecycle.Kept
      · rintro before after event ⟨sound, kept⟩ ⟨step, exclusive⟩
        exact ⟨sound.step step, kept.step sound step exclusive⟩
      · exact ⟨sound_start, kept_start⟩
    exact both.2.onePoller both.1
  · have still := (sound_start.run run).closed_run onward closed
    refine ⟨still, ?_⟩
    rw [Bool.eq_false_iff]
    intro ready
    have isOpen := ((sound_start.run run).run onward).coherent.client.isOpen ready
    exact Bool.noConfusion (still.symm.trans isOpen)
  · intro trace lifecycle run event later step shared
    have sound := sound_start.run run
    cases step with
    | act event system step once =>
        simp only [Exclusive, not_forall] at shared
        obtain ⟨ended, ends, normal, shared⟩ := shared
        obtain ⟨new, others⟩ := System.runs_of_entered step ends normal
        have same : (lifecycle.follow event system).system = system := by
          rcases follow_cases step with ⟨_, -, -, follows⟩ | ⟨-, follows⟩ | ⟨_, -, -, follows⟩ <;>
            exact follows ▸ rfl
        rw [same]
        by_cases closed : lifecycle.system.client.closed = true
        · exact .inr ⟨sound.coherent.closed_step step closed, _, new⟩
        · left
          have running : ∃ index, lifecycle.system.Runs index := by
            by_contra idle
            exact shared ⟨Bool.eq_false_iff.mpr closed, not_exists.mp idle⟩
          obtain ⟨index, runs⟩ := running
          obtain ⟨still, different⟩ := others index runs
          exact ⟨index, _, different, still, new⟩
    | _ => exact absurd trivial shared

def aenter (point : RefreshPoint) : Refresher :=
  { owner := .entering, frames := 100, point }

def rested : Refresher :=
  { owner := .poller, frames := 100, point := .resting }

/-- A client whose lifecycle is the one of its refreshes. -/
def holding (client : Client) (refreshers : List Refresher) (refresher : Option Nat) :
    Lifecycle where
  system := { System.start with client, refreshers }
  refresher := refresher
  closings := []

def discovery : RefreshInput :=
  .fetched (.ok { status := 200, body := .ok searches })

theorem enters : Step lenient start (.act (.refresh .entering none))
    (holding .new [aenter .fetching] none) :=
  .act start _ _ (.refresh .start .entering 100 nofun fun _ => ⟨rfl, nofun⟩) fun _ _ => rfl

theorem one_poller_entered :
    (holding informed.client [aenter (.done .applied), rested] (some 1)).OnePoller := by
  have returns : Step lenient (holding .new [aenter .fetching] none)
      (.act (.renew 0 discovery (some .applied)))
      (holding informed.client [aenter (.done .applied), rested] (some 1)) :=
    .act _ _ _ (.renew _ [] [] (aenter .fetching) _
      { client := informed.client, point := .done .applied, notify := true } rfl rfl nofun) nofun
  refine (one_poller lenient).1 _ _ (.tail (.single ⟨enters, nofun⟩) ⟨returns, ?_⟩)
  intro ended _ _
  refine ⟨rfl, ?_⟩
  rintro index ⟨refresher, found, poller, -⟩
  obtain rfl := List.mem_singleton.mp (List.mem_of_getElem? found)
  cases poller

/-- Two tasks enter a client before its first refresh is over, and leave two pollers. -/
theorem one_poller_twice : ¬∀ trace lifecycle, Run lenient start trace lifecycle →
    lifecycle.OnePoller := by
  intro always
  have again : Step lenient (holding .new [aenter .fetching] none)
      (.act (.refresh .entering none)) (holding .new [aenter .fetching, aenter .fetching] none) :=
    .act _ _ _ (.refresh _ .entering 100 nofun fun _ => ⟨rfl, by simp [holding, aenter]⟩)
      fun _ _ => rfl
  have first : Step lenient (holding .new [aenter .fetching, aenter .fetching] none)
      (.act (.renew 0 discovery (some .applied)))
      (holding informed.client [aenter (.done .applied), aenter .fetching, rested] (some 2)) :=
    .act _ _ _ (.renew _ [] [aenter .fetching] (aenter .fetching) _
      { client := informed.client, point := .done .applied, notify := true } rfl rfl nofun) nofun
  have second : Step lenient
      (holding informed.client [aenter (.done .applied), aenter .fetching, rested] (some 2))
      (.act (.renew 1 discovery (some .applied)))
      (holding informed.client
        [aenter (.done .applied), aenter (.done .applied), rested, rested] (some 3)) :=
    .act _ _ _ (.renew _ [aenter (.done .applied)] [rested] (aenter .fetching) _
      { client := informed.client, point := .done .applied, notify := true } rfl rfl nofun) nofun
  have both := always _ _ (.tail (.tail (.tail (.single enters) again) first) second)
  have same : 2 = 3 := both.single 2 3 ⟨rested, rfl, rfl, nofun⟩ ⟨rested, rfl, rfl, nofun⟩
  cases same

end Lifecycle

end Sdk

end AiProtocol
