import AiProtocol.Sdk.Coherence

/-!
# Attempt slots

What the calls of a client without a dispatcher do to the number of its active attempts, and which
of them stay asleep.
-/

namespace AiProtocol

namespace Sdk

/-! ## Calls without a dispatcher -/

namespace Call

/-- The call is between `_acquire` and the end of its `finally` block. -/
def holdsSlot (call : Call) : Bool :=
  match call.point with
  | .sending | .lockLeave _ => true
  | _ => false

/-- The call is where calls without a dispatcher are. -/
def Direct (call : Call) : Prop :=
  match call.point with
  | .waiting _ | .sending | .sleeping | .done _ => True
  | _ => False

/-- The input lets the call look at the gate. -/
def looks (call : Call) (input : Input) : Bool :=
  match call.point, input with
  | .lockEnter, .woken | .waiting true, .woken | .lockWake none, .woken | .sleeping, .woken => true
  | _, _ => false

variable {call : Call}

theorem Away.holdsSlot (away : call.Away) : call.holdsSlot = false := by
  cases here : call.point <;> simp_all [Away, Call.holdsSlot]

theorem Away.direct (away : call.Away) : call.Direct := by
  cases here : call.point <;> simp_all [Away, Direct]

end Call

/-- The descriptor of the operation is one which `_acquire` may grant. -/
structure Client.Grants (client : Client) (operation : String) (descriptor : Json) : Prop where
  /-- The last refresh succeeded. -/
  ready : client.ready = true
  /-- The client is not closed. -/
  isOpen : client.closed = false
  /-- An attempt slot is free. -/
  room : ∃ maximum, client.ceiling = some maximum ∧ client.active < maximum
  /-- The stored policy lists the descriptor under this name. -/
  listed : ∃ policy items, client.policy = some policy ∧
    policy.get "operations" = some (.array items) ∧ descriptor ∈ items ∧
      descriptor.get "name" = some (.string operation)

/-- A descriptor which `_acquire` would grant can be copied with the frames left on the stack. -/
def Client.Copies (settings : Settings) (client : Client) (operation : String) (frames : Nat) :
    Prop :=
  client.closed = false → client.admits settings = true →
    ∀ descriptor, client.descriptor operation = some descriptor →
      descriptor.nested (frames / 2) = true

/-- What `_acquire` and the code up to the next suspension do to the gate. -/
inductive Entry (settings : Settings) (client : Client) (operation : String) (frames : Nat) :
    Segment → Prop
  | refused (call : Call) (away : call.Away) (copies : client.Copies settings operation frames) :
      Entry settings client operation frames { client, call, notify := false, granted := none }
  | waits (call : Call) (waiting : call.point = .waiting false) (isOpen : client.closed = false)
      (full : client.admits settings = false) :
      Entry settings client operation frames { client, call, notify := false, granted := none }
  | sends (call : Call) (descriptor : Json) (grants : client.Grants operation descriptor)
      (copies : client.Copies settings operation frames) (sending : call.point = .sending) :
      Entry settings client operation frames
        { client := { client with active := client.active + 1 }
          call
          notify := false
          granted := some descriptor }
  | returns (call : Call) (descriptor : Json) (grants : client.Grants operation descriptor)
      (copies : client.Copies settings operation frames) (away : call.Away) :
      Entry settings client operation frames
        { client, call, notify := true, granted := some descriptor }
  | leaks (call : Call) (uncopied : ¬client.Copies settings operation frames) (away : call.Away) :
      Entry settings client operation frames
        { client := { client with active := client.active + 1 }
          call
          notify := false
          granted := none }

section Direct

variable {settings : Settings} {client : Client} {call : Call}

theorem Client.grants {operation : String} {descriptor : Json}
    (direct : settings.dispatcher = false)
    (isOpen : client.closed = false) (admits : client.admits settings = true)
    (found : client.descriptor operation = some descriptor) :
    client.Grants operation descriptor := by
  simp only [Client.admits, direct, Bool.false_or, Bool.and_eq_true, Option.any_eq_true,
    decide_eq_true_eq] at admits
  refine ⟨admits.1, isOpen, admits.2, ?_⟩
  obtain ⟨items, listed, first⟩ := Option.bind_eq_some_iff.mp found
  obtain ⟨operations, member, isArray⟩ := Option.bind_eq_some_iff.mp listed
  obtain ⟨policy, stored, holds⟩ := Option.bind_eq_some_iff.mp member
  have name := List.find?_some first
  simp only [decide_eq_true_eq] at name
  obtain ⟨text, named, isText⟩ := Option.bind_eq_some_iff.mp name
  refine ⟨policy, items, stored, ?_, List.mem_of_find?_eq_some first, ?_⟩
  · cases operations <;> simp_all [Json.asArray]
  · cases text <;> simp_all [Json.asStr]

private theorem attempt_direct (direct : settings.dispatcher = false) (free : client.locked = false)
    (surroundings : Surroundings) (descriptor : Json) :
    (∃ sent : Call, sent.point = .sending ∧
      attempt settings client call surroundings descriptor =
        { client, call := sent, notify := false, granted := none }) ∨
    ∃ left : Call, left.Away ∧
      attempt settings client call surroundings descriptor =
        { client := { client with active := client.active - 1 }
          call := left
          notify := true
          granted := none } := by
  have leaves : ∀ outcome, leave settings client call surroundings.left outcome =
      { client := { client with active := client.active - 1 }
        call := call.conclude surroundings.left outcome
        notify := true
        granted := none } := by
    intro outcome
    simp [leave, direct, free, settle, Client.acquire, Client.release]
  unfold attempt
  cases settings.validates descriptor call.params with
  | error error => exact .inr ⟨_, Call.conclude_away _ _, leaves _⟩
  | ok valid =>
      cases valid with
      | false => exact .inr ⟨_, Call.conclude_away _ _, leaves _⟩
      | true =>
          rw [direct]
          exact .inl ⟨_, rfl, rfl⟩

theorem check_entry (direct : settings.dispatcher = false) (free : client.locked = false)
    (surroundings : Surroundings) :
    Entry settings client call.operation call.frames
      (check settings client.acquire call surroundings) := by
  have released := Client.release_acquire free
  have admission : client.acquire.admits settings = client.admits settings := rfl
  have lookup : client.acquire.descriptor call.operation = client.descriptor call.operation := rfl
  unfold check
  rw [released, admission, lookup]
  cases closed : client.closed with
  | true =>
      rw [if_pos (show client.acquire.closed = true from closed)]
      exact .refused _ trivial fun isOpen => by simp [closed] at isOpen
  | false =>
      rw [if_neg (show ¬client.acquire.closed = true by simp [Client.acquire, closed])]
      cases admits : client.admits settings with
      | false => exact .waits _ rfl closed admits
      | true =>
          rw [if_pos rfl]
          cases found : client.descriptor call.operation with
          | none => exact .refused _ trivial fun _ _ => by simp [found]
          | some descriptor =>
              have grants := Client.grants direct closed admits found
              have same : client.Copies settings call.operation call.frames ↔
                  descriptor.nested (call.frames / 2) = true := by
                constructor
                · intro copies
                  exact copies closed admits descriptor found
                · intro nested _ _ other again
                  rw [found] at again
                  cases again
                  exact nested
              have free' : Client.locked (Client.release
                  { client.acquire with active := client.acquire.active + 1 }) = false := rfl
              have taken : Client.release
                  { client.acquire with active := client.acquire.active + 1 } =
                    { client with active := client.active + 1 } := by
                simp [Client.acquire, Client.release, free]
              simp only [direct, Bool.false_eq_true, ↓reduceIte, deepcopy_eq]
              split
              · rename_i error failed
                rw [taken]
                apply Entry.leaks
                · intro copies
                  simp [same.mp copies] at failed
                · trivial
              · rename_i copied
                have copies : client.Copies settings call.operation call.frames := by
                  apply same.mpr
                  by_contra deep
                  simp [deep] at copied
                rcases attempt_direct direct free' surroundings descriptor with
                  ⟨sent, sending, made⟩ | ⟨left, away, made⟩
                · rw [made, taken]
                  exact .sends sent descriptor grants copies sending
                · rw [made, taken]
                  rw [Int.add_sub_cancel]
                  exact .returns left descriptor grants copies away

theorem enter_entry (direct : settings.dispatcher = false) (free : client.locked = false)
    (surroundings : Surroundings) :
    Entry settings client call.operation call.frames (enter settings client call surroundings) := by
  unfold enter
  rw [free]
  exact check_entry direct free surroundings

end Direct

/-- What a call which goes on does to the gate. -/
inductive Resumption (settings : Settings) (client : Client) (call : Call) (input : Input) :
    Segment → Prop
  | enters (segment : Segment) (looks : call.looks input = true) (free : call.holdsSlot = false)
      (entry : Entry settings client call.operation call.frames segment) :
      Resumption settings client call input segment
  | leaves (next : Call) (blind : call.looks input = false) (held : call.holdsSlot = true)
      (away : next.Away) :
      Resumption settings client call input
        { client := { client with active := client.active - 1 }
          call := next
          notify := true
          granted := none }
  | abandons (next : Call) (blind : call.looks input = false) (free : call.holdsSlot = false)
      (away : next.Away) :
      Resumption settings client call input
        { client, call := next, notify := false, granted := none }

section Direct

variable {settings : Settings} {client : Client} {call : Call}

theorem resume_direct (direct : settings.dispatcher = false) (free : client.locked = false)
    (here : call.Direct) {surroundings : Surroundings} {answer : Option Answer} {input : Input}
    {segment : Segment}
    (resuming : resume settings client call surroundings answer input = some segment) :
    Resumption settings client call input segment := by
  have leaves : ∀ outcome, call.point = .sending → call.looks input = false →
      Resumption settings client call input
        (leave settings client call surroundings.left outcome) := by
    intro outcome sending blind
    have settled : leave settings client call surroundings.left outcome =
        { client := { client with active := client.active - 1 }
          call := call.conclude surroundings.left outcome
          notify := true
          granted := none } := by
      simp [leave, direct, free, settle, Client.acquire, Client.release]
    rw [settled]
    exact .leaves _ blind (by simp [Call.holdsSlot, sending]) (Call.conclude_away _ _)
  have retired : ∀ interrupt, call.looks (.interrupted interrupt) = false →
      call.holdsSlot = false → Resumption settings client call (.interrupted interrupt)
        { client, call := call.suspend (.done (call.interruption interrupt)), notify := false
          granted := none } :=
    fun _ blind held => .abandons _ blind held (Call.away_done _)
  cases resumes_of_resume resuming with
  | notified point =>
      simp only [wake, free, Bool.false_eq_true, ↓reduceIte]
      exact .enters _ (by simp [Call.looks, point]) (by simp [Call.holdsSlot, point])
        (check_entry direct free surroundings)
  | stirred notified interrupt point =>
      simp only [wake, free, Bool.false_eq_true, ↓reduceIte]
      rw [Client.release_acquire free]
      exact retired interrupt (by simp [Call.looks, point]) (by simp [Call.holdsSlot, point])
  | responds response point answered => exact leaves _ point (by simp [Call.looks, point])
  | fails point => exact leaves _ point (by simp [Call.looks, point])
  | raises error point =>
      rcases point with point | point | ⟨result, point⟩
      · exact leaves _ point (by simp [Call.looks, point])
      all_goals simp [Call.Direct, point] at here
  | interrupted interrupt point =>
      rcases point with point | point | ⟨result, point⟩
      · exact leaves _ point (by simp [Call.looks, point])
      all_goals simp [Call.Direct, point] at here
  | retries point =>
      let later : Call := { call with number := call.number + 1 }
      have entry : Entry settings client later.operation later.frames
          (enter settings client later surroundings) := enter_entry direct free surroundings
      exact .enters _ (by simp [Call.looks, point]) (by simp [Call.holdsSlot, point]) entry
  | abandons interrupt point =>
      rcases point with point | ⟨outcome, point⟩ | point
      · simp [Call.Direct, point] at here
      · simp [Call.Direct, point] at here
      · exact retired interrupt (by simp [Call.looks, point]) (by simp [Call.holdsSlot, point])
  | enters point | wakes interrupt point | delayed earlier interrupt point | connects point
    | unreachable point | replies reply point | loses point | fallsOver error point
    | cutOff interrupt point | hungUp result point | blocked outcome point
    | settles outcome point =>
      simp [Call.Direct, point] at here

end Direct

/-! ## The gate -/

/-- A slot, as a number. -/
def Call.slots (call : Call) : Int :=
  if call.holdsSlot then 1 else 0

section Segments

variable {settings : Settings} {client : Client} {call : Call} {segment : Segment}

theorem Entry.balanced {operation : String} {frames : Nat}
    (entry : Entry settings client operation frames segment) :
    segment.client.active = client.active + segment.call.slots ↔
      client.Copies settings operation frames := by
  cases entry with
  | refused call away copies => simp [Call.slots, away.holdsSlot, copies]
  | waits call waiting isOpen full =>
      have copies : client.Copies settings operation frames := by
        intro _ admits
        simp [full] at admits
      simp [Call.slots, Call.holdsSlot, waiting, copies]
  | sends call descriptor grants copies sending =>
      simp [Call.slots, Call.holdsSlot, sending, copies]
  | returns call descriptor grants copies away => simp [Call.slots, away.holdsSlot, copies]
  | leaks call uncopied away =>
      simp only [Call.slots, away.holdsSlot, uncopied, iff_false]
      simp only [Bool.false_eq_true, ↓reduceIte]
      omega

theorem Resumption.balanced {input : Input}
    (resumption : Resumption settings client call input segment) :
    segment.client.active + call.slots = client.active + segment.call.slots ↔
      (call.looks input = true → client.Copies settings call.operation call.frames) := by
  cases resumption with
  | enters _ looks free entry =>
      have none : call.slots = 0 := by simp [Call.slots, free]
      rw [none, Int.add_zero, entry.balanced]
      simp [looks]
  | leaves next blind held away =>
      have one : call.slots = 1 := by simp [Call.slots, held]
      have none : next.slots = 0 := by simp [Call.slots, away.holdsSlot]
      simp [one, none, blind]
  | abandons next blind free away => simp [Call.slots, free, away.holdsSlot, blind]

/-- What every step of a call without a dispatcher does to the others. -/
structure Segment.Direct (settings : Settings) (client : Client) (segment : Segment) : Prop where
  /-- The call is where such calls are. -/
  direct : segment.call.Direct
  /-- A slot is given back with a notification. -/
  kept : segment.notify = false → client.active ≤ segment.client.active
  /-- Nothing falls asleep at an open gate. -/
  full : segment.call.point = .waiting false →
    client.admits settings = false ∧ segment.client = client

theorem Entry.direct {operation : String} {frames : Nat}
    (entry : Entry settings client operation frames segment) : segment.Direct settings client := by
  cases entry with
  | refused call away => exact ⟨away.direct, fun _ => Int.le_refl _, fun waiting =>
      absurd waiting (away.not_waiting false)⟩
  | waits call waiting isOpen full =>
      exact ⟨by simp [Call.Direct, waiting], fun _ => Int.le_refl _, fun _ => ⟨full, rfl⟩⟩
  | sends call descriptor grants copies sending =>
      refine ⟨by simp [Call.Direct, sending], fun _ => ?_, fun waiting => ?_⟩
      · dsimp only
        omega
      · simp [sending] at waiting
  | returns call descriptor grants copies away => exact ⟨away.direct, nofun, fun waiting =>
      absurd waiting (away.not_waiting false)⟩
  | leaks call uncopied away =>
      refine ⟨away.direct, fun _ => ?_, fun waiting => absurd waiting (away.not_waiting false)⟩
      dsimp only
      omega

theorem Resumption.direct {input : Input}
    (resumption : Resumption settings client call input segment) :
    segment.Direct settings client := by
  cases resumption with
  | enters _ looks free entry => exact entry.direct
  | leaves next blind held away => exact ⟨away.direct, nofun, fun waiting =>
      absurd waiting (away.not_waiting false)⟩
  | abandons next blind free away => exact ⟨away.direct, fun _ => Int.le_refl _, fun waiting =>
      absurd waiting (away.not_waiting false)⟩

/-- What was granted, and that no slot is taken otherwise. -/
theorem Entry.granted {operation : String} {frames : Nat}
    (entry : Entry settings client operation frames segment) :
    (∀ descriptor, segment.granted = some descriptor → client.Grants operation descriptor) ∧
      (client.Copies settings operation frames → client.active < segment.client.active →
        segment.granted.isSome = true) := by
  cases entry with
  | refused => exact ⟨nofun, fun _ more => absurd more (Int.lt_irrefl _)⟩
  | waits => exact ⟨nofun, fun _ more => absurd more (Int.lt_irrefl _)⟩
  | sends call descriptor grants =>
      refine ⟨?_, fun _ _ => rfl⟩
      rintro _ ⟨⟩
      exact grants
  | returns call descriptor grants =>
      refine ⟨?_, fun _ _ => rfl⟩
      rintro _ ⟨⟩
      exact grants
  | leaks call uncopied => exact ⟨nofun, fun copies => absurd copies uncopied⟩

theorem Resumption.granted {input : Input}
    (resumption : Resumption settings client call input segment) :
    (∀ descriptor, segment.granted = some descriptor → client.Grants call.operation descriptor) ∧
      ((call.looks input = true → client.Copies settings call.operation call.frames) →
        client.active < segment.client.active → segment.granted.isSome = true) := by
  cases resumption with
  | enters _ looks free entry =>
      exact ⟨entry.granted.1, fun copies => entry.granted.2 (copies looks)⟩
  | leaves next blind held away =>
      refine ⟨nofun, fun _ more => ?_⟩
      dsimp only at more
      omega
  | abandons => exact ⟨nofun, fun _ more => absurd more (Int.lt_irrefl _)⟩

/-- A full gate stays full while no slot is given back. -/
theorem Client.Alike.full {other : Client} (direct : settings.dispatcher = false)
    (alike : client.Alike other) (le : client.active ≤ other.active)
    (full : client.admits settings = false) : other.admits settings = false := by
  have ready : other.ready = client.ready := by rw [alike]
  have ceiling : other.ceiling = client.ceiling := by rw [Client.ceiling, alike, Client.ceiling]
  rw [Bool.eq_false_iff] at full ⊢
  intro admits
  apply full
  simp only [Client.admits, direct, Bool.false_or, Bool.and_eq_true, Option.any_eq_true,
    decide_eq_true_eq, ready, ceiling] at admits ⊢
  obtain ⟨isReady, maximum, stored, room⟩ := admits
  exact ⟨isReady, maximum, stored, by omega⟩

end Segments

/-! ## Runs -/

/-- What holds between two steps without a dispatcher. -/
structure System.Direct (settings : Settings) (system : System) : Prop where
  /-- The shared state is coherent. -/
  coherent : system.Coherent
  /-- Every call is where such calls are. -/
  calls : ∀ call ∈ system.calls, call.Direct
  /-- Nothing sleeps at an open gate. -/
  full : ∀ call ∈ system.calls, call.point = .waiting false →
    system.client.admits settings = false

theorem Call.notified_direct {call : Call} (direct : call.Direct) (notify : Bool) :
    (call.notified notify).Direct := by
  rcases call.notified_eq notify with same | ⟨-, -, changed⟩
  · rwa [same]
  · rw [changed]
    trivial

@[simp]
theorem Call.notified_holdsSlot (call : Call) (notify : Bool) :
    (call.notified notify).holdsSlot = call.holdsSlot := by
  rcases call.notified_eq notify with same | ⟨-, waiting, changed⟩
  · rw [same]
  · rw [changed]
    simp [holdsSlot, suspend, waiting]

namespace System.Direct

variable {settings : Settings} {before after : System} {event : Event}

theorem resumed (direct : settings.dispatcher = false) (invariant : before.Direct settings)
    {front back : List Call} {segment : Segment}
    (others : ∀ call ∈ front ++ back, call ∈ before.calls)
    (alike : before.client.Alike segment.client)
    (segmentDirect : segment.Direct settings before.client)
    (coherent : (before.resumed front back segment).Coherent) :
    (before.resumed front back segment).Direct settings := by
  have listed : ∀ call ∈ front ++ segment.call :: back,
      call = segment.call ∨ call ∈ before.calls := by
    intro call member
    rcases List.mem_append.mp member with earlier | later
    · exact .inr (others call (List.mem_append_left _ earlier))
    · rcases List.mem_cons.mp later with same | later
      · exact .inl same
      · exact .inr (others call (List.mem_append_right _ later))
  constructor
  · exact coherent
  · intro call member
    obtain ⟨earlier, here, rfl⟩ := List.mem_map.mp member
    apply Call.notified_direct
    rcases listed earlier here with rfl | known
    · exact segmentDirect.direct
    · exact invariant.calls earlier known
  · intro call member asleep
    obtain ⟨earlier, here, rfl⟩ := List.mem_map.mp member
    obtain ⟨silent, asleep⟩ := Call.notified_asleep asleep
    apply Client.Alike.full direct alike (segmentDirect.kept silent)
    rcases listed earlier here with rfl | known
    · exact (segmentDirect.full asleep).1
    · exact invariant.full earlier known asleep

theorem refreshed (invariant : before.Direct settings) {front back : List Refresher}
    {refresher : Refresher} {refreshing : Refreshing} (quiet : refreshing.Quiet before.client)
    (coherent : (before.refreshed front back refresher refreshing).Coherent) :
    (before.refreshed front back refresher refreshing).Direct settings := by
  constructor
  · exact coherent
  · intro call member
    obtain ⟨earlier, here, rfl⟩ := List.mem_map.mp member
    exact Call.notified_direct (invariant.calls earlier here) _
  · intro call member asleep
    obtain ⟨earlier, here, rfl⟩ := List.mem_map.mp member
    obtain ⟨silent, asleep⟩ := Call.notified_asleep asleep
    change (refresher.owner.conclude refreshing).client.admits settings = false
    rw [(quiet.conclude refresher.owner).notified silent]
    exact invariant.full earlier here asleep

theorem step (direct : settings.dispatcher = false) (invariant : before.Direct settings)
    (step : Step settings before event after) : after.Direct settings := by
  have coherent := invariant.coherent.step step
  have free := invariant.coherent.client.free
  cases step with
  | begin operation params frames surroundings segment entered entering =>
      subst entering
      apply invariant.resumed direct _ (enter_quiet free).alike _ coherent
      · simp
      · exact (enter_entry direct free surroundings).direct
  | refuse operation params frames ending refusal =>
      refine ⟨coherent, ?_, ?_⟩
      · intro call member
        rcases List.mem_append.mp member with known | new
        · exact invariant.calls call known
        · rw [List.mem_singleton.mp new]
          trivial
      · intro call member asleep
        rcases List.mem_append.mp member with known | new
        · exact invariant.full call known asleep
        · rw [List.mem_singleton.mp new] at asleep
          cases asleep
  | resume front back call surroundings input segment here resuming =>
      have member : call ∈ before.calls := by simp [here]
      apply invariant.resumed direct _
        (resume_quiet free (invariant.coherent.calls call member) resuming).alike _ coherent
      · intro other member
        rw [here]
        exact List.mem_append.mpr ((List.mem_append.mp member).imp id (List.mem_cons_of_mem _))
      · exact (resume_direct direct free (invariant.calls call member) resuming).direct
  | stir front back call here waiting =>
      have listed : ∀ other ∈ front ++ call.suspend (.waiting true) :: back,
          other.point = .waiting true ∨ other ∈ before.calls := by
        intro other member
        rw [here]
        rcases List.mem_append.mp member with earlier | later
        · exact .inr (List.mem_append_left _ earlier)
        · rcases List.mem_cons.mp later with rfl | later
          · exact .inl rfl
          · exact .inr (List.mem_append_right _ (List.mem_cons_of_mem _ later))
      refine ⟨coherent, ?_, ?_⟩
      · intro other member
        rcases listed other member with stirred | known
        · simp [Call.Direct, stirred]
        · exact invariant.calls other known
      · intro other member asleep
        rcases listed other member with stirred | known
        · rw [stirred] at asleep
          cases asleep
        · exact invariant.full other known asleep
  | refresh owner frames distinct once =>
      exact invariant.refreshed ((refresh_renewal settings free frames .woken).quiet
        invariant.coherent.client) coherent
  | renew front back refresher input refreshing here renewing kept =>
      exact invariant.refreshed ((refresher.resume_renewal free
        (invariant.coherent.refreshers refresher (by simp [here])) renewing).quiet
          invariant.coherent.client) coherent
  | close =>
      refine ⟨coherent, ?_, ?_⟩
      · intro call member
        obtain ⟨earlier, here, rfl⟩ := List.mem_map.mp member
        exact Call.notified_direct (invariant.calls earlier here) _
      · intro call member asleep
        obtain ⟨earlier, here, rfl⟩ := List.mem_map.mp member
        cases (Call.notified_asleep asleep).1
  | remote call event exchange distinct acts =>
      exact ⟨coherent, invariant.calls, invariant.full⟩

theorem start : System.start.Direct settings :=
  ⟨.start, by simp [System.start], by simp [System.start]⟩

end System.Direct

/-- The slots are those of the calls in progress, and no call sleeps at an open gate. -/
structure System.Gated (settings : Settings) (system : System) : Prop where
  /-- `active_attempts` is the number of calls with a slot. -/
  counted : system.client.active = system.calls.countP Call.holdsSlot
  /-- It is never negative. -/
  nonneg : 0 ≤ system.client.active
  /-- It is zero when no call is in progress. -/
  idle : (∀ call ∈ system.calls, ∃ ending, call.point = .done ending) → system.client.active = 0
  /-- Waiters without a notification could not be granted a slot, and the client is not closed. -/
  awake : ∀ call ∈ system.calls, call.point = .waiting false →
    system.client.closed = false ∧ system.client.admits settings = false

/-- A call which is about to be granted a slot can copy its descriptor. -/
def System.Roomy (settings : Settings) (system : System) : Event → Prop
  | .begin call _ _ => system.client.Copies settings call.operation call.frames
  | .resume id _ input _ => ∀ call, system.calls[id]? = some call → call.looks input = true →
      system.client.Copies settings call.operation call.frames
  | _ => True

/-- The descriptor granted in a step. -/
def Event.granted : Event → Option Json
  | .begin _ _ granted | .resume _ _ _ granted => granted
  | _ => none

/-- The operation of the call which takes a step. -/
def System.operation (system : System) : Event → Option String
  | .begin call _ _ => some call.operation
  | .resume id _ _ _ => system.calls[id]?.map Call.operation
  | _ => none

section Runs

variable {settings : Settings} {before after : System} {event : Event}

theorem System.Gated.of_counted (invariant : before.Direct settings)
    (counted : before.client.active = before.calls.countP Call.holdsSlot) :
    before.Gated settings := by
  constructor
  · exact counted
  · omega
  · intro finished
    rw [counted]
    have none : before.calls.countP Call.holdsSlot = 0 := by
      rw [List.countP_eq_zero]
      intro call member
      obtain ⟨ending, done⟩ := finished call member
      simp [Call.holdsSlot, done]
    omega
  · intro call member asleep
    exact ⟨invariant.coherent.awake call member asleep, invariant.full call member asleep⟩

theorem countP_notified (calls : List Call) (notify : Bool) :
    (calls.map fun call => call.notified notify).countP Call.holdsSlot =
      calls.countP Call.holdsSlot := by
  rw [List.countP_map]
  apply List.countP_congr
  simp

theorem countP_resumed (front back : List Call) (segment : Segment) :
    ((before.resumed front back segment).calls.countP Call.holdsSlot : Int) =
      (front ++ back).countP Call.holdsSlot + segment.call.slots := by
  simp only [System.resumed, countP_notified, List.countP_append, List.countP_cons, Call.slots]
  split <;> omega

theorem countP_here (front back : List Call) (call : Call) :
    ((front ++ call :: back).countP Call.holdsSlot : Int) =
      (front ++ back).countP Call.holdsSlot + call.slots := by
  simp only [List.countP_append, List.countP_cons, Call.slots]
  split <;> omega

/-- One step keeps the count if and only if it copies what it is granted. -/
theorem System.Direct.counted (direct : settings.dispatcher = false)
    (invariant : before.Direct settings)
    (counted : before.client.active = before.calls.countP Call.holdsSlot)
    (step : Step settings before event after) :
    after.client.active = after.calls.countP Call.holdsSlot ↔ before.Roomy settings event := by
  have free := invariant.coherent.client.free
  have refreshes : ∀ {front back : List Refresher} {refresher : Refresher}
      {refreshing : Refreshing},
      refreshing.Quiet before.client →
        (before.refreshed front back refresher refreshing).client.active =
          (before.refreshed front back refresher refreshing).calls.countP Call.holdsSlot := by
    intro front back refresher refreshing quiet
    have kept : (before.refreshed front back refresher refreshing).client.active =
        before.client.active := (quiet.conclude refresher.owner).active
    rw [kept, counted]
    simp only [System.refreshed, countP_notified]
  cases step with
  | begin operation params frames surroundings segment entered entering =>
      subst entering
      rw [countP_resumed, List.append_nil, ← counted]
      exact (enter_entry direct free surroundings).balanced
  | refuse operation params frames ending refusal =>
      apply iff_of_true _ trivial
      simp [counted, Call.holdsSlot, Call.suspend]
  | resume front back call surroundings input segment here resuming =>
      have member : call ∈ before.calls := by simp [here]
      have balanced := (resume_direct direct free (invariant.calls call member) resuming).balanced
      have active : before.client.active =
          (front ++ back).countP Call.holdsSlot + call.slots := by
        rw [counted, here, countP_here]
      have roomy : before.Roomy settings
          (.resume front.length surroundings input segment.granted) ↔
            (call.looks input = true →
              before.client.Copies settings call.operation call.frames) := by
        simp [System.Roomy, here]
      rw [countP_resumed, roomy, ← balanced]
      change segment.client.active = _ ↔ _
      omega
  | stir front back call here waiting =>
      apply iff_of_true _ trivial
      rw [counted, here]
      simp [Call.holdsSlot, Call.suspend, waiting]
  | refresh owner frames distinct once =>
      apply iff_of_true _ trivial
      exact refreshes ((refresh_renewal settings free frames .woken).quiet
        invariant.coherent.client)
  | renew front back refresher input refreshing here renewing kept =>
      apply iff_of_true _ trivial
      exact refreshes ((refresher.resume_renewal free
        (invariant.coherent.refreshers refresher (by simp [here])) renewing).quiet
          invariant.coherent.client)
  | close =>
      apply iff_of_true _ trivial
      rw [countP_notified]
      exact counted
  | remote call event exchange distinct acts => exact iff_of_true counted trivial

/-- A slot is granted at an open gate only, and never taken otherwise. -/
theorem System.Direct.granted (direct : settings.dispatcher = false)
    (invariant : before.Direct settings) (step : Step settings before event after) :
    (∀ descriptor, event.granted = some descriptor →
      ∃ operation, before.operation event = some operation ∧
        before.client.Grants operation descriptor) ∧
    (before.Roomy settings event → before.client.active < after.client.active →
      event.granted.isSome = true) := by
  have free := invariant.coherent.client.free
  cases step with
  | begin operation params frames surroundings segment entered entering =>
      subst entering
      let call := Call.new operation params frames
      have entry : Entry settings before.client call.operation call.frames
          (enter settings before.client call surroundings) := enter_entry direct free surroundings
      have granted := entry.granted
      exact ⟨fun descriptor made => ⟨operation, rfl, granted.1 descriptor made⟩, granted.2⟩
  | resume front back call surroundings input segment here resuming =>
      have member : call ∈ before.calls := by simp [here]
      have found : before.calls[front.length]? = some call := by simp [here]
      have granted := (resume_direct direct free (invariant.calls call member) resuming).granted
      constructor
      · intro descriptor made
        refine ⟨call.operation, ?_, granted.1 descriptor made⟩
        simp [System.operation, found]
      · intro roomy more
        exact granted.2 (roomy call found) more
  | refresh owner frames distinct once =>
      have quiet := ((refresh_renewal settings free frames .woken).quiet
        invariant.coherent.client).conclude owner
      refine ⟨by simp [Event.granted], fun _ more => ?_⟩
      have kept := quiet.active
      simp only [System.refreshed] at more
      omega
  | renew front back refresher input refreshing here renewing kept =>
      have quiet := ((refresher.resume_renewal free
        (invariant.coherent.refreshers refresher (by simp [here])) renewing).quiet
          invariant.coherent.client).conclude refresher.owner
      refine ⟨by simp [Event.granted], fun _ more => ?_⟩
      have kept := quiet.active
      simp only [System.refreshed] at more
      omega
  | close =>
      refine ⟨by simp [Event.granted], fun _ more => ?_⟩
      simp [Client.close, Client.release, Client.acquire] at more
  | _ => exact ⟨by simp [Event.granted], fun _ more => absurd more (Int.lt_irrefl _)⟩

/-- Runs in which every descriptor about to be granted can be copied. -/
abbrev RoomyRun (settings : Settings) :=
  Labelled.Execution fun before event after =>
    Step settings before event after ∧ System.Roomy settings before event

/-- The adaptive gate, as long as `_acquire` can copy what it grants.  The active attempts are the
calls between `_acquire` and the end of their `finally` block; a slot is granted below the ceiling
of the stored policy only, for an operation it lists; and no call stays asleep which could be
granted one. The first step which cannot copy its descriptor breaks the count. -/
theorem adaptive_gate (direct : settings.dispatcher = false) {trace : List Event} {system : System}
    (run : RoomyRun settings .start trace system) :
    system.Gated settings ∧ ∀ event later, Step settings system event later →
      (∀ descriptor, event.granted = some descriptor →
        ∃ operation, system.operation event = some operation ∧
          system.client.Grants operation descriptor) ∧
      (system.Roomy settings event → system.client.active < later.client.active →
        event.granted.isSome = true) ∧
      (later.Gated settings ↔ system.Roomy settings event) := by
  have invariant : system.Direct settings ∧
      system.client.active = system.calls.countP Call.holdsSlot := by
    apply run.invariant fun system => system.Direct settings ∧
      system.client.active = system.calls.countP Call.holdsSlot
    · rintro before after event ⟨invariant, counted⟩ ⟨step, roomy⟩
      exact ⟨invariant.step direct step, (invariant.counted direct counted step).mpr roomy⟩
    · exact ⟨.start, rfl⟩
  obtain ⟨invariant, counted⟩ := invariant
  refine ⟨.of_counted invariant counted, fun event later step => ?_⟩
  obtain ⟨granted, taken⟩ := invariant.granted direct step
  refine ⟨granted, taken, ?_⟩
  rw [← invariant.counted direct counted step]
  exact ⟨System.Gated.counted, .of_counted (invariant.step direct step)⟩

end Runs

/-- Arrays within each other. -/
def nesting : Nat → Json
  | 0 => .null
  | levels + 1 => .array [nesting levels]

def search : Json :=
  .object
    [("name", .string "search"), ("description", .string ""), ("method", .string "POST"),
      ("path", .string "/search"), ("input_schema", .object [("default", nesting 20)])]

def searches : Json :=
  .object
    [("version", .unsigned 3), ("principal_id", .string "owner"), ("client_class", .string "agent"),
      ("policy_revision", .unsigned 1), ("refresh_after_ms", .unsigned 1000),
      ("outstanding", .unsigned 0),
      ("limits", .object [("scope", .string "principal"), ("max_outstanding", .unsigned 2)]),
      ("operations", .array [search])]

/-- A client without a dispatcher whose checks pass. -/
def lenient : Settings where
  dispatcher := false
  checkSchema _ := .ok ()
  validates _ _ := .ok true

def informed : System where
  client :=
    { policy := some searches, active := 0, ready := true, closed := false, locked := false }
  calls := []
  refreshers := [{ owner := .caller, frames := 100, point := .done .applied }]
  exchanges _ := .fresh

theorem informed_steps : ∃ asking answer, Step lenient .start (.refresh .caller none) asking ∧
    Step lenient asking (.renew 0 answer (some .applied)) informed := by
  have asked : Step lenient .start (.refresh .caller none)
      (System.start.refreshed [] [] { owner := .caller, frames := 100, point := .resting }
        (refresh .new)) := .refresh .start .caller 100 nofun nofun
  have stored : Step lenient (System.start.refreshed [] []
      { owner := .caller, frames := 100, point := .resting } (refresh .new))
      (.renew 0 (.fetched (.ok { status := 200, body := .ok searches })) (some .applied))
      informed :=
    .renew _ [] [] { owner := .caller, frames := 100, point := .fetching } _
      { client := informed.client, point := .done .applied, notify := true } rfl rfl nofun
  exact ⟨_, _, asked, stored⟩

theorem informed_run : ∃ trace, RoomyRun lenient .start trace informed := by
  obtain ⟨_, _, asked, stored⟩ := informed_steps
  exact ⟨_, .tail (.single ⟨asked, trivial⟩) ⟨stored, trivial⟩⟩

def roomyCall : Call :=
  .new "search" .null 60

/-- The same call from deep inside a program. -/
def deepCall : Call :=
  .new "search" .null 40

def leisure : Surroundings where
  left := 60 * second
  prelude := .connects

theorem adaptive_gate_sample : ∃ later,
    Step lenient informed (.begin roomyCall leisure (some search)) later ∧
      later.Gated lenient ∧ later.client.active = 1 ∧ informed.client.Grants "search" search := by
  obtain ⟨trace, run⟩ := informed_run
  have step : Step lenient informed (.begin roomyCall leisure (some search))
      (informed.resumed [] [] (enter lenient informed.client roomyCall leisure)) :=
    .begin informed "search" .null 60 leisure _ (.inl rfl) rfl
  have copies : informed.Roomy lenient (.begin roomyCall leisure (some search)) := by
    intro _ _ descriptor found
    obtain rfl : search = descriptor := Option.some.inj found
    decide
  obtain ⟨-, next⟩ := adaptive_gate rfl run
  obtain ⟨granted, -, gated⟩ := next _ _ step
  obtain ⟨operation, named, grants⟩ := granted search rfl
  obtain rfl : "search" = operation := Option.some.inj named
  exact ⟨_, step, gated.mpr copies, rfl, grants⟩

/-- A call which cannot copy its descriptor keeps its slot for good. -/
theorem adaptive_gate_leak : ∃ trace system, Run lenient .start trace system ∧
    (∀ call ∈ system.calls, call.point = .done (.raised .recursion)) ∧
      system.client.active = 1 := by
  obtain ⟨trace, run⟩ := informed_run
  have earlier : Run lenient .start trace informed := run.mono And.left
  have step : Step lenient informed (.begin deepCall leisure none)
      (informed.resumed [] [] (enter lenient informed.client deepCall leisure)) :=
    .begin informed "search" .null 40 leisure _ (.inl rfl) rfl
  refine ⟨_, _, earlier.tail step, ?_, rfl⟩
  intro call member
  rw [List.mem_singleton.mp member]
  rfl

end Sdk

end AiProtocol
