import AiProtocol.Dispatcher.Throttle
import AiProtocol.EndToEnd.Sdk
import AiProtocol.Sdk.Slots

/-!
# One Python client in front of one gateway

A client without a dispatcher which is the only user of a budget.  Its slots stay below the ceiling
of the budget, but an attempt which it gave up leaves its slot before the gateway gives its permit
back, and only such attempts can make the gateway refuse another one.
-/

namespace AiProtocol

namespace Sdk

open Labelled Network

variable {settings : Settings} {before after : System} {event : Event}

/-! ## Attempts in flight -/

/-- The call was woken without an answer. -/
def Input.givesUp : Input → Bool
  | .failed _ | .interrupted _ => true
  | .woken | .answered => false

/-- The call goes on without the answer of its attempt. -/
def Event.givesUp (id : Nat) : Event → Bool
  | .resume call _ input _ => call = id && input.givesUp
  | _ => false

private theorem Call.notified_sending {call : Call} (sending : call.point = .sending)
    (notify : Bool) :
    call.notified notify = call := by
  rcases call.notified_eq notify with same | ⟨-, waiting, -⟩
  · exact same
  · rw [sending] at waiting
    cases waiting

/-- An attempt stays in flight until its answer is there, or its call gives it up. -/
theorem sending_step (step : Step settings before event after) {id : Nat} {call : Call}
    (found : before.calls[id]? = some call) (sending : call.point = .sending) :
    after.calls[id]? = some call ∨ event.givesUp id = true ∨
      ∃ response, (before.exchanges (id, call.number)).answer = some (.response response) := by
  have known : id < before.calls.length := (List.getElem?_eq_some_iff.mp found).1
  have notified := fun notify => call.notified_sending sending notify
  cases step with
  | begin operation params frames surroundings segment entered entering =>
      have kept : (before.calls ++ [segment.call])[id]? = some call := by
        rw [List.getElem?_append_left known, found]
      simp [System.resumed, -List.map_append, kept, notified]
  | refuse => simp [List.getElem?_append_left known, found]
  | resume front back other surroundings input segment here resuming =>
      by_cases same : id = front.length
      · subst same
        obtain rfl : other = call := by simpa [here] using found
        cases resumes_of_resume resuming with
        | responds response point answered => exact .inr (.inr ⟨response, answered⟩)
        | fails | raises | interrupted => exact .inr (.inl (by simp [Event.givesUp, Input.givesUp]))
        | _ => simp_all
      · have kept : (front ++ segment.call :: back)[id]? = some call := by
          rw [getElem?_replaced same, ← here]
          exact found
        simp [System.resumed, -List.map_append, kept, notified]
  | stir front back other here waiting =>
      have different : id ≠ front.length := by
        rintro rfl
        obtain rfl : other = call := by simpa [here] using found
        rw [sending] at waiting
        cases waiting
      have kept : (front ++ other.suspend (.waiting true) :: back)[id]? = some call := by
        rw [getElem?_replaced different, ← here]
        exact found
      exact .inl kept
  | refresh | renew | close => simp [System.refreshed, found, notified]
  | remote => exact .inl found

theorem Call.Direct.sending {call : Call} (direct : call.Direct) (sent : call.isSent = true) :
    call.point = .sending := by
  unfold Call.Direct at direct
  unfold Call.isSent at sent
  split at sent <;> simp_all

/-- An attempt which is sent in a step is in flight after it. -/
theorem sent_step (direct : settings.dispatcher = false) (invariant : before.Direct settings)
    (step : Step settings before event after) {id number : Nat}
    (sent : (after.exchanges (id, number)).sent = true) :
    (before.exchanges (id, number)).sent = true ∨
      ∃ call, after.calls[id]? = some call ∧ call.point = .sending ∧ call.number = number := by
  have later := (invariant.step direct step).calls
  have resumed : ∀ {front back : List Call} {segment : Segment},
      (∀ call ∈ (before.resumed front back segment).calls, call.Direct) →
        ((before.resumed front back segment).exchanges (id, number)).sent = true →
          (before.exchanges (id, number)).sent = true ∨
            ∃ call, (before.resumed front back segment).calls[id]? = some call ∧
              call.point = .sending ∧ call.number = number := by
    intro front back segment later sent
    unfold System.resumed at sent
    dsimp only at sent
    split at sent
    · rename_i sends
      by_cases same : (id, number) = (front.length, segment.call.number)
      · obtain ⟨rfl, rfl⟩ := Prod.mk.inj same
        have awake : segment.call.notified segment.notify = segment.call := by
          rcases segment.call.notified_eq segment.notify with same | ⟨-, waiting, -⟩
          · exact same
          · simp [Call.isSent, waiting] at sends
        have found : (before.resumed front back segment).calls[front.length]? =
            some segment.call := by
          simp [System.resumed, -List.map_append, awake]
        have sending := (later _ (List.mem_of_getElem? found)).sending sends
        exact .inr ⟨segment.call, found, sending, rfl⟩
      · rw [Function.update_of_ne same] at sent
        exact .inl sent
    · exact .inl sent
  cases step with
  | begin => exact resumed later sent
  | resume => exact resumed later sent
  | remote target happening exchange distinct acts =>
      dsimp only at sent
      by_cases same : (id, number) = target
      · subst same
        rw [Function.update_self] at sent
        cases acts with
        | send => exact absurd rfl distinct
        | execute received | answer _ received => exact .inl received
      · rw [Function.update_of_ne same] at sent
        exact .inl sent
  | _ => exact .inl sent

/-! ## Slots -/

/-- The client takes at most one slot, and below the ceiling. -/
def Client.Takes (client later : Client) : Prop :=
  later.active ≤ client.active ∨ later.active = client.active + 1 ∧
    ∃ maximum, client.ceiling = some maximum ∧ client.active < maximum

section Segments

variable {client : Client} {call : Call} {segment : Segment}

private theorem Client.room_of_admits (direct : settings.dispatcher = false)
    (admits : client.admits settings = true) :
    ∃ maximum, client.ceiling = some maximum ∧ client.active < maximum := by
  simp only [Client.admits, direct, Bool.false_or, Bool.and_eq_true, Option.any_eq_true,
    decide_eq_true_eq] at admits
  exact admits.2

/-- A call which looks at the gate takes at most one slot, and has none without taking it. -/
theorem Entry.takes (direct : settings.dispatcher = false) {operation : String} {frames : Nat}
    (entry : Entry settings client operation frames segment) :
    client.Takes segment.client ∧
      client.active + segment.call.slots ≤ segment.client.active := by
  cases entry with
  | refused call away copies => exact ⟨.inl le_rfl, by simp [Call.slots, away.holdsSlot]⟩
  | waits call waiting isOpen full =>
      exact ⟨.inl le_rfl, by simp [Call.slots, Call.holdsSlot, waiting]⟩
  | sends call descriptor grants copies sending =>
      exact ⟨.inr ⟨rfl, grants.room⟩, by simp [Call.slots, Call.holdsSlot, sending]⟩
  | returns call descriptor grants copies away =>
      exact ⟨.inl le_rfl, by simp [Call.slots, away.holdsSlot]⟩
  | leaks call uncopied away =>
      have admits : client.admits settings = true := by
        simp only [Client.Copies, Classical.not_imp] at uncopied
        exact uncopied.2.1
      refine ⟨.inr ⟨rfl, Client.room_of_admits direct admits⟩, ?_⟩
      simp only [Call.slots, away.holdsSlot, Bool.false_eq_true, ↓reduceIte]
      omega

theorem Resumption.takes (direct : settings.dispatcher = false) {input : Input}
    (resumption : Resumption settings client call input segment) :
    client.Takes segment.client ∧
      client.active + segment.call.slots ≤ segment.client.active + call.slots := by
  cases resumption with
  | enters _ looks free entry =>
      obtain ⟨takes, covered⟩ := entry.takes direct
      simp only [Call.slots, free] at covered ⊢
      exact ⟨takes, by omega⟩
  | leaves next blind held away =>
      refine ⟨.inl (Int.sub_le_self _ (by decide)), ?_⟩
      simp [Call.slots, held, away.holdsSlot]
  | abandons next blind free away =>
      exact ⟨.inl le_rfl, by simp [Call.slots, free, away.holdsSlot]⟩

end Segments

/-- No step takes more than one slot, none is taken at the ceiling, and calls in progress have
theirs. -/
theorem takes_step (direct : settings.dispatcher = false) (invariant : before.Direct settings)
    (covered : before.calls.countP Call.holdsSlot ≤ before.client.active)
    (step : Step settings before event after) :
    before.client.Takes after.client ∧
      after.calls.countP Call.holdsSlot ≤ after.client.active := by
  have free := invariant.coherent.client.free
  have refreshes : ∀ {front back : List Refresher} {refresher : Refresher}
      {refreshing : Refreshing}, refreshing.Quiet before.client →
        before.client.Takes (before.refreshed front back refresher refreshing).client ∧
          (before.refreshed front back refresher refreshing).calls.countP Call.holdsSlot ≤
            (before.refreshed front back refresher refreshing).client.active := by
    intro front back refresher refreshing quiet
    have kept : (before.refreshed front back refresher refreshing).client.active =
        before.client.active := (quiet.conclude refresher.owner).active
    rw [Client.Takes, kept]
    refine ⟨.inl le_rfl, ?_⟩
    simpa only [System.refreshed, countP_notified] using covered
  cases step with
  | begin operation params frames surroundings segment entered entering =>
      subst entering
      obtain ⟨takes, slots⟩ := (enter_entry direct free surroundings).takes direct
      refine ⟨takes, ?_⟩
      rw [countP_resumed, List.append_nil]
      exact (Int.add_le_add_right covered _).trans slots
  | refuse operation params frames ending refusal =>
      exact ⟨.inl le_rfl, by simpa [Call.holdsSlot, Call.suspend] using covered⟩
  | resume front back call surroundings input segment here resuming =>
      have member : call ∈ before.calls := by simp [here]
      obtain ⟨takes, slots⟩ :=
        (resume_direct direct free (invariant.calls call member) resuming).takes direct
      refine ⟨takes, ?_⟩
      rw [here, countP_here] at covered
      rw [countP_resumed]
      change _ ≤ segment.client.active
      omega
  | stir front back call here waiting =>
      rw [here, countP_here] at covered
      refine ⟨.inl le_rfl, ?_⟩
      rw [countP_here]
      simpa [Call.slots, Call.holdsSlot, Call.suspend, waiting] using covered
  | refresh owner frames distinct once =>
      exact refreshes ((refresh_renewal settings free frames .woken).quiet
        invariant.coherent.client)
  | renew front back refresher input refreshing here renewing kept =>
      exact refreshes ((refresher.resume_renewal free
        (invariant.coherent.refreshers refresher (by simp [here])) renewing).quiet
          invariant.coherent.client)
  | close =>
      refine ⟨.inl le_rfl, ?_⟩
      rw [countP_notified]
      exact covered
  | remote => exact ⟨.inl le_rfl, covered⟩

/-! ## The composition -/

private theorem Answer.denies_response (response : HttpReply) :
    Answer.Denies (.response response) ↔ response.Denies := .rfl

/-- How a client and a gateway are connected. -/
structure Wiring (Action : Type) where
  /-- Configuration of the client. -/
  settings : Settings
  /-- It has no dispatcher. -/
  direct : settings.dispatcher = false
  /-- Configuration of the gateway. -/
  config : Config Action
  /-- Its responses are truthful. -/
  truthful : config.Truthful
  /-- The budget whose only user the client is. -/
  budget : BudgetRef
  /-- The request of an attempt at the gateway. -/
  callOf : Nat × Nat → ReplyId
  /-- How the client reads the bytes of a body. -/
  parse : List UInt8 → Option Json

/-- A client and a gateway with its history. -/
abbrev Pair (Action : Type) := System × Gateway.Recording Action

/-- An event of the client or of the gateway. -/
abbrev PairEvent (Action : Type) := Event ⊕ AiProtocol.Event Action

/-- A request belongs to an attempt in flight. -/
def System.Flies (system : System) (callOf : Nat × Nat → ReplyId) (request : ReplyId) : Prop :=
  ∃ id call, system.calls[id]? = some call ∧ call.point = .sending ∧
    callOf (id, call.number) = request

variable {Action : Type}

namespace Wiring

variable (wiring : Wiring Action)

/-- The gateway answers the attempts of the client. -/
def service : Network.Service (Gateway.RecordedStep wiring.config)
    ([], Gateway.start wiring.config) ReplyId Answer.Denies :=
  (Gateway.service wiring.truthful wiring.parse).map Answer.response Answer.denies_response

/-- Policies tell the ceiling of the budget, which does not change, and requests on the budget are
attempts of the client, some of which may arrive after their calls gave them up. -/
def Alone (before : Pair Action) (event : PairEvent Action) (after : Pair Action) : Prop :=
  match event with
  | .inl _ => after.1.client.ceiling = before.1.client.ceiling ∨
      after.1.client.ceiling = some ↑(before.2.2.budgets wiring.budget).maximum
  | .inr event => event.changes wiring.budget = false ∧ ∀ request identity action,
      event = .submit request identity action → identity.budget = wiring.budget →
        ∃ attempt, wiring.callOf attempt = request

/-- One step of the composition. -/
def PairStep (before : Pair Action) (event : PairEvent Action) (after : Pair Action) : Prop :=
  Linked (Sdk.client wiring.settings) wiring.service wiring.callOf before event after ∧
    wiring.Alone before event after

/-- A run of the composition. -/
abbrev PairRun := Labelled.Execution wiring.PairStep

/-- The composition before anything happened. -/
abbrev start : Pair Action :=
  (.start, [], Gateway.start wiring.config)

end Wiring

variable {wiring : Wiring Action} {path : List (PairEvent Action)} {former pair : Pair Action}

theorem history_run (run : wiring.PairRun wiring.start path pair) :
    pair.2.1 = path.filterMap Sum.getRight? :=
  (recorded_run (Linked.far_run (run.mono And.left))).1

theorem gateway_run (run : wiring.PairRun wiring.start path pair) :
    AiProtocol.Run wiring.config (Gateway.start wiring.config) pair.2.1 pair.2.2 := by
  rw [history_run run]
  exact (recorded_run (Linked.far_run (run.mono And.left))).2

private theorem submitted_pair (run : wiring.PairRun wiring.start path pair) {request : ReplyId}
    {left right : ClientIdentity} {action action' : Action}
    (first : .inr (.submit request left action) ∈ path)
    (second : .inr (.submit request right action') ∈ path) : left = right := by
  have whole := gateway_run run
  rw [history_run run] at whole
  exact Gateway.submitted_unique whole (List.mem_filterMap.mpr ⟨_, first, rfl⟩)
    (List.mem_filterMap.mpr ⟨_, second, rfl⟩)

theorem answered_pair (run : wiring.PairRun wiring.start path pair) {attempt : Nat × Nat}
    {response : HttpReply}
    (told : (pair.1.exchanges attempt).answer = some (.response response)) :
    ∃ answer, pair.2.2.calls (wiring.callOf attempt) = .answered answer := by
  have agree := (linked_exchange (run.mono And.left) attempt).2
  rw [told] at agree
  obtain ⟨reply, answered, -⟩ := Option.map_eq_some_iff.mp agree.symm
  obtain ⟨answer, known, -⟩ := Gateway.answer_exchange.mp answered
  exact ⟨answer, known⟩

/-- The ceiling of the budget bounds the slots. -/
structure Bounded (wiring : Wiring Action) (pair : Pair Action) : Prop where
  /-- The client is one without a dispatcher. -/
  direct : pair.1.Direct wiring.settings
  /-- Calls in progress have slots. -/
  covered : pair.1.calls.countP Call.holdsSlot ≤ pair.1.client.active
  /-- The ceiling does not change. -/
  ceiling : (pair.2.2.budgets wiring.budget).maximum = wiring.config.maximum wiring.budget
  /-- The client knows it, or nothing. -/
  known : ∀ maximum, pair.1.client.ceiling = some maximum →
    maximum = wiring.config.maximum wiring.budget
  /-- No more slots are taken. -/
  bounded : pair.1.client.active ≤ wiring.config.maximum wiring.budget

theorem Bounded.step {event : PairEvent Action} (bounded : Bounded wiring former)
    (step : wiring.PairStep former event pair) : Bounded wiring pair := by
  obtain ⟨moves, alone⟩ := step
  cases moves with
  | near before after far label own moves =>
      obtain ⟨takes, covered⟩ := takes_step wiring.direct bounded.direct bounded.covered moves
      have known : ∀ maximum, after.client.ceiling = some maximum →
          maximum = wiring.config.maximum wiring.budget := by
        intro maximum stored
        rcases alone with same | told
        · exact bounded.known maximum (same ▸ stored)
        · rw [stored, Option.some.injEq] at told
          rw [told, bounded.ceiling]
      refine ⟨bounded.direct.step wiring.direct moves, covered, bounded.ceiling, known, ?_⟩
      have limit := bounded.bounded
      rcases takes with less | ⟨more, maximum, stored, room⟩
      · exact less.trans limit
      · have most : maximum = wiring.config.maximum wiring.budget := bounded.known maximum stored
        rw [← most]
        exact more.trans_le (Int.add_one_le_of_lt room)
  | far near before after label moves covers =>
      obtain ⟨direct, covered, ceiling, known, bounded⟩ := bounded
      refine ⟨?_, covered, ?_, known, bounded⟩
      · exact ⟨⟨direct.coherent.client, direct.coherent.calls, direct.coherent.refreshers,
          direct.coherent.awake⟩, direct.calls, direct.full⟩
      · cases moves with
        | step history before after label moves =>
            exact (Gateway.maximum_step moves alone.1).trans ceiling

theorem bounded_run (run : wiring.PairRun wiring.start path pair) : Bounded wiring pair := by
  refine run.invariant (Bounded wiring) Bounded.step ⟨.start, le_rfl, rfl, ?_, ?_⟩
  · intro maximum stored
    cases stored
  · exact Int.natCast_nonneg _

/-! ## Permits and attempts -/

/-- A call gave one of its attempts up. -/
def GaveUp (path : List (PairEvent Action)) (id : Nat) : Prop :=
  ∃ event, .inl event ∈ path ∧ event.givesUp id = true

/-- Whoever asks for a permit of the budget is an attempt in flight, or one of a call which gave an
attempt up. -/
def Carried (wiring : Wiring Action) (path : List (PairEvent Action)) (pair : Pair Action) : Prop :=
  ∀ request, pair.2.2.Asks wiring.budget request → pair.1.Flies wiring.callOf request ∨
    ∃ id number, wiring.callOf (id, number) = request ∧ GaveUp path id

theorem GaveUp.later {id : Nat} (gone : GaveUp path id) (more : List (PairEvent Action)) :
    GaveUp (path ++ more) id := by
  obtain ⟨event, member, gives⟩ := gone
  exact ⟨event, List.mem_append_left _ member, gives⟩

/-- Every attempt which was sent is in flight, or its call gave it up, or it was answered. -/
def Traced (path : List (PairEvent Action)) (pair : Pair Action) : Prop :=
  ∀ id number, (pair.1.exchanges (id, number)).sent = true →
    (∃ call, pair.1.calls[id]? = some call ∧ call.point = .sending ∧ call.number = number) ∨
      GaveUp path id ∨
        ∃ response, (pair.1.exchanges (id, number)).answer = some (.response response)

private theorem traced_step (run : wiring.PairRun wiring.start path former)
    (traced : Traced path former)
    {event : PairEvent Action} (step : wiring.PairStep former event pair) :
    Traced (path ++ [event]) pair := by
  have direct := (bounded_run run).direct
  obtain ⟨moves, -⟩ := step
  intro id number sent
  cases moves with
  | near before after far label own moves =>
      have kept := (Sdk.client wiring.settings).sends own moves (id, number)
      have answers : (after.exchanges (id, number)).answer =
          (before.exchanges (id, number)).answer := (congrArg Exchange.answer kept :)
      rw [answers]
      rcases sent_step wiring.direct direct moves sent with already | new
      · rcases traced id number already with ⟨call, found, sending, rfl⟩ | gone | told
        · rcases sending_step moves found sending with still | gives | told
          · exact .inl ⟨call, still, sending, rfl⟩
          · exact .inr (.inl ⟨label, by simp, gives⟩)
          · exact .inr (.inr told)
        · exact .inr (.inl (gone.later [.inl label]))
        · exact .inr (.inr told)
      · exact .inl new
  | far near before after label moves covers =>
      rcases traced id number sent with flies | gone | ⟨response, told⟩
      · exact .inl flies
      · exact .inr (.inl (gone.later [.inr label]))
      · refine .inr (.inr ⟨response, ?_⟩)
        obtain ⟨labels, runs⟩ :=
          wiring.service.advance (Linked.far_run (run.mono And.left)) moves
        rw [(linked_exchange (run.mono And.left) (id, number)).2] at told
        exact runs.answered told

private theorem traced_run (run : wiring.PairRun wiring.start path pair) : Traced path pair := by
  refine run.invariantTrace Traced (fun id number sent => ?_)
    fun earlier traced step => traced_step earlier traced step
  cases sent

private theorem carried_step (run : wiring.PairRun wiring.start path former)
    (carried : Carried wiring path former) {event : PairEvent Action}
    (step : wiring.PairStep former event pair) : Carried wiring (path ++ [event]) pair := by
  intro request asks
  have earlier : former.1.Flies wiring.callOf request ∨
      (∃ id number, wiring.callOf (id, number) = request ∧ GaveUp path id) →
        pair.1.Flies wiring.callOf request ∨
          ∃ id number, wiring.callOf (id, number) = request ∧ GaveUp (path ++ [event]) id := by
    rintro (⟨id, call, found, sending, same⟩ | ⟨id, number, same, gone⟩)
    · obtain ⟨moves, -⟩ := step
      cases moves with
      | near before after far label own moves =>
          rcases sending_step moves found sending with still | gives | ⟨response, told⟩
          · exact .inl ⟨id, call, still, sending, same⟩
          · exact .inr ⟨id, call.number, same, label, by simp, gives⟩
          · obtain ⟨answer, answered⟩ := answered_pair run told
            rw [same] at answered
            have settled : ¬far.2.Asks wiring.budget request :=
              Gateway.asks_answered (gateway_run run) answered
            exact absurd asks settled
      | far near before after label moves covers =>
          exact .inl ⟨id, call, found, sending, same⟩
    · exact .inr ⟨id, number, same, gone.later [event]⟩
  refine earlier ?_
  obtain ⟨moves, alone⟩ := step
  cases moves with
  | near before after far label own moves => exact carried request asks
  | far near before after label moves covers =>
      cases moves with
      | step history before after label moves =>
          rcases Gateway.asks_step (Gateway.idle_run (gateway_run run)) moves asks with
            already | ⟨identity, action, submitted, own⟩
          · exact carried request already
          · obtain ⟨⟨id, number⟩, same⟩ := alone.2 request identity action submitted own
            -- a request which arrives was not answered before
            have absent : before.calls request = .absent := by
              subst submitted
              cases moves with
              | submit _ _ _ fresh => exact fresh
            have received : (Gateway.exchange wiring.parse (history ++ [label]) after
                request).sent = true := by
              subst submitted
              cases moves with
              | submit => simp [Gateway.exchange, Gateway.move, Call.stage]
            have sent : (near.exchanges (id, number)).sent = true := by
              refine covers (id, number) ?_
              rw [Function.comp_apply, same]
              exact received
            rcases traced_run run id number sent with ⟨call, found, sending, rfl⟩ | gone | told
            · exact .inl ⟨id, call, found, sending, same⟩
            · exact .inr ⟨id, number, same, gone⟩
            · obtain ⟨response, told⟩ := told
              obtain ⟨answer, answered⟩ := answered_pair run told
              rw [same, absent] at answered
              cases answered

theorem carried_run (run : wiring.PairRun wiring.start path pair) : Carried wiring path pair := by
  refine run.invariantTrace (fun path pair => Carried wiring path pair) ?_
    fun earlier carried step => carried_step earlier carried step
  rintro request (⟨identity, action, -, submitted | admitting⟩ | holds)
  · cases submitted
  · cases admitting
  · cases holds

theorem flying_le {system : System} {callOf : Nat × Nat → ReplyId} {requests : List ReplyId}
    (nodup : requests.Nodup) (flying : ∀ request ∈ requests, system.Flies callOf request) :
    requests.length ≤ system.calls.countP Call.holdsSlot := by
  have subset : requests ⊆ (system.calls.zipIdx.filter fun entry => entry.1.holdsSlot).map
      fun entry => callOf (entry.2, entry.1.number) := by
    intro request member
    obtain ⟨id, call, found, sending, same⟩ := flying request member
    refine List.mem_map.mpr ⟨(call, id), List.mem_filter.mpr ⟨?_, ?_⟩, same⟩
    · exact List.mk_mem_zipIdx_iff_getElem?.mpr found
    · simp [Call.holdsSlot, sending]
  have short := (List.subperm_of_subset nodup subset).length_le
  have counted : system.calls.countP Call.holdsSlot =
      (system.calls.zipIdx.filter fun entry => entry.1.holdsSlot).length := by
    conv_lhs => rw [← List.zipIdx_map_fst 0 system.calls]
    rw [List.countP_map, List.countP_eq_length_filter]
    rfl
  rwa [List.length_map, ← counted] at short

open Classical in
/-- The requests which hold a permit although their attempts are no longer in flight. -/
noncomputable def Wiring.abandoned (wiring : Wiring Action) (pair : Pair Action) : List ReplyId :=
  (pair.2.2.holders wiring.budget).filter fun request => ¬pair.1.Flies wiring.callOf request

theorem mem_abandoned {request : ReplyId} : request ∈ wiring.abandoned pair ↔
    (request, wiring.budget) ∈ pair.2.2.held ∧ ¬pair.1.Flies wiring.callOf request := by
  simp [Wiring.abandoned, Gateway.mem_holders]

theorem outstanding_le (run : wiring.PairRun wiring.start path pair) :
    (pair.2.2.budgets wiring.budget).outstanding ≤
      pair.1.calls.countP Call.holdsSlot + (wiring.abandoned pair).length := by
  classical
  have nodup := Gateway.nodup_holders (gateway_run run) wiring.budget
  have flying := flying_le (nodup.filter fun request => pair.1.Flies wiring.callOf request)
    fun request member => by simpa using (List.mem_filter.mp member).2
  rw [← Gateway.length_holders (gateway_run run) wiring.budget,
    List.length_eq_length_filter_add fun request => pair.1.Flies wiring.callOf request]
  refine Nat.add_le_add flying (le_of_eq ?_)
  simp [Wiring.abandoned]

/-- An attempt in flight finds the budget exhausted only behind an abandoned one. -/
theorem abandoned_of_full (run : wiring.PairRun wiring.start path pair) {request : ReplyId}
    {identity : ClientIdentity} {action : Action}
    (admitting : pair.2.2.lock = .admitting request identity action)
    (full : (pair.2.2.budgets wiring.budget).tryAcquireObserved = none)
    (flies : pair.1.Flies wiring.callOf request) : wiring.abandoned pair ≠ [] := by
  intro none
  have all : ∀ other ∈ request :: pair.2.2.holders wiring.budget,
      pair.1.Flies wiring.callOf other := by
    intro other member
    rcases List.mem_cons.mp member with same | holds
    · rwa [same]
    · by_contra gone
      have abandoned := mem_abandoned.mpr ⟨Gateway.mem_holders.mp holds, gone⟩
      rw [none] at abandoned
      cases abandoned
  have fresh : request ∉ pair.2.2.holders wiring.budget := by
    rw [Gateway.mem_holders]
    exact Gateway.admitting_holds (gateway_run run) admitting wiring.budget
  have nodup := List.nodup_cons.mpr
    ⟨fresh, Gateway.nodup_holders (gateway_run run) wiring.budget⟩
  have slots := flying_le nodup all
  obtain ⟨-, covered, ceiling, -, bounded⟩ := bounded_run run
  rw [List.length_cons, Gateway.length_holders (gateway_run run)] at slots
  rw [Snapshot.tryAcquireObserved_eq_none, ceiling] at full
  omega

private theorem admitting_of_exhausted {request : ReplyId}
    (step : wiring.PairStep former (.inr (.exhausted request)) pair) : ∃ identity action,
      former.2.2.lock = .admitting request identity action ∧
        (former.2.2.budgets identity.budget).tryAcquireObserved = none := by
  obtain ⟨moves, -⟩ := step
  cases moves with
  | far near before after label moves covers =>
      cases moves with
      | step history before after label moves =>
          cases moves with
          | exhausted caller identity action admitting idle full =>
              exact ⟨identity, action, admitting, full⟩

/-- A Python client which is the only user of a budget.  Its slots stay below the ceiling, and the
budget is used by no more requests than it has slots and abandoned attempts; these belong to calls
which gave an attempt up; and an attempt in flight is told that the budget is exhausted only while
an abandoned one holds a permit, and never before a call gave an attempt up. -/
theorem sole_client (run : wiring.PairRun wiring.start path pair) :
    pair.1.client.active ≤ wiring.config.maximum wiring.budget ∧
      (pair.2.2.budgets wiring.budget).outstanding ≤
        pair.1.client.active + (wiring.abandoned pair).length ∧
      (∀ request ∈ wiring.abandoned pair,
        ∃ id number, wiring.callOf (id, number) = request ∧ GaveUp path id) ∧
      ∀ request identity action, .inr (.submit request identity action) ∈ path →
        identity.budget = wiring.budget → .inr (.exhausted request) ∈ path →
          ∃ front back earlier, path = front ++ .inr (.exhausted request) :: back ∧
            wiring.PairRun wiring.start front earlier ∧
              (earlier.1.Flies wiring.callOf request → wiring.abandoned earlier ≠ []) ∧
                ∃ id, GaveUp front id := by
  obtain ⟨-, covered, -, -, bounded⟩ := bounded_run run
  have used := outstanding_le run
  refine ⟨bounded, by omega, fun request member => ?_, ?_⟩
  · obtain ⟨holds, gone⟩ := mem_abandoned.mp member
    exact (carried_run run request (.inr holds)).resolve_left gone
  · intro request identity action submitted own exhausted
    obtain ⟨front, back, middle, next, rfl, earlier, step, later⟩ := run.step_of_mem exhausted
    obtain ⟨asked, wanted, admitting, full⟩ := admitting_of_exhausted step
    have before := Gateway.asked_run (gateway_run earlier) (.inr admitting)
    rw [history_run earlier] at before
    obtain ⟨event, known, same⟩ := List.mem_filterMap.mp before
    obtain rfl := Sum.getRight?_eq_some_iff.mp same
    obtain rfl : asked = identity := submitted_pair run (List.mem_append_left _ known) submitted
    rw [own] at full
    have behind := abandoned_of_full earlier admitting full
    refine ⟨front, back, middle, rfl, earlier, behind, ?_⟩
    rcases carried_run earlier request (.inl ⟨asked, wanted, own, .inr admitting⟩) with
      flies | ⟨id, number, -, gone⟩
    · obtain ⟨other, member⟩ := List.exists_mem_of_ne_nil _ (behind flies)
      obtain ⟨holds, grounded⟩ := mem_abandoned.mp member
      obtain ⟨id, number, -, gone⟩ :=
        (carried_run earlier other (.inr holds)).resolve_left grounded
      exact ⟨id, gone⟩
    · exact ⟨id, gone⟩

def Wiring.single : Wiring Unit where
  settings := lenient
  direct := rfl
  config :=
    { Config.arbitrary 2 with
      decides := fun decision => decision = .enqueue ⟨"owner", .agent, [], 7⟩ ()
      executes := fun _ response => response = { status := 200, retryAfter := none
                                                 body := .bytes [] } }
  truthful := ⟨by simp, by rintro action response rfl; exact .inl ⟨rfl, rfl⟩⟩
  budget := 7
  callOf id := Nat.pair id.1 id.2
  parse _ := none

/-- A request which arrives after its call was cancelled holds a permit nobody waits for. -/
theorem sole_client_sample : ∃ (path : List (PairEvent Unit)) (pair : Pair Unit),
    Wiring.single.PairRun Wiring.single.start path pair ∧ pair.1.client.active = 0 ∧
      (pair.2.2.budgets 7).outstanding = 1 ∧ Wiring.single.abandoned pair ≠ [] := by
  have begun : Wiring.single.PairRun Wiring.single.start [] _ := .refl _
  have asking := begun.tail ⟨.near _ _ _ _ (ne_remote rfl) (.refresh .start .caller 100 nofun
    nofun), .inl rfl⟩
  have ready := asking.tail ⟨.near _ informed _ _ (ne_remote rfl)
    (.renew _ [] [] { owner := .caller, frames := 100, point := .fetching }
      (.fetched (.ok { status := 200, body := .ok searches }))
      { client := informed.client, point := .done .applied, notify := true } rfl rfl nofun),
    .inr rfl⟩
  have sent := ready.tail ⟨.near _ _ _ _ (ne_remote rfl)
    (.begin informed "search" .null 60 leisure _ (.inl rfl) rfl), .inl rfl⟩
  have stopped := sent.tail ⟨.near _ _ _ _ (ne_remote rfl) (.resume _ [] []
    { roomyCall with attempts := 1, mayHaveExecuted := true, point := .sending } leisure
    (.interrupted .cancel) _ rfl rfl), .inl rfl⟩
  have injective : Function.Injective Wiring.single.callOf := by
    rintro ⟨first, second⟩ ⟨other, number⟩ same
    exact Prod.ext_iff.mpr (Nat.pair_eq_pair.mp same)
  let owner : ClientIdentity := ⟨"owner", .agent, [], 7⟩
  let event : AiProtocol.Event Unit := .submit (Nat.pair 0 1) owner ()
  have covers : Exchange.Covers ((client lenient).sent _) (Gateway.exchange (fun _ => none) []
      (Gateway.start Wiring.single.config) ∘ Wiring.single.callOf) :=
    (Linked.matched_run (stopped.mono And.left)).covers
  have arrived := Gateway.covers_move injective covers (0, 1) rfl event (.submitted owner ())
  have submitted := stopped.tail ⟨.far _ _ _ _ (.step _ _ _ _
    (.submit _ (Nat.pair 0 1) owner () rfl rfl nofun)) arrived, rfl, by
      rintro request identity action ⟨⟩ -
      exact ⟨(0, 1), rfl⟩⟩
  have waiting := Gateway.covers_move injective arrived (0, 1) rfl
    (.enter (Nat.pair 0 1) (fun _ => false) 0) .entered
  have entered := submitted.tail ⟨.far _ _ _ _ (.step _ _ _ _
    (.enter _ (Nat.pair 0 1) owner () (fun _ => false) rfl rfl rfl nofun)) waiting, rfl, nofun⟩
  have acquired := entered.tail ⟨.far _ _ _ _ (.step _ _ _ _
    (.acquire _ (Nat.pair 0 1) owner () _ rfl rfl rfl)) waiting, rfl, nofun⟩
  obtain ⟨-, used, -, -⟩ := sole_client acquired
  refine ⟨_, _, acquired, rfl, rfl, fun empty => ?_⟩
  rw [empty] at used
  exact absurd used (by decide)

end Sdk

end AiProtocol
