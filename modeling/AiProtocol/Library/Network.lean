import AiProtocol.Library.Exchange

/-!
# Calls over a network

A machine serves calls to others, and makes calls of its own.  A client and a service are linked by
a transport which delivers a call only after it was sent, delivers it once, and loses any answer it
likes.  A linked client meets no exchange it would not meet in front of the contract alone, and a
service which is a client itself keeps what it promises in front of the service behind it.
-/

namespace Exchange

variable {Call Call' Response : Type*} [DecidableEq Call] [DecidableEq Call']
  {denies : Response → Prop}

/-- Some steps of some calls. -/
abbrev Runs (denies : Response → Prop) :
    (Call → Exchange Response) → List (Call × Event Response) → (Call → Exchange Response) → Prop :=
  Labelled.Execution fun exchanges label later => Calls denies exchanges label.1 label.2 later

/-- An answer is final. -/
theorem Runs.answered {before after : Call → Exchange Response}
    {labels : List (Call × Event Response)} (runs : Runs denies before labels after) {call : Call}
    {response : Response} (answered : (before call).answer = some response) :
    (after call).answer = some response :=
  runs.invariant (fun exchanges => (exchanges call).answer = some response)
    (fun told calls => calls.answered told) answered

/-- What was sent stays sent. -/
theorem Runs.sent {before after : Call → Exchange Response}
    {labels : List (Call × Event Response)} (runs : Runs denies before labels after) {call : Call}
    (sent : (before call).sent = true) : (after call).sent = true :=
  runs.invariant (fun exchanges => (exchanges call).sent = true)
    (fun sent calls => (calls.sent call).mpr (.inl sent)) sent

/-- One call goes on and the others do not. -/
theorem Runs.of_run {exchanges : Call → Exchange Response} {call : Call} {after : Exchange Response}
    {events : List (Event Response)} (run : Run denies (exchanges call) events after) :
    ∃ labels, Runs denies exchanges labels (Function.update exchanges call after) := by
  generalize first : exchanges call = before at run
  induction run with
  | refl =>
      subst first
      exact ⟨[], by rw [Function.update_eq_self]; exact .refl _⟩
  | @tail middle after trace event earlier last induction =>
      obtain ⟨labels, sofar⟩ := induction
      have next := Calls.step (Function.update exchanges call middle) call event after
        (by rwa [Function.update_self])
      rw [Function.update_idem] at next
      exact ⟨labels ++ [(call, event)], sofar.tail next⟩

theorem Run.of_sent {exchange : Exchange Response} {sent : Bool}
    (kept : exchange.sent = true → sent = true) :
    ∃ events, Run denies exchange events { exchange with sent } := by
  cases unsent : exchange.sent with
  | true =>
      obtain rfl := kept unsent
      rw [← unsent]
      exact ⟨[], .refl _⟩
  | false =>
      cases sent with
      | true => exact ⟨[.send], .single (.send exchange unsent)⟩
      | false =>
          rw [← unsent]
          exact ⟨[], .refl _⟩

/-- A call which is not executed is sent, or answered truthfully, or both. -/
theorem Run.of_told {before after : Exchange Response} (kept : after.executed = before.executed)
    (sent : before.sent = true → after.sent = true)
    (told : after.answer = before.answer ∨
      before.answer = none ∧ after.sent = true)
    (honest : after.Denied denies → after.executed = false) :
    ∃ events, Run denies before events after := by
  obtain ⟨events, sending⟩ := Run.of_sent sent
  cases answered : after.answer with
  | none =>
      have same : after = { before with sent := after.sent } := by
        refine Exchange.ext rfl kept ?_
        rcases told with same | ⟨none, -⟩
        · exact same
        · exact answered.trans none.symm
      rw [same]
      exact ⟨events, sending⟩
  | some response =>
      rcases told with same | ⟨none, heard⟩
      · have result : after = { before with sent := after.sent } := Exchange.ext rfl kept same
        rw [result]
        exact ⟨events, sending⟩
      · have result : after = { before with sent := after.sent, answer := some response } :=
          Exchange.ext rfl kept answered
        refine ⟨events ++ [.answer response], sending.tail ?_⟩
        rw [result]
        refine .answer { before with sent := after.sent } response heard none fun denies => ?_
        exact kept.symm.trans (honest ⟨response, answered, denies⟩)

/-- What is known of a call beyond the transport, and what its client knows to have sent. -/
def deliver (sent : Call → Bool) (exchanges : Call → Exchange Response) (call : Call) :
    Exchange Response :=
  { exchanges call with sent := sent call }

/-- Every call which arrived was sent. -/
def Covers (sent : Call → Bool) (exchanges : Call → Exchange Response) : Prop :=
  ∀ call, (exchanges call).sent = true → sent call = true

/-- A step of the service happens before the eyes of a client which sent the calls concerned. -/
theorem Calls.deliver {exchanges later : Call' → Exchange Response} {call : Call'}
    {event : Event Response} (calls : Calls denies exchanges call event later) {link : Call → Call'}
    (injective : Function.Injective link) {sent : Call → Bool}
    (covers : Covers sent (later ∘ link)) :
    deliver sent (later ∘ link) = deliver sent (exchanges ∘ link) ∨
      ∃ own event', event' ≠ .send ∧ Calls denies (deliver sent (exchanges ∘ link)) own event'
        (deliver sent (later ∘ link)) := by
  cases calls with
  | step after step =>
      by_cases known : ∃ own, link own = call
      · obtain ⟨own, rfl⟩ := known
        have result : ∀ after, Exchange.deliver sent
            (Function.update exchanges (link own) after ∘ link) =
              Function.update (Exchange.deliver sent (exchanges ∘ link)) own
                { after with sent := sent own } := by
          intro after
          funext other
          by_cases same : other = own
          · subst same
            simp [Exchange.deliver]
          · have distinct : link other ≠ link own := fun equal => same (injective equal)
            simp [Exchange.deliver, same, distinct]
        have delivered : after.sent = true → sent own = true := by
          have covered := covers own
          simpa using covered
        cases step with
        | send unsent =>
            left
            rw [result]
            exact Function.update_eq_self _ _
        | execute received first undenied =>
            refine .inr ⟨own, .execute, nofun, ?_⟩
            rw [result]
            exact .step _ own _ _ (.execute _ (delivered received) first undenied)
        | answer response received first honest =>
            refine .inr ⟨own, .answer response, nofun, ?_⟩
            rw [result]
            exact .step _ own _ _ (.answer _ response (delivered received) first honest)
      · left
        funext other
        have distinct : link other ≠ call := fun equal => known ⟨other, equal⟩
        simp [Exchange.deliver, distinct]

section Map

variable {Reply : Type*}

/-- A call whose answers are read in another form. -/
def map (read : Response → Reply) (exchange : Exchange Response) : Exchange Reply where
  sent := exchange.sent
  executed := exchange.executed
  answer := exchange.answer.map read

/-- What happens to a call whose answers are read in another form. -/
def Event.map (read : Response → Reply) : Event Response → Event Reply
  | .send => .send
  | .execute => .execute
  | .answer response => .answer (read response)

variable {denies' : Reply → Prop} {read : Response → Reply}

theorem Denied.of_map (same : ∀ response, denies' (read response) ↔ denies response)
    {exchange : Exchange Response} (denied : (exchange.map read).Denied denies') :
    exchange.Denied denies := by
  obtain ⟨_, answered, denied⟩ := denied
  obtain ⟨response, told, rfl⟩ := Option.map_eq_some_iff.mp answered
  exact ⟨response, told, (same response).mp denied⟩

theorem Step.map (same : ∀ response, denies' (read response) ↔ denies response)
    {before after : Exchange Response} {event : Event Response}
    (step : Step denies before event after) :
    Step denies' (before.map read) (event.map read) (after.map read) := by
  cases step with
  | send unsent => exact .send (before.map read) unsent
  | execute sent first undenied =>
      exact .execute (before.map read) sent first fun denied => undenied (denied.of_map same)
  | answer response sent first honest =>
      exact .answer (before.map read) (read response) sent (by rw [Exchange.map, first]; rfl)
        fun denied => honest ((same response).mp denied)

theorem Runs.map (same : ∀ response, denies' (read response) ↔ denies response)
    {exchanges later : Call → Exchange Response} {labels : List (Call × Event Response)}
    (runs : Runs denies exchanges labels later) :
    ∃ labels, Runs denies' (fun call => (exchanges call).map read) labels
      (fun call => (later call).map read) := by
  induction runs with
  | refl => exact ⟨[], .refl _⟩
  | @tail middle later trace label earlier last induction =>
      obtain ⟨labels, sofar⟩ := induction
      obtain ⟨call, event⟩ := label
      have next : Calls denies' (fun other => (middle other).map read) call (event.map read)
          (fun other => (later other).map read) := by
        cases last with
        | step after step =>
            have result : (fun other => (Function.update middle call after other).map read) =
                Function.update (fun other => (middle other).map read) call (after.map read) :=
              Function.comp_update (Exchange.map read) middle call after
            rw [result]
            exact .step _ call _ _ (step.map same)
      exact ⟨labels ++ [(call, event.map read)], sofar.tail next⟩

end Map

end Exchange

namespace Network

open Exchange Labelled

variable {State State' Label Label' Request Call Call' Reply Response : Type*}
  [DecidableEq Request] [DecidableEq Call] [DecidableEq Call']

/-- What a machine promises to its callers. -/
structure Service (step : State → Label → State → Prop) (start : State) (Call : Type*)
    [DecidableEq Call] (denies : Response → Prop) where
  /-- A call as the machine sees it. -/
  view : State → Call → Exchange Response
  /-- Nothing was called before the start. -/
  fresh : view start = fun _ => .fresh
  /-- Steps of the machine are steps of its calls. -/
  advance : ∀ {trace : List Label} {before after : State} {label : Label},
    Execution step start trace before → step before label after →
      ∃ labels, Runs denies (view before) labels (view after)

/-- How a machine makes calls. -/
structure Client (step : State → Label → State → Prop) (start : State) (Call : Type*)
    [DecidableEq Call] (denies : Response → Prop) where
  /-- A call as the machine sees it. -/
  calls : State → Call → Exchange Response
  /-- The machine while something happens to its calls. -/
  receive : State → (Call → Exchange Response) → State
  /-- Something happens to a call. -/
  remote : Call → Event Response → Label
  /-- Nothing was called before the start. -/
  fresh : calls start = fun _ => .fresh
  /-- What happened is what the machine sees. -/
  calls_receive : ∀ state exchanges, calls (receive state exchanges) = exchanges
  /-- The machine itself does not move. -/
  receive_receive : ∀ state exchanges later,
    receive (receive state exchanges) later = receive state later
  /-- When nothing happens nothing changes. -/
  receive_calls : ∀ state, receive state (calls state) = state
  /-- Whatever the contract allows may happen. -/
  happens : ∀ {state : State} {call : Call} {event : Event Response}
    {exchanges : Call → Exchange Response}, event ≠ .send →
      Calls denies (calls state) call event exchanges →
        step state (remote call event) (receive state exchanges)
  /-- All that the machine does is to send. -/
  sends : ∀ {before after : State} {label : Label},
    (∀ call event, label ≠ remote call event) → step before label after → ∀ call,
      calls after call =
        { calls before call with sent := (calls before call).sent || (calls after call).sent }

/-- A machine together with its history. -/
inductive Recorded (step : State → Label → State → Prop) :
    List Label × State → Label → List Label × State → Prop
  | step (history : List Label) (before after : State) (label : Label)
      (moves : step before label after) :
      Recorded step (history, before) label (history ++ [label], after)

/-- The history is the trace. -/
theorem recorded_run {step : State → Label → State → Prop} {start : State} {trace : List Label}
    {state : List Label × State} (run : Execution (Recorded step) ([], start) trace state) :
    state.1 = trace ∧ Execution step start trace state.2 := by
  induction run with
  | refl => exact ⟨rfl, .refl _⟩
  | tail earlier last induction =>
      cases last with
      | step history before after label moves =>
          obtain ⟨rfl, sofar⟩ := induction
          exact ⟨rfl, sofar.tail moves⟩

theorem record_run {step : State → Label → State → Prop} {before after : State}
    {more : List Label} (run : Execution step before more after) (history : List Label) :
    Execution (Recorded step) (history, before) more (history ++ more, after) := by
  induction run with
  | refl =>
      rw [List.append_nil]
      exact .refl _
  | tail earlier last induction =>
      rw [← List.append_assoc]
      exact induction.tail (.step _ _ _ _ last)

namespace Service

variable {step : State → Label → State → Prop} {start : State} {denies : Response → Prop}

theorem advances (service : Service step start Call denies) {trace more : List Label}
    {before after : State} (run : Execution step start trace before)
    (future : Execution step before more after) :
    ∃ labels, Runs denies (service.view before) labels (service.view after) := by
  refine future.invariantTrace (fun _ after => ∃ labels, Runs denies (service.view before) labels
    (service.view after)) ⟨[], .refl _⟩ ?_
  rintro more middle after label earlier ⟨labels, sofar⟩ moves
  obtain ⟨next, last⟩ := service.advance (run.trans earlier) moves
  exact ⟨labels ++ next, sofar.trans last⟩

/-- A service whose answers are read in another form. -/
def map {denies' : Reply → Prop} (service : Service step start Call denies)
    (read : Response → Reply) (same : ∀ response, denies' (read response) ↔ denies response) :
    Service step start Call denies' where
  view state call := (service.view state call).map read
  fresh := by
    funext call
    rw [service.fresh]
    rfl
  advance run moves := by
    obtain ⟨labels, runs⟩ := service.advance run moves
    exact runs.map same

end Service

section Linked

variable {step : State → Label → State → Prop} {start : State}
  {step' : State' → Label' → State' → Prop} {start' : State'} {denies : Response → Prop}

/-- The calls a client has sent. -/
def Client.sent (client : Client step start Call denies) (state : State) (call : Call) : Bool :=
  (client.calls state call).sent

/-- A client linked to a service: the service receives only what the client has sent, and whatever
it does is there for the client to learn. -/
inductive Linked (client : Client step start Call denies)
    (service : Service step' start' Call' denies) (link : Call → Call') :
    State × State' → Label ⊕ Label' → State × State' → Prop
  | near (before after : State) (far : State') (label : Label)
      (own : ∀ call event, label ≠ client.remote call event) (moves : step before label after) :
      Linked client service link (before, far) (.inl label) (after, far)
  | far (near : State) (before after : State') (label : Label') (moves : step' before label after)
      (covers : Covers (client.sent near) (service.view after ∘ link)) :
      Linked client service link (near, before) (.inr label)
        (client.receive near (deliver (client.sent near) (service.view after ∘ link)), after)

namespace Linked

variable {client : Client step start Call denies} {service : Service step' start' Call' denies}
  {link : Call → Call'} {state later : State × State'} {trace more : List (Label ⊕ Label')}

/-- Both ends of a link agree. -/
structure Matched (client : Client step start Call denies)
    (service : Service step' start' Call' denies) (link : Call → Call') (state : State × State') :
    Prop where
  /-- The client sees what the service does. -/
  agree : client.calls state.1 = deliver (client.sent state.1) (service.view state.2 ∘ link)
  /-- The service received what was sent. -/
  covers : Covers (client.sent state.1) (service.view state.2 ∘ link)

/-- The service does not notice that it is linked. -/
theorem far_run (run : Execution (Linked client service link) state trace later) :
    Execution step' state.2 (trace.filterMap Sum.getRight?) later.2 := by
  induction run with
  | refl => exact .refl _
  | tail earlier last induction =>
      rw [List.filterMap_append]
      cases last with
      | near before after far label =>
          have silent : [Sum.inl label].filterMap Sum.getRight? = ([] : List Label') := rfl
          rwa [silent, List.append_nil]
      | far near before after label moves => exact induction.tail moves

theorem receive_run (injective : Function.Injective link) {near : State}
    {before after : Call' → Exchange Response} {labels : List (Call' × Event Response)}
    (runs : Runs denies before labels after)
    (agree : client.calls near = deliver (client.sent near) (before ∘ link))
    (covers : Covers (client.sent near) (after ∘ link)) :
    ∃ events, Execution step near events
      (client.receive near (deliver (client.sent near) (after ∘ link))) := by
  induction runs with
  | refl =>
      rw [← agree, client.receive_calls]
      exact ⟨[], .refl _⟩
  | @tail middle after trace label earlier last induction =>
      have covered : Covers (client.sent near) (middle ∘ link) := fun call arrived =>
        covers call ((last.sent (link call)).mpr (.inl arrived))
      obtain ⟨events, sofar⟩ := induction covered
      rcases last.deliver injective covers with same | ⟨own, event, distinct, calls⟩
      · rw [same]
        exact ⟨events, sofar⟩
      · rw [← client.calls_receive near (deliver (client.sent near) (middle ∘ link))] at calls
        have next := client.happens distinct calls
        rw [client.receive_receive] at next
        exact ⟨events ++ [client.remote own event], sofar.tail next⟩

/-- A client moves on its own. -/
theorem Matched.near {before after : State} {far : State'} {label : Label}
    (matched : Matched client service link (before, far))
    (own : ∀ call event, label ≠ client.remote call event) (moves : step before label after) :
    Matched client service link (after, far) := by
  have kept := client.sends own moves
  refine ⟨funext fun call => ?_, fun call arrived => ?_⟩
  · have same : client.calls before call =
        deliver (client.sent before) (service.view far ∘ link) call := congrFun matched.agree call
    refine Exchange.ext rfl ?_ ?_
    · rw [kept call, same]
      rfl
    · rw [kept call, same]
      rfl
  · have sent : (client.calls before call).sent = true := matched.covers call arrived
    rw [Client.sent, kept call, sent]
    rfl

theorem sent_receive (near : State) (exchanges : Call → Exchange Response) :
    client.sent (client.receive near (deliver (client.sent near) exchanges)) =
      client.sent near := by
  funext call
  rw [Client.sent, client.calls_receive]
  rfl

theorem Matched.far {near : State} {after : State'}
    (covers : Covers (client.sent near) (service.view after ∘ link)) :
    Matched client service link
      (client.receive near (deliver (client.sent near) (service.view after ∘ link)), after) := by
  refine ⟨?_, ?_⟩
  · rw [client.calls_receive, sent_receive]
  · rwa [sent_receive]

theorem matched_start : Matched client service link (start, start') where
  agree := by
    funext call
    simp [deliver, Client.sent, client.fresh, service.fresh]
  covers call arrived := by simp [service.fresh, Exchange.fresh] at arrived

/-- Both ends agree in every run. -/
theorem matched_run (run : Execution (Linked client service link) (start, start') trace state) :
    Matched client service link state := by
  refine run.invariant (Matched client service link) ?_ matched_start
  intro before after label matched moves
  cases moves with
  | near before after far label own moves => exact matched.near own moves
  | far near before after label moves covers => exact .far covers

/-- The service goes on alone, with what was sent already. -/
theorem far_runs {near : State} {before after : State'} {trace more : List Label'}
    (matched : Matched client service link (near, before))
    (run : Execution step' start' trace before) (future : Execution step' before more after)
    (covers : Covers (client.sent near) (service.view after ∘ link)) :
    Execution (Linked client service link) (near, before) (more.map .inr)
      (client.receive near (deliver (client.sent near) (service.view after ∘ link)), after) := by
  induction future with
  | refl =>
      rw [← matched.agree, client.receive_calls]
      exact .refl _
  | @tail middle after more label earlier last induction =>
      have covered : Covers (client.sent near) (service.view middle ∘ link) := by
        intro call arrived
        obtain ⟨labels, next⟩ := service.advance (run.trans earlier) last
        exact covers call (next.sent arrived)
      let heard := deliver (client.sent near) (service.view middle ∘ link)
      have kept : client.sent (client.receive near heard) = client.sent near :=
        sent_receive near _
      have next : Linked client service link (client.receive near heard, middle) (.inr label) _ :=
        .far _ middle after label last (by rwa [kept])
      rw [kept, client.receive_receive] at next
      rw [List.map_append]
      exact (induction covered).tail next

/-- The client does not notice that it is linked: it goes on as the contract allows. -/
theorem near_run (injective : Function.Injective link)
    (run : Execution (Linked client service link) (start, start') trace state)
    (future : Execution (Linked client service link) state more later) :
    ∃ events, Execution step state.1 events later.1 := by
  refine future.invariantTrace (fun _ later => ∃ events, Execution step state.1 events later.1)
    ⟨[], .refl _⟩ ?_
  rintro more before after label earlier ⟨events, sofar⟩ moves
  have whole := run.trans earlier
  cases moves with
  | near before after far label own moves => exact ⟨events ++ [label], sofar.tail moves⟩
  | far near before after label moves covers =>
      obtain ⟨labels, runs⟩ := service.advance (far_run whole) moves
      obtain ⟨events', seen⟩ := receive_run injective runs (matched_run whole).agree covers
      exact ⟨events ++ events', sofar.trans seen⟩

end Linked

/-- A service which makes calls of its own serves in front of another service as in front of the
contract. -/
def Service.linked {denies' : Reply → Prop} (upper : Service step start Request denies')
    (client : Client step start Call denies) (service : Service step' start' Call' denies)
    {link : Call → Call'} (injective : Function.Injective link) :
    Service (Linked client service link) (start, start') Request denies' where
  view state := upper.view state.1
  fresh := upper.fresh
  advance run moves := by
    obtain ⟨events, earlier⟩ := Linked.near_run injective (.refl _) run
    obtain ⟨events', last⟩ := Linked.near_run injective run (.single moves)
    exact upper.advances earlier last

end Linked

end Network
