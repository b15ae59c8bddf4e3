import AiProtocol.Dispatcher.Server

/-!
# The server of a dispatcher opens again

Callers which send nothing, do not read their replies or wait for outcomes take slots.  All of them
give their slots back when time passes, whatever they do and also when the gateway never answers.
-/

namespace AiProtocol

namespace Dispatcher

open Labelled

variable {settings : Settings} {trace : List ServerEvent} {server former : Server}
  {before after : Dispatcher} {requests : List RequestId}

/-- The server or its dispatcher moves by itself. -/
def ServerEvent.internal : ServerEvent → Bool
  | .connect _ | .turnAway _ | .turned | .refuse .. | .accept .. | .told _ | .quit => false
  | .work event => event.internal
  | _ => true

/-- Time passes. -/
def ServerEvent.ticks : ServerEvent → Prop
  | .work (.tick _) => True
  | _ => False

/-! ## Weights -/

/-- What is still to be done for a connection, its request apart. -/
def Phase.weight : Phase → Nat
  | .reading _ => 5
  | .working => 4
  | .replying _ => 3
  | .leaving => 2
  | .dropping => 1

/-- What is still to be done for a caller which is turned away. -/
def Acceptor.weight : Acceptor → Nat
  | .refusing _ => 1
  | .accepting | .stopped => 0

/-- What is still to be done for the connections. -/
def clientsWeight (clients : List ClientTask) : Nat :=
  (clients.map fun client => client.phase.weight).sum

/-- What is still to be done in a server with these requests. -/
def Server.weight (requests : List RequestId) (server : Server) : Nat :=
  server.dispatcher.weight requests + clientsWeight server.clients + server.acceptor.weight

@[simp] theorem clientsWeight_append (front back : List ClientTask) :
    clientsWeight (front ++ back) = clientsWeight front + clientsWeight back := by
  simp [clientsWeight]

@[simp] theorem clientsWeight_cons (client : ClientTask) (clients : List ClientTask) :
    clientsWeight (client :: clients) = client.phase.weight + clientsWeight clients := by
  simp [clientsWeight]

theorem weight_mono
    (lighter : ∀ request,
      (after.connections request).weight ≤ (before.connections request).weight)
    (queue : after.queue = before.queue) (executor : after.executor = before.executor)
    (running : after.running = before.running) :
    after.weight requests ≤ before.weight requests := by
  have total : load Connection.weight requests after.connections ≤
      load Connection.weight requests before.connections :=
    List.sum_le_sum fun request _ => lighter request
  rw [weight, weight, queue, executor, running]
  omega

theorem weight_over {request : RequestId} {connection : Connection} (ended : connection.weight = 0)
    (other : RequestId) :
    (Function.update before.connections request connection other).weight ≤
      (before.connections other).weight := by
  by_cases own : other = request
  · subst own
    rw [Function.update_self, ended]
    exact Nat.zero_le _
  · rw [Function.update_of_ne own]

/-- What the server does to the dispatcher by itself starts nothing. -/
theorem Staffed.later {event : Event} (staffed : Staffed requests before)
    (step : Step settings before event after)
    (other : ∀ request deadline, event ≠ .accept request deadline) : Staffed requests after where
  known request busy := by
    rcases busy_step staffed.numbered step busy with already | ⟨deadline, accepts⟩
    · exact staffed.known request already
    · exact absurd accepts (other request deadline)
  numbered := numbered_step staffed.numbered step

theorem Server.weight_moved {front back : List ClientTask} {request : RequestId}
    {phase next : Phase} (here : former.clients = front ++ { request, phase } :: back)
    (lighter : next.weight + 1 ≤ phase.weight)
    (dispatcher : after.weight requests ≤ former.dispatcher.weight requests) :
    Server.weight requests { former.moved front back request next with dispatcher := after } + 1 ≤
      former.weight requests := by
  simp only [Server.weight, Server.moved, here, clientsWeight_append, clientsWeight_cons]
  omega

/-- Every step of the server pays. -/
theorem Server.pays {event : ServerEvent} (staffed : Staffed requests former.dispatcher)
    (step : ServerStep settings former event server) (internal : event.internal = true) :
    Staffed requests server.dispatcher ∧ server.weight requests + 1 ≤ former.weight requests := by
  cases step with
  | connect | turnAway | turned | refuse | accept | told | quit => cases internal
  | shrug since refusing late =>
      refine ⟨staffed, ?_⟩
      simp only [Server.weight, refusing, Acceptor.weight]
      omega
  | starve front back request since after reading late step =>
      refine ⟨staffed.later step nofun, weight_moved reading (by simp [Phase.weight]) ?_⟩
      obtain ⟨-, rfl⟩ := refuse_step step
      exact weight_mono (weight_over rfl) rfl rfl rfl
  | work event after apart step =>
      have paid := weight_step staffed step internal
      refine ⟨staffed.step step internal, ?_⟩
      simp only [Server.weight]
      omega
  | answer front back request reply working replied =>
      exact ⟨staffed, weight_moved working (by simp [Phase.weight]) le_rfl⟩
  | vanish front back request working vanished =>
      exact ⟨staffed, weight_moved working (by simp [Phase.weight]) le_rfl⟩
  | giveUp front back request since replying =>
      exact ⟨staffed, weight_moved replying (by simp [Phase.weight]) le_rfl⟩
  | hangUp front back request after leaving step =>
      refine ⟨staffed.later step nofun, weight_moved leaving (by simp [Phase.weight]) ?_⟩
      cases step with
      | hangUp request reply replied => exact le_rfl
  | skip front back request reply leaving refused =>
      exact ⟨staffed, weight_moved leaving (by simp [Phase.weight]) le_rfl⟩
  | release front back request dropping =>
      refine ⟨staffed, ?_⟩
      simp only [Server.weight, dropping, clientsWeight_append, clientsWeight_cons, Phase.weight]
      omega
  | abortReading front back request since stopped reading =>
      exact ⟨staffed, weight_moved reading (by simp [Phase.weight]) le_rfl⟩
  | cancel front back request after stopped working step =>
      refine ⟨staffed.later step nofun, weight_moved working (by simp [Phase.weight]) ?_⟩
      cases step with
      | disconnect request busy => exact weight_mono (weight_over rfl) rfl rfl rfl
  | abortReplying front back request since stopped replying =>
      exact ⟨staffed, weight_moved replying (by simp [Phase.weight]) le_rfl⟩

/-! ## Rest -/

/-- None of the steps of the server is possible. -/
abbrev Server.Still (settings : Settings) (server : Server) : Prop :=
  Stuck (ServerStep settings) (fun event => event.internal) server

/-- The task of a connection waits for its caller or its outcome, and not for long. -/
def ClientTask.Waits (dispatcher : Dispatcher) (client : ClientTask) : Prop :=
  match client.phase with
  | .reading since => dispatcher.clock < since + readTimeout
  | .working => dispatcher.clock < dispatcher.deadlines client.request
  | .replying since => dispatcher.clock < since + writeTimeout
  | .leaving | .dropping => False

/-- A server with nothing left to do by itself. -/
structure Server.Patient (server : Server) : Prop where
  /-- Its dispatcher rests. -/
  dispatcher : server.dispatcher.Resting
  /-- Who has a slot waits for its caller or its outcome. -/
  clients : ∀ client ∈ server.clients, client.Waits server.dispatcher
  /-- So does `serve`. -/
  acceptor : ∀ since, server.acceptor = .refusing since →
    server.dispatcher.clock < since + writeTimeout
  /-- Nobody has a slot once `serve` is over. -/
  stopped : server.acceptor = .stopped → server.clients = []

theorem Server.Still.dispatcher (still : server.Still settings) :
    server.dispatcher.Still settings := by
  intro event after step internal
  have apart : event.apart = true := by
    cases event <;> first | rfl | cases internal
  exact still _ _ (.work server event after apart step) internal

/-- The task of a connection has something to do when it waited long enough, and at once when
`serve` is over. -/
theorem Server.Still.waits (still : server.Still settings) (sound : server.Sound settings)
    (resting : server.dispatcher.Resting) {client : ClientTask} (member : client ∈ server.clients) :
    client.Waits server.dispatcher ∧ server.acceptor ≠ .stopped := by
  obtain ⟨front, back, here⟩ := List.append_of_mem member
  obtain ⟨request, phase⟩ := client
  have fits := sound.here here
  cases phase with
  | reading since =>
      refine ⟨?_, fun stopped => ?_⟩
      · by_contra late
        exact still _ _ (.starve server front back request since _ here (Nat.not_lt.mp late)
          (.refuse _ request { request := none, remaining := none } unreadable fits rfl)) rfl
      · exact still _ _ (.abortReading server front back request since stopped here) rfl
  | working =>
      have busy : ¬(server.dispatcher.connections request).Over := by
        obtain ⟨known, kept⟩ := fits
        cases connection : server.dispatcher.connections request with
        | absent => exact absurd connection known
        | refused reply => exact absurd connection (kept reply)
        | replied reply =>
            exact absurd rfl (still _ _ (.answer server front back request reply here connection))
        | vanished =>
            exact absurd rfl (still _ _ (.vanish server front back request here connection))
        | trying | awaiting | pausing => exact id
      refine ⟨((resting.connections request).resolve_left busy).1, fun stopped => ?_⟩
      have held : server.dispatcher.Busy request := by
        cases connection : server.dispatcher.connections request with
        | absent | refused | replied | vanished =>
            rw [connection] at busy
            exact absurd trivial busy
        | trying number => exact .inl ⟨number, connection⟩
        | awaiting number => exact .inr (.inl ⟨number, connection⟩)
        | pausing number moment => exact .inr (.inr ⟨number, moment, connection⟩)
      exact still _ _ (.cancel server front back request _ stopped here
        (.disconnect _ request held)) rfl
  | replying since =>
      refine ⟨?_, fun stopped => ?_⟩
      · by_contra late
        exact still _ _ (.giveUp server front back request since here (Nat.not_lt.mp late)) rfl
      · exact still _ _ (.abortReplying server front back request since stopped here) rfl
  | leaving =>
      rcases fits with ⟨reply, refused⟩ | ⟨reply, replied⟩
      · exact absurd rfl (still _ _ (.skip server front back request reply here refused))
      · exact absurd rfl (still _ _ (.hangUp server front back request _ here
          (.hangUp _ request reply replied)))
  | dropping => exact absurd rfl (still _ _ (.release server front back request here))

/-- A server which cannot go on by itself waits for its callers, and not for long. -/
theorem Server.Still.patient (still : server.Still settings) (roomy : 0 < settings.capacity)
    (run : ServerRun settings (.start settings) trace server) : server.Patient := by
  have sound := Server.sound_run run
  have resting := still.dispatcher.resting roomy (served_run run)
  refine ⟨resting, fun client member => (still.waits sound resting member).1, ?_, ?_⟩
  · intro since refusing
    by_contra late
    exact still _ _ (.shrug server since refusing (Nat.not_lt.mp late)) rfl
  · intro stopped
    by_contra some
    obtain ⟨client, member⟩ := List.exists_mem_of_ne_nil _ some
    exact (still.waits sound resting member).2 stopped

/-- Every slot is free, and `serve` has nobody to turn away. -/
structure Server.Free (server : Server) : Prop where
  /-- Nobody has a slot. -/
  clients : server.clients = []
  /-- Nobody is told so. -/
  acceptor : ∀ since, server.acceptor ≠ .refusing since

/-- As time passes, someone who waits has waited long enough. -/
theorem Server.Still.unlocks (requests : List RequestId) (still : server.Still settings)
    (roomy : 0 < settings.capacity)
    (run : ServerRun settings (.start settings) trace server) (taken : ¬server.Free) :
    ∃ now after, ServerStep settings server (.work (.tick now)) after ∧
      after.weight requests = server.weight requests ∧
        after.dispatcher.connections = server.dispatcher.connections ∧
          ¬after.Still settings := by
  have ticks : ∀ now, server.dispatcher.clock < now →
      (({ server with dispatcher := { server.dispatcher with clock := now } } : Server).Patient →
        False) →
      ∃ now after, ServerStep settings server (.work (.tick now)) after ∧
        after.weight requests = server.weight requests ∧
          after.dispatcher.connections = server.dispatcher.connections ∧
            ¬after.Still settings := by
    intro now later impatient
    have step : ServerStep settings server (.work (.tick now))
        { server with dispatcher := { server.dispatcher with clock := now } } :=
      .work server (.tick now) _ rfl (.tick _ now later.le)
    exact ⟨now, _, step, rfl, rfl, fun still => impatient (still.patient roomy (run.tail step))⟩
  have patient := still.patient roomy run
  by_cases none : server.clients = []
  · have refusing : ∃ since, server.acceptor = .refusing since := by
      by_contra nobody
      exact taken ⟨none, fun since refusing => nobody ⟨since, refusing⟩⟩
    obtain ⟨since, refusing⟩ := refusing
    exact ticks _ (patient.acceptor since refusing) fun late =>
      absurd (late.acceptor since refusing) (lt_irrefl _)
  · obtain ⟨client, member⟩ := List.exists_mem_of_ne_nil _ none
    have waits := patient.clients client member
    obtain ⟨request, phase⟩ := client
    cases phase with
    | reading since =>
        exact ticks (since + readTimeout) waits fun late =>
          absurd (late.clients _ member) (lt_irrefl _)
    | working =>
        exact ticks (server.dispatcher.deadlines request) waits fun late =>
          absurd (late.clients _ member) (lt_irrefl _)
    | replying since =>
        exact ticks (since + writeTimeout) waits fun late =>
          absurd (late.clients _ member) (lt_irrefl _)
    | leaving | dropping => cases waits

/-- The server of a dispatcher always opens again.  In every state it can reach, the steps which it
and its dispatcher can take by themselves are bounded in number; when none of them is possible, who
has a slot has had it for two seconds without a frame at most, or until its deadline, or for a
second with its reply, and nobody has one once `serve` is over; and with such steps and the passage
of time alone every slot is given back. -/
theorem always_reopens (roomy : 0 < settings.capacity)
    (run : ServerRun settings (.start settings) trace server) :
    (∃ bound, ∀ more later, ServerRun settings server more later →
      (∀ event ∈ more, event.internal) → more.length ≤ bound) ∧
    (server.Still settings → server.Patient) ∧
    ∃ more later, ServerRun settings server more later ∧
      (∀ event ∈ more, event.internal ∨ event.ticks) ∧ later.Patient ∧ later.Free ∧
        later.slots = settings.capacity := by
  have staffed := staffed_run (served_run run)
  generalize acceptedRequests (trace.flatMap ServerEvent.events) = requests at staffed
  refine ⟨⟨_, (Execution.rests (fun server : Server => Staffed requests server.dispatcher)
    (fun event : ServerEvent => event.internal) (Server.weight requests)
    (fun alive internal step => Server.pays alive step internal) staffed).1⟩,
    fun still => still.patient roomy run, ?_⟩
  obtain ⟨more, later, continued, own, ⟨⟨path, whole⟩, -⟩, still, free⟩ := Execution.reaches
    (fun server => (∃ trace, ServerRun settings (.start settings) trace server) ∧
      Staffed requests server.dispatcher)
    (fun event : ServerEvent => event.internal) ServerEvent.ticks Server.Free
    (Server.weight requests)
    (fun ⟨⟨path, whole⟩, alive⟩ internal step =>
      have ⟨after, paid⟩ := Server.pays alive step internal
      ⟨⟨⟨_, whole.tail step⟩, after⟩, paid⟩)
    (by
      rintro before ⟨⟨path, whole⟩, alive⟩ still taken
      obtain ⟨now, after, step, same, connections, free⟩ :=
        Server.Still.unlocks requests still roomy whole taken
      refine ⟨.work (.tick now), after, trivial, step, ⟨⟨_, whole.tail step⟩, ?_⟩, same.le, free⟩
      exact ⟨connections ▸ alive.known, connections ▸ alive.numbered⟩)
    ⟨⟨trace, run⟩, staffed⟩
  have balance := (Server.sound_run whole).balance
  rw [free.clients, List.length_nil, Nat.add_zero] at balance
  exact ⟨more, later, continued, own, Server.Still.patient still roomy whole, free, balance⟩

/-- A silent caller, a queued request and a refused one which is not read give their slots back. -/
theorem always_reopens_sample : ∃ (settings : Settings) (trace : List ServerEvent)
    (server : Server), ServerRun settings (.start settings) trace server ∧ server.slots = 0 ∧
      server.clients.map ClientTask.phase = [.reading 0, .working, .replying 0] ∧
      server.dispatcher.queue.length = 1 ∧
      ∃ more later, ServerRun settings server more later ∧
        (∀ event ∈ more, event.internal ∨ event.ticks) ∧ later.Patient ∧ later.slots = 3 := by
  let settings : Settings := { Settings.single with capacity := 3 }
  have begun : ServerRun settings (.start settings) [] _ := .refl _
  have silent := begun.tail (.connect _ 0 rfl rfl (by simp [Server.start]) (by decide))
  have second := silent.tail (.connect _ 1 rfl rfl (by simp [Server.start]) (by decide))
  have accepted := second.tail (.accept _ [_] [] 1 _ 1000 _ rfl (.accept _ 1
    { request := some task, remaining := some 1000 } task 1000 rfl rfl))
  have queued := accepted.tail (.work _ (.enqueue { taskAttempt with request := 1 }) _ rfl
    (.enqueue _ 1 1 _ rfl (by simp [Server.start, Dispatcher.start]) (by decide) rfl))
  have third := queued.tail
    (.connect _ 2 rfl rfl (by simp [Server.moved, Server.start]) (by decide))
  let frame : Frame := { request := none, remaining := some 1000 }
  have refused := third.tail
    (.refuse _ [_, _] [] 2 _ frame _ _ rfl rfl (.refuse _ 2 frame _ rfl rfl))
  obtain ⟨-, -, more, later, continued, own, patient, -, free⟩ :=
    always_reopens (by decide) refused
  exact ⟨settings, _, _, refused, rfl, rfl, rfl, more, later, continued, own, patient, free⟩
end Dispatcher

end AiProtocol
