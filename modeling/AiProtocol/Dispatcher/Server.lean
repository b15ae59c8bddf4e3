import Mathlib.Data.List.Nodup
import AiProtocol.Dispatcher.Rest

/-!
# The server of a dispatcher

`serve` gives every connection a slot of the `capacity` semaphore, or turns it away when none is
free.  The task of a connection reads a frame, waits for the outcome, sends its reply and then gives
its slot back.  Callers which send nothing or do not read hold a slot for a bounded time only.
-/

namespace AiProtocol

namespace Dispatcher

open Labelled

/-! ## The machine -/

/-- Where the task of a connection is. -/
inductive Phase where
  /-- It reads the frame. -/
  | reading (since : Nat)
  /-- In its `select!`. -/
  | working
  /-- In `send_reply`. -/
  | replying (since : Nat)
  /-- Its reply is sent or given up. -/
  | leaving
  /-- Only its slot is left. -/
  | dropping

/-- The task of a connection. -/
structure ClientTask where
  /-- Its request. -/
  request : RequestId
  /-- Where it is. -/
  phase : Phase

/-- Where `serve` is. -/
inductive Acceptor where
  /-- Awaiting a connection. -/
  | accepting
  /-- In `send_reply` to a caller which it turns away. -/
  | refusing (since : Nat)
  /-- Returned or dropped, with its `JoinSet`. -/
  | stopped

/-- A dispatcher and its server. -/
structure Server where
  /-- The dispatcher. -/
  dispatcher : Dispatcher
  /-- Permits left in the `capacity` semaphore. -/
  slots : Nat
  /-- The `JoinSet` of `serve`. -/
  clients : List ClientTask
  /-- Where `serve` is. -/
  acceptor : Acceptor

/-- How long `connection` waits for the frame. -/
def readTimeout : Nat := 2000 * millisecond

/-- How long `send_reply` waits for the caller. -/
def writeTimeout : Nat := 1000 * millisecond

/-- The reply to a caller which is turned away. -/
def queueFull : Reply :=
  .error "dispatcher_queue_full" "not_started" 0

/-- The reply to a caller without a frame. -/
def unreadable : Reply :=
  .error "invalid_dispatch_request" "not_started" 0

/-- The dispatcher moves apart from its server. -/
def Event.apart : Event → Bool
  | .refuse .. | .accept .. | .hangUp _ => false
  | _ => true

/-- What a step of the server did. -/
inductive ServerEvent where
  /-- A connection gets a slot. -/
  | connect (request : RequestId)
  /-- A connection is turned away. -/
  | turnAway (request : RequestId)
  /-- The caller which is turned away has its reply. -/
  | turned
  /-- `serve` gives up the reply to it. -/
  | shrug
  /-- The frame of a connection is refused. -/
  | refuse (request : RequestId) (reply : Reply)
  /-- The frame of a connection is accepted. -/
  | accept (request : RequestId) (deadline : Nat)
  /-- No frame came in time. -/
  | starve (request : RequestId)
  /-- The dispatcher moves. -/
  | work (event : Event)
  /-- The outcome of a request is there. -/
  | answer (request : RequestId)
  /-- The caller of a request disconnected. -/
  | vanish (request : RequestId)
  /-- The caller has its reply. -/
  | told (request : RequestId)
  /-- `send_reply` gives up. -/
  | giveUp (request : RequestId)
  /-- `Cancellation` is dropped. -/
  | hangUp (request : RequestId)
  /-- A refused connection has no `Cancellation`. -/
  | skip (request : RequestId)
  /-- The slot is given back. -/
  | release (request : RequestId)
  /-- `serve` returns, or a signal ends it. -/
  | quit
  /-- The task of a connection is aborted, before or after its job. -/
  | abort (request : RequestId)
  /-- The task of a connection is aborted, and its job with it. -/
  | cancel (request : RequestId)

/-- The tasks after one of them moved. -/
def Server.moved (server : Server) (front back : List ClientTask) (request : RequestId)
    (phase : Phase) : Server :=
  { server with clients := front ++ { request, phase } :: back }

inductive ServerStep (settings : Settings) : Server → ServerEvent → Server → Prop
  | connect (server : Server) (request : RequestId) (accepting : server.acceptor = .accepting)
      (fresh : server.dispatcher.connections request = .absent)
      (unknown : request ∉ server.clients.map ClientTask.request) (room : 0 < server.slots) :
      ServerStep settings server (.connect request)
        { server with
          slots := server.slots - 1
          clients := server.clients ++ [{ request, phase := .reading server.dispatcher.clock }] }
  | turnAway (server : Server) (request : RequestId) (after : Dispatcher)
      (accepting : server.acceptor = .accepting)
      (unknown : request ∉ server.clients.map ClientTask.request) (full : server.slots = 0)
      (step : Step settings server.dispatcher (.refuse request queueFull) after) :
      ServerStep settings server (.turnAway request)
        { server with dispatcher := after, acceptor := .refusing server.dispatcher.clock }
  | turned (server : Server) (since : Nat) (refusing : server.acceptor = .refusing since) :
      ServerStep settings server .turned { server with acceptor := .accepting }
  | shrug (server : Server) (since : Nat) (refusing : server.acceptor = .refusing since)
      (late : since + writeTimeout ≤ server.dispatcher.clock) :
      ServerStep settings server .shrug { server with acceptor := .accepting }
  | refuse (server : Server) (front back : List ClientTask) (request : RequestId) (since : Nat)
      (frame : Frame) (reply : Reply) (after : Dispatcher)
      (reading : server.clients = front ++ { request, phase := .reading since } :: back)
      (refused : settings.accept frame = .error reply)
      (step : Step settings server.dispatcher (.refuse request reply) after) :
      ServerStep settings server (.refuse request reply)
        { server.moved front back request (.replying server.dispatcher.clock) with
          dispatcher := after }
  | accept (server : Server) (front back : List ClientTask) (request : RequestId) (since : Nat)
      (deadline : Nat) (after : Dispatcher)
      (reading : server.clients = front ++ { request, phase := .reading since } :: back)
      (step : Step settings server.dispatcher (.accept request deadline) after) :
      ServerStep settings server (.accept request deadline)
        { server.moved front back request .working with dispatcher := after }
  | starve (server : Server) (front back : List ClientTask) (request : RequestId) (since : Nat)
      (after : Dispatcher)
      (reading : server.clients = front ++ { request, phase := .reading since } :: back)
      (late : since + readTimeout ≤ server.dispatcher.clock)
      (step : Step settings server.dispatcher (.refuse request unreadable) after) :
      ServerStep settings server (.starve request)
        { server.moved front back request (.replying server.dispatcher.clock) with
          dispatcher := after }
  | work (server : Server) (event : Event) (after : Dispatcher) (apart : event.apart = true)
      (step : Step settings server.dispatcher event after) :
      ServerStep settings server (.work event) { server with dispatcher := after }
  | answer (server : Server) (front back : List ClientTask) (request : RequestId) (reply : Reply)
      (working : server.clients = front ++ { request, phase := .working } :: back)
      (replied : server.dispatcher.connections request = .replied reply) :
      ServerStep settings server (.answer request)
        (server.moved front back request (.replying server.dispatcher.clock))
  | vanish (server : Server) (front back : List ClientTask) (request : RequestId)
      (working : server.clients = front ++ { request, phase := .working } :: back)
      (vanished : server.dispatcher.connections request = .vanished) :
      ServerStep settings server (.vanish request) (server.moved front back request .dropping)
  | told (server : Server) (front back : List ClientTask) (request : RequestId) (since : Nat)
      (replying : server.clients = front ++ { request, phase := .replying since } :: back) :
      ServerStep settings server (.told request) (server.moved front back request .leaving)
  | giveUp (server : Server) (front back : List ClientTask) (request : RequestId) (since : Nat)
      (replying : server.clients = front ++ { request, phase := .replying since } :: back)
      (late : since + writeTimeout ≤ server.dispatcher.clock) :
      ServerStep settings server (.giveUp request) (server.moved front back request .leaving)
  | hangUp (server : Server) (front back : List ClientTask) (request : RequestId)
      (after : Dispatcher)
      (leaving : server.clients = front ++ { request, phase := .leaving } :: back)
      (step : Step settings server.dispatcher (.hangUp request) after) :
      ServerStep settings server (.hangUp request)
        { server.moved front back request .dropping with dispatcher := after }
  | skip (server : Server) (front back : List ClientTask) (request : RequestId) (reply : Reply)
      (leaving : server.clients = front ++ { request, phase := .leaving } :: back)
      (refused : server.dispatcher.connections request = .refused reply) :
      ServerStep settings server (.skip request) (server.moved front back request .dropping)
  | release (server : Server) (front back : List ClientTask) (request : RequestId)
      (dropping : server.clients = front ++ { request, phase := .dropping } :: back) :
      ServerStep settings server (.release request)
        { server with slots := server.slots + 1, clients := front ++ back }
  | quit (server : Server) :
      ServerStep settings server .quit { server with acceptor := .stopped }
  | abortReading (server : Server) (front back : List ClientTask) (request : RequestId)
      (since : Nat) (stopped : server.acceptor = .stopped)
      (reading : server.clients = front ++ { request, phase := .reading since } :: back) :
      ServerStep settings server (.abort request) (server.moved front back request .dropping)
  | cancel (server : Server) (front back : List ClientTask) (request : RequestId)
      (after : Dispatcher) (stopped : server.acceptor = .stopped)
      (working : server.clients = front ++ { request, phase := .working } :: back)
      (step : Step settings server.dispatcher (.disconnect request) after) :
      ServerStep settings server (.cancel request)
        { server.moved front back request .dropping with dispatcher := after }
  | abortReplying (server : Server) (front back : List ClientTask) (request : RequestId)
      (since : Nat) (stopped : server.acceptor = .stopped)
      (replying : server.clients = front ++ { request, phase := .replying since } :: back) :
      ServerStep settings server (.abort request) (server.moved front back request .leaving)

/-- A server which just bound its socket. -/
def Server.start (settings : Settings) : Server where
  dispatcher := .start
  slots := settings.capacity
  clients := []
  acceptor := .accepting

abbrev ServerRun (settings : Settings) := Labelled.Execution (ServerStep settings)

/-- What happened to the dispatcher. -/
def ServerEvent.events : ServerEvent → List Event
  | .turnAway request => [.refuse request queueFull]
  | .refuse request reply => [.refuse request reply]
  | .accept request deadline => [.accept request deadline]
  | .starve request => [.refuse request unreadable]
  | .work event => [event]
  | .hangUp request => [.hangUp request]
  | .cancel request => [.disconnect request]
  | _ => []

variable {settings : Settings} {trace : List ServerEvent} {server former : Server}
  {before after : Dispatcher} {event : Event} {request : RequestId}

/-! ## Connections and their tasks -/

/-- What the task of a connection knows of it. -/
def Phase.Fits (connection : Connection) : Phase → Prop
  | .reading _ => connection = .absent
  | .working => connection ≠ .absent ∧ ∀ reply, connection ≠ .refused reply
  | .replying _ | .leaving =>
      (∃ reply, connection = .refused reply) ∨ ∃ reply, connection = .replied reply
  | .dropping => connection.Over

/-- Every slot is free or belongs to the task of one connection, and every request on its way has
such a task. -/
structure Server.Sound (settings : Settings) (server : Server) : Prop where
  /-- Slots are conserved. -/
  balance : server.slots + server.clients.length = settings.capacity
  /-- A connection has one task. -/
  nodup : (server.clients.map ClientTask.request).Nodup
  /-- The tasks know their connections. -/
  fits : ∀ client ∈ server.clients,
    client.phase.Fits (server.dispatcher.connections client.request)
  /-- Requests on their way have tasks. -/
  busy : ∀ request, ¬(server.dispatcher.connections request).Over →
    { request, phase := .working } ∈ server.clients

theorem refuse_step {reply : Reply} (step : Step settings before (.refuse request reply) after) :
    before.connections request = .absent ∧
      after = { before with
        connections := Function.update before.connections request (.refused reply) } := by
  cases step with
  | full request fresh => exact ⟨fresh, rfl⟩
  | refuse request frame reply fresh => exact ⟨fresh, rfl⟩

/-- Only the server starts and refuses requests. -/
theorem apart_step (step : Step settings before event after) (apart : event.apart = true)
    (request : RequestId) : after.connections request = before.connections request ∨
      ¬(before.connections request).Over ∧ Phase.working.Fits (after.connections request) := by
  have moved : ∀ {holder : RequestId} {connection : Connection},
      ¬(before.connections holder).Over → Phase.working.Fits connection →
        Function.update before.connections holder connection request =
            before.connections request ∨
          ¬(before.connections request).Over ∧
            Phase.working.Fits (Function.update before.connections holder connection request) := by
    intro holder connection busy fits
    by_cases own : request = holder
    · subst own
      rw [Function.update_self]
      exact .inr ⟨busy, fits⟩
    · exact .inl (Function.update_of_ne own _ _)
  have held : ∀ {holder : RequestId}, before.Busy holder →
      ¬(before.connections holder).Over := by
    rintro holder (⟨number, trying⟩ | ⟨number, awaiting⟩ | ⟨number, moment, pausing⟩)
    · rw [trying]; exact id
    · rw [awaiting]; exact id
    · rw [pausing]; exact id
  cases step with
  | full | refuse | accept | hangUp => cases apart
  | enqueue holder number attempt trying =>
      exact moved (held (.inl ⟨number, trying⟩)) ⟨by simp, by simp⟩
  | reject holder number trying => exact moved (held (.inl ⟨number, trying⟩)) ⟨by simp, by simp⟩
  | receive holder number result awaiting sent =>
      obtain ⟨connection, connections, settled⟩ := resume_connections before holder number result
      rw [connections]
      refine moved (held (.inr (.inl ⟨number, awaiting⟩))) ?_
      rcases settled with ⟨reply, rfl⟩ | ⟨-, moment, rfl⟩ <;> exact ⟨by simp, by simp⟩
  | lose holder number awaiting =>
      exact moved (held (.inr (.inl ⟨number, awaiting⟩))) ⟨by simp, by simp⟩
  | wake holder number moment pausing =>
      exact moved (held (.inr (.inr ⟨number, moment, pausing⟩))) ⟨by simp, by simp⟩
  | expire holder busy | disconnect holder busy => exact moved (held busy) ⟨by simp, by simp⟩
  | _ => exact .inl rfl

/-! ## Slots -/

theorem Server.Sound.here (sound : former.Sound settings) {front back : List ClientTask}
    {phase : Phase} (here : former.clients = front ++ { request, phase } :: back) :
    phase.Fits (former.dispatcher.connections request) :=
  sound.fits { request, phase } (by simp [here])

/-- A connection has one task. -/
theorem Server.Sound.other (sound : former.Sound settings) {front back : List ClientTask}
    {phase : Phase} (here : former.clients = front ++ { request, phase } :: back)
    {client : ClientTask} (member : client ∈ front ++ back) : client.request ≠ request := by
  have nodup := sound.nodup
  rw [here, List.map_append, List.map_cons, List.nodup_middle, List.nodup_cons,
    ← List.map_append] at nodup
  intro same
  exact nodup.1 (List.mem_map.mpr ⟨client, member, same⟩)

/-- One task moves, and with it the connection of its request. -/
theorem Server.Sound.move (sound : former.Sound settings) {front back : List ClientTask}
    {phase next : Phase} (here : former.clients = front ++ { request, phase } :: back)
    (others : ∀ other ≠ request,
      after.connections other = former.dispatcher.connections other)
    (fits : next.Fits (after.connections request))
    (known : (after.connections request).Over ∨ next = .working) :
    Server.Sound settings { former.moved front back request next with dispatcher := after } where
  balance := by
    rw [← sound.balance, here]
    simp [Server.moved]
  nodup := by
    have nodup := sound.nodup
    rw [here] at nodup
    simpa [Server.moved] using nodup
  fits := by
    intro client member
    rcases List.mem_append.mp member with before | member
    · dsimp only
      rw [others _ (sound.other here (List.mem_append_left _ before))]
      exact sound.fits client (by simp [here, before])
    · rcases List.mem_cons.mp member with rfl | behind
      · exact fits
      · dsimp only
        rw [others _ (sound.other here (List.mem_append_right _ behind))]
        exact sound.fits client (by simp [here, behind])
  busy := by
    intro other busy
    by_cases own : other = request
    · subst own
      rw [known.resolve_left busy]
      simp [Server.moved]
    · dsimp only at busy
      rw [others other own] at busy
      have member := sound.busy other busy
      rw [here] at member
      simpa [Server.moved, own] using member

theorem Server.Sound.keep (sound : former.Sound settings) {front back : List ClientTask}
    {phase next : Phase} (here : former.clients = front ++ { request, phase } :: back)
    (fits : next.Fits (former.dispatcher.connections request))
    (ended : (former.dispatcher.connections request).Over) :
    (former.moved front back request next).Sound settings :=
  sound.move here (fun _ _ => rfl) fits (.inl ended)

theorem over_of_answered {connection : Connection}
    (answered : (∃ reply, connection = .refused reply) ∨ ∃ reply, connection = .replied reply) :
    connection.Over := by
  rcases answered with ⟨reply, rfl⟩ | ⟨reply, rfl⟩ <;> trivial

theorem Server.Sound.step {event : ServerEvent} (sound : former.Sound settings)
    (step : ServerStep settings former event server) : server.Sound settings := by
  cases step with
  | connect request accepting fresh unknown room =>
      refine ⟨?_, ?_, fun client member => ?_, fun other busy => ?_⟩
      · have balance := sound.balance
        dsimp only
        rw [List.length_append, List.length_singleton]
        omega
      · rw [List.map_append, List.map_singleton, ← List.concat_eq_append]
        exact List.Nodup.concat unknown sound.nodup
      · rcases List.mem_append.mp member with old | new
        · exact sound.fits client old
        · obtain rfl := List.mem_singleton.mp new
          exact fresh
      · exact List.mem_append_left _ (sound.busy other busy)
  | turnAway request after accepting unknown full step =>
      obtain ⟨fresh, rfl⟩ := refuse_step step
      refine ⟨sound.balance, sound.nodup, fun client member => ?_, fun other busy => ?_⟩
      · have own : client.request ≠ request := fun same =>
          unknown (same ▸ List.mem_map_of_mem member)
        dsimp only
        rw [Function.update_of_ne own]
        exact sound.fits client member
      · by_cases own : other = request
        · subst own
          dsimp only at busy
          rw [Function.update_self] at busy
          exact absurd trivial busy
        · dsimp only at busy
          rw [Function.update_of_ne own] at busy
          exact sound.busy other busy
  | turned | shrug | quit => exact ⟨sound.balance, sound.nodup, sound.fits, sound.busy⟩
  | refuse front back request since frame reply after reading refused step =>
      obtain ⟨-, rfl⟩ := refuse_step step
      exact sound.move reading (fun other own => Function.update_of_ne own _ _)
        (.inl ⟨reply, Function.update_self _ _ _⟩) (.inl (by simp [Connection.Over]))
  | starve front back request since after reading late step =>
      obtain ⟨-, rfl⟩ := refuse_step step
      exact sound.move reading (fun other own => Function.update_of_ne own _ _)
        (.inl ⟨unreadable, Function.update_self _ _ _⟩) (.inl (by simp [Connection.Over]))
  | accept front back request since deadline after reading step =>
      cases step with
      | accept request frame payload remaining fresh admitted =>
          exact sound.move reading (fun other own => Function.update_of_ne own _ _)
            (by simp [Phase.Fits]) (.inr rfl)
  | work event after apart step =>
      have moved := apart_step step apart
      refine ⟨sound.balance, sound.nodup, fun client member => ?_, fun other busy => ?_⟩
      · have fits := sound.fits client member
        rcases moved client.request with same | ⟨busy, working⟩
        · dsimp only
          rwa [same]
        · cases phase : client.phase with
          | working => exact working
          | reading since =>
              rw [phase] at fits
              exact absurd (by rw [fits]; trivial) busy
          | replying since | leaving =>
              rw [phase] at fits
              exact absurd (over_of_answered fits) busy
          | dropping =>
              rw [phase] at fits
              exact absurd fits busy
      · rcases moved other with same | ⟨earlier, -⟩
        · exact sound.busy other (same ▸ busy)
        · exact sound.busy other earlier
  | answer front back request reply working replied =>
      exact sound.keep working (.inr ⟨reply, replied⟩) (by rw [replied]; trivial)
  | vanish front back request working vanished =>
      have ended : (former.dispatcher.connections request).Over := by rw [vanished]; trivial
      exact sound.keep working ended ended
  | told front back request since replying | giveUp front back request since replying
  | abortReplying front back request since stopped replying =>
      have fits := sound.here replying
      exact sound.keep replying fits (over_of_answered fits)
  | hangUp front back request after leaving step =>
      have ended := over_of_answered (sound.here leaving)
      cases step with
      | hangUp request reply replied => exact sound.move leaving (fun _ _ => rfl) ended (.inl ended)
  | skip front back request reply leaving =>
      have ended := over_of_answered (sound.here leaving)
      exact sound.keep leaving ended ended
  | abortReading front back request since stopped reading =>
      have ended : (former.dispatcher.connections request).Over := by
        rw [show former.dispatcher.connections request = _ from sound.here reading]
        trivial
      exact sound.keep reading ended ended
  | cancel front back request after stopped working step =>
      cases step with
      | disconnect request busy =>
          exact sound.move working (fun other own => Function.update_of_ne own _ _)
            (by simp [Phase.Fits, Connection.Over]) (.inl (by simp [Connection.Over]))
  | release front back request dropping =>
      have ended : (former.dispatcher.connections request).Over := sound.here dropping
      have nodup := sound.nodup
      have balance := sound.balance
      rw [dropping] at nodup balance
      rw [List.length_append, List.length_cons] at balance
      refine ⟨?_, ?_, fun client member => ?_, fun other busy => ?_⟩
      · dsimp only
        rw [List.length_append]
        omega
      · rw [List.map_append, List.map_cons, List.nodup_middle, List.nodup_cons,
          ← List.map_append] at nodup
        exact nodup.2
      · refine sound.fits client ?_
        rw [dropping]
        rcases List.mem_append.mp member with before | behind
        · exact List.mem_append_left _ before
        · exact List.mem_append_right _ (List.mem_cons_of_mem _ behind)
      · have member := sound.busy other busy
        rw [dropping] at member
        simpa using member

theorem Server.sound_run (run : ServerRun settings (.start settings) trace server) :
    server.Sound settings := by
  refine run.invariant (Server.Sound settings) Server.Sound.step ⟨rfl, List.nodup_nil, ?_, ?_⟩
  · exact fun client member => absurd member List.not_mem_nil
  · exact fun request busy => absurd trivial busy

theorem served_step {event : ServerEvent} (step : ServerStep settings former event server) :
    Run settings former.dispatcher event.events server.dispatcher := by
  cases step with
  | turnAway request after accepting unknown full step => exact .single step
  | refuse front back request since frame reply after reading refused step => exact .single step
  | accept front back request since deadline after reading step => exact .single step
  | starve front back request since after reading late step => exact .single step
  | work event after apart step => exact .single step
  | hangUp front back request after leaving step => exact .single step
  | cancel front back request after stopped working step => exact .single step
  | _ => exact .refl _

theorem served_run (run : ServerRun settings (.start settings) trace server) :
    Run settings start (trace.flatMap ServerEvent.events) server.dispatcher :=
  run.simulate Server.dispatcher ServerEvent.events fun _ step => served_step step

theorem Server.Sound.busy_le (sound : server.Sound settings) {requests : List RequestId}
    (nodup : requests.Nodup)
    (busy : ∀ request ∈ requests, ¬(server.dispatcher.connections request).Over) :
    requests.length ≤ server.clients.length := by
  rw [← List.length_map ClientTask.request]
  refine (List.subperm_of_subset nodup fun request member => ?_).length_le
  exact List.mem_map_of_mem (sound.busy request (busy request member))

/-! ## The attempt queue -/

private theorem nodup_waiting {trace : List Event} {dispatcher : Dispatcher}
    (run : Run settings start trace dispatcher) :
    (dispatcher.waitingAttempts.map Attempt.request).Nodup := by
  obtain ⟨path, exchanges, along, -⟩ := system_run run
  refine List.nodup_iff_count_le_one.mpr fun request => ?_
  have alone := (System.coherent_run along request).alone
  rw [turns, List.length_append, List.length_append, waitingTurns, List.length_map,
    ← List.countP_eq_length_filter] at alone
  rw [List.count, List.countP_map]
  have same : dispatcher.waitingAttempts.countP ((· == request) ∘ Attempt.request) =
      dispatcher.waitingAttempts.countP fun attempt => attempt.request = request :=
    List.countP_congr fun attempt _ => by simp
  dsimp only at alone
  omega

private theorem trying_waiting {trace : List Event} {dispatcher : Dispatcher}
    (run : Run settings start trace dispatcher) {number : Nat}
    (trying : dispatcher.connections request = .trying number) :
    request ∉ dispatcher.waitingAttempts.map Attempt.request := by
  obtain ⟨path, exchanges, along, -⟩ := system_run run
  have alone := (System.coherent_run along request).alone
  rw [turns, connectionTurns_trying trying, List.length_append, List.length_append,
    List.length_singleton] at alone
  have none : waitingTurns dispatcher.waitingAttempts request = [] := by
    rw [← List.length_eq_zero_iff]
    dsimp only at alone
    omega
  intro member
  obtain ⟨attempt, waits, own⟩ := List.mem_map.mp member
  exact waitingTurns_eq_nil.mp none attempt waits own

/-- A job waits for room in the attempt queue only behind an attempt whose caller has gone. -/
theorem room_of_trying (run : ServerRun settings (.start settings) trace server) {number : Nat}
    (trying : server.dispatcher.connections request = .trying number)
    (full : settings.capacity ≤ server.dispatcher.queue.length) :
    ∃ attempt ∈ server.dispatcher.queue, server.dispatcher.Closed attempt := by
  by_contra none
  push Not at none
  have sound := Server.sound_run run
  have whole := served_run run
  have waiting := nodup_waiting whole
  have fresh := trying_waiting whole trying
  rw [waitingAttempts, List.map_append] at waiting fresh
  have nodup : (request :: server.dispatcher.queue.map Attempt.request).Nodup :=
    List.nodup_cons.mpr ⟨fun member => fresh (List.mem_append_right _ member),
      (List.nodup_append.mp waiting).2.1⟩
  have slots := sound.busy_le nodup (by
    intro other member
    rcases List.mem_cons.mp member with rfl | queued
    · rw [trying]
      exact id
    · obtain ⟨attempt, waits, rfl⟩ := List.mem_map.mp queued
      have awaiting := not_not.mp (none attempt waits)
      rw [awaiting]
      exact id)
  rw [List.length_cons, List.length_map] at slots
  have balance := sound.balance
  omega

/-! ## Callers which are turned away -/

private theorem accept_ne_queueFull (settings : Settings) (frame : Frame) :
    settings.accept frame ≠ .error queueFull := by
  unfold Settings.accept
  split
  · simp [queueFull, Reply.error]
  · split
    · simp [queueFull, Reply.error]
    · split
      · split
        · simp [queueFull, Reply.error]
        · split <;> simp [queueFull, Reply.error]
      · simp [queueFull, Reply.error]

private theorem refused_step {reply : Reply} (step : Step settings before event after)
    (refused : before.connections request = .refused reply) :
    after.connections request = .refused reply := by
  have idle : ¬before.Busy request := by simp [Busy, refused]
  cases connection_step step request with
  | same equal => rw [equal, refused]
  | opened absent => simp [absent] at refused
  | completed number status body awaiting => simp [awaiting] at refused
  | moved busy | vanished busy | failed busy => exact absurd busy idle

/-- Nobody is turned away but by `serve`. -/
theorem turned_step {event : ServerEvent} (step : ServerStep settings former event server)
    (turned : server.dispatcher.connections request = .refused queueFull) :
    former.dispatcher.connections request = .refused queueFull ∨ event = .turnAway request := by
  have refuses : ∀ {other : RequestId} {reply : Reply}, reply ≠ queueFull →
      Function.update former.dispatcher.connections other (.refused reply) request =
          .refused queueFull →
        former.dispatcher.connections request = .refused queueFull := by
    intro other reply different now
    by_cases own : request = other
    · subst own
      rw [Function.update_self] at now
      exact absurd (Connection.refused.inj now) different
    · rwa [Function.update_of_ne own] at now
  cases step with
  | turnAway other after accepting unknown full step =>
      obtain ⟨-, rfl⟩ := refuse_step step
      by_cases own : request = other
      · exact .inr (by rw [own])
      · exact .inl (by simpa [Function.update_of_ne own] using turned)
  | refuse front back other since frame reply after reading refused step =>
      obtain ⟨-, rfl⟩ := refuse_step step
      refine .inl (refuses ?_ turned)
      rintro rfl
      exact accept_ne_queueFull settings frame refused
  | starve front back other since after reading late step =>
      obtain ⟨-, rfl⟩ := refuse_step step
      exact .inl (refuses (by simp [unreadable, queueFull, Reply.error]) turned)
  | accept front back other since deadline after reading step =>
      cases step with
      | accept other frame payload remaining fresh admitted =>
          by_cases own : request = other
          · subst own
            simp at turned
          · exact .inl (by simpa [Function.update_of_ne own] using turned)
  | work event after apart step =>
      rcases apart_step step apart request with same | ⟨-, -, kept⟩
      · exact .inl (same ▸ turned)
      · exact absurd turned (kept queueFull)
  | hangUp front back other after leaving step =>
      cases step with
      | hangUp other reply replied => exact .inl turned
  | cancel front back other after stopped working step =>
      cases step with
      | disconnect other busy =>
          by_cases own : request = other
          · subst own
            simp at turned
          · exact .inl (by simpa [Function.update_of_ne own] using turned)
  | _ => exact .inl turned

private theorem turned_iff (run : ServerRun settings (.start settings) trace server) :
    server.dispatcher.connections request = .refused queueFull ↔ .turnAway request ∈ trace := by
  refine run.invariantTrace (fun trace server =>
    server.dispatcher.connections request = .refused queueFull ↔ .turnAway request ∈ trace)
    (by simp [Server.start, start]) ?_
  intro trace before after event earlier same step
  rw [List.mem_append, List.mem_singleton]
  constructor
  · intro turned
    exact (turned_step step turned).imp same.mp Eq.symm
  · rintro (member | rfl)
    · exact (served_step step).invariant
        (fun dispatcher => dispatcher.connections request = .refused queueFull)
        (fun refused step => refused_step step refused) (same.mpr member)
    · cases step with
      | turnAway other after accepting unknown full step =>
          obtain ⟨-, rfl⟩ := refuse_step step
          exact Function.update_self _ _ _

/-- Who is refused was never attempted. -/
theorem begins_run {trace : List Event} {dispatcher : Dispatcher}
    (run : Run settings start trace dispatcher) (begun : 0 < trace.countP (·.begins request)) :
    Phase.working.Fits (dispatcher.connections request) := by
  refine run.invariantTrace (fun trace dispatcher => 0 < trace.countP (·.begins request) →
    Phase.working.Fits (dispatcher.connections request)) nofun ?_ begun
  intro trace before after event earlier held step begun
  have started : Phase.working.Fits (before.connections request) := by
    rw [List.countP_append, List.countP_singleton] at begun
    cases begins : event.begins request with
    | false =>
        rw [begins] at begun
        exact held begun
    | true =>
        obtain ⟨attempt, rfl, own⟩ : ∃ attempt, event = .begin attempt ∧
            attempt.request = request := by
          unfold Event.begins at begins
          split at begins
          · exact ⟨_, rfl, by simpa using begins⟩
          · cases begins
        obtain ⟨path, exchanges, along, -⟩ := system_run earlier
        have waits := (begin_step step).1
        have idle := (System.coherent_run along request).idle
        have turned : turns before request ≠ [] := by
          intro none
          exact (waiting_of_turns none) attempt waits own
        refine ⟨fun absent => turned (idle (.inl absent)).1, fun reply refused => ?_⟩
        exact turned (idle (.inr ⟨reply, refused⟩)).1
  obtain ⟨known, kept⟩ := started
  cases connection_step step request with
  | same equal =>
      rw [equal]
      exact ⟨known, kept⟩
  | opened absent => exact absurd absent known
  | moved busy moved =>
      refine ⟨moved.accepted, fun reply refused => ?_⟩
      simp [Busy, refused] at moved
  | vanished busy vanished => simp [Phase.Fits, vanished]
  | failed busy error status body failed => simp [Phase.Fits, failed]
  | completed number status body awaiting settled completed => simp [Phase.Fits, completed]

/-- The server of a dispatcher.  In every run no more connections have slots than there are, and
every request on its way has one; a job waits for room in the attempt queue only behind an attempt
whose caller has gone; and exactly those are told that the queue is full which found every slot
taken, and nothing was ever attempted for them. -/
theorem bounded_service (run : ServerRun settings (.start settings) trace server) :
    server.slots + server.clients.length = settings.capacity ∧
      (∀ requests : List RequestId, requests.Nodup →
        (∀ request ∈ requests, ¬(server.dispatcher.connections request).Over) →
          requests.length ≤ server.clients.length) ∧
      (∀ request number, server.dispatcher.connections request = .trying number →
        settings.capacity ≤ server.dispatcher.queue.length →
          ∃ attempt ∈ server.dispatcher.queue, server.dispatcher.Closed attempt) ∧
      ∀ request,
        (server.dispatcher.connections request = .refused queueFull ↔
          ∃ front back earlier, trace = front ++ .turnAway request :: back ∧
            ServerRun settings (.start settings) front earlier ∧
              earlier.clients.length = settings.capacity) ∧
        (server.dispatcher.connections request = .refused queueFull →
          (trace.flatMap ServerEvent.events).countP (·.begins request) = 0) := by
  have sound := Server.sound_run run
  refine ⟨sound.balance, fun requests => sound.busy_le, fun request number trying full =>
    room_of_trying run trying full, fun request => ⟨?_, fun refused => ?_⟩⟩
  · rw [turned_iff run]
    constructor
    · intro member
      obtain ⟨front, back, middle, next, rfl, earlier, step, -⟩ := run.step_of_mem member
      refine ⟨front, back, middle, rfl, earlier, ?_⟩
      have balance := (Server.sound_run earlier).balance
      cases step with
      | turnAway request after accepting unknown full step =>
          rwa [full, Nat.zero_add] at balance
    · rintro ⟨front, back, earlier, rfl, -, -⟩
      simp
  · by_contra begun
    exact (begins_run (served_run run) (Nat.pos_of_ne_zero begun)).2 queueFull refused

/-- A second caller is turned away; a third one gets the slot of the first, whose attempt is still
in the queue. -/
theorem bounded_service_sample : ∃ (trace : List ServerEvent) (server : Server),
    ServerRun .single (.start .single) trace server ∧
      (trace.flatMap ServerEvent.events).countP (·.begins 1) = 0 ∧
        server.dispatcher.connections 2 = .trying 1 ∧
          ∃ attempt ∈ server.dispatcher.queue, server.dispatcher.Closed attempt := by
  have begun : ServerRun .single (.start .single) [] _ := .refl _
  have first := (begun.tail (.connect _ 0 rfl rfl (by simp [Server.start]) (by decide))).tail
    (.accept _ [] [] 0 _ 1000 _ rfl (.accept _ 0
      { request := some task, remaining := some 1000 } task 1000 rfl rfl))
  have queued := first.tail (.work _ (.enqueue taskAttempt) _ rfl
    (.enqueue _ 0 1 taskAttempt rfl nofun (by decide) rfl))
  have second := queued.tail (.turnAway _ 1 _ rfl (by simp [Server.moved]) rfl (.full _ 1 rfl))
  have gone := ((second.tail (.turned _ _ rfl)).tail (.work _ (.disconnect 0) _ rfl
    (.disconnect _ 0 (.inr (.inl ⟨1, rfl⟩))))).tail (.vanish _ [] [] 0 rfl rfl)
  have third := ((gone.tail (.release _ [] [] 0 rfl)).tail
    (.connect _ 2 rfl rfl (by simp) (by decide))).tail
    (.accept _ [] [] 2 _ 1000 _ rfl (.accept _ 2
      { request := some task, remaining := some 1000 } task 1000 rfl rfl))
  obtain ⟨-, -, room, turned⟩ := bounded_service third
  exact ⟨_, _, third, (turned 1).2 rfl, rfl, room 2 1 rfl (by decide)⟩

end Dispatcher

end AiProtocol
