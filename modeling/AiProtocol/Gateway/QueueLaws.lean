import Mathlib.Data.List.Perm.Basic
import Mathlib.Data.List.Count
import AiProtocol.Gateway.Queue

/-!
# Laws of the queue operations

A scan removes exactly the jobs seen closed or expired and keeps the others in their order.  One
turn of `pop_next` returns nothing, throws one job away or selects one, and `pop_next` returns
nothing only when both queues are empty.  Whatever is read off a job is found again in the queues,
in the effects or in the selected job.
-/

namespace AiProtocol

namespace ClientClass

/-- The other scheduling class. -/
def other : ClientClass → ClientClass
  | .agent => .interactive
  | .interactive => .agent

theorem eq_or_eq_other (left right : ClientClass) : left = right ∨ left = right.other := by
  cases left <;> cases right <;> decide

end ClientClass

namespace Queues

variable {Action : Type}

@[simp] theorem get_set_self (queues : Queues Action) (jobs : List (Job Action))
    (clientClass : ClientClass) : (queues.set jobs clientClass).get clientClass = jobs := by
  cases clientClass <;> rfl

@[simp] theorem get_set_other (queues : Queues Action) (jobs : List (Job Action))
    (clientClass : ClientClass) :
    (queues.set jobs clientClass).get clientClass.other = queues.get clientClass.other := by
  cases clientClass <;> rfl

@[simp] theorem set_mode (queues : Queues Action) (jobs : List (Job Action))
    (clientClass : ClientClass) : (queues.set jobs clientClass).mode = queues.mode := by
  cases clientClass <;> rfl

@[simp] theorem set_interactiveStreak (queues : Queues Action) (jobs : List (Job Action))
    (clientClass : ClientClass) :
    (queues.set jobs clientClass).interactiveStreak = queues.interactiveStreak := by
  cases clientClass <;> rfl

@[simp] theorem set_nextOrder (queues : Queues Action) (jobs : List (Job Action))
    (clientClass : ClientClass) : (queues.set jobs clientClass).nextOrder = queues.nextOrder := by
  cases clientClass <;> rfl

@[simp] theorem get_takeOrder (queues : Queues Action) (clientClass : ClientClass) :
    queues.takeOrder.2.get clientClass = queues.get clientClass := by
  cases clientClass <;> rfl

@[simp] theorem get_withStreak (queues : Queues Action) (streak : Nat)
    (clientClass : ClientClass) :
    ({ queues with interactiveStreak := streak } : Queues Action).get clientClass =
      queues.get clientClass := by
  cases clientClass <;> rfl

theorem mem_jobs {queues : Queues Action} {job : Job Action} :
    job ∈ queues.jobs ↔ ∃ clientClass, job ∈ queues.get clientClass := by
  rw [jobs, List.mem_append]
  constructor
  · rintro (member | member)
    · exact ⟨.interactive, member⟩
    · exact ⟨.agent, member⟩
  · rintro ⟨⟨⟩, member⟩
    · exact .inr member
    · exact .inl member

theorem length_jobs (queues : Queues Action) (clientClass : ClientClass) :
    queues.jobs.length =
      (queues.get clientClass).length + (queues.get clientClass.other).length := by
  cases clientClass
  · rw [jobs, List.length_append]
    exact Nat.add_comm _ _
  · rw [jobs, List.length_append]
    rfl

/-! ## Scans -/

/-- A scan keeps the open jobs whose deadline lies in the future. -/
def survives (closed : ReplyId → Bool) (now : Nat) (job : Job Action) : Bool :=
  !closed job.reply && now < job.deadline

/-- What a scan does to one job. -/
def removal (closed : ReplyId → Bool) (now : Nat) (job : Job Action) : List Effect :=
  if closed job.reply then [.discard job.reply job.permit]
  else if job.deadline ≤ now then expiry job
  else []

private theorem removal_of_survives {closed : ReplyId → Bool} {now : Nat} {job : Job Action}
    (survives : survives closed now job) : removal closed now job = [] := by
  simp only [Queues.survives, Bool.and_eq_true, Bool.not_eq_true', decide_eq_true_eq] at survives
  simp only [removal, survives.1, Bool.false_eq_true, ↓reduceIte, ite_eq_right_iff]
  intro expired
  omega

private theorem sweep_append (closed : ReplyId → Bool) (now : Nat)
    (front back : List (Job Action)) :
    sweep closed now front.length (front ++ back) =
      (back ++ front.filter (survives closed now), front.flatMap (removal closed now)) := by
  induction front generalizing back with
  | nil => simp [sweep]
  | cons job front induction =>
      simp only [List.length_cons, List.cons_append, sweep]
      by_cases isClosed : closed job.reply
      · simp [isClosed, induction, survives, removal]
      · by_cases expired : job.deadline ≤ now
        · simp [isClosed, expired, induction, survives, removal]
        · have live : now < job.deadline := Nat.not_le.mp expired
          simp [isClosed, live, Nat.not_le.mpr live, induction, survives, removal]

theorem sweep_length (closed : ReplyId → Bool) (now : Nat) (queue : List (Job Action)) :
    sweep closed now queue.length queue =
      (queue.filter (survives closed now), queue.flatMap (removal closed now)) := by
  simpa using sweep_append closed now queue []

/-- A scan filters both deques. -/
theorem maintain_get (queues : Queues Action) (closed : ReplyId → Bool) (now : Nat)
    (clientClass : ClientClass) :
    (queues.maintain closed now).1.get clientClass =
      (queues.get clientClass).filter (survives closed now) := by
  cases clientClass <;> simp only [maintain, get, sweep_length]

private theorem maintain_effects (queues : Queues Action) (closed : ReplyId → Bool) (now : Nat) :
    (queues.maintain closed now).2 = queues.jobs.flatMap (removal closed now) := by
  simp only [maintain, sweep_length, jobs, List.flatMap_append]

theorem maintain_jobs (queues : Queues Action) (closed : ReplyId → Bool) (now : Nat) :
    (queues.maintain closed now).1.jobs = queues.jobs.filter (survives closed now) := by
  simp only [maintain, sweep_length, jobs, List.filter_append]

@[simp] theorem maintain_interactiveStreak (queues : Queues Action) (closed : ReplyId → Bool)
    (now : Nat) :
    (queues.maintain closed now).1.interactiveStreak = queues.interactiveStreak := rfl

/-! ## Selection -/

private theorem get_selectedClass_eq_nil {queues : Queues Action}
    (empty : queues.get queues.selectedClass = []) : queues.jobs = [] := by
  obtain ⟨interactive, agents, streak, mode, order⟩ := queues
  cases mode <;> cases interactive <;> cases agents <;>
    simp_all [selectedClass, selectsInteractive, get, jobs, List.isEmpty]
  all_goals split at empty <;> simp_all

/-- One turn of `pop_next` returns nothing, throws one job away or selects one. -/
inductive Turn (turns : Nat) (observe : Nat → Observation) (queues : Queues Action) :
    Popped Action → Prop
  | idle (empty : (queues.maintain (observe 0).closed (observe 0).now).1.jobs = []) :
      Turn turns observe queues
        { queues :=
            { (queues.maintain (observe 0).closed (observe 0).now).1 with interactiveStreak := 0 }
          effects := (queues.maintain (observe 0).closed (observe 0).now).2
          job := none }
  | remove (swept : Queues Action) (job : Job Action) (rest : List (Job Action))
      (block : List Effect)
      (scan : swept = (queues.maintain (observe 0).closed (observe 0).now).1)
      (front : swept.get swept.selectedClass = job :: rest)
      (thrown : block = [.discard job.reply job.permit] ∧ (observe 0).closedAtPop job.reply ∨
        block = expiry job ∧ (observe 0).closedAtPop job.reply = false ∧
          job.deadline ≤ (observe 0).handoff) :
      Turn turns observe queues
        ((popTurns turns (fun turn => observe (turn + 1))
          (swept.set rest swept.selectedClass)).after
            ((queues.maintain (observe 0).closed (observe 0).now).2 ++ block))
  | select (swept : Queues Action) (job : Job Action) (rest : List (Job Action))
      (scan : swept = (queues.maintain (observe 0).closed (observe 0).now).1)
      (front : swept.get swept.selectedClass = job :: rest)
      (isOpen : (observe 0).closedAtPop job.reply = false)
      (live : (observe 0).handoff < job.deadline) :
      Turn turns observe queues
        { queues :=
            { swept.set rest swept.selectedClass with interactiveStreak := swept.nextStreak }
          effects := (queues.maintain (observe 0).closed (observe 0).now).2
          job := some (swept.selectedClass, job) }

theorem turn_popTurns (turns : Nat) (observe : Nat → Observation) (queues : Queues Action) :
    Turn turns observe queues (popTurns (turns + 1) observe queues) := by
  rw [popTurns]
  simp only
  split
  · rename_i empty
    exact .idle (get_selectedClass_eq_nil empty)
  · rename_i job rest front
    by_cases isClosed : (observe 0).closedAtPop job.reply
    · simp only [isClosed, ↓reduceIte]
      exact .remove _ job rest _ rfl front (.inl ⟨rfl, isClosed⟩)
    · by_cases expired : job.deadline ≤ (observe 0).handoff
      · simp only [isClosed, expired, ↓reduceIte, Bool.false_eq_true]
        exact .remove _ job rest _ rfl front (.inr ⟨rfl, by simpa using isClosed, expired⟩)
      · simp only [isClosed, expired, ↓reduceIte, Bool.false_eq_true]
        exact .select _ job rest rfl front (by simpa using isClosed) (by omega)

private theorem length_filter_jobs_le (queues : Queues Action) (closed : ReplyId → Bool)
    (now : Nat) :
    (queues.maintain closed now).1.jobs.length ≤ queues.jobs.length := by
  rw [maintain_jobs]
  exact List.length_filter_le _ _

private theorem length_jobs_set_lt {swept : Queues Action} {job : Job Action}
    {rest : List (Job Action)}
    (front : swept.get swept.selectedClass = job :: rest) :
    (swept.set rest swept.selectedClass).jobs.length < swept.jobs.length := by
  rw [length_jobs _ swept.selectedClass, length_jobs swept swept.selectedClass, front]
  simp

/-- How `pop_next` ends: with both queues found empty, or with the front of the chosen one. -/
inductive Outcome (observe : Nat → Observation) (swept : Queues Action) : Popped Action → Prop
  | idle (effects : List Effect) (empty : swept.jobs = []) :
      Outcome observe swept
        { queues := { swept with interactiveStreak := 0 }, effects, job := none }
  | select (effects : List Effect) (job : Job Action) (rest : List (Job Action)) (turn : Nat)
      (front : swept.get swept.selectedClass = job :: rest)
      (isOpen : (observe turn).closedAtPop job.reply = false)
      (live : (observe turn).handoff < job.deadline) :
      Outcome observe swept
        { queues :=
            { swept.set rest swept.selectedClass with interactiveStreak := swept.nextStreak }
          effects
          job := some (swept.selectedClass, job) }

theorem Outcome.after {observe : Nat → Observation} {swept : Queues Action}
    {popped : Popped Action}
    (outcome : Outcome (fun turn => observe (turn + 1)) swept popped) (effects : List Effect) :
    Outcome observe swept (popped.after effects) := by
  cases outcome with
  | idle _ empty => exact .idle _ empty
  | select _ job rest turn front isOpen live =>
      exact .select _ job rest (turn + 1) front isOpen live

private theorem popTurns_outcome (Holds : Queues Action → Prop) {turns : Nat}
    (observe : Nat → Observation) {queues : Queues Action} (enough : queues.jobs.length < turns)
    (scan : ∀ turn queues, Holds queues →
      Holds (queues.maintain (observe turn).closed (observe turn).now).1)
    (remove : ∀ turn (queues : Queues Action) job rest,
      queues.get queues.selectedClass = job :: rest →
        (observe turn).closedAtPop job.reply ∨ job.deadline ≤ (observe turn).handoff →
          Holds queues → Holds (queues.set rest queues.selectedClass))
    (holds : Holds queues) :
    ∃ swept, Holds swept ∧ Outcome observe swept (popTurns turns observe queues) := by
  induction turns generalizing observe queues with
  | zero => omega
  | succ turns induction =>
      have turn := turn_popTurns turns observe queues
      generalize popTurns (turns + 1) observe queues = popped at turn ⊢
      have scanned := scan 0 queues holds
      cases turn with
      | idle empty => exact ⟨_, scanned, .idle _ empty⟩
      | remove swept job rest block same front thrown =>
          subst same
          have shorter := length_jobs_set_lt front
          have fewer := length_filter_jobs_le queues (observe 0).closed (observe 0).now
          have seen : (observe 0).closedAtPop job.reply ∨ job.deadline ≤ (observe 0).handoff :=
            thrown.imp And.right fun late => late.2.2
          obtain ⟨swept, swept_holds, outcome⟩ := induction
            (fun turn => observe (turn + 1)) (by omega)
            (fun turn => scan (turn + 1)) (fun turn => remove (turn + 1))
            (remove 0 _ job rest front seen scanned)
          exact ⟨swept, swept_holds, outcome.after _⟩
      | select swept job rest same front isOpen live =>
          subst same
          exact ⟨_, scanned, .select _ job rest 0 front isOpen live⟩

/-- A property of queues which scans keep, and which removing a job seen closed or expired keeps,
holds of the queues `pop_next` makes its last choice from. -/
theorem popNext_outcome (Holds : Queues Action → Prop) {observe : Nat → Observation}
    {queues : Queues Action}
    (scan : ∀ turn queues, Holds queues →
      Holds (queues.maintain (observe turn).closed (observe turn).now).1)
    (remove : ∀ turn (queues : Queues Action) job rest,
      queues.get queues.selectedClass = job :: rest →
        (observe turn).closedAtPop job.reply ∨ job.deadline ≤ (observe turn).handoff →
          Holds queues → Holds (queues.set rest queues.selectedClass))
    (holds : Holds queues) :
    ∃ swept, Holds swept ∧ Outcome observe swept (queues.popNext observe) :=
  popTurns_outcome Holds observe (Nat.lt_succ_self _) scan remove holds

theorem popNext_none {observe : Nat → Observation} {queues : Queues Action}
    (nothing : (queues.popNext observe).job = none) :
    (queues.popNext observe).queues.jobs = [] := by
  obtain ⟨swept, -, outcome⟩ : ∃ swept, True ∧ Outcome observe swept (queues.popNext observe) :=
    popNext_outcome (fun _ => True) (fun _ _ _ => trivial) (fun _ _ _ _ _ _ _ => trivial) trivial
  generalize queues.popNext observe = popped at outcome nothing ⊢
  cases outcome with
  | idle _ empty => exact empty
  | select => simp at nothing

/-- `pop_next` changes neither the mode nor the next order. -/
theorem popNext_fixed (queues : Queues Action) (observe : Nat → Observation) :
    (queues.popNext observe).queues.mode = queues.mode ∧
      (queues.popNext observe).queues.nextOrder = queues.nextOrder := by
  obtain ⟨swept, fixed, outcome⟩ : ∃ swept : Queues Action,
      (swept.mode = queues.mode ∧ swept.nextOrder = queues.nextOrder) ∧
        Outcome observe swept (queues.popNext observe) :=
    popNext_outcome
      (fun later => later.mode = queues.mode ∧ later.nextOrder = queues.nextOrder)
      (fun _ _ same => same) (fun _ _ _ _ _ _ same => by simpa using same) ⟨rfl, rfl⟩
  generalize queues.popNext observe = popped at outcome ⊢
  cases outcome with
  | idle => exact fixed
  | select => simpa using fixed

theorem mem_of_mem_set {queues : Queues Action} {front job : Job Action}
    {rest : List (Job Action)} {clientClass : ClientClass}
    (head : queues.get clientClass = front :: rest)
    (member : job ∈ (queues.set rest clientClass).jobs) : job ∈ queues.jobs := by
  obtain ⟨other, waiting⟩ := mem_jobs.mp member
  refine mem_jobs.mpr ⟨other, ?_⟩
  rcases other.eq_or_eq_other clientClass with rfl | rfl
  · rw [get_set_self] at waiting
    rw [head]
    exact List.mem_cons_of_mem _ waiting
  · rwa [get_set_other] at waiting

/-- `pop_next` leaves and returns jobs which were waiting. -/
theorem popNext_mem (queues : Queues Action) (observe : Nat → Observation) :
    (∀ job ∈ (queues.popNext observe).queues.jobs, job ∈ queues.jobs) ∧
      ∀ selected, (queues.popNext observe).job = some selected → selected.2 ∈ queues.jobs := by
  obtain ⟨swept, kept, outcome⟩ : ∃ swept : Queues Action,
      (∀ job ∈ swept.jobs, job ∈ queues.jobs) ∧ Outcome observe swept (queues.popNext observe) := by
    refine popNext_outcome (fun later => ∀ job ∈ later.jobs, job ∈ queues.jobs) ?_ ?_
      fun _ member => member
    · intro turn later kept job member
      rw [maintain_jobs] at member
      exact kept job (List.mem_of_mem_filter member)
    · intro turn later front rest head _ kept job member
      exact kept job (mem_of_mem_set head member)
  generalize queues.popNext observe = popped at outcome ⊢
  cases outcome with
  | idle => exact ⟨kept, nofun⟩
  | select _ job rest _ front =>
      refine ⟨fun other member => kept other (mem_of_mem_set front member), ?_⟩
      rintro _ ⟨⟩
      exact kept job (mem_jobs.mpr ⟨_, by rw [front]; exact List.mem_cons_self⟩)

/-! ## Actions -/

/-- The actions of a section which disposes of jobs one after another, with the answer it gives:
permits are dropped before their callers are told. -/
inductive Disposals (response : Response) : List Effect → Prop
  | nil : Disposals response []
  | discard (reply : ReplyId) (permit : BudgetRef) {rest : List Effect} :
      Disposals response rest → Disposals response (.discard reply permit :: rest)
  | answer (reply : ReplyId) (permit : BudgetRef) {rest : List Effect} :
      Disposals response rest →
        Disposals response (.release reply permit :: .answer reply response :: rest)

theorem Disposals.append {response : Response} {front back : List Effect}
    (first : Disposals response front) (second : Disposals response back) :
    Disposals response (front ++ back) := by
  induction first with
  | nil => exact second
  | discard reply permit _ induction => exact .discard reply permit induction
  | answer reply permit _ induction => exact .answer reply permit induction

theorem Disposals.flatMap {response : Response} {actions : Job Action → List Effect}
    (each : ∀ job, Disposals response (actions job)) (jobs : List (Job Action)) :
    Disposals response (jobs.flatMap actions) := by
  induction jobs with
  | nil => exact .nil
  | cons job jobs induction =>
      rw [List.flatMap_cons]
      exact (each job).append induction

private theorem disposals_removal (closed : ReplyId → Bool) (now : Nat) (job : Job Action) :
    Disposals queueTimeout (removal closed now job) := by
  unfold removal
  split
  · exact .discard _ _ .nil
  · split
    · exact .answer _ _ .nil
    · exact .nil

theorem maintain_disposals (queues : Queues Action) (closed : ReplyId → Bool) (now : Nat) :
    Disposals queueTimeout (queues.maintain closed now).2 := by
  rw [maintain_effects]
  exact .flatMap (disposals_removal closed now) _

private theorem popTurns_disposals (turns : Nat) (observe : Nat → Observation)
    (queues : Queues Action) :
    Disposals queueTimeout (popTurns turns observe queues).effects := by
  induction turns generalizing observe queues with
  | zero => exact .nil
  | succ turns induction =>
      have scanned := maintain_disposals queues (observe 0).closed (observe 0).now
      have turn := turn_popTurns turns observe queues
      generalize popTurns (turns + 1) observe queues = popped at turn ⊢
      cases turn with
      | idle => exact scanned
      | select => exact scanned
      | remove swept job rest block same front thrown =>
          have removed : Disposals queueTimeout block := by
            rcases thrown with ⟨rfl, _⟩ | ⟨rfl, _⟩
            · exact .discard _ _ .nil
            · exact .answer _ _ .nil
          exact (scanned.append removed).append (induction _ _)

theorem popNext_disposals (queues : Queues Action) (observe : Nat → Observation) :
    Disposals queueTimeout (queues.popNext observe).effects :=
  popTurns_disposals _ _ _

theorem rejectPending_disposals (queues : Queues Action) :
    Disposals gatewayClosed queues.rejectPending.2 :=
  (Disposals.flatMap (fun _ => .answer _ _ .nil) _).append
    (Disposals.flatMap (fun _ => .answer _ _ .nil) _)

/-- The actions a section has left: it may be about to tell a caller whose permit is dropped. -/
inductive Agenda (response : Response) : List Effect → Prop
  | start {rest : List Effect} : Disposals response rest → Agenda response rest
  | answer (reply : ReplyId) {rest : List Effect} :
      Disposals response rest → Agenda response (.answer reply response :: rest)

theorem Agenda.rest {response : Response} {effect : Effect} {rest : List Effect}
    (agenda : Agenda response (effect :: rest)) : Agenda response rest := by
  cases agenda with
  | start disposals =>
      cases disposals with
      | discard _ _ later => exact .start later
      | answer reply _ later => exact .answer reply later
  | answer _ later => exact .start later

/-- The only answers left are those of the section. -/
theorem Agenda.honest {response told : Response} {reply : ReplyId} {effects : List Effect}
    (agenda : Agenda response effects) (member : .answer reply told ∈ effects) :
    told = response := by
  have later : ∀ {effects : List Effect}, Disposals response effects →
      .answer reply told ∈ effects → told = response := by
    intro effects disposals member
    induction disposals with
    | nil => cases member
    | discard _ _ _ induction => exact induction (by simpa using member)
    | answer _ _ _ induction =>
        simp only [List.mem_cons, reduceCtorEq, Effect.answer.injEq, false_or] at member
        exact member.elim And.right induction
  cases agenda with
  | start disposals => exact later disposals member
  | answer _ disposals =>
      simp only [List.mem_cons, Effect.answer.injEq] at member
      exact member.elim And.right (later disposals)

/-! ## Accounts -/

/-- Why a job left the queues without being selected. -/
inductive Fate where
  /-- Its receiver was seen closed. -/
  | closed
  /-- Its receiver was seen open, and its deadline was not in the future. -/
  | expired
  deriving DecidableEq, Repr

/-- What is done to such a job. -/
def Fate.effects (job : Job Action) : Fate → List Effect
  | .closed => [.discard job.reply job.permit]
  | .expired => expiry job

/-- A turn observed why it removed a job. -/
def Observation.Sees (observation : Observation) (job : Job Action) : Fate → Prop
  | .closed => observation.closed job.reply = true ∨ observation.closedAtPop job.reply = true
  | .expired =>
      observation.closed job.reply = false ∧
        (job.deadline ≤ observation.now ∨
          observation.closedAtPop job.reply = false ∧ job.deadline ≤ observation.handoff)

/-- What is done to jobs one after another. -/
def performed (thrown : List (Job Action × Fate)) : List Effect :=
  thrown.flatMap fun entry => entry.2.effects entry.1

@[simp] theorem performed_append (front back : List (Job Action × Fate)) :
    performed (front ++ back) = performed front ++ performed back :=
  List.flatMap_append

/-- The jobs a scan removes. -/
def scanned (queues : Queues Action) (closed : ReplyId → Bool) (now : Nat) :
    List (Job Action × Fate) :=
  (queues.jobs.filter fun job => !survives closed now job).map fun job =>
    (job, if closed job.reply then .closed else .expired)

private theorem map_scanned (queues : Queues Action) (closed : ReplyId → Bool) (now : Nat) :
    (queues.scanned closed now).map Prod.fst =
      queues.jobs.filter fun job => !survives closed now job := by
  simp [scanned, Function.comp_def]

theorem performed_scanned (queues : Queues Action) (closed : ReplyId → Bool) (now : Nat) :
    (queues.maintain closed now).2 = performed (queues.scanned closed now) := by
  rw [maintain_effects, scanned]
  induction queues.jobs with
  | nil => rfl
  | cons job jobs induction =>
      rw [List.flatMap_cons, induction]
      by_cases kept : survives closed now job
      · simp [kept, removal_of_survives]
      · by_cases isClosed : closed job.reply
        · simp [performed, removal, survives, isClosed, Fate.effects]
        · have expired : job.deadline ≤ now := by simpa [survives, isClosed] using kept
          have late : ¬now < job.deadline := Nat.not_lt.mpr expired
          simp [performed, removal, survives, isClosed, expired, late, Fate.effects]

theorem scanned_perm (queues : Queues Action) (closed : ReplyId → Bool) (now : Nat) :
    queues.jobs.Perm
      ((queues.maintain closed now).1.jobs ++ (queues.scanned closed now).map Prod.fst) := by
  rw [maintain_jobs, map_scanned]
  exact (List.filter_append_perm _ _).symm

theorem scanned_seen {queues : Queues Action} {observation : Observation}
    {entry : Job Action × Fate}
    (member : entry ∈ queues.scanned observation.closed observation.now) :
    observation.Sees entry.1 entry.2 := by
  obtain ⟨job, listed, rfl⟩ := List.mem_map.mp member
  have removed := (List.mem_filter.mp listed).2
  by_cases isClosed : observation.closed job.reply
  · simp [Observation.Sees, isClosed]
  · have expired : job.deadline ≤ observation.now := by simpa [survives, isClosed] using removed
    simp [Observation.Sees, isClosed, expired]

/-- The job a pop returned. -/
def Popped.selected (popped : Popped Action) : List (Job Action) :=
  popped.job.toList.map Prod.snd

/-- The account of a pop, with its last turn and the jobs it threw away. -/
structure Account (observe : Nat → Observation) (queues : Queues Action) (popped : Popped Action)
    (last : Nat) (thrown : List (Job Action × Fate)) : Prop where
  /-- It only acts on jobs it throws away. -/
  effects : popped.effects = performed thrown
  /-- Every job is left, selected or thrown away. -/
  jobs : queues.jobs.Perm (popped.queues.jobs ++ (popped.selected ++ thrown.map Prod.fst))
  /-- It throws away what it saw closed or expired. -/
  seen : ∀ entry ∈ thrown, ∃ turn ≤ last, (observe turn).Sees entry.1 entry.2
  /-- It selects a job which it always saw open, before its deadline. -/
  selected : ∀ clientClass (job : Job Action), popped.job = some (clientClass, job) →
    (∀ turn ≤ last, (observe turn).closed job.reply = false ∧
      (observe turn).now < job.deadline) ∧
    (observe last).closedAtPop job.reply = false ∧ (observe last).handoff < job.deadline
  /-- It selects nothing only if nothing is left. -/
  nothing : popped.job = none → popped.queues.jobs = []

private theorem jobs_perm (queues : Queues Action) (clientClass : ClientClass) :
    queues.jobs.Perm (queues.get clientClass ++ queues.get clientClass.other) := by
  cases clientClass
  · exact List.perm_append_comm
  · exact List.Perm.refl _

theorem jobs_perm_set {queues : Queues Action} {job : Job Action} {rest : List (Job Action)}
    {clientClass : ClientClass} (front : queues.get clientClass = job :: rest) :
    queues.jobs.Perm (job :: (queues.set rest clientClass).jobs) := by
  have after := jobs_perm (queues.set rest clientClass) clientClass
  rw [get_set_self, get_set_other] at after
  have before := jobs_perm queues clientClass
  rw [front] at before
  exact before.trans (after.symm.cons job)

theorem survives_of_scan {queues : Queues Action} {observation : Observation} {job : Job Action}
    (member : job ∈ (queues.maintain observation.closed observation.now).1.jobs) :
    observation.closed job.reply = false ∧ observation.now < job.deadline := by
  rw [maintain_jobs] at member
  simpa [survives] using (List.mem_filter.mp member).2

/-- A turn which throws a job away comes before the turns which follow. -/
theorem Account.after {observe : Nat → Observation} {queues swept : Queues Action}
    {popped : Popped Action} {last : Nat} {thrown : List (Job Action × Fate)} {job : Job Action}
    {rest : List (Job Action)} {fate : Fate}
    (account : Account (fun turn => observe (turn + 1)) (swept.set rest swept.selectedClass)
      popped last thrown)
    (same : swept = (queues.maintain (observe 0).closed (observe 0).now).1)
    (front : swept.get swept.selectedClass = job :: rest)
    (sees : (observe 0).Sees job fate) :
    Account observe queues
      (popped.after
        ((queues.maintain (observe 0).closed (observe 0).now).2 ++ fate.effects job))
      (last + 1) (queues.scanned (observe 0).closed (observe 0).now ++ (job, fate) :: thrown) := by
  subst same
  have split := scanned_perm queues (observe 0).closed (observe 0).now
  have taken := jobs_perm_set front
  constructor
  · rw [Popped.after, account.effects, performed_scanned, performed_append, List.append_assoc]
    rfl
  · refine split.trans ((taken.append_right _).trans ?_)
    refine ((account.jobs.cons job).append_right _).trans ?_
    classical
    rw [List.perm_iff_count]
    intro other
    simp only [Popped.after, Popped.selected, List.map_append, List.map_cons, List.count_append,
      List.count_cons, List.cons_append]
    omega
  · intro entry member
    rcases List.mem_append.mp member with early | late
    · exact ⟨0, Nat.zero_le _, scanned_seen early⟩
    · rcases List.mem_cons.mp late with rfl | later
      · exact ⟨0, Nat.zero_le _, sees⟩
      · obtain ⟨turn, within, seen⟩ := account.seen entry later
        exact ⟨turn + 1, Nat.succ_le_succ within, seen⟩
  · intro clientClass other selected
    obtain ⟨always, final⟩ := account.selected clientClass other selected
    refine ⟨fun turn within => ?_, final⟩
    cases turn with
    | succ turn => exact always turn (Nat.le_of_succ_le_succ within)
    | zero =>
        have waiting : other ∈ (((queues.maintain (observe 0).closed (observe 0).now).1.set rest
            (queues.maintain (observe 0).closed (observe 0).now).1.selectedClass)).jobs := by
          rw [account.jobs.mem_iff]
          have taken : popped.job = some (clientClass, other) := selected
          simp [Popped.selected, taken]
        exact survives_of_scan (mem_of_mem_set front waiting)
  · exact account.nothing

/-- The loop of `pop_next`, which returns in its last turn. -/
inductive Loop : Nat → (Nat → Observation) → Queues Action → Popped Action → Prop
  | idle (observe : Nat → Observation) (queues swept : Queues Action)
      (scan : swept = (queues.maintain (observe 0).closed (observe 0).now).1)
      (empty : swept.get swept.selectedClass = []) :
      Loop 0 observe queues
        { queues := { swept with interactiveStreak := 0 }
          effects := (queues.maintain (observe 0).closed (observe 0).now).2
          job := none }
  | remove (last : Nat) (observe : Nat → Observation) (queues swept : Queues Action)
      (job : Job Action) (rest : List (Job Action)) (fate : Fate) (popped : Popped Action)
      (scan : swept = (queues.maintain (observe 0).closed (observe 0).now).1)
      (front : swept.get swept.selectedClass = job :: rest)
      (thrown : fate = .closed ∧ (observe 0).closedAtPop job.reply = true ∨
        fate = .expired ∧ (observe 0).closedAtPop job.reply = false ∧
          job.deadline ≤ (observe 0).handoff)
      (loop : Loop last (fun turn => observe (turn + 1))
        (swept.set rest swept.selectedClass) popped) :
      Loop (last + 1) observe queues
        (popped.after
          ((queues.maintain (observe 0).closed (observe 0).now).2 ++ fate.effects job))
  | select (observe : Nat → Observation) (queues swept : Queues Action) (job : Job Action)
      (rest : List (Job Action))
      (scan : swept = (queues.maintain (observe 0).closed (observe 0).now).1)
      (front : swept.get swept.selectedClass = job :: rest)
      (isOpen : (observe 0).closedAtPop job.reply = false)
      (live : (observe 0).handoff < job.deadline) :
      Loop 0 observe queues
        { queues :=
            { swept.set rest swept.selectedClass with interactiveStreak := swept.nextStreak }
          effects := (queues.maintain (observe 0).closed (observe 0).now).2
          job := some (swept.selectedClass, job) }

/-- The loop returns, given a turn for each job. -/
theorem popTurns_loop {turns : Nat} (observe : Nat → Observation) {queues : Queues Action}
    (enough : queues.jobs.length < turns) :
    ∃ last, Loop last observe queues (popTurns turns observe queues) := by
  induction turns generalizing observe queues with
  | zero => omega
  | succ turns induction =>
      have fewer := length_filter_jobs_le queues (observe 0).closed (observe 0).now
      rw [popTurns]
      simp only
      split
      · rename_i empty
        exact ⟨0, .idle observe queues _ rfl empty⟩
      · rename_i job rest front
        have shorter := length_jobs_set_lt front
        obtain ⟨last, loop⟩ := induction (fun turn => observe (turn + 1))
          (Nat.lt_of_lt_of_le shorter (by omega))
        by_cases isClosed : (observe 0).closedAtPop job.reply
        · rw [if_pos isClosed]
          exact ⟨_, .remove last observe queues _ job rest .closed _ rfl front
            (.inl ⟨rfl, isClosed⟩) loop⟩
        · rw [if_neg isClosed]
          have isOpen : (observe 0).closedAtPop job.reply = false := by simpa using isClosed
          by_cases expired : job.deadline ≤ (observe 0).handoff
          · rw [if_pos expired]
            exact ⟨_, .remove last observe queues _ job rest .expired _ rfl front
              (.inr ⟨rfl, isOpen, expired⟩) loop⟩
          · rw [if_neg expired]
            exact ⟨_, .select observe queues _ job rest rfl front isOpen (Nat.not_le.mp expired)⟩

/-- The loop returns what `popTurns` makes of enough turns. -/
theorem Loop.popTurns {last : Nat} {observe : Nat → Observation} {queues : Queues Action}
    {popped : Popped Action} (loop : Loop last observe queues popped) {turns : Nat}
    (enough : last < turns) : popTurns turns observe queues = popped := by
  induction loop generalizing turns with
  | idle observe queues swept scan empty =>
      obtain ⟨turns, rfl⟩ : ∃ rest, turns = rest + 1 := ⟨turns - 1, by omega⟩
      subst scan
      simp only [Queues.popTurns, empty]
  | remove last observe queues swept job rest fate popped scan front thrown loop induction =>
      obtain ⟨turns, rfl⟩ : ∃ rest, turns = rest + 1 := ⟨turns - 1, by omega⟩
      subst scan
      simp only [Queues.popTurns, front]
      rw [induction (Nat.lt_of_succ_lt_succ enough)]
      rcases thrown with ⟨rfl, isClosed⟩ | ⟨rfl, isOpen, expired⟩
      · rw [if_pos isClosed]
        rfl
      · rw [isOpen, if_neg Bool.false_ne_true, if_pos expired]
        rfl
  | select observe queues swept job rest scan front isOpen live =>
      obtain ⟨turns, rfl⟩ : ∃ rest, turns = rest + 1 := ⟨turns - 1, by omega⟩
      subst scan
      simp only [Queues.popTurns, front]
      rw [isOpen, if_neg Bool.false_ne_true, if_neg (Nat.not_le.mpr live)]

/-- The loop of `pop_next` keeps account of every job. -/
theorem Loop.account {last : Nat} {observe : Nat → Observation} {queues : Queues Action}
    {popped : Popped Action} (loop : Loop last observe queues popped) :
    ∃ thrown, Account observe queues popped last thrown := by
  induction loop with
  | idle observe queues swept scan empty =>
      subst scan
      have none := get_selectedClass_eq_nil empty
      refine ⟨queues.scanned (observe 0).closed (observe 0).now, performed_scanned _ _ _,
        ?_, ?_, ?_, fun _ => none⟩
      · exact scanned_perm queues (observe 0).closed (observe 0).now
      · exact fun entry member => ⟨0, Nat.le_refl _, scanned_seen member⟩
      · intro _ _ selected
        cases selected
  | remove last observe queues swept job rest fate popped scan front thrown loop induction =>
      obtain ⟨later, account⟩ := induction
      refine ⟨_, account.after scan front ?_⟩
      rcases thrown with ⟨rfl, isClosed⟩ | ⟨rfl, isOpen, expired⟩
      · exact .inr isClosed
      · subst scan
        have live := survives_of_scan (mem_jobs.mpr ⟨_, front ▸ List.mem_cons_self⟩)
        exact ⟨live.1, .inr ⟨isOpen, expired⟩⟩
  | select observe queues swept job rest scan front isOpen live =>
      subst scan
      refine ⟨queues.scanned (observe 0).closed (observe 0).now, performed_scanned _ _ _,
        ?_, ?_, ?_, fun nothing => ?_⟩
      · refine (scanned_perm queues _ _).trans (((jobs_perm_set front).append_right _).trans ?_)
        classical
        rw [List.perm_iff_count]
        intro other
        simp only [Popped.selected, Option.toList_some, List.map_cons, List.map_nil,
          List.count_cons, List.count_append, List.cons_append, List.count_nil, jobs]
        omega
      · exact fun entry member => ⟨0, Nat.le_refl _, scanned_seen member⟩
      · rintro _ _ ⟨⟩
        refine ⟨fun turn within => ?_, isOpen, live⟩
        obtain rfl := Nat.le_zero.mp within
        exact survives_of_scan (mem_jobs.mpr ⟨_, front ▸ List.mem_cons_self⟩)
      · cases nothing

theorem popNext_loop (queues : Queues Action) (observe : Nat → Observation) :
    ∃ last, Loop last observe queues (queues.popNext observe) :=
  popTurns_loop observe (Nat.lt_succ_self _)

/-! ## Conservation -/

/-- A reading of jobs and effects under which every way of disposing of a job shows it once. -/
structure Reading (Action Ticket : Type) where
  /-- The ticket of a job. -/
  ofJob : Job Action → Ticket
  /-- The ticket an effect disposes of. -/
  ofEffect : Effect → Option Ticket
  /-- A discarded job shows its ticket. -/
  discard : ∀ job : Job Action, [Effect.discard job.reply job.permit].filterMap ofEffect =
    [ofJob job]
  /-- An expired job shows its ticket. -/
  expiry : ∀ job : Job Action, (Queues.expiry job).filterMap ofEffect = [ofJob job]
  /-- A rejected job shows its ticket. -/
  rejection : ∀ job : Job Action, (Queues.rejection job).filterMap ofEffect = [ofJob job]

variable {Ticket : Type}

theorem Reading.performed (reading : Reading Action Ticket)
    (thrown : List (Job Action × Fate)) :
    (Queues.performed thrown).filterMap reading.ofEffect =
      (thrown.map Prod.fst).map reading.ofJob := by
  induction thrown with
  | nil => rfl
  | cons entry thrown induction =>
      have shown : (entry.2.effects entry.1).filterMap reading.ofEffect =
          [reading.ofJob entry.1] := by
        cases entry.2 with
        | closed => exact reading.discard entry.1
        | expired => exact reading.expiry entry.1
      rw [Queues.performed, List.flatMap_cons, List.filterMap_append, shown]
      exact congrArg (List.cons _) induction

theorem Reading.maintain_perm (reading : Reading Action Ticket) (queues : Queues Action)
    (closed : ReplyId → Bool) (now : Nat) :
    (queues.jobs.map reading.ofJob).Perm
      ((queues.maintain closed now).1.jobs.map reading.ofJob ++
        (queues.maintain closed now).2.filterMap reading.ofEffect) := by
  rw [performed_scanned, reading.performed, ← List.map_append]
  exact (scanned_perm queues closed now).map reading.ofJob

/-- What `pop_next` takes out of the queues is in its effects or is the job it returns. -/
theorem Reading.popNext_perm (reading : Reading Action Ticket) (queues : Queues Action)
    (observe : Nat → Observation) :
    (queues.jobs.map reading.ofJob).Perm
      ((queues.popNext observe).queues.jobs.map reading.ofJob ++
        ((queues.popNext observe).effects.filterMap reading.ofEffect ++
          (queues.popNext observe).selected.map reading.ofJob)) := by
  obtain ⟨last, loop⟩ := popNext_loop queues observe
  obtain ⟨thrown, account⟩ := loop.account
  rw [account.effects, reading.performed]
  refine (account.jobs.map reading.ofJob).trans ?_
  rw [List.map_append, List.map_append]
  exact List.perm_append_comm.append_left _

theorem Reading.rejectPending_perm (reading : Reading Action Ticket) (queues : Queues Action) :
    (queues.jobs.map reading.ofJob).Perm
      (queues.rejectPending.2.filterMap reading.ofEffect) := by
  have single : ∀ queue : List (Job Action),
      (queue.flatMap Queues.rejection).filterMap reading.ofEffect =
        queue.map reading.ofJob := by
    intro queue
    induction queue with
    | nil => rfl
    | cons job queue induction =>
        rw [List.flatMap_cons, List.filterMap_append, reading.rejection, induction]
        rfl
  rw [rejectPending, List.filterMap_append, single, single, jobs, List.map_append]

end Queues

end AiProtocol
