import Mathlib.Order.Nat
import AiProtocol.Library.Execution
import AiProtocol.Gateway.QueueLaws

/-!
# Runs of the queues

The locked sections of the gateway change its queues in five ways.  Along every run both deques stay
sorted by admission order and no two waiting jobs share an order, so that jobs of one class leave in
their admission order, and in FIFO mode all jobs do.
-/

namespace AiProtocol

/-- One change of the queues, with what it observed. -/
inductive QueueEvent (Action : Type) where
  /-- An accepted job takes an order and is pushed. -/
  | accept (clientClass : ClientClass) (job : Job Action)
  /-- A job refused by a full queue has taken an order. -/
  | refuse
  /-- A scan by `maintain`. -/
  | scan (closed : ReplyId → Bool) (now : Nat)
  /-- A call of `pop_next` and its outcome. -/
  | pop (observe : Nat → Queues.Observation) (popped : Queues.Popped Action)
  /-- `reject_pending`. -/
  | reject

/-- The job selected by an event, with its class. -/
def QueueEvent.selected {Action : Type} : QueueEvent Action → Option (ClientClass × Job Action)
  | .pop _ popped => popped.job
  | _ => none

/-- The successful selections of a run, oldest first. -/
def selections {Action : Type} (trace : List (QueueEvent Action)) :
    List (ClientClass × Job Action) :=
  trace.filterMap QueueEvent.selected

/-- One change of the queues by a locked section. -/
inductive QueueStep {Action : Type} :
    Queues Action → QueueEvent Action → Queues Action → Prop
  | accept (queues : Queues Action) (clientClass : ClientClass) (job : Job Action)
      (order : job.order = queues.takeOrder.1) :
      QueueStep queues (.accept clientClass job) (queues.takeOrder.2.push clientClass job)
  | refuse (queues : Queues Action) : QueueStep queues .refuse queues.takeOrder.2
  | scan (queues : Queues Action) (closed : ReplyId → Bool) (now : Nat) :
      QueueStep queues (.scan closed now) (queues.maintain closed now).1
  | pop (queues : Queues Action) (observe : Nat → Queues.Observation) :
      QueueStep queues (.pop observe (queues.popNext observe)) (queues.popNext observe).queues
  | reject (queues : Queues Action) : QueueStep queues .reject queues.rejectPending.1

abbrev QueueRun {Action : Type} := Labelled.Execution (@QueueStep Action)

namespace Queues

variable {Action : Type}

@[simp] theorem selections_append (front back : List (QueueEvent Action)) :
    selections (front ++ back) = selections front ++ selections back :=
  List.filterMap_append

@[simp] theorem selections_single (event : QueueEvent Action) :
    selections [event] = event.selected.toList := by
  cases selected : event.selected <;> simp [selections, selected]

/-! ## Admission order -/

/-- Both deques are sorted by admission order, no order occurs twice, and the next one is new. -/
structure Ordered (queues : Queues Action) : Prop where
  /-- Every deque is strictly increasing in `order`. -/
  sorted : ∀ clientClass, (queues.get clientClass).Pairwise fun left right =>
    left.order < right.order
  /-- No order occurs in both deques. -/
  apart : ∀ clientClass, ∀ left ∈ queues.get clientClass, ∀ right ∈ queues.get clientClass.other,
    left.order ≠ right.order
  /-- Orders in use have been handed out. -/
  below : ∀ clientClass, ∀ job ∈ queues.get clientClass, job.order < queues.nextOrder

namespace Ordered

theorem default (mode : SchedulerMode) : Ordered (default mode : Queues Action) where
  sorted := by rintro ⟨⟩ <;> exact .nil
  apart := by rintro ⟨⟩ left member <;> cases member
  below := by rintro ⟨⟩ job member <;> cases member

theorem sublist {queues later : Queues Action} (ordered : Ordered queues)
    (kept : ∀ clientClass, (later.get clientClass).Sublist (queues.get clientClass))
    (next : queues.nextOrder ≤ later.nextOrder) : Ordered later where
  sorted clientClass := (ordered.sorted clientClass).sublist (kept clientClass)
  apart clientClass left left_mem right right_mem :=
    ordered.apart clientClass left ((kept _).mem left_mem) right ((kept _).mem right_mem)
  below clientClass job member :=
    (ordered.below clientClass job ((kept _).mem member)).trans_le next

theorem maintain {queues : Queues Action} (ordered : Ordered queues)
    (closed : ReplyId → Bool) (now : Nat) : Ordered (queues.maintain closed now).1 := by
  refine ordered.sublist (fun clientClass => ?_) le_rfl
  rw [maintain_get]
  exact List.filter_sublist

theorem withStreak {queues : Queues Action} (ordered : Ordered queues) (streak : Nat) :
    Ordered { queues with interactiveStreak := streak } := by
  refine ordered.sublist (fun clientClass => ?_) le_rfl
  rw [get_withStreak]

theorem set_rest {queues : Queues Action} (ordered : Ordered queues) {clientClass : ClientClass}
    {job : Job Action} {rest : List (Job Action)} (front : queues.get clientClass = job :: rest) :
    Ordered (queues.set rest clientClass) := by
  refine ordered.sublist (fun other => ?_) (by simp)
  rcases other.eq_or_eq_other clientClass with rfl | rfl
  · rw [get_set_self, front]
    exact List.sublist_cons_self job rest
  · rw [get_set_other]

theorem takeOrder {queues : Queues Action} (ordered : Ordered queues) :
    Ordered queues.takeOrder.2 := by
  refine ordered.sublist (fun clientClass => ?_) (Nat.le_succ _)
  cases clientClass <;> exact List.Sublist.refl _

theorem rejectPending {queues : Queues Action} (ordered : Ordered queues) :
    Ordered queues.rejectPending.1 := by
  refine ordered.sublist (fun clientClass => ?_) le_rfl
  cases clientClass <;> exact List.nil_sublist _

/-- A job which took the next order goes to the back of its deque. -/
theorem accept {queues : Queues Action} (ordered : Ordered queues) {clientClass : ClientClass}
    {job : Job Action} (order : job.order = queues.nextOrder) :
    Ordered (queues.takeOrder.2.push clientClass job) := by
  have taken : ∀ other, queues.takeOrder.2.get other = queues.get other := by
    rintro ⟨⟩ <;> rfl
  have fresh : ∀ other, ∀ waiting ∈ queues.get other, waiting.order < job.order := by
    intro other waiting member
    rw [order]
    exact ordered.below other waiting member
  refine ⟨fun other => ?_, fun other left left_mem right right_mem => ?_,
    fun other waiting member => ?_⟩
  · rcases other.eq_or_eq_other clientClass with rfl | rfl
    · rw [push, get_set_self, taken, List.pairwise_append]
      refine ⟨ordered.sorted other, List.pairwise_singleton _ _, ?_⟩
      rintro waiting member _ (⟨_⟩ | ⟨_, ⟨⟩⟩)
      exact fresh other waiting member
    · rw [push, get_set_other, taken]
      exact ordered.sorted _
  · rcases other.eq_or_eq_other clientClass with rfl | rfl
    · rw [push, get_set_self, taken, List.mem_append, List.mem_singleton] at left_mem
      rw [push, get_set_other, taken] at right_mem
      rcases left_mem with left_mem | rfl
      · exact ordered.apart other left left_mem right right_mem
      · exact (fresh _ right right_mem).ne'
    · rw [push, get_set_other, taken] at left_mem
      have back : clientClass.other.other = clientClass := by cases clientClass <;> rfl
      rw [back, push, get_set_self, taken, List.mem_append, List.mem_singleton] at right_mem
      rcases right_mem with right_mem | rfl
      · exact (ordered.apart clientClass right right_mem left left_mem).symm
      · exact (fresh _ left left_mem).ne
  · have next : (queues.takeOrder.2.push clientClass job).nextOrder = queues.nextOrder + 1 := by
      rw [push, set_nextOrder]
      rfl
    rw [next]
    rcases other.eq_or_eq_other clientClass with rfl | rfl
    · rw [push, get_set_self, taken, List.mem_append, List.mem_singleton] at member
      rcases member with member | rfl
      · exact (ordered.below other waiting member).trans (Nat.lt_succ_self _)
      · omega
    · rw [push, get_set_other, taken] at member
      exact (ordered.below _ waiting member).trans (Nat.lt_succ_self _)

/-- `pop_next` makes its choice from ordered queues and leaves ordered queues. -/
theorem popNext {queues : Queues Action} (ordered : Ordered queues)
    (observe : Nat → Observation) :
    ∃ swept : Queues Action, (Ordered swept ∧ swept.mode = queues.mode ∧
      swept.nextOrder = queues.nextOrder) ∧ Outcome observe swept (queues.popNext observe) := by
  refine popNext_outcome (fun later => Ordered later ∧ later.mode = queues.mode ∧
    later.nextOrder = queues.nextOrder) ?_ ?_ ⟨ordered, rfl, rfl⟩
  · rintro turn later ⟨ordered, mode, next⟩
    exact ⟨ordered.maintain _ _, mode, next⟩
  · rintro turn later job rest front - ⟨ordered, mode, next⟩
    exact ⟨ordered.set_rest front, by simpa using mode, by simpa using next⟩

theorem step {before after : Queues Action} {event : QueueEvent Action}
    (ordered : Ordered before) (step : QueueStep before event after) : Ordered after := by
  cases step with
  | accept clientClass job order => exact ordered.accept order
  | refuse => exact ordered.takeOrder
  | scan closed now => exact ordered.maintain closed now
  | reject => exact ordered.rejectPending
  | pop observe =>
      obtain ⟨swept, ⟨swept_ordered, -⟩, outcome⟩ := ordered.popNext observe
      generalize before.popNext observe = popped at outcome ⊢
      cases outcome with
      | idle => exact swept_ordered.withStreak 0
      | select _ job rest _ front => exact (swept_ordered.set_rest front).withStreak _

theorem nodup {queues : Queues Action} (ordered : Ordered queues) :
    (queues.jobs.map Job.order).Nodup := by
  rw [jobs, List.map_append, List.nodup_append]
  refine ⟨?_, ?_, ?_⟩
  · exact List.pairwise_map.mpr ((ordered.sorted .interactive).imp fun less => less.ne)
  · exact List.pairwise_map.mpr ((ordered.sorted .agent).imp fun less => less.ne)
  · intro left left_mem right right_mem
    obtain ⟨leftJob, leftJob_mem, rfl⟩ := List.mem_map.mp left_mem
    obtain ⟨rightJob, rightJob_mem, rfl⟩ := List.mem_map.mp right_mem
    exact ordered.apart .interactive leftJob leftJob_mem rightJob rightJob_mem

end Ordered

theorem mode_step {before after : Queues Action} {event : QueueEvent Action}
    (step : QueueStep before event after) : after.mode = before.mode := by
  cases step with
  | accept clientClass job order => rw [push, set_mode]; rfl
  | pop observe => exact (popNext_fixed before observe).1
  | refuse | scan | reject => rfl

theorem ordered_run {mode : SchedulerMode} {queues : Queues Action}
    {trace : List (QueueEvent Action)} (run : QueueRun (default mode) trace queues) :
    Ordered queues ∧ queues.mode = mode :=
  run.invariant (fun later => Ordered later ∧ later.mode = mode)
    (fun holds step => ⟨holds.1.step step, (mode_step step).trans holds.2⟩)
    ⟨.default mode, rfl⟩

/-! ## Selection order -/

/-- Jobs of related classes leave in admission order: those handed out are increasing and precede
everything which still waits or will ever be admitted. -/
structure Departed (related : ClientClass → ClientClass → Prop)
    (handed : List (ClientClass × Job Action)) (queues : Queues Action) : Prop where
  /-- Orders of related selections increase. -/
  increasing : handed.Pairwise fun left right =>
    related left.1 right.1 → left.2.order < right.2.order
  /-- Related jobs still waiting have larger orders. -/
  ahead : ∀ selection ∈ handed, ∀ clientClass, related selection.1 clientClass →
    ∀ job ∈ queues.get clientClass, selection.2.order < job.order
  /-- So will all later jobs have. -/
  past : ∀ selection ∈ handed, selection.2.order < queues.nextOrder

namespace Departed

variable {related : ClientClass → ClientClass → Prop} {handed : List (ClientClass × Job Action)}

theorem sublist {queues later : Queues Action} (departed : Departed related handed queues)
    (kept : ∀ clientClass, ∀ job ∈ later.get clientClass,
      job ∈ queues.get clientClass ∨ queues.nextOrder ≤ job.order)
    (next : queues.nextOrder ≤ later.nextOrder) : Departed related handed later where
  increasing := departed.increasing
  ahead selection member clientClass relates job job_mem := by
    rcases kept clientClass job job_mem with waiting | fresh
    · exact departed.ahead selection member clientClass relates job waiting
    · exact (departed.past selection member).trans_le fresh
  past selection member := (departed.past selection member).trans_le next

/-- Hand out a job which precedes all related waiting jobs. -/
theorem select {swept : Queues Action} (ordered : Ordered swept)
    (departed : Departed related handed swept) {job : Job Action} {rest : List (Job Action)}
    (front : swept.get swept.selectedClass = job :: rest)
    (least : ∀ clientClass, related swept.selectedClass clientClass →
      ∀ left ∈ (swept.set rest swept.selectedClass).get clientClass, job.order < left.order) :
    Departed related (handed ++ [(swept.selectedClass, job)])
      (swept.set rest swept.selectedClass) := by
  have job_mem : job ∈ swept.get swept.selectedClass := by simp [front]
  have left_mem : ∀ clientClass, ∀ left ∈ (swept.set rest swept.selectedClass).get clientClass,
      left ∈ swept.get clientClass := by
    intro clientClass left member
    rcases clientClass.eq_or_eq_other swept.selectedClass with rfl | rfl
    · rw [get_set_self] at member
      rw [front]
      exact List.mem_cons_of_mem _ member
    · rwa [get_set_other] at member
  refine ⟨?_, ?_, ?_⟩
  · rw [List.pairwise_append]
    refine ⟨departed.increasing, List.pairwise_singleton _ _, ?_⟩
    rintro selection member _ (⟨_⟩ | ⟨_, ⟨⟩⟩) relates
    exact departed.ahead selection member _ relates job job_mem
  · intro selection member clientClass relates left left_in
    rcases List.mem_append.mp member with earlier | newest
    · exact departed.ahead selection earlier clientClass relates left
        (left_mem clientClass left left_in)
    · obtain rfl := List.mem_singleton.mp newest
      exact least clientClass relates left left_in
  · intro selection member
    rw [set_nextOrder]
    rcases List.mem_append.mp member with earlier | newest
    · exact departed.past selection earlier
    · obtain rfl := List.mem_singleton.mp newest
      exact ordered.below _ job job_mem

theorem popNext {mode : SchedulerMode} {queues : Queues Action}
    (departed : Departed related handed queues) (ordered : Ordered queues)
    (same : queues.mode = mode) (observe : Nat → Observation) :
    ∃ swept : Queues Action, ((Ordered swept ∧ swept.mode = mode) ∧
      Departed related handed swept) ∧ Outcome observe swept (queues.popNext observe) := by
  refine popNext_outcome (fun later => (Ordered later ∧ later.mode = mode) ∧
    Departed related handed later) ?_ ?_ ⟨⟨ordered, same⟩, departed⟩
  · rintro turn later ⟨⟨ordered, mode⟩, departed⟩
    refine ⟨⟨ordered.maintain _ _, mode⟩, departed.sublist (fun other waiting member => ?_) le_rfl⟩
    rw [maintain_get] at member
    exact .inl (List.mem_of_mem_filter member)
  · rintro turn later job rest front - ⟨⟨ordered, mode⟩, departed⟩
    refine ⟨⟨ordered.set_rest front, by simpa using mode⟩,
      departed.sublist (fun other waiting member => ?_) (by simp)⟩
    rcases other.eq_or_eq_other later.selectedClass with rfl | rfl
    · rw [get_set_self] at member
      rw [front]
      exact .inl (List.mem_cons_of_mem _ member)
    · rw [get_set_other] at member
      exact .inl member

/-- Along a run, selections depart in order as long as every choice precedes the related jobs. -/
theorem run {mode : SchedulerMode} {queues : Queues Action} {trace : List (QueueEvent Action)}
    (least : ∀ (swept : Queues Action) job rest, Ordered swept → swept.mode = mode →
      swept.get swept.selectedClass = job :: rest →
        ∀ clientClass, related swept.selectedClass clientClass →
          ∀ left ∈ (swept.set rest swept.selectedClass).get clientClass, job.order < left.order)
    (run : QueueRun (default mode) trace queues) :
    Departed related (selections trace) queues := by
  refine run.invariantTrace (fun trace queues =>
    Departed related (selections trace) queues) ?_ ?_
  · exact ⟨.nil, fun _ member _ _ => absurd member List.not_mem_nil,
      fun _ member => absurd member List.not_mem_nil⟩
  · intro trace before after event earlier departed step
    obtain ⟨ordered, same⟩ := ordered_run earlier
    rw [selections_append, selections_single]
    cases step with
    | accept clientClass job order =>
        rw [show (QueueEvent.accept clientClass job).selected = none from rfl, Option.toList_none,
          List.append_nil]
        refine departed.sublist (fun other waiting member => ?_) ?_
        · rcases other.eq_or_eq_other clientClass with rfl | rfl
          · rw [push, get_set_self, List.mem_append, List.mem_singleton] at member
            rcases member with member | rfl
            · cases other <;> exact .inl member
            · exact .inr order.ge
          · rw [push, get_set_other] at member
            cases clientClass <;> exact .inl member
        · rw [push, set_nextOrder]
          exact Nat.le_succ _
    | refuse =>
        simpa [QueueEvent.selected] using departed.sublist
          (fun other waiting member => by cases other <;> exact .inl member) (Nat.le_succ _)
    | scan closed now =>
        rw [show (QueueEvent.scan closed now : QueueEvent Action).selected = none from rfl,
          Option.toList_none, List.append_nil]
        refine departed.sublist (fun other waiting member => ?_) le_rfl
        rw [maintain_get] at member
        exact .inl (List.mem_of_mem_filter member)
    | reject =>
        rw [show (QueueEvent.reject : QueueEvent Action).selected = none from rfl,
          Option.toList_none, List.append_nil]
        refine departed.sublist (fun other waiting member => ?_) le_rfl
        cases other <;> exact absurd member List.not_mem_nil
    | pop observe =>
        obtain ⟨swept, ⟨⟨swept_ordered, swept_mode⟩, swept_departed⟩, outcome⟩ :=
          departed.popNext ordered same observe
        generalize before.popNext observe = popped at outcome ⊢
        cases outcome with
        | idle =>
            have idle : Departed related (selections trace)
                { swept with interactiveStreak := 0 } :=
              swept_departed.sublist
                (fun other waiting member => .inl (by simpa using member)) le_rfl
            simpa [QueueEvent.selected] using idle
        | select _ job rest _ front =>
            exact ((swept_departed.select swept_ordered front
              (least swept job rest swept_ordered swept_mode front)).sublist
                (fun other waiting member => .inl (by rwa [get_withStreak] at member)) le_rfl)

end Departed

end Queues

end AiProtocol
