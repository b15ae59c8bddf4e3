import AiProtocol.Gateway.QueueRun

/-!
# Bounded overtaking in weighted mode

A waiting job pays for every selection of another job out of a rank: jobs in front of it and, for an
agent job, the interactive selections which may still precede the next agent one.  The streak makes
the rank drop at every selection, whatever else happens to the queues in between.
-/

namespace AiProtocol

/-- Nothing an event observed concerns a job: its receiver is open and its deadline lies ahead at
every test, and the queues are not drained. -/
def QueueEvent.Spares {Action : Type} (job : Job Action) : QueueEvent Action → Prop
  | .accept _ _ => True
  | .refuse => True
  | .scan closed now => Queues.survives closed now job
  | .pop observe _ => ∀ turn, Queues.survives (observe turn).closed (observe turn).now job ∧
      (observe turn).closedAtPop job.reply = false ∧ (observe turn).handoff < job.deadline
  | .reject => False

/-- A selection made while the other class also had waiting jobs. -/
def QueueEvent.Competed {Action : Type} : QueueEvent Action → Prop
  | .pop _ popped => ∃ clientClass job, popped.job = some (clientClass, job) ∧
      popped.queues.get clientClass.other ≠ []
  | _ => True

namespace Queues

variable {Action : Type}

/-! ## The streak -/

theorem weighted_competing {queues : Queues Action} (weighted : queues.mode = .weighted)
    {clientClass : ClientClass} (waiting : queues.get clientClass ≠ [])
    (rival : queues.get clientClass.other ≠ []) :
    queues.selectedClass = (if queues.interactiveStreak < 3 then .interactive else .agent) ∧
      queues.nextStreak =
        if queues.interactiveStreak < 3 then queues.interactiveStreak + 1 else 0 := by
  have both : queues.interactive ≠ [] ∧ queues.agents ≠ [] := by
    cases clientClass with
    | agent => exact ⟨rival, waiting⟩
    | interactive => exact ⟨waiting, rival⟩
  have left : queues.interactive.isEmpty = false := List.isEmpty_eq_false_iff.mpr both.1
  have right : queues.agents.isEmpty = false := List.isEmpty_eq_false_iff.mpr both.2
  by_cases low : queues.interactiveStreak < 3 <;>
    simp [selectedClass, nextStreak, selectsInteractive, competing, weighted, left, right, low]

theorem nextStreak_eq_zero {queues : Queues Action} {clientClass : ClientClass}
    (alone : queues.get clientClass = []) : queues.nextStreak = 0 := by
  have apart : queues.competing = false := by
    cases clientClass with
    | agent => simp [competing, show queues.agents = [] from alone]
    | interactive => simp [competing, show queues.interactive = [] from alone]
  simp [nextStreak, apart]

theorem nextStreak_le (queues : Queues Action) : queues.nextStreak ≤ 3 := by
  unfold nextStreak
  split
  · rename_i continued
    obtain ⟨weighted, together, chosen⟩ := continued
    simp only [competing, Bool.and_eq_true, Bool.not_eq_true'] at together
    simp only [selectsInteractive, weighted, reduceCtorEq, ↓reduceIte, together, Bool.not_false,
      Bool.false_or, Bool.true_and, decide_eq_true_eq] at chosen
    omega
  · omega

theorem streak_step {before after : Queues Action} {event : QueueEvent Action}
    (bounded : before.interactiveStreak ≤ 3) (step : QueueStep before event after) :
    after.interactiveStreak ≤ 3 := by
  cases step with
  | accept clientClass job order => rw [push, set_interactiveStreak]; exact bounded
  | pop observe =>
      obtain ⟨swept, -, outcome⟩ : ∃ swept : Queues Action, True ∧
          Outcome observe swept (before.popNext observe) :=
        popNext_outcome (fun _ => True) (fun _ _ _ => trivial) (fun _ _ _ _ _ _ _ => trivial)
          trivial
      generalize before.popNext observe = popped at outcome ⊢
      cases outcome with
      | idle => exact Nat.zero_le 3
      | select => exact nextStreak_le swept
  | refuse | scan | reject => exact bounded

private theorem popNext_streak (queues : Queues Action) (observe : Nat → Observation) :
    ∃ swept : Queues Action, (swept.interactiveStreak = queues.interactiveStreak ∧
      swept.mode = queues.mode) ∧ Outcome observe swept (queues.popNext observe) :=
  popNext_outcome (fun later => later.interactiveStreak = queues.interactiveStreak ∧
    later.mode = queues.mode) (fun _ _ same => same)
      (fun _ _ _ _ _ _ same => by simpa using same) ⟨rfl, rfl⟩

/-! ## Waiting jobs -/

/-- The jobs of a class which precede a job. -/
def preceding (queues : Queues Action) (clientClass : ClientClass) (job : Job Action) : Nat :=
  (queues.get clientClass).countP fun other => other.order < job.order

private theorem countP_of_getElem {queue : List (Job Action)}
    (sorted : queue.Pairwise fun left right => left.order < right.order) {job : Job Action}
    {index : Nat} (at_index : queue[index]? = some job) :
    (queue.countP fun other => other.order < job.order) = index := by
  induction queue generalizing index with
  | nil => simp at at_index
  | cons head tail induction =>
      rw [List.pairwise_cons] at sorted
      cases index with
      | zero =>
          obtain rfl : head = job := by simpa using at_index
          rw [List.countP_eq_zero]
          intro other member
          rcases List.mem_cons.mp member with rfl | later
          · simp
          · have behind := sorted.1 other later
            simp only [decide_eq_true_eq]
            omega
      | succ index =>
          rw [List.getElem?_cons_succ] at at_index
          have ahead := sorted.1 job (List.mem_of_getElem? at_index)
          rw [List.countP_cons, induction sorted.2 at_index]
          simp [ahead]

/-- A job waits in a deque of a weighted gateway. -/
structure Waits (clientClass : ClientClass) (job : Job Action) (queues : Queues Action) : Prop where
  /-- The queues are in admission order. -/
  ordered : Ordered queues
  /-- The mode is weighted. -/
  weighted : queues.mode = .weighted
  /-- The streak is bounded. -/
  bounded : queues.interactiveStreak ≤ 3
  /-- The job waits. -/
  waiting : job ∈ queues.get clientClass

/-- The choice of a pop which spares a job: the job still waits, no more jobs precede it, and the
streak is unchanged. -/
theorem Waits.popNext {clientClass : ClientClass} {job : Job Action} {queues : Queues Action}
    (waits : Waits clientClass job queues) {observe : Nat → Observation}
    {popped : Popped Action} (spared : (QueueEvent.pop observe popped).Spares job) :
    ∃ swept : Queues Action, (Waits clientClass job swept ∧
      swept.interactiveStreak = queues.interactiveStreak ∧
        swept.preceding clientClass job ≤ queues.preceding clientClass job) ∧
          Outcome observe swept (queues.popNext observe) := by
  refine popNext_outcome (fun later => Waits clientClass job later ∧
    later.interactiveStreak = queues.interactiveStreak ∧
      later.preceding clientClass job ≤ queues.preceding clientClass job) ?_ ?_ ⟨waits, rfl, le_rfl⟩
  · rintro turn later ⟨waits, streak, fewer⟩
    refine ⟨⟨waits.ordered.maintain _ _, waits.weighted, waits.bounded, ?_⟩, streak,
      le_trans ?_ fewer⟩
    · rw [maintain_get]
      exact List.mem_filter.mpr ⟨waits.waiting, (spared turn).1⟩
    · rw [preceding, maintain_get]
      exact List.filter_sublist.countP_le
  · rintro turn later front rest at_front thrown ⟨waits, streak, fewer⟩
    have other : job ≠ front := by
      rintro rfl
      obtain ⟨-, isOpen, live⟩ := spared turn
      rcases thrown with isClosed | expired
      · simp [isOpen] at isClosed
      · omega
    have kept : ((later.set rest later.selectedClass).get clientClass).Sublist
        (later.get clientClass) := by
      rcases clientClass.eq_or_eq_other later.selectedClass with rfl | rfl
      · rw [get_set_self, at_front]
        exact List.sublist_cons_self front rest
      · rw [get_set_other]
    refine ⟨⟨waits.ordered.set_rest at_front, by simpa using waits.weighted,
      by simpa using waits.bounded, ?_⟩, by simpa using streak, le_trans kept.countP_le fewer⟩
    have waiting := waits.waiting
    rcases clientClass.eq_or_eq_other later.selectedClass with rfl | rfl
    · rw [at_front] at waiting
      rw [get_set_self]
      exact (List.mem_cons.mp waiting).resolve_left other
    · rwa [get_set_other]

private theorem Waits.preceding_select {clientClass : ClientClass} {job front : Job Action}
    {rest : List (Job Action)} {queues : Queues Action} (waits : Waits clientClass job queues)
    (at_front : queues.get clientClass = front :: rest) (other : job ≠ front) :
    job ∈ rest ∧ (queues.set rest clientClass).preceding clientClass job + 1 =
      queues.preceding clientClass job := by
  have waiting := waits.waiting
  have sorted := waits.ordered.sorted clientClass
  rw [at_front, List.pairwise_cons] at sorted
  rw [at_front] at waiting
  have behind := (List.mem_cons.mp waiting).resolve_left other
  refine ⟨behind, ?_⟩
  rw [preceding, preceding, get_set_self, at_front, List.countP_cons]
  simp [sorted.1 job behind]

/-- The rank of a waiting job: it bounds the selections up to and including its own. -/
def rank (clientClass : ClientClass) (job : Job Action) (queues : Queues Action) : Nat :=
  match clientClass with
  | .agent => 4 * queues.preceding .agent job + (3 - queues.interactiveStreak) + 1
  | .interactive => queues.preceding .interactive job + 1 +
      (queues.preceding .interactive job + queues.interactiveStreak) / 3

private theorem rank_pos (clientClass : ClientClass) (job : Job Action) (queues : Queues Action) :
    1 ≤ rank clientClass job queues := by
  cases clientClass <;> simp only [rank] <;> omega

/-- A selection of another job lowers the rank of a waiting one. -/
theorem Waits.rank_select {clientClass : ClientClass} {job front : Job Action}
    {rest : List (Job Action)} {swept : Queues Action} (waits : Waits clientClass job swept)
    (at_front : swept.get swept.selectedClass = front :: rest)
    (other : (swept.selectedClass, front) ≠ (clientClass, job)) :
    Waits clientClass job
        { swept.set rest swept.selectedClass with interactiveStreak := swept.nextStreak } ∧
      rank clientClass job
        { swept.set rest swept.selectedClass with interactiveStreak := swept.nextStreak } + 1 ≤
          rank clientClass job swept := by
  have nonempty := List.ne_nil_of_mem waits.waiting
  have bounded := waits.bounded
  rcases clientClass.eq_or_eq_other swept.selectedClass with rfl | rfl
  · -- the class of the job is served, so one job fewer precedes it
    obtain ⟨behind, fewer⟩ := waits.preceding_select at_front fun same => other (by rw [same])
    refine ⟨⟨(waits.ordered.set_rest at_front).withStreak _, by simpa using waits.weighted,
      nextStreak_le swept, by rw [get_withStreak, get_set_self]; exact behind⟩, ?_⟩
    generalize chosen : swept.selectedClass = served at *
    have streak : swept.nextStreak ≤ swept.interactiveStreak + 1 := by
      by_cases alone : swept.get served.other = []
      · simp [nextStreak_eq_zero alone]
      · rw [(weighted_competing waits.weighted nonempty alone).2]
        split <;> omega
    cases served with
    | agent =>
        have same : ({ swept.set rest .agent with interactiveStreak := swept.nextStreak } :
            Queues Action).preceding .agent job =
              (swept.set rest .agent).preceding .agent job := rfl
        simp only [rank, same]
        by_cases alone : swept.get .interactive = []
        · have reset := nextStreak_eq_zero alone
          omega
        · have served := weighted_competing waits.weighted nonempty alone
          rw [chosen] at served
          by_cases low : swept.interactiveStreak < 3
          · simp [low] at served
          · have reset := served.2
            rw [if_neg low] at reset
            omega
    | interactive =>
        have same : ({ swept.set rest .interactive with interactiveStreak := swept.nextStreak } :
            Queues Action).preceding .interactive job =
              (swept.set rest .interactive).preceding .interactive job := rfl
        simp only [rank, same]
        omega
  · -- the other class is served, so the streak has to move
    refine ⟨⟨(waits.ordered.set_rest at_front).withStreak _, by simpa using waits.weighted,
      nextStreak_le swept, by rw [get_withStreak, get_set_other]; exact waits.waiting⟩, ?_⟩
    generalize chosen : swept.selectedClass = served at *
    have rival : swept.get served ≠ [] := by simp [at_front]
    cases served with
    | interactive =>
        have contest := weighted_competing waits.weighted rival nonempty
        rw [chosen] at contest
        have same : ({ swept.set rest .interactive with interactiveStreak := swept.nextStreak } :
            Queues Action).preceding .agent job = swept.preceding .agent job := rfl
        simp only [ClientClass.other, rank, same]
        by_cases low : swept.interactiveStreak < 3
        · have grown := contest.2
          rw [if_pos low] at grown
          omega
        · simp [low] at contest
    | agent =>
        have contest := weighted_competing waits.weighted rival nonempty
        rw [chosen] at contest
        have same : ({ swept.set rest .agent with interactiveStreak := swept.nextStreak } :
            Queues Action).preceding .interactive job = swept.preceding .interactive job := rfl
        simp only [ClientClass.other, rank, same]
        by_cases low : swept.interactiveStreak < 3
        · simp [low] at contest
        · have reset := contest.2
          rw [if_neg low] at reset
          omega

/-- Every event which spares a waiting job, and is not its own selection, pays out of its rank. -/
theorem Waits.step {clientClass : ClientClass} {job : Job Action} {before after : Queues Action}
    {event : QueueEvent Action} (waits : Waits clientClass job before)
    (spared : event.Spares job) (other : event.selected ≠ some (clientClass, job))
    (step : QueueStep before event after) :
    Waits clientClass job after ∧
      rank clientClass job after + event.selected.toList.length ≤ rank clientClass job before := by
  have ordered := waits.ordered.step step
  have weighted := (mode_step step).trans waits.weighted
  have bounded := streak_step waits.bounded step
  cases step with
  | accept pushed job' order =>
      have waiting := waits.waiting
      have below := waits.ordered.below clientClass job waiting
      have deque : (before.takeOrder.2.push pushed job').get clientClass = before.get clientClass ∨
          (before.takeOrder.2.push pushed job').get clientClass =
            before.get clientClass ++ [job'] := by
        cases pushed <;> cases clientClass
        · exact .inr rfl
        · exact .inl rfl
        · exact .inl rfl
        · exact .inr rfl
      have same : (before.takeOrder.2.push pushed job').preceding clientClass job =
          before.preceding clientClass job := by
        rcases deque with deque | deque
        · rw [preceding, deque, preceding]
        · have late : ¬ job'.order < job.order := by
            rw [order]
            exact below.le.not_gt
          rw [preceding, deque, List.countP_append, preceding]
          simp [late]
      have streak : (before.takeOrder.2.push pushed job').interactiveStreak =
          before.interactiveStreak := by rw [push, set_interactiveStreak]; rfl
      refine ⟨⟨ordered, weighted, bounded, ?_⟩, ?_⟩
      · rcases deque with deque | deque
        · rwa [deque]
        · rw [deque]
          exact List.mem_append_left _ waiting
      · cases clientClass <;> simp [rank, same, streak, QueueEvent.selected]
  | refuse =>
      refine ⟨⟨ordered, weighted, bounded, ?_⟩, ?_⟩
      · cases clientClass <;> exact waits.waiting
      · cases clientClass <;> exact le_rfl
  | scan closed now =>
      refine ⟨⟨ordered, weighted, bounded, ?_⟩, ?_⟩
      · rw [maintain_get]
        exact List.mem_filter.mpr ⟨waits.waiting, spared⟩
      · have fewer : (before.maintain closed now).1.preceding clientClass job ≤
            before.preceding clientClass job := by
          rw [preceding, maintain_get]
          exact List.filter_sublist.countP_le
        cases clientClass <;>
          simp only [rank, maintain_interactiveStreak, QueueEvent.selected, Option.toList_none,
            List.length_nil] <;> omega
  | reject => exact absurd spared id
  | pop observe =>
      obtain ⟨swept, ⟨swept_waits, streak, fewer⟩, outcome⟩ := waits.popNext spared
      have lower : rank clientClass job swept ≤ rank clientClass job before := by
        cases clientClass <;> simp only [rank, streak] <;> omega
      generalize before.popNext observe = popped at outcome other ⊢
      cases outcome with
      | idle _ empty =>
          have member : job ∈ swept.jobs := mem_jobs.mpr ⟨clientClass, swept_waits.waiting⟩
          rw [empty] at member
          exact absurd member List.not_mem_nil
      | select _ front rest _ at_front =>
          have unequal : (swept.selectedClass, front) ≠ (clientClass, job) := by
            intro same
            exact other (congrArg some same)
          obtain ⟨still, paid⟩ := swept_waits.rank_select at_front unequal
          exact ⟨still, le_trans paid lower⟩

private theorem sum_selected (trace : List (QueueEvent Action)) :
    (trace.map fun event => event.selected.toList.length).sum = (selections trace).length := by
  induction trace with
  | nil => rfl
  | cons event trace induction =>
      rw [← List.singleton_append, selections_append, List.length_append, selections_single,
        List.map_append, List.sum_append, induction]
      simp

/-- A spared job is among the first selections its rank allows. -/
theorem selected_within_rank {clientClass : ClientClass} {job : Job Action}
    {before after : Queues Action} {trace : List (QueueEvent Action)}
    (waits : Waits clientClass job before) (run : QueueRun before trace after)
    (spared : ∀ event ∈ trace, event.Spares job) {turns : Nat}
    (enough : rank clientClass job before ≤ turns) (long : turns ≤ (selections trace).length) :
    (clientClass, job) ∈ (selections trace).take turns := by
  by_contra missing
  -- cut the run after as many selections
  obtain ⟨front, back, rfl, selected, -⟩ :=
    List.filterMap_eq_append_iff.mp (List.take_append_drop turns (selections trace)).symm
  obtain ⟨middle, first, -⟩ := run.split
  have others : ∀ event ∈ front, event.Spares job ∧ event.selected ≠ some (clientClass, job) := by
    intro event member
    refine ⟨spared event (List.mem_append_left _ member), fun same => missing ?_⟩
    rw [← selected]
    exact List.mem_filterMap.mpr ⟨event, member, same⟩
  obtain ⟨-, paid⟩ := first.ranking (Waits clientClass job)
    (fun event => event.Spares job ∧ event.selected ≠ some (clientClass, job))
    (rank clientClass job) (fun event => event.selected.toList.length)
    (fun waits allowed step => waits.step allowed.1 allowed.2 step) waits others
  have length : (selections front).length = turns := by
    rw [selections, selected, List.length_take]
    omega
  rw [sum_selected, length] at paid
  have positive := rank_pos clientClass job middle
  omega

/-- The class of the selection with a given number, counted from a fresh streak. -/
def cycle (number : Nat) : ClientClass :=
  if number % 4 = 3 then .agent else .interactive

private theorem cycle_select {swept : Queues Action} (weighted : swept.mode = .weighted)
    {job : Job Action}
    {rest : List (Job Action)} (front : swept.get swept.selectedClass = job :: rest)
    (rival : swept.get swept.selectedClass.other ≠ []) {number : Nat}
    (streak : swept.interactiveStreak = number % 4) :
    swept.selectedClass = cycle number ∧ swept.nextStreak = (number + 1) % 4 := by
  have served : swept.get swept.selectedClass ≠ [] := by simp [front]
  have contest := weighted_competing weighted served rival
  rw [contest.1, contest.2, streak, cycle]
  by_cases last : number % 4 = 3
  · rw [if_neg (by omega), if_pos last, if_neg (by omega)]
    exact ⟨rfl, by omega⟩
  · rw [if_pos (by omega), if_neg last, if_pos (by omega)]
    exact ⟨rfl, by omega⟩

/-- Under lasting competition the streak counts the selections modulo four. -/
theorem cycle_run {before after : Queues Action} {trace : List (QueueEvent Action)}
    (weighted : before.mode = .weighted) (fresh : before.interactiveStreak = 0)
    (run : QueueRun before trace after) (competed : ∀ event ∈ trace, event.Competed) :
    after.mode = .weighted ∧ after.interactiveStreak = (selections trace).length % 4 ∧
      (selections trace).map Prod.fst = (List.range (selections trace).length).map cycle := by
  induction run with
  | refl => exact ⟨weighted, by simpa [selections] using fresh, rfl⟩
  | @tail middle after trace event earlier last induction =>
      obtain ⟨mode, streak, pattern⟩ :=
        induction fun event member => competed event (List.mem_append_left _ member)
      have contested := competed event (by simp)
      refine ⟨(mode_step last).trans mode, ?_⟩
      cases last with
      | accept pushed job order =>
          simpa [QueueEvent.selected, push, takeOrder, streak] using pattern
      | refuse | scan | reject =>
          simpa [QueueEvent.selected, takeOrder, rejectPending, streak] using pattern
      | pop observe =>
          obtain ⟨swept, ⟨swept_streak, swept_mode⟩, outcome⟩ := popNext_streak middle observe
          generalize middle.popNext observe = popped at outcome contested ⊢
          cases outcome with
          | idle =>
              obtain ⟨_, _, nothing, -⟩ := contested
              simp at nothing
          | select _ job rest _ front =>
              obtain ⟨_, _, same, rival⟩ := contested
              obtain ⟨rfl, rfl⟩ : _ ∧ _ := by simpa using same
              rw [get_withStreak, get_set_other] at rival
              obtain ⟨served, next⟩ := cycle_select (swept_mode.trans mode) front rival
                (swept_streak.trans streak)
              simp [QueueEvent.selected, next, served, pattern, List.range_succ]

/-- Weighted mode: the streak stays bounded, each class leaves in admission order, a job which stays
live is selected within a number of selections given by its index, selections without competition
reset the streak, and lasting competition is served in the cycle three to one. -/
theorem bounded_overtaking {queues : Queues Action} {history : List (QueueEvent Action)}
    (reached : QueueRun (default .weighted) history queues) :
    queues.interactiveStreak ≤ 3 ∧
      (∀ clientClass, (((selections history).filter fun selection =>
        selection.1 = clientClass).map fun selection => selection.2.order).Pairwise (· < ·)) ∧
      (∀ index job, queues.agents[index]? = some job →
        ∀ trace later, QueueRun queues trace later → (∀ event ∈ trace, event.Spares job) →
          4 * index + 4 ≤ (selections trace).length →
            (.agent, job) ∈ (selections trace).take (4 * index + 4)) ∧
      (∀ index job, queues.interactive[index]? = some job →
        ∀ trace later, QueueRun queues trace later → (∀ event ∈ trace, event.Spares job) →
          index + 1 + (index + queues.interactiveStreak) / 3 ≤ (selections trace).length →
            (.interactive, job) ∈ (selections trace).take
              (index + 1 + (index + queues.interactiveStreak) / 3)) ∧
      (∀ observe clientClass job, (queues.popNext observe).job = some (clientClass, job) →
        (queues.popNext observe).queues.get clientClass.other = [] →
          (queues.popNext observe).queues.interactiveStreak = 0) ∧
      (queues.interactiveStreak = 0 →
        ∀ trace later, QueueRun queues trace later → (∀ event ∈ trace, event.Competed) →
          (selections trace).map Prod.fst =
            (List.range (selections trace).length).map cycle) := by
  obtain ⟨ordered, weighted⟩ := ordered_run reached
  have bounded : queues.interactiveStreak ≤ 3 :=
    reached.invariant (fun later => later.interactiveStreak ≤ 3) streak_step (Nat.zero_le 3)
  have waits : ∀ {clientClass index job}, (queues.get clientClass)[index]? = some job →
      Waits clientClass job queues ∧ queues.preceding clientClass job = index :=
    fun at_index => ⟨⟨ordered, weighted, bounded, List.mem_of_getElem? at_index⟩,
      countP_of_getElem (ordered.sorted _) at_index⟩
  refine ⟨bounded, ?_, ?_, ?_, ?_, ?_⟩
  · intro clientClass
    have departed : Departed (· = ·) (selections history) queues := by
      refine Departed.run (fun swept job rest ordered _ front clientClass same left member => ?_)
        reached
      subst same
      have sorted := ordered.sorted swept.selectedClass
      rw [front, List.pairwise_cons] at sorted
      rw [get_set_self] at member
      exact sorted.1 left member
    rw [List.pairwise_map, List.pairwise_filter]
    refine departed.increasing.imp fun {left right} increasing left_class right_class => ?_
    simp only [decide_eq_true_eq] at left_class right_class
    exact increasing (left_class.trans right_class.symm)
  · intro index job at_index trace later run spared long
    obtain ⟨agent_waits, position⟩ :=
      waits (show (queues.get .agent)[index]? = some job from at_index)
    refine selected_within_rank agent_waits run spared ?_ long
    simp only [rank, position]
    omega
  · intro index job at_index trace later run spared long
    obtain ⟨interactive_waits, position⟩ :=
      waits (show (queues.get .interactive)[index]? = some job from at_index)
    refine selected_within_rank interactive_waits run spared ?_ long
    simp only [rank, position]
    exact le_rfl
  · intro observe clientClass job selected alone
    obtain ⟨swept, -, outcome⟩ := popNext_streak queues observe
    generalize queues.popNext observe = popped at outcome selected alone ⊢
    cases outcome with
    | idle => simp at selected
    | select =>
        obtain ⟨rfl, rfl⟩ : _ ∧ _ := by simpa using selected
        rw [get_withStreak, get_set_other] at alone
        exact nextStreak_eq_zero alone
  · intro fresh trace later run competed
    exact (cycle_run weighted fresh run competed).2.2

/-- A gateway with one agent and one interactive job waiting, the agent job being overtaken once. -/
theorem bounded_overtaking_sample :
    ∃ queues : Queues Unit, queues.agents[0]? = some ⟨0, (), 0, 5, 10, 0⟩ ∧
      queues.interactiveStreak = 1 ∧ queues.interactiveStreak ≤ 3 := by
  have run := (((Labelled.Execution.refl (default .weighted : Queues Unit)).tail
    (QueueStep.accept _ .agent ⟨0, (), 0, 5, 10, 0⟩ rfl)).tail
    (QueueStep.accept _ .interactive ⟨1, (), 1, 5, 10, 1⟩ rfl)).tail
    (QueueStep.pop _ fun _ => ⟨6, fun _ => false, fun _ => false, 7⟩)
  exact ⟨_, rfl, rfl, (bounded_overtaking run).1⟩

end Queues

end AiProtocol
