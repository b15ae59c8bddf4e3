import AiProtocol.Gateway.QueueRun

/-!
# Global FIFO mode

The global order is never stored: it emerges from comparing the two fronts.  In ordered queues the
smaller front precedes everything else that waits, so the jobs leave in their admission order.
-/

namespace AiProtocol

namespace Queues

variable {Action : Type}

/-- In FIFO mode the front taken by `pop_next` precedes every job left behind. -/
theorem fifo_least {swept : Queues Action} {job : Job Action} {rest : List (Job Action)}
    (ordered : Ordered swept) (fifo : swept.mode = .fifo)
    (front : swept.get swept.selectedClass = job :: rest) (clientClass : ClientClass) :
    ∀ left ∈ (swept.set rest swept.selectedClass).get clientClass, job.order < left.order := by
  intro left member
  rcases clientClass.eq_or_eq_other swept.selectedClass with rfl | rfl
  · -- behind the front in its own deque
    rw [get_set_self] at member
    have sorted := ordered.sorted swept.selectedClass
    rw [front, List.pairwise_cons] at sorted
    exact sorted.1 left member
  · -- in the other deque, whose front lost the comparison
    rw [get_set_other] at member
    have apart := ordered.apart swept.selectedClass job (by simp [front]) left member
    obtain ⟨head, tail, other⟩ := List.exists_cons_of_ne_nil (List.ne_nil_of_mem member)
    have sorted := ordered.sorted swept.selectedClass.other
    rw [other, List.pairwise_cons] at sorted
    have first : head.order ≤ left.order := by
      rw [other] at member
      rcases List.mem_cons.mp member with rfl | later
      · exact le_rfl
      · exact (sorted.1 left later).le
    have won : job.order ≤ head.order := by
      unfold selectedClass at front other
      by_cases chosen : swept.selectsInteractive
      · simp only [chosen, ↓reduceIte, get, ClientClass.other] at front other
        simp only [selectsInteractive, fifo, ↓reduceIte, front, other, List.head?_cons,
          decide_eq_true_eq] at chosen
        exact chosen.le
      · simp only [chosen, Bool.false_eq_true, ↓reduceIte, get, ClientClass.other] at front other
        simp only [selectsInteractive, fifo, ↓reduceIte, front, other, List.head?_cons,
          decide_eq_true_eq, not_lt] at chosen
        exact chosen
    omega

/-- Every run in FIFO mode selects in strict admission order. -/
theorem fifo_admission_order {queues : Queues Action} {trace : List (QueueEvent Action)}
    (run : QueueRun (default .fifo) trace queues) :
    (∀ clientClass, (queues.get clientClass).Pairwise fun left right =>
        left.order < right.order) ∧
      (queues.jobs.map Job.order).Nodup ∧
      (∀ job ∈ queues.jobs, job.order < queues.nextOrder) ∧
      (∀ observe clientClass job, (queues.popNext observe).job = some (clientClass, job) →
        ∀ left ∈ (queues.popNext observe).queues.jobs, job.order < left.order) ∧
      ((selections trace).map fun selection => selection.2.order).Pairwise (· < ·) := by
  obtain ⟨ordered, fifo⟩ := ordered_run run
  refine ⟨ordered.sorted, ordered.nodup, ?_, ?_, ?_⟩
  · intro job member
    obtain ⟨clientClass, member⟩ := mem_jobs.mp member
    exact ordered.below clientClass job member
  · intro observe clientClass job selected left member
    obtain ⟨swept, ⟨swept_ordered, swept_mode, -⟩, outcome⟩ := ordered.popNext observe
    generalize queues.popNext observe = popped at outcome selected member
    cases outcome with
    | idle => simp at selected
    | select _ job rest _ front =>
        obtain ⟨rfl, rfl⟩ : _ ∧ _ := by simpa using selected
        obtain ⟨other, member⟩ := mem_jobs.mp member
        rw [get_withStreak] at member
        exact fifo_least swept_ordered (swept_mode.trans fifo) front other left member
  · have departed : Departed (fun _ _ => True) (selections trace) queues := Departed.run
      (fun swept job rest swept_ordered swept_mode front clientClass _ =>
        fifo_least swept_ordered swept_mode front clientClass) run
    rw [List.pairwise_map]
    exact departed.increasing.imp fun increasing => increasing trivial

/-- A selection after two admissions and a refusal. -/
theorem fifo_admission_order_sample :
    ∃ trace : List (QueueEvent Unit),
      selections trace = [(.agent, ⟨0, (), 0, 5, 10, 0⟩), (.interactive, ⟨1, (), 1, 5, 10, 1⟩)] ∧
        ((selections trace).map fun selection => selection.2.order).Pairwise (· < ·) := by
  have run := (((((Labelled.Execution.refl (default .fifo : Queues Unit)).tail
    (QueueStep.accept _ .agent ⟨0, (), 0, 5, 10, 0⟩ rfl)).tail
    (QueueStep.accept _ .interactive ⟨1, (), 1, 5, 10, 1⟩ rfl)).tail (QueueStep.refuse _)).tail
    (QueueStep.pop _ fun _ => ⟨6, fun _ => false, fun _ => false, 7⟩)).tail
    (QueueStep.pop _ fun _ => ⟨8, fun _ => false, fun _ => false, 8⟩)
  exact ⟨_, rfl, (fifo_admission_order run).2.2.2.2⟩

end Queues

end AiProtocol
