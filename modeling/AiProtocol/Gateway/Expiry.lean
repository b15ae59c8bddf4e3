import Mathlib.Order.Nat
import AiProtocol.Gateway.QueueLaws

/-!
# Queue expiry

What the owner of a queued job is told when the job leaves the queues without being selected.  A
scan removes the jobs seen closed or expired, and `pop_next` those it meets on its way; permits are
given back before a caller is told.
-/

namespace AiProtocol

namespace Queues

variable {Action : Type}

/-- The permit an effect gives back. -/
def returned : Effect → Option (ReplyId × BudgetRef)
  | .discard reply permit | .release reply permit => some (reply, permit)
  | .answer _ _ => none

/-- What an effect tells a caller. -/
def told : Effect → Option (ReplyId × Response)
  | .answer reply response => some (reply, response)
  | _ => none

theorem performed_returned (thrown : List (Job Action × Fate)) :
    (performed thrown).filterMap returned =
      thrown.map fun entry => (entry.1.reply, entry.1.permit) := by
  induction thrown with
  | nil => rfl
  | cons entry thrown induction =>
      obtain ⟨job, fate⟩ := entry
      cases fate with
      | closed => exact congrArg (List.cons _) induction
      | expired => exact congrArg (List.cons _) induction

theorem performed_told (thrown : List (Job Action × Fate)) :
    (performed thrown).filterMap told =
      (thrown.filter fun entry => entry.2 = .expired).map fun entry =>
        (entry.1.reply, queueTimeout) := by
  induction thrown with
  | nil => rfl
  | cons entry thrown induction =>
      obtain ⟨job, fate⟩ := entry
      cases fate with
      | closed => exact induction
      | expired => exact congrArg (List.cons _) induction

/-- The loop of `pop_next` returns only once. -/
theorem Loop.popNext {last : Nat} {observe : Nat → Observation} {queues : Queues Action}
    {popped : Popped Action} (loop : Loop last observe queues popped) :
    popped = queues.popNext observe := by
  obtain ⟨last', loop'⟩ := popNext_loop queues observe
  have enough : last < last + last' + 1 := by omega
  have enough' : last' < last + last' + 1 := by omega
  exact (loop.popTurns enough).symm.trans (loop'.popTurns enough')

theorem nextDeadline_eq_some {queues : Queues Action} {deadline : Nat} :
    queues.nextDeadline = some deadline ↔
      (∃ job ∈ queues.jobs, job.deadline = deadline) ∧
        ∀ job ∈ queues.jobs, deadline ≤ job.deadline := by
  rw [Queues.nextDeadline, List.min?_eq_some_iff, List.mem_map, List.forall_mem_map]

theorem nextDeadline_eq_none {queues : Queues Action} :
    queues.nextDeadline = none ↔ queues.jobs = [] := by
  simp [Queues.nextDeadline]

/-- The account of a scan: it keeps the jobs seen open whose deadline lies in the future, in their
order; every other job gives its permit back once, and its caller is told once, and afterwards, that
it expired, unless it was seen closed; and the nearest deadline lies in the future. -/
structure Scan (queues : Queues Action) (closed : ReplyId → Bool) (now : Nat) : Prop where
  /-- The jobs kept. -/
  kept : ∀ clientClass, (queues.maintain closed now).1.get clientClass =
    (queues.get clientClass).filter fun job => !closed job.reply && now < job.deadline
  /-- What is done to the others, one after another. -/
  effects : (queues.maintain closed now).2 =
    (queues.jobs.filter fun job => !(!closed job.reply && now < job.deadline)).flatMap fun job =>
      if closed job.reply then [.discard job.reply job.permit]
      else [.release job.reply job.permit, .answer job.reply queueTimeout]
  /-- The permits given back. -/
  returned : (queues.maintain closed now).2.filterMap returned =
    (queues.jobs.filter fun job => !(!closed job.reply && now < job.deadline)).map fun job =>
      (job.reply, job.permit)
  /-- The callers told. -/
  told : (queues.maintain closed now).2.filterMap told =
    (queues.jobs.filter fun job => !closed job.reply && job.deadline ≤ now).map fun job =>
      (job.reply, queueTimeout)
  /-- The nearest deadline. -/
  nearest : (queues.maintain closed now).1.nextDeadline = none ∧
      (queues.maintain closed now).1.jobs = [] ∨
    ∃ deadline, (queues.maintain closed now).1.nextDeadline = some deadline ∧ now < deadline ∧
      (∃ job ∈ (queues.maintain closed now).1.jobs, job.deadline = deadline) ∧
        ∀ job ∈ (queues.maintain closed now).1.jobs, deadline ≤ job.deadline

private theorem scan_maintain (queues : Queues Action) (closed : ReplyId → Bool) (now : Nat) :
    Scan queues closed now := by
  have performs := performed_scanned queues closed now
  constructor
  · exact maintain_get queues closed now
  · rw [performs, performed, scanned, List.flatMap_map]
    refine List.flatMap_congr fun job _ => ?_
    by_cases isClosed : closed job.reply
    · simp [isClosed, Fate.effects]
    · simp [isClosed, Fate.effects, expiry]
  · rw [performs, performed_returned, scanned, List.map_map]
    rfl
  · rw [performs, performed_told, scanned, List.filter_map, List.map_map, List.filter_filter]
    congr 1
    refine List.filter_congr fun job _ => ?_
    by_cases isClosed : closed job.reply
    · simp [isClosed]
    · by_cases late : job.deadline ≤ now
      · simp [isClosed, survives, late, Nat.not_lt.mpr late]
      · simp [isClosed, survives, late, Nat.not_le.mp late]
  · cases nearest : (queues.maintain closed now).1.nextDeadline with
    | none => exact .inl ⟨rfl, nextDeadline_eq_none.mp nearest⟩
    | some deadline =>
        obtain ⟨⟨job, member, same⟩, least⟩ := nextDeadline_eq_some.mp nearest
        refine .inr ⟨deadline, rfl, ?_, ⟨job, member, same⟩, least⟩
        rw [maintain_jobs] at member
        have survives := (List.mem_filter.mp member).2
        simp only [Queues.survives, Bool.and_eq_true, decide_eq_true_eq] at survives
        exact same ▸ survives.2

/-- Queue expiry.  A scan keeps exactly the jobs which are open and not expired.  Whatever the clock
reads, the loop of `pop_next` returns, and keeps account of all jobs: the job it returns was seen
open in every turn and expires after its handoff, an expired job it meets is answered with
`queue_timeout` after its permit is given back, what was seen closed is dropped, and nothing is
returned only if both queues are empty. -/
theorem queue_expiry (queues : Queues Action) :
    (∀ closed now, Scan queues closed now) ∧
    ∀ observe : Nat → Observation,
      (∀ {last popped}, Loop last observe queues popped → popped = queues.popNext observe) ∧
      ∃ last thrown, Loop last observe queues (queues.popNext observe) ∧
        Account observe queues (queues.popNext observe) last thrown ∧
        (queues.popNext observe).effects.filterMap returned =
          (thrown.map fun entry => (entry.1.reply, entry.1.permit)) ∧
        (queues.popNext observe).effects.filterMap told =
          (thrown.filter fun entry => entry.2 = .expired).map fun entry =>
            (entry.1.reply, queueTimeout) := by
  refine ⟨scan_maintain queues, fun observe => ⟨Loop.popNext, ?_⟩⟩
  obtain ⟨last, loop⟩ := popNext_loop queues observe
  obtain ⟨thrown, account⟩ := loop.account
  refine ⟨last, thrown, loop, account, ?_, ?_⟩
  · rw [account.effects, performed_returned]
  · rw [account.effects, performed_told]

end Queues

end AiProtocol
