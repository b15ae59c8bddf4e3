import Mathlib.Algebra.GroupWithZero.Nat
import Mathlib.Data.List.Basic
import Mathlib.Order.Nat

/-!
# Labelled executions

A labelled relation `step before label after` is executed from left to right, and the labels of the
transitions are collected in a trace.  Executions grow at their end, so that the induction on an
execution is the induction on the history of its last state.
-/

namespace Labelled

/-- A finite execution together with the labels it performed, oldest first. -/
inductive Execution {State Label : Type*} (step : State → Label → State → Prop) :
    State → List Label → State → Prop
  | refl (state : State) : Execution step state [] state
  | tail {before middle after : State} {trace : List Label} {label : Label} :
      Execution step before trace middle →
      step middle label after →
      Execution step before (trace ++ [label]) after

namespace Execution

/-- One transition is an execution. -/
theorem single {State Label : Type*} {step : State → Label → State → Prop}
    {before after : State} {label : Label} (first : step before label after) :
    Execution step before [label] after :=
  .tail (.refl before) first

/-- Concatenate executions, appending their traces. -/
theorem trans {State Label : Type*} {step : State → Label → State → Prop}
    {before middle after : State} {front back : List Label}
    (left : Execution step before front middle) (right : Execution step middle back after) :
    Execution step before (front ++ back) after := by
  induction right with
  | refl => simpa using left
  | tail _ last induction =>
      rw [← List.append_assoc]
      exact .tail induction last

/-- Fewer transitions make fewer executions. -/
theorem mono {State Label : Type*} {step step' : State → Label → State → Prop}
    (weaker : ∀ {before after : State} {label : Label},
      step before label after → step' before label after)
    {before after : State} {trace : List Label} (execution : Execution step before trace after) :
    Execution step' before trace after := by
  induction execution with
  | refl => exact .refl _
  | tail _ last induction => exact .tail induction (weaker last)

/-- A predicate on states which every transition preserves holds at the end. -/
theorem invariant {State Label : Type*} {step : State → Label → State → Prop}
    (Holds : State → Prop)
    (preserved : ∀ {before after : State} {label : Label},
      Holds before → step before label after → Holds after)
    {before after : State} {trace : List Label} (execution : Execution step before trace after)
    (initial : Holds before) : Holds after := by
  induction execution with
  | refl => exact initial
  | tail _ last induction => exact preserved induction last

/-- A predicate relating the trace so far to the state reached, preserved by every transition from
a state the execution has reached. -/
theorem invariantTrace {State Label : Type*} {step : State → Label → State → Prop}
    {initial : State} (Holds : List Label → State → Prop)
    (start : Holds [] initial)
    (preserved : ∀ {trace : List Label} {before after : State} {label : Label},
      Execution step initial trace before → Holds trace before → step before label after →
        Holds (trace ++ [label]) after)
    {trace : List Label} {after : State} (execution : Execution step initial trace after) :
    Holds trace after := by
  induction execution with
  | refl => exact start
  | tail earlier last induction => exact preserved earlier induction last

/-- Ranking: while the states stay alive and the labels of the trace are allowed, every transition
pays its cost out of the rank. -/
theorem ranking {State Label : Type*} {step : State → Label → State → Prop}
    (Alive : State → Prop) (Allowed : Label → Prop) (rank : State → Nat) (cost : Label → Nat)
    (pays : ∀ {before after : State} {label : Label},
      Alive before → Allowed label → step before label after →
        Alive after ∧ rank after + cost label ≤ rank before)
    {before after : State} {trace : List Label} (execution : Execution step before trace after)
    (alive : Alive before) (allowed : ∀ label ∈ trace, Allowed label) :
    Alive after ∧ rank after + (trace.map cost).sum ≤ rank before := by
  induction execution with
  | refl => exact ⟨alive, by simp⟩
  | tail _ last induction =>
      obtain ⟨middle_alive, spent⟩ := induction fun label member =>
        allowed label (List.mem_append_left _ member)
      obtain ⟨after_alive, paid⟩ := pays middle_alive (allowed _ (by simp)) last
      refine ⟨after_alive, ?_⟩
      simp only [List.map_append, List.sum_append, List.map_cons, List.map_nil, List.sum_cons,
        List.sum_nil]
      omega

/-- When every allowed transition pays, an execution of allowed transitions reaches a state in which
none is possible. -/
theorem settles {State Label : Type*} {step : State → Label → State → Prop}
    (Alive : State → Prop) (Allowed : Label → Prop) (rank : State → Nat)
    (pays : ∀ {before after : State} {label : Label},
      Alive before → Allowed label → step before label after →
        Alive after ∧ rank after + 1 ≤ rank before)
    {before : State} (alive : Alive before) :
    ∃ trace after, Execution step before trace after ∧ (∀ label ∈ trace, Allowed label) ∧
      ∀ label later, step after label later → ¬Allowed label := by
  generalize fuel : rank before = left
  induction left using Nat.strongRecOn generalizing before with
  | ind left induction =>
      by_cases stuck : ∀ label later, step before label later → ¬Allowed label
      · exact ⟨[], before, .refl before, by simp, stuck⟩
      · simp only [not_forall, not_not] at stuck
        obtain ⟨label, middle, first, allowed⟩ := stuck
        obtain ⟨middle_alive, paid⟩ := pays alive allowed first
        obtain ⟨trace, after, rest, all, final⟩ :=
          induction (rank middle) (by omega) middle_alive rfl
        refine ⟨label :: trace, after, (single first).trans rest, ?_, final⟩
        intro other member
        rcases List.mem_cons.mp member with rfl | later
        · exact allowed
        · exact all other later

/-- What can only be done while something is fresh, and spends it, is done at most once. -/
theorem once {State Label : Type*} {step : State → Label → State → Prop} {initial : State}
    (Fresh : State → Prop) (spends : Label → Bool)
    (spent : ∀ {trace : List Label} {before after : State} {label : Label},
      Execution step initial trace before → step before label after → spends label →
        Fresh before ∧ ¬Fresh after)
    (kept : ∀ {trace : List Label} {before after : State} {label : Label},
      Execution step initial trace before → step before label after → Fresh after → Fresh before)
    {trace : List Label} {after : State} (execution : Execution step initial trace after) :
    trace.countP spends ≤ 1 ∧ (Fresh after → trace.countP spends = 0) := by
  induction execution with
  | refl => simp
  | tail earlier last induction =>
      rw [List.countP_append, List.countP_singleton]
      split
      · rename_i spending
        obtain ⟨fresh, stale⟩ := spent earlier last spending
        rw [induction.2 fresh]
        exact ⟨le_rfl, fun again => absurd again stale⟩
      · exact ⟨induction.1, fun fresh => induction.2 (kept earlier last fresh)⟩

/-- Simulation: a map on states which turns every transition into an execution of the target. -/
theorem simulate {State Label State' Label' : Type*} {step : State → Label → State → Prop}
    {step' : State' → Label' → State' → Prop} (view : State → State')
    (labels : Label → List Label') {initial : State}
    (forward : ∀ {trace : List Label} {before after : State} {label : Label},
      Execution step initial trace before → step before label after →
        Execution step' (view before) (labels label) (view after))
    {trace : List Label} {after : State} (execution : Execution step initial trace after) :
    Execution step' (view initial) (trace.flatMap labels) (view after) := by
  induction execution with
  | refl => exact .refl _
  | tail earlier last induction =>
      rw [List.flatMap_append]
      simpa using induction.trans (forward earlier last)

/-- Every prefix of the trace is the trace of an initial part of the execution. -/
theorem split {State Label : Type*} {step : State → Label → State → Prop}
    {before after : State} {front back : List Label}
    (execution : Execution step before (front ++ back) after) :
    ∃ middle, Execution step before front middle ∧ Execution step middle back after := by
  generalize whole : front ++ back = trace at execution
  induction execution generalizing back with
  | refl =>
      obtain ⟨rfl, rfl⟩ := List.append_eq_nil_iff.mp whole
      exact ⟨_, .refl _, .refl _⟩
  | @tail middle after trace label earlier last induction =>
      rcases List.eq_nil_or_concat back with rfl | ⟨back, final, rfl⟩
      · rw [List.append_nil] at whole
        subst whole
        exact ⟨_, .tail earlier last, .refl _⟩
      · rw [List.concat_eq_append, ← List.append_assoc] at whole
        obtain ⟨rfl, same⟩ := List.append_inj' whole rfl
        obtain rfl : final = label := by simpa using same
        obtain ⟨between, left, right⟩ := induction rfl
        refine ⟨between, left, ?_⟩
        rw [List.concat_eq_append]
        exact .tail right last

/-- A nonempty trace starts with a transition. -/
theorem uncons {State Label : Type*} {step : State → Label → State → Prop}
    {before after : State} {label : Label} {trace : List Label}
    (execution : Execution step before (label :: trace) after) :
    ∃ middle, step before label middle ∧ Execution step middle trace after := by
  have pieces : Execution step before ([label] ++ trace) after := execution
  obtain ⟨middle, first, rest⟩ := pieces.split
  refine ⟨middle, ?_, rest⟩
  generalize single : [label] = labels at first
  cases first with
  | refl => simp at single
  | @tail middle _ earlierTrace final earlier last =>
      have pieces : [] ++ [label] = earlierTrace ++ [final] := single
      obtain ⟨rfl, same⟩ := List.append_inj' pieces rfl
      obtain rfl : label = final := by simpa using same
      generalize none : ([] : List Label) = labels at earlier
      cases earlier with
      | refl => exact last
      | tail _ _ => simp at none

/-- A label of the trace was performed by a transition between two states of the execution. -/
theorem step_of_mem {State Label : Type*} {step : State → Label → State → Prop}
    {before after : State} {trace : List Label} {label : Label}
    (execution : Execution step before trace after) (member : label ∈ trace) :
    ∃ front back middle next, trace = front ++ label :: back ∧
      Execution step before front middle ∧ step middle label next ∧
        Execution step next back after := by
  obtain ⟨front, back, rfl⟩ := List.append_of_mem member
  obtain ⟨middle, left, right⟩ := execution.split
  obtain ⟨next, first, rest⟩ := right.uncons
  exact ⟨front, back, middle, next, rfl, left, first, rest⟩

end Execution

end Labelled
