import Mathlib.Algebra.Order.BigOperators.Group.List
import Mathlib.Algebra.Order.Group.Nat
import AiProtocol.Library.Execution

/-!
# Coming to rest

A system whose own transitions are paid for out of a rank performs finitely many of them, and some
of them lead to a state in which none is possible.  Ranks are made of the weights of many small
parts, one of which moves at a time.
-/

namespace Labelled

/-- The weight of some parts of a family. -/
def load {Key Phase : Type*} (weight : Phase → Nat) (keys : List Key) (phases : Key → Phase) :
    Nat :=
  (keys.map fun key => weight (phases key)).sum

/-- A part which gets lighter pays the difference. -/
theorem load_update {Key Phase : Type*} [DecidableEq Key] {weight : Phase → Nat}
    {keys : List Key} {phases : Key → Phase} {key : Key} {phase now : Phase} (known : key ∈ keys)
    (here : phases key = now) (lighter : weight phase ≤ weight now) :
    load weight keys (Function.update phases key phase) + weight now ≤
      load weight keys phases + weight phase := by
  subst here
  have shrinks : ∀ other,
      weight (Function.update phases key phase other) ≤ weight (phases other) := by
    intro other
    by_cases same : other = key
    · subst same
      rwa [Function.update_self]
    · rw [Function.update_of_ne same]
  have total : ∀ others : List Key, load weight others (Function.update phases key phase) ≤
      load weight others phases :=
    fun others => List.sum_le_sum fun other _ => shrinks other
  obtain ⟨front, back, rfl⟩ := List.append_of_mem known
  have first := total front
  have last := total back
  simp only [load, List.map_append, List.map_cons, List.sum_append, List.sum_cons,
    Function.update_self] at first last ⊢
  omega

/-- None of the own transitions of a system is possible. -/
def Stuck {State Label : Type*} (step : State → Label → State → Prop) (Own : Label → Prop)
    (state : State) : Prop :=
  ∀ label after, step state label after → ¬Own label

/-- When the own transitions of a system are paid for, there are no more of them than the rank
allows, and some lead to a state in which none is possible. -/
theorem Execution.rests {State Label : Type*} {step : State → Label → State → Prop}
    (Alive : State → Prop) (Own : Label → Prop) (rank : State → Nat)
    (pays : ∀ {before after : State} {label : Label},
      Alive before → Own label → step before label after →
        Alive after ∧ rank after + 1 ≤ rank before)
    {state : State} (alive : Alive state) :
    (∀ trace after, Execution step state trace after → (∀ label ∈ trace, Own label) →
      trace.length ≤ rank state) ∧
    ∃ trace after, Execution step state trace after ∧ (∀ label ∈ trace, Own label) ∧
      Stuck step Own after := by
  refine ⟨fun trace after execution own => ?_, settles Alive Own rank pays alive⟩
  have spent := (execution.ranking Alive Own rank (fun _ => 1) pays alive own).2
  rw [List.map_const', List.sum_replicate_nat, Nat.mul_one] at spent
  omega

/-- When moreover a nudge from outside gives every state in which nothing is possible something to
do again, as long as it is not done, the system gets done with its own transitions and nudges. -/
theorem Execution.reaches {State Label : Type*} {step : State → Label → State → Prop}
    (Alive : State → Prop) (Own Nudge : Label → Prop) (Done : State → Prop) (rank : State → Nat)
    (pays : ∀ {before after : State} {label : Label},
      Alive before → Own label → step before label after →
        Alive after ∧ rank after + 1 ≤ rank before)
    (nudges : ∀ {before : State}, Alive before → Stuck step Own before → ¬Done before →
      ∃ label after, Nudge label ∧ step before label after ∧ Alive after ∧
        rank after ≤ rank before ∧ ¬Stuck step Own after)
    {state : State} (alive : Alive state) :
    ∃ trace after, Execution step state trace after ∧
      (∀ label ∈ trace, Own label ∨ Nudge label) ∧ Alive after ∧ Stuck step Own after ∧
        Done after := by
  generalize fuel : rank state = left
  induction left using Nat.strongRecOn generalizing state with
  | ind left induction =>
      -- with an own transition the rest is a matter of induction, also after a nudge
      have goes : ∀ {before : State}, Alive before → rank before ≤ left →
          ¬Stuck step Own before → ∃ trace after, Execution step before trace after ∧
            (∀ label ∈ trace, Own label ∨ Nudge label) ∧ Alive after ∧ Stuck step Own after ∧
              Done after := by
        intro before alive low free
        simp only [Stuck, not_forall, not_not] at free
        obtain ⟨label, middle, first, own⟩ := free
        obtain ⟨middle_alive, paid⟩ := pays alive own first
        obtain ⟨trace, after, rest, all, done⟩ :=
          induction (rank middle) (by omega) middle_alive rfl
        exact ⟨label :: trace, after, (single first).trans rest,
          List.forall_mem_cons.mpr ⟨.inl own, all⟩, done⟩
      by_cases stuck : Stuck step Own state
      · by_cases done : Done state
        · exact ⟨[], state, .refl state, nofun, alive, stuck, done⟩
        · obtain ⟨label, middle, nudge, first, middle_alive, low, free⟩ := nudges alive stuck done
          obtain ⟨trace, after, rest, all, finished⟩ := goes middle_alive (fuel ▸ low) free
          exact ⟨label :: trace, after, (single first).trans rest,
            List.forall_mem_cons.mpr ⟨.inr nudge, all⟩, finished⟩
      · exact goes alive (le_of_eq fuel) stuck

end Labelled
