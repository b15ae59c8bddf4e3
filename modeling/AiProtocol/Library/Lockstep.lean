import Mathlib.Data.List.Basic

/-!
# Lockstep

A machine answers every input and moves to its next state.  Two machines whose related states give
the same answer and stay related cannot be told apart by any sequence of inputs.
-/

namespace Machine

variable {State State' Input Output : Type*}

/-- The answers of a machine to a sequence of inputs. -/
def answers (step : State → Input → Output × State) : State → List Input → List Output
  | _, [] => []
  | state, input :: rest => (step state input).1 :: answers step (step state input).2 rest

/-- Machines in lockstep give the same answers to inputs of which the relation is kept. -/
theorem answers_lockstep {step : State → Input → Output × State}
    {step' : State' → Input → Output × State'} (Related : State → State' → Prop)
    {inputs : List Input}
    (lockstep : ∀ input ∈ inputs, ∀ state state', Related state state' →
      (step state input).1 = (step' state' input).1 ∧
        Related (step state input).2 (step' state' input).2)
    {state : State} {state' : State'} (related : Related state state') :
    answers step state inputs = answers step' state' inputs := by
  induction inputs generalizing state state' with
  | nil => rfl
  | cons input rest induction =>
      obtain ⟨same, next⟩ := lockstep input List.mem_cons_self state state' related
      have others := induction (fun later member => lockstep later (List.mem_cons_of_mem _ member))
        next
      rw [answers, answers, same, others]

end Machine
