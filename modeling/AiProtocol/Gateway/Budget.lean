import Mathlib.Logic.Function.Basic

/-!
# Owner budgets

One counter for every owner and class.  A budget is shared by reference, so the budgets of a gateway
form a heap: an `Arc<Budget>` is a reference into it and a permit remembers the reference it was
taken from.  Counters are natural numbers; `release` is the decrement of `Permit::drop`, whose
underflow is excluded by the accounting of the gateway.
-/

namespace AiProtocol

/-- Server-assigned scheduling class. -/
inductive ClientClass where
  | agent
  | interactive
  deriving DecidableEq, Repr

/-- The identity of an `Arc<Budget>`. -/
abbrev BudgetRef := Nat

/-- A coherent observation of one budget; also the state its mutex guards. -/
structure Snapshot where
  /-- Configured outstanding-work ceiling. -/
  maximum : Nat
  /-- Accepted queued and running operations. -/
  outstanding : Nat
  /-- Incremented only when the ceiling actually changes. -/
  revision : Nat
  deriving DecidableEq, Repr

namespace Snapshot

/-- `Budget::new`. -/
def new (maximum : Nat) : Snapshot :=
  { maximum, outstanding := 0, revision := 1 }

/-- `Budget::set_maximum`. -/
def setMaximum (state : Snapshot) (maximum : Nat) : Snapshot :=
  if state.maximum ≠ maximum then
    { state with maximum, revision := state.revision + 1 }
  else
    state

/-- `Budget::try_acquire_observed`: the state after taking a permit, or a refusal. -/
def tryAcquireObserved (state : Snapshot) : Option Snapshot :=
  if state.outstanding ≥ state.maximum then
    none
  else
    some { state with outstanding := state.outstanding + 1 }

/-- `Permit::drop`. -/
def release (state : Snapshot) : Snapshot :=
  { state with outstanding := state.outstanding - 1 }

@[simp] theorem setMaximum_maximum (state : Snapshot) (maximum : Nat) :
    (state.setMaximum maximum).maximum = maximum := by
  simp only [setMaximum]
  split
  · rfl
  · rename_i same
    simpa using same

@[simp] theorem setMaximum_outstanding (state : Snapshot) (maximum : Nat) :
    (state.setMaximum maximum).outstanding = state.outstanding := by
  simp only [setMaximum]
  split <;> rfl

theorem setMaximum_revision (state : Snapshot) (maximum : Nat) :
    (state.setMaximum maximum).revision =
      state.revision + if state.maximum = maximum then 0 else 1 := by
  simp only [setMaximum]
  split <;> simp_all

@[simp] theorem release_maximum (state : Snapshot) : state.release.maximum = state.maximum := rfl

@[simp] theorem release_revision (state : Snapshot) :
    state.release.revision = state.revision := rfl

@[simp] theorem release_outstanding (state : Snapshot) :
    state.release.outstanding = state.outstanding - 1 := rfl

theorem tryAcquireObserved_eq_some {state observed : Snapshot} :
    state.tryAcquireObserved = some observed ↔
      state.outstanding < state.maximum ∧
        observed = { state with outstanding := state.outstanding + 1 } := by
  simp only [tryAcquireObserved]
  split
  · rename_i full
    simp only [reduceCtorEq, false_iff, not_and]
    omega
  · rename_i room
    simp only [Option.some.injEq]
    exact ⟨fun same => ⟨by omega, same.symm⟩, fun same => same.2.symm⟩

theorem tryAcquireObserved_eq_none {state : Snapshot} :
    state.tryAcquireObserved = none ↔ state.maximum ≤ state.outstanding := by
  simp [tryAcquireObserved]

end Snapshot

/-- The budgets of one gateway. -/
abbrev Budgets := BudgetRef → Snapshot

namespace Budgets

/-- `set_maximum` through a reference. -/
def resize (budgets : Budgets) (budget : BudgetRef) (maximum : Nat) : Budgets :=
  Function.update budgets budget ((budgets budget).setMaximum maximum)

/-- Dropping one permit of a budget. -/
def release (budgets : Budgets) (budget : BudgetRef) : Budgets :=
  Function.update budgets budget (budgets budget).release

end Budgets

end AiProtocol
