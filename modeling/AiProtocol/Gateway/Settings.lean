import Mathlib.Data.List.Basic
import AiProtocol.Gateway.Queue

/-!
# Gateway settings and identities

The validated resource bounds of a gateway, the waiting times of its classes and the identities its
handlers work for.  Durations are numbers of nanoseconds.
-/

namespace AiProtocol

def millisecond : Nat := 1000000

/-- Per-process resource bounds. -/
structure RuntimeSettings where
  /-- Maximum concurrently executing operations. -/
  executionLimit : Nat
  /-- Maximum waiting jobs in each scheduling class. -/
  queueCapacity : Nat
  /-- Deadline covering execution and materialization of the response body. -/
  executionTimeout : Nat
  /-- Maximum buffered response size in bytes. -/
  maxResponseBytes : Nat
  /-- Maximum incoming operation JSON size in bytes. -/
  maxRequestBytes : Nat
  deriving DecidableEq, Repr

namespace RuntimeSettings

/-- `RuntimeSettings::default`. -/
def default : RuntimeSettings where
  executionLimit := 10
  queueCapacity := 32
  executionTimeout := 5000 * millisecond
  maxResponseBytes := 16 * 1024 * 1024
  maxRequestBytes := 2 * 1024 * 1024

/-- `RuntimeSettings::validate`. -/
def validate (settings : RuntimeSettings) : Except String RuntimeSettings :=
  if ¬(1 ≤ settings.executionLimit ∧ settings.executionLimit ≤ 1000)
    ∨ ¬(1 ≤ settings.queueCapacity ∧ settings.queueCapacity ≤ 10000)
    ∨ ¬(millisecond ≤ settings.executionTimeout ∧ settings.executionTimeout ≤ 3600000 * millisecond)
    ∨ settings.executionTimeout % millisecond ≠ 0
    ∨ ¬(1 ≤ settings.maxResponseBytes ∧ settings.maxResponseBytes ≤ 64 * 1024 * 1024)
    ∨ ¬(1 ≤ settings.maxRequestBytes ∧ settings.maxRequestBytes ≤ 64 * 1024 * 1024) then
    .error "Invalid runtime resource bounds"
  else
    .ok settings

theorem validate_validate {settings checked : RuntimeSettings}
    (valid : settings.validate = .ok checked) : checked.validate = .ok checked := by
  have same : settings = checked := by
    unfold validate at valid
    split at valid
    · cases valid
    · exact Except.ok.inj valid
  rw [← same] at valid ⊢
  exact valid

/-- The defaults pass their own validation. -/
theorem validate_default : default.validate = .ok default := rfl

end RuntimeSettings

/-- Maximum time accepted work may wait before execution. -/
structure QueueSettings where
  /-- Waiting time of interactive work. -/
  interactive : Nat
  /-- Waiting time of agent work. -/
  agent : Nat
  deriving DecidableEq, Repr

namespace QueueSettings

/-- `QueueSettings::default`. -/
def default : QueueSettings where
  interactive := 2000 * millisecond
  agent := 10000 * millisecond

/-- `QueueSettings::for_class`. -/
def forClass (settings : QueueSettings) : ClientClass → Nat
  | .interactive => settings.interactive
  | .agent => settings.agent

end QueueSettings

/-- Whom a request works for. -/
structure ClientIdentity where
  /-- Owner identifier. -/
  principalId : String
  /-- Server-assigned scheduling class. -/
  clientClass : ClientClass
  /-- Names of the operations this identity may invoke. -/
  operations : List String
  /-- The budget shared by all identities of this owner and class. -/
  budget : BudgetRef
  deriving DecidableEq, Repr

/-- What the handlers in front of `enqueue` make of an operation request. -/
inductive Decision (Action : Type) where
  /-- Answer at once. -/
  | respond (response : Response)
  /-- Call `enqueue`. -/
  | enqueue (identity : ClientIdentity) (action : Action)

/-- The configuration of one gateway, with its handlers and its executor as relations. -/
structure Config (Action : Type) where
  /-- Resource bounds. -/
  settings : RuntimeSettings
  /-- The bounds were validated. -/
  settings_valid : settings.validate = .ok settings
  /-- Waiting times. -/
  queueSettings : QueueSettings
  /-- Selection order. -/
  mode : SchedulerMode
  /-- Initial ceilings of the budgets. -/
  maximum : BudgetRef → Nat
  /-- The test-only rejection of the first agent request. -/
  rejectOnce : Bool
  /-- What the handlers can decide. -/
  decides : Decision Action → Prop
  /-- What executing an action can produce, short of a panic. -/
  executes : Action → Response → Prop

/-- Default settings in front of handlers and operations which may do anything. -/
def Config.arbitrary (maximum : Nat) : Config Unit where
  settings := .default
  settings_valid := RuntimeSettings.validate_default
  queueSettings := .default
  mode := .weighted
  maximum _ := maximum
  rejectOnce := false
  decides _ := True
  executes _ _ := True

end AiProtocol
