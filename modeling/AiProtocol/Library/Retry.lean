import Mathlib.Data.List.Basic
import Mathlib.Order.Nat

/-!
# Bounded retries

A loop which makes attempts until one of their responses stops it.  What it does with a response is
a decision of its own; two loops take the same course exactly if they decide alike on the responses
they reach.
-/

namespace Retry

/-- What a loop does with a response. -/
inductive Decision where
  /-- The loop ends. -/
  | stop (success : Bool)
  /-- The next attempt follows after a pause. -/
  | wait (seconds : Nat)
  deriving DecidableEq

/-- What a loop did. -/
structure Course where
  /-- Number of the last attempt. -/
  attempts : Nat
  /-- The pauses before the retries. -/
  waits : List Nat
  /-- The last response was a success. -/
  success : Bool
  deriving DecidableEq

variable {Response : Type*} (decide : Nat → Response → Decision) (responses : Nat → Response)

/-- The course of a loop from an attempt on, with a bound on the attempts which may follow it. -/
def course : Nat → Nat → Course
  | 0, number =>
      match decide number (responses number) with
      | .stop success => { attempts := number, waits := [], success }
      | .wait _ => { attempts := number, waits := [], success := false }
  | left + 1, number =>
      match decide number (responses number) with
      | .stop success => { attempts := number, waits := [], success }
      | .wait seconds =>
          let rest := course left (number + 1)
          { rest with waits := seconds :: rest.waits }

/-- The loop goes on after all attempts before a number. -/
def Reached (first number : Nat) : Prop :=
  ∀ earlier, first ≤ earlier → earlier < number →
    ∃ seconds, decide earlier (responses earlier) = .wait seconds

variable {decide responses}

theorem reached_first (first : Nat) : Reached decide responses first first :=
  fun _ le lt => absurd lt le.not_gt

theorem Reached.cons {first number seconds : Nat}
    (begun : decide first (responses first) = .wait seconds)
    (reached : Reached decide responses (first + 1) number) :
    Reached decide responses first number := by
  intro earlier le lt
  rcases Nat.eq_or_lt_of_le le with rfl | later
  · exact ⟨seconds, begun⟩
  · exact reached earlier later lt

theorem le_attempts (left number : Nat) :
    number ≤ (course decide responses left number).attempts := by
  induction left generalizing number with
  | zero =>
      rw [course]
      split <;> exact le_rfl
  | succ left induction =>
      rw [course]
      split
      · exact le_rfl
      · exact (Nat.le_succ number).trans (induction (number + 1))

/-- A loop which stops at its last attempt goes on before its end, pauses as it decided, and ends as
it decided. -/
theorem course_spec {left first : Nat}
    (bounded : ∀ seconds, decide (first + left) (responses (first + left)) ≠ .wait seconds) :
    (course decide responses left first).attempts ≤ first + left ∧
      (∀ number, first ≤ number → number < (course decide responses left first).attempts →
        ∃ seconds, decide number (responses number) = .wait seconds ∧
          (course decide responses left first).waits[number - first]? = some seconds) ∧
      decide (course decide responses left first).attempts
          (responses (course decide responses left first).attempts) =
        .stop (course decide responses left first).success := by
  induction left generalizing first with
  | zero =>
      rw [course]
      split
      · rename_i success decided
        exact ⟨le_rfl, fun number le lt => absurd lt le.not_gt, decided⟩
      · rename_i seconds decided
        exact absurd decided (bounded seconds)
  | succ left induction =>
      rw [course]
      split
      · rename_i success decided
        exact ⟨Nat.le_add_right _ _, fun number le lt => absurd lt le.not_gt, decided⟩
      · rename_i seconds decided
        have shift : first + (left + 1) = first + 1 + left := by omega
        rw [shift] at bounded ⊢
        obtain ⟨limit, waits, final⟩ := induction bounded
        refine ⟨limit, ?_, final⟩
        intro number le lt
        rcases Nat.eq_or_lt_of_le le with rfl | later
        · exact ⟨seconds, decided, by simp⟩
        · obtain ⟨pause, waited, listed⟩ := waits number later lt
          refine ⟨pause, waited, ?_⟩
          have next : number - first = number - (first + 1) + 1 := by omega
          rw [next]
          exact listed

/-- Two loops take the same course exactly if they decide alike on every response they reach. -/
theorem course_eq_iff {decide' : Nat → Response → Decision} {left first : Nat}
    (bounded : ∀ seconds, decide (first + left) (responses (first + left)) ≠ .wait seconds)
    (bounded' : ∀ seconds, decide' (first + left) (responses (first + left)) ≠ .wait seconds) :
    course decide responses left first = course decide' responses left first ↔
      ∀ number, first ≤ number → number ≤ first + left → Reached decide responses first number →
        decide number (responses number) = decide' number (responses number) := by
  constructor
  · intro same number le limit reached
    induction left generalizing first with
    | zero =>
        obtain rfl : first = number := by omega
        have spec := course_spec bounded
        have spec' := course_spec bounded'
        obtain stopped : (course decide responses 0 first).attempts = first :=
          le_antisymm spec.1 (le_attempts 0 first)
        rw [← same] at spec'
        rw [stopped] at spec spec'
        exact spec.2.2.trans spec'.2.2.symm
    | succ left induction =>
        have shift : first + (left + 1) = first + 1 + left := by omega
        rw [shift] at bounded bounded'
        have further : first < (course decide responses left (first + 1)).attempts :=
          le_attempts left (first + 1)
        have further' : first < (course decide' responses left (first + 1)).attempts :=
          le_attempts left (first + 1)
        rw [course, course] at same
        cases decided : decide first (responses first) with
        | stop success =>
            obtain rfl : first = number := by
              by_contra different
              obtain ⟨seconds, waits⟩ := reached first le_rfl (by omega)
              rw [decided] at waits
              cases waits
            cases decided' : decide' first (responses first) with
            | stop success' =>
                simp only [decided, decided', Course.mk.injEq, true_and] at same
                rw [decided, same]
            | wait seconds' =>
                simp only [decided, decided', Course.mk.injEq] at same
                omega
        | wait seconds =>
            cases decided' : decide' first (responses first) with
            | stop success' =>
                simp only [decided, decided', Course.mk.injEq] at same
                omega
            | wait seconds' =>
                simp only [decided, decided', Course.mk.injEq, List.cons.injEq] at same
                obtain ⟨attempts, ⟨pauses, waits⟩, success⟩ := same
                rcases Nat.eq_or_lt_of_le le with rfl | later
                · rw [decided, decided', pauses]
                · apply induction bounded bounded' _ later (by omega)
                  · intro earlier le lt
                    exact reached earlier (by omega) lt
                  · rw [Course.mk.injEq]
                    exact ⟨attempts, waits, success⟩
  · intro alike
    induction left generalizing first with
    | zero => rw [course, course, alike first le_rfl le_rfl (reached_first first)]
    | succ left induction =>
        have shift : first + (left + 1) = first + 1 + left := by omega
        rw [shift] at bounded bounded' alike
        rw [course, course, ← alike first le_rfl (by omega) (reached_first first)]
        cases decided : decide first (responses first) with
        | stop success => rfl
        | wait seconds =>
            have rest := induction bounded bounded' fun number le limit reached =>
              alike number (by omega) limit (reached.cons decided)
            simp only [rest]

end Retry
