import Mathlib.Data.List.Basic

/-!
# Bounded buffers

A loop appends chunks to a buffer while a test of the two sizes passes.  Every test that says, of
buffers within a bound, whether the chunk still fits makes the same loop.
-/

namespace Buffer

variable {Item : Type*}

/-- What a loop over chunks ends with. -/
inductive Collected (Item : Type*) where
  /-- The chunks ended. -/
  | whole (buffer : List Item)
  /-- The transport failed. -/
  | broken
  /-- A chunk did not pass the test. -/
  | oversized

/-- The loop; a missing chunk is an error of the transport. -/
def collect (fits : Nat → Nat → Bool) : List (Option (List Item)) → List Item → Collected Item
  | [], buffer => .whole buffer
  | none :: _, _ => .broken
  | some chunk :: chunks, buffer =>
      if fits buffer.length chunk.length then
        collect fits chunks (buffer ++ chunk)
      else
        .oversized

/-- The buffers of the loop, one for each of its turns. -/
def buffers (fits : Nat → Nat → Bool) : List (Option (List Item)) → List Item → List (List Item)
  | some chunk :: chunks, buffer =>
      buffer ::
        if fits buffer.length chunk.length then buffers fits chunks (buffer ++ chunk) else []
  | _, buffer => [buffer]

/-- The test keeps a bound: of what is within, it says whether the next chunk fits. -/
def Keeps (fits : Nat → Nat → Bool) (bound : Nat) : Prop :=
  ∀ held next, held ≤ bound → (fits held next = true ↔ held + next ≤ bound)

variable {fits fits' : Nat → Nat → Bool} {bound : Nat} {buffer : List Item}

/-- At every turn the buffer is within the bound. -/
theorem length_of_mem_buffers (keeps : Keeps fits bound) (within : buffer.length ≤ bound)
    {chunks : List (Option (List Item))} :
    ∀ held ∈ buffers fits chunks buffer, held.length ≤ bound := by
  induction chunks generalizing buffer with
  | nil => simpa [buffers] using within
  | cons chunk chunks induction =>
      cases chunk with
      | none => simpa [buffers] using within
      | some chunk =>
          rw [buffers, List.forall_mem_cons]
          refine ⟨within, ?_⟩
          split
          · rename_i passed
            apply induction
            rw [List.length_append]
            exact (keeps _ _ within).mp passed
          · exact nofun

/-- Chunks which all arrive are collected exactly if they fit together. -/
theorem collect_eq (keeps : Keeps fits bound) (within : buffer.length ≤ bound)
    (chunks : List (List Item)) :
    collect fits (chunks.map some) buffer =
      if (buffer ++ chunks.flatten).length ≤ bound then .whole (buffer ++ chunks.flatten)
      else .oversized := by
  induction chunks generalizing buffer with
  | nil =>
      rw [List.flatten_nil, List.append_nil, if_pos within]
      rfl
  | cons chunk chunks induction =>
      rw [List.map_cons, collect, List.flatten_cons, ← List.append_assoc]
      by_cases passed : fits buffer.length chunk.length = true
      · have grown : (buffer ++ chunk).length ≤ bound := by
          rw [List.length_append]
          exact (keeps _ _ within).mp passed
        rw [if_pos passed, induction grown]
      · have exceeds : bound < buffer.length + chunk.length :=
          Nat.not_le.mp fun small => passed ((keeps _ _ within).mpr small)
        rw [if_neg passed, if_neg]
        rw [List.length_append, List.length_append]
        omega

/-- Tests which keep the same bound make the same loop. -/
theorem collect_congr (keeps : Keeps fits bound) (keeps' : Keeps fits' bound)
    (within : buffer.length ≤ bound) (chunks : List (Option (List Item))) :
    collect fits chunks buffer = collect fits' chunks buffer := by
  induction chunks generalizing buffer with
  | nil => rfl
  | cons chunk chunks induction =>
      cases chunk with
      | none => rfl
      | some chunk =>
          have same : fits buffer.length chunk.length = fits' buffer.length chunk.length := by
            rw [Bool.eq_iff_iff, keeps _ _ within, keeps' _ _ within]
          rw [collect, collect, same]
          split
          · rename_i passed
            apply induction
            rw [List.length_append]
            exact (keeps' _ _ within).mp passed
          · rfl

end Buffer
