import Mathlib.Data.List.Basic

/-!
# Delimited frames

Frames which end with a delimiter, read out of a stream by readers with a limit.
-/

namespace Frame

variable {Symbol : Type*} [DecidableEq Symbol] (delimiter : Symbol)

/-- What is read up to the delimiter, the end of the stream or the limit, and what is left of the
limit. -/
def readUntil : Nat → List Symbol → List Symbol × Nat
  | 0, _ => ([], 0)
  | limit, [] => ([], limit)
  | limit + 1, symbol :: stream =>
      if symbol = delimiter then
        ([symbol], limit)
      else
        (symbol :: (readUntil limit stream).1, (readUntil limit stream).2)

/-- A line up to the delimiter or the end of the stream, unless more than the limit precedes it. -/
def readline (limit : Nat) (stream : List Symbol) : Option (List Symbol) :=
  let line := stream.takeWhile (· ≠ delimiter)
  if line.length > limit then
    none
  else
    some (stream.take (line.length + 1))

variable {delimiter}

/-- The limit is spent on what is read. -/
theorem length_readUntil (limit : Nat) (stream : List Symbol) :
    (readUntil delimiter limit stream).1.length + (readUntil delimiter limit stream).2 = limit := by
  induction limit generalizing stream with
  | zero => simp [readUntil]
  | succ limit induction =>
      cases stream with
      | nil => simp [readUntil]
      | cons symbol stream =>
          rw [readUntil]
          split
          · simp [Nat.add_comm]
          · have spent := induction stream
            simp only [List.length_cons]
            omega

/-- A frame within the limit is read, and nothing after it. -/
theorem readUntil_append {text : List Symbol} (clean : delimiter ∉ text) {limit : Nat}
    (within : text.length < limit) (rest : List Symbol) :
    (readUntil delimiter limit (text ++ delimiter :: rest)).1 = text ++ [delimiter] := by
  induction text generalizing limit with
  | nil =>
      obtain ⟨limit, rfl⟩ := Nat.exists_eq_succ_of_ne_zero (Nat.ne_of_gt within)
      simp [readUntil]
  | cons symbol text induction =>
      obtain ⟨limit, rfl⟩ := Nat.exists_eq_succ_of_ne_zero (Nat.ne_of_gt (Nat.zero_lt_of_lt within))
      rw [List.mem_cons, not_or] at clean
      rw [List.cons_append, readUntil, if_neg (Ne.symm clean.1)]
      rw [induction clean.2 (Nat.lt_of_succ_lt_succ within)]
      rfl

theorem takeWhile_append {text : List Symbol} (clean : delimiter ∉ text) (rest : List Symbol) :
    (text ++ delimiter :: rest).takeWhile (· ≠ delimiter) = text := by
  rw [List.takeWhile_append_of_pos, List.takeWhile_cons_of_neg (by simp), List.append_nil]
  intro symbol member
  exact decide_eq_true fun same => clean (same ▸ member)

theorem readline_append {text : List Symbol} (clean : delimiter ∉ text) {limit : Nat}
    (within : text.length ≤ limit) (rest : List Symbol) :
    readline delimiter limit (text ++ delimiter :: rest) = some (text ++ [delimiter]) := by
  have taken : (text ++ delimiter :: rest).take (text.length + 1) = text ++ [delimiter] := by
    rw [List.append_cons, List.take_left' (by simp)]
  simp only [readline, takeWhile_append clean, if_neg (Nat.not_lt.mpr within), taken]

end Frame
