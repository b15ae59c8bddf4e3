import Mathlib.Logic.Relation

/-!
# Calls on a bounded stack

A call makes further calls, one after the other, each on a number of frames of the stack.  It ends
without an error exactly if none of the calls which it leads to finds the stack used up, has a
callee which is missing, or fails by itself.
-/

namespace Descent

variable {Node Error : Type*}

/-- What the calls of a program do. -/
structure Calls (Node Error : Type*) where
  /-- The calls which a call makes, with the frames in between; a callee may be missing. -/
  makes : Node → List (Nat × Except Error Node)
  /-- How a call fails by itself, after the calls it makes and with so many frames left. -/
  fails : Nat → Node → Option Error
  /-- No frame is left. -/
  overflow : Error

namespace Calls

variable (calls : Calls Node Error)

/-- The error of a call on so many frames. -/
def run : Nat → Node → Option Error
  | 0, _ => some calls.overflow
  | frames + 1, node =>
      ((calls.makes node).findSome? fun entry =>
        match entry.2 with
        | .error error => some error
        | .ok callee => run (frames - entry.1) callee).or (calls.fails frames node)
  decreasing_by omega

/-- The calls which a call leads to, with the frames that are left for them. -/
inductive Reaches (frames : Nat) (node : Node) : Nat → Node → Prop
  | refl : Reaches frames node frames node
  | call {left cost : Nat} {caller callee : Node} (reached : Reaches frames node (left + 1) caller)
      (made : (cost, .ok callee) ∈ calls.makes caller) : Reaches frames node (left - cost) callee

/-- A call on so many frames has no error of its own. -/
structure Sound (left : Nat) (node : Node) : Prop where
  /-- There is a frame for it. -/
  fits : 0 < left
  /-- No callee is missing. -/
  found : ∀ entry ∈ calls.makes node, ∃ callee, entry.2 = .ok callee
  /-- It does not fail by itself. -/
  quiet : calls.fails (left - 1) node = none

/-- A call on so many frames ends with an error of its own. -/
inductive Raises (left : Nat) (node : Node) : Error → Prop
  | overflow (full : left = 0) : Raises left node calls.overflow
  | missing {cost : Nat} {error : Error} (made : (cost, .error error) ∈ calls.makes node) :
      Raises left node error
  | fails {error : Error} (failed : calls.fails (left - 1) node = some error) :
      Raises left node error

/-- A call makes another one. -/
def Leads (caller callee : Node) : Prop :=
  ∃ cost, (cost, .ok callee) ∈ calls.makes caller

variable {calls}

theorem run_zero (node : Node) : calls.run 0 node = some calls.overflow := by
  rw [run]

theorem run_succ_eq_none {frames : Nat} {node : Node} :
    calls.run (frames + 1) node = none ↔
      (∀ entry ∈ calls.makes node, ∃ callee, entry.2 = .ok callee ∧
        calls.run (frames - entry.1) callee = none) ∧ calls.fails frames node = none := by
  rw [run, Option.or_eq_none_iff, List.findSome?_eq_none_iff]
  refine and_congr_left fun _ => forall₂_congr fun entry _ => ?_
  obtain ⟨cost, callee⟩ := entry
  cases callee with
  | error error => simp
  | ok callee => simp

theorem sound_of_run {left : Nat} {node : Node} (ends : calls.run left node = none) :
    calls.Sound left node := by
  cases left with
  | zero =>
      rw [run_zero] at ends
      cases ends
  | succ left =>
      obtain ⟨callees, quiet⟩ := run_succ_eq_none.mp ends
      refine ⟨Nat.succ_pos left, fun entry made => ?_, quiet⟩
      obtain ⟨callee, found, -⟩ := callees entry made
      exact ⟨callee, found⟩

/-- The calls it leads to end without an error as well. -/
theorem Reaches.run {frames left : Nat} {node callee : Node}
    (reached : calls.Reaches frames node left callee) (ends : calls.run frames node = none) :
    calls.run left callee = none := by
  induction reached with
  | refl => exact ends
  | call _ made induction =>
      obtain ⟨callee, ⟨⟩, ends⟩ := (run_succ_eq_none.mp induction).1 _ made
      exact ends

/-- What a callee leads to, its caller leads to. -/
theorem Reaches.head {frames cost left : Nat} {caller callee node : Node}
    (made : (cost, .ok callee) ∈ calls.makes caller)
    (reached : calls.Reaches (frames - cost) callee left node) :
    calls.Reaches (frames + 1) caller left node := by
  induction reached with
  | refl => exact .call .refl made
  | call _ made induction => exact .call induction made

/-- A call ends without an error exactly if no call that it leads to has one of its own. -/
theorem run_eq_none_iff {frames : Nat} {node : Node} :
    calls.run frames node = none ↔
      ∀ left callee, calls.Reaches frames node left callee → calls.Sound left callee := by
  refine ⟨fun ends left callee reached => sound_of_run (reached.run ends), fun sound => ?_⟩
  induction frames using Nat.strongRecOn generalizing node with
  | _ frames induction =>
      obtain ⟨fits, found, quiet⟩ := sound frames node .refl
      obtain ⟨frames, rfl⟩ : ∃ rest, frames = rest + 1 := ⟨frames - 1, by omega⟩
      refine run_succ_eq_none.mpr ⟨fun entry made => ?_, quiet⟩
      obtain ⟨cost, callee⟩ := entry
      obtain ⟨callee, rfl⟩ := found _ made
      refine ⟨callee, rfl, induction (frames - cost) (by omega) fun left inner reached => ?_⟩
      exact sound left inner (reached.head made)

/-- The error of a call is the one of a call it leads to. -/
theorem exists_raises_of_run {frames : Nat} {node : Node} {error : Error}
    (raised : calls.run frames node = some error) :
    ∃ left callee, calls.Reaches frames node left callee ∧ calls.Raises left callee error := by
  induction frames using Nat.strongRecOn generalizing node with
  | _ frames induction =>
      cases frames with
      | zero =>
          rw [run_zero] at raised
          cases raised
          exact ⟨0, node, .refl, .overflow rfl⟩
      | succ frames =>
          rw [run, Option.or_eq_some_iff] at raised
          rcases raised with inner | ⟨-, failed⟩
          · obtain ⟨⟨cost, callee⟩, made, inner⟩ := List.exists_of_findSome?_eq_some inner
            cases callee with
            | error error =>
                cases inner
                exact ⟨frames + 1, node, .refl, .missing made⟩
            | ok callee =>
                obtain ⟨left, last, reached, raises⟩ :=
                  induction (frames - cost) (by omega) inner
                exact ⟨left, last, reached.head made, raises⟩
          · exact ⟨frames + 1, node, .refl, .fails failed⟩

theorem exists_run_of_leads {frames : Nat} {caller callee : Node}
    (leads : calls.Leads caller callee) (ends : calls.run frames caller = none) :
    ∃ left < frames, calls.run left callee = none := by
  obtain ⟨cost, made⟩ := leads
  cases frames with
  | zero =>
      rw [run_zero] at ends
      cases ends
  | succ frames =>
      obtain ⟨callee, ⟨⟩, ends⟩ := (run_succ_eq_none.mp ends).1 _ made
      exact ⟨frames - cost, by omega, ends⟩

theorem exists_run_of_reflTransGen {frames : Nat} {caller callee : Node}
    (leads : Relation.ReflTransGen calls.Leads caller callee)
    (ends : calls.run frames caller = none) : ∃ left ≤ frames, calls.run left callee = none := by
  induction leads with
  | refl => exact ⟨frames, Nat.le_refl frames, ends⟩
  | tail _ leads induction =>
      obtain ⟨left, fewer, ends⟩ := induction
      obtain ⟨left', fewer', ends⟩ := exists_run_of_leads leads ends
      exact ⟨left', by omega, ends⟩

theorem run_of_cycle {node : Node} (cycle : Relation.TransGen calls.Leads node node)
    (frames : Nat) : calls.run frames node ≠ none := by
  obtain ⟨next, leads, back⟩ := Relation.TransGen.head'_iff.mp cycle
  induction frames using Nat.strongRecOn with
  | _ frames induction =>
      intro ends
      obtain ⟨left, fewer, ends⟩ := exists_run_of_leads leads ends
      obtain ⟨left', fewer', ends⟩ := exists_run_of_reflTransGen back ends
      exact induction left' (by omega) ends

theorem run_of_leads_cycle {root node : Node} (leads : Relation.ReflTransGen calls.Leads root node)
    (cycle : Relation.TransGen calls.Leads node node) (frames : Nat) :
    calls.run frames root ≠ none := by
  intro ends
  obtain ⟨left, -, ends⟩ := exists_run_of_reflTransGen leads ends
  exact run_of_cycle cycle left ends

end Calls

end Descent
