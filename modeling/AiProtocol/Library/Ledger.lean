import Mathlib.Data.List.Count
import Mathlib.Data.List.Perm.Basic
import AiProtocol.Library.Execution

/-!
# Ledgers of tickets

A system hands out tickets and takes them back.  A ledger view of the system lists the tickets it
currently holds and names, for each transition, the ticket that was issued or redeemed.  The balance
`issued = held + redeemed` then holds along every execution, and a counter which follows the
movements of one account counts the tickets held on that account.
-/

namespace Ledger

/-- What one transition does to the tickets in circulation. -/
structure Movement (Ticket : Type*) where
  /-- Tickets handed out. -/
  issued : List Ticket
  /-- Tickets taken back. -/
  redeemed : List Ticket

namespace Movement

/-- Nothing moves. -/
def none {Ticket : Type*} : Movement Ticket where
  issued := []
  redeemed := []

/-- One ticket is handed out. -/
def issue {Ticket : Type*} (ticket : Ticket) : Movement Ticket where
  issued := [ticket]
  redeemed := []

/-- One ticket is taken back. -/
def redeem {Ticket : Type*} (ticket : Ticket) : Movement Ticket where
  issued := []
  redeemed := [ticket]

@[simp] theorem issued_none {Ticket : Type*} : (none : Movement Ticket).issued = [] := rfl

@[simp] theorem issued_issue {Ticket : Type*} (ticket : Ticket) :
    (issue ticket).issued = [ticket] := rfl

@[simp] theorem issued_redeem {Ticket : Type*} (ticket : Ticket) :
    (redeem ticket).issued = [] := rfl

@[simp] theorem redeemed_none {Ticket : Type*} : (none : Movement Ticket).redeemed = [] := rfl

@[simp] theorem redeemed_issue {Ticket : Type*} (ticket : Ticket) :
    (issue ticket).redeemed = [] := rfl

@[simp] theorem redeemed_redeem {Ticket : Type*} (ticket : Ticket) :
    (redeem ticket).redeemed = [ticket] := rfl

end Movement

/-- The tickets held before and after one movement, up to order. -/
def Moves {Ticket : Type*} (before : List Ticket) (movement : Movement Ticket)
    (after : List Ticket) : Prop :=
  (movement.issued ++ before).Perm (movement.redeemed ++ after)

theorem moves_iff_count {Ticket : Type*} [BEq Ticket] [LawfulBEq Ticket]
    {before after : List Ticket}
    {movement : Movement Ticket} :
    Moves before movement after ↔
      ∀ ticket, movement.issued.count ticket + before.count ticket =
        movement.redeemed.count ticket + after.count ticket := by
  simp only [Moves, List.perm_iff_count, List.count_append]

/-- Tickets satisfying a predicate balance in one movement. -/
theorem Moves.countP {Ticket : Type*} {before after : List Ticket} {movement : Movement Ticket}
    (moves : Moves before movement after) (selects : Ticket → Bool) :
    movement.issued.countP selects + before.countP selects =
      movement.redeemed.countP selects + after.countP selects := by
  simpa only [List.countP_append] using List.Perm.countP_eq selects moves

theorem Moves.mem_of_redeem {Ticket : Type*} {before after : List Ticket} {ticket : Ticket}
    (moves : Moves before (.redeem ticket) after) : ticket ∈ before := by
  have exchanged : before.Perm (ticket :: after) := moves
  exact exchanged.mem_iff.mpr List.mem_cons_self

section Balance

variable {State Label Ticket : Type*} {step : State → Label → State → Prop}
  (held : State → List Ticket) (movement : Label → Movement Ticket)

/-- Tickets issued along a trace. -/
def issued (trace : List Label) : List Ticket :=
  trace.flatMap fun label => (movement label).issued

/-- Tickets redeemed along a trace. -/
def redeemed (trace : List Label) : List Ticket :=
  trace.flatMap fun label => (movement label).redeemed

@[simp] theorem issued_append (front back : List Label) :
    issued movement (front ++ back) = issued movement front ++ issued movement back :=
  List.flatMap_append

@[simp] theorem redeemed_append (front back : List Label) :
    redeemed movement (front ++ back) = redeemed movement front ++ redeemed movement back :=
  List.flatMap_append

@[simp] theorem issued_single (label : Label) :
    issued movement [label] = (movement label).issued := by
  simp [issued]

@[simp] theorem redeemed_single (label : Label) :
    redeemed movement [label] = (movement label).redeemed := by
  simp [redeemed]

/-- Tickets issued along a trace are counted by the labels which issue them. -/
theorem countP_issued {selects : Ticket → Bool} {marks : Label → Bool}
    (each : ∀ label, (movement label).issued.countP selects = if marks label then 1 else 0)
    (trace : List Label) : (issued movement trace).countP selects = trace.countP marks := by
  induction trace with
  | nil => rfl
  | cons label trace induction =>
      rw [← List.singleton_append, issued_append, List.countP_append, List.countP_append,
        issued_single, each, induction, List.countP_singleton]

theorem countP_redeemed {selects : Ticket → Bool} {marks : Label → Bool}
    (each : ∀ label, (movement label).redeemed.countP selects = if marks label then 1 else 0)
    (trace : List Label) : (redeemed movement trace).countP selects = trace.countP marks := by
  induction trace with
  | nil => rfl
  | cons label trace induction =>
      rw [← List.singleton_append, redeemed_append, List.countP_append, List.countP_append,
        redeemed_single, each, induction, List.countP_singleton]

/-- Everything held initially or issued since is still held or has been redeemed. -/
theorem balance {initial final : State} {trace : List Label}
    (moves : ∀ {front : List Label} {before after : State} {label : Label},
      Labelled.Execution step initial front before → step before label after →
        Moves (held before) (movement label) (held after))
    (execution : Labelled.Execution step initial trace final) (selects : Ticket → Bool) :
    (held initial).countP selects + (issued movement trace).countP selects =
      (held final).countP selects + (redeemed movement trace).countP selects := by
  induction execution with
  | refl => simp [issued, redeemed]
  | tail earlier last induction =>
      have moved := (moves earlier last).countP selects
      simp only [issued_append, redeemed_append, issued_single, redeemed_single,
        List.countP_append]
      omega

end Balance

/-- A counter which follows the movements on one account. -/
def Follows {Ticket : Type*} (onAccount : Ticket → Bool) (before : Nat)
    (movement : Movement Ticket) (after : Nat) : Prop :=
  movement.issued.countP onAccount + before = movement.redeemed.countP onAccount + after

/-- A counter following the movements on an account counts the tickets held on it. -/
theorem Follows.counts {Ticket : Type*} {onAccount : Ticket → Bool} {counter counter' : Nat}
    {before after : List Ticket} {movement : Movement Ticket}
    (follows : Follows onAccount counter movement counter')
    (moves : Moves before movement after)
    (counts : counter = before.countP onAccount) : counter' = after.countP onAccount := by
  have moved := moves.countP onAccount
  unfold Follows at follows
  omega

end Ledger
