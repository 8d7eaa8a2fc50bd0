/-!
The connection attempt in progress, so that a shutdown can cut it short. Each attempt has a token,
named by the attempt's number.
-/
namespace PartitionConsumer

/-- `current` is the registered attempt; `revoked` are the attempts whose tokens were cancelled. -/
structure AttemptSlot where
  current : Option Nat := none
  revoked : List Nat := []
  deriving DecidableEq, Repr, Inhabited

namespace AttemptSlot

/-- Registers an attempt in place of any other. -/
def register (f : AttemptSlot) (attempt : Nat) : AttemptSlot := { f with current := some attempt }

def clear (f : AttemptSlot) : AttemptSlot := { f with current := none }

/-- Cancels the token of the registered attempt, if there is one, and forgets the attempt. -/
def cancel (f : AttemptSlot) : AttemptSlot :=
  match f.current with
  | some attempt => { current := none, revoked := attempt :: f.revoked }
  | none => f

def isRegistered (f : AttemptSlot) : Bool := f.current.isSome

def isRevoked (f : AttemptSlot) (attempt : Nat) : Bool := f.revoked.contains attempt

@[simp] theorem current_register (f : AttemptSlot) (n : Nat) : (f.register n).current = some n := rfl
@[simp] theorem current_clear (f : AttemptSlot) : f.clear.current = none := rfl

@[simp] theorem current_cancel (f : AttemptSlot) : f.cancel.current = none := by
  unfold cancel
  split <;> simp_all

/-- Cancelling reaches the registered attempt and no other. -/
theorem isRevoked_cancel_iff (f : AttemptSlot) (n : Nat) :
    f.cancel.isRevoked n ↔ f.current = some n ∨ f.isRevoked n := by
  unfold cancel isRevoked
  cases h : f.current with
  | none => simp
  | some m =>
    simp only [List.contains_cons, Bool.or_eq_true, beq_iff_eq, Option.some.injEq]
    exact or_congr_left eq_comm

end AttemptSlot
end PartitionConsumer
