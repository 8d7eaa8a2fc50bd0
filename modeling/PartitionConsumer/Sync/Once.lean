/-!
A procedure that is run to its end at most once. Callers queue; the first of them runs it, and if it
gives up the next one starts over. Once it has been run to its end nobody waits any more.
-/
namespace PartitionConsumer

/-- `turns` are the callers that wait or run, in the order they came; the first one runs. -/
structure Once where
  done : Bool := false
  turns : List Nat := []
  deriving DecidableEq, Repr, Inhabited

namespace Once

def enter (o : Once) (id : Nat) : Once := { o with turns := o.turns ++ [id] }

/-- Whether it is for `id` to run the procedure. -/
def isTurnOf (o : Once) (id : Nat) : Bool := !o.done && o.turns.head? == some id

/-- A caller gives up, whether it waits or runs. -/
def leave (o : Once) (id : Nat) : Once := { o with turns := o.turns.filter (· != id) }

def finish (_ : Once) : Once := { done := true }

@[simp] theorem done_enter (o : Once) (id : Nat) : (o.enter id).done = o.done := rfl
@[simp] theorem done_leave (o : Once) (id : Nat) : (o.leave id).done = o.done := rfl
@[simp] theorem done_finish (o : Once) : o.finish.done = true := rfl

/-- Two callers never have the turn together. -/
theorem isTurnOf_unique {o : Once} {a b : Nat} (ha : o.isTurnOf a) (hb : o.isTurnOf b) : a = b := by
  simp only [isTurnOf, Bool.and_eq_true, beq_iff_eq] at ha hb
  exact Option.some.inj (ha.2.symm.trans hb.2)

/-- The first to enter has the turn. -/
theorem isTurnOf_enter_of_empty {o : Once} (hd : o.done = false) (ht : o.turns = []) (id : Nat) :
    (o.enter id).isTurnOf id := by
  simp [enter, isTurnOf, hd, ht]

end Once
end PartitionConsumer
