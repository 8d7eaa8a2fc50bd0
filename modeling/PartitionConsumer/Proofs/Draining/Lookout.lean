import PartitionConsumer.Proofs.Overlap
/-!
# Lookouts

A receiver of the in-memory transport with all that can be seen there: callbacks that start and return, what
deliveries answer, and the calls that clear the handler, each from its taking the handler out to its return.
Any number of them is under way at any time.
-/
namespace PartitionConsumer

/-- What is seen at a receiver. Deliveries go by their tickets; the calls that clear the handler are numbered
as they begin. -/
inductive Sight where
  | installed
  /-- The handler's callback is called, for a batch or for a failure. -/
  | started (ticket : Nat) (handler : Handler) (parcel : Parcel)
  | returned (ticket : Nat)
  /-- A delivery returns, and says whether there was a handler. -/
  | answered (ticket : Nat) (found : Bool)
  | dropped (ticket : Nat)
  /-- A call takes the handler out. -/
  | took (call : Nat)
  | cleared (call : Nat)
  | gate (isOpen : Bool)
  deriving DecidableEq, Repr, Inhabited

structure Lookout where
  intake : Intake
  /-- The number of calls that have begun to clear the handler. -/
  calls : Nat := 0
  /-- Those that wait at the gate. -/
  waiting : List Nat := []
  /-- Those that have passed it, each with its ticket. -/
  passed : List (Nat × Nat) := []
  history : List Sight := []
  deriving Inhabited

namespace Lookout

/-- What a delivery shows that looks for the handler. It calls it without a wait in between, and a failure is
taken without a wait. -/
def glimpse (o : Lookout) (d : Delivery) : List Sight :=
  match o.intake.receiver.handler, d.parcel with
  | some slot, .batch messages => [.started d.ticket slot.handler (.batch messages)]
  | some slot, .failure e =>
    [.started d.ticket slot.handler (.failure e), .returned d.ticket, .answered d.ticket true]
  | none, _ => [.answered d.ticket false]

def call? (o : Lookout) (k : Nat) : Option Nat := (o.passed.find? (·.1 == k)).map (·.2)

def sights (o : Lookout) : Traffic → List Sight
  | .install _ => [.installed]
  | .call k => (o.intake.delivery? k).elim [] o.glimpse
  | .finish k => [.returned k, .answered k true]
  | .clear => [.took o.calls]
  | .cleared k => (o.call? k).toList.map .cleared
  | .drop k => [.dropped k]
  | .gate isOpen => [.gate isOpen]
  | .arrive _ | .pass | .turnBack => []

/-- The calls that clear the handler, after a step. It is the call `c` that passes the gate or is dropped
there. -/
def follow (o : Lookout) (c : Nat) : Traffic → Option Lookout
  | .clear => some { o with calls := o.calls + 1, waiting := o.waiting ++ [o.calls] }
  | .pass =>
    if c ∈ o.waiting then
      some { o with waiting := o.waiting.erase c, passed := (o.intake.next, c) :: o.passed }
    else none
  | .turnBack => if c ∈ o.waiting then some { o with waiting := o.waiting.erase c } else none
  | .cleared k | .drop k => some { o with passed := o.passed.filter (·.1 != k) }
  | .install _ | .arrive _ | .call _ | .finish _ | .gate _ => some o

def step? (o : Lookout) (x : Traffic) (c : Nat) : Option Lookout :=
  (o.intake.step? x).bind fun t =>
    (o.follow c x).map fun p => { p with intake := t, history := o.history ++ o.sights x }

def run (o : Lookout) : List (Traffic × Nat) → Option Lookout
  | [] => some o
  | x :: xs => (o.step? x.1 x.2).bind fun p => p.run xs

def new (epoch : Nat) : Lookout := { intake := .new epoch }

variable {o p : Lookout} {x : Traffic} {xs : List Traffic} {t : Intake} {c : Nat}

/-- A step is one of the receiver, and tells what has been seen of it. -/
theorem of_step? (h : o.step? x c = some p) :
    ∃ q, o.intake.step? x = some p.intake ∧ o.follow c x = some q
      ∧ p = { q with intake := p.intake, history := o.history ++ o.sights x } := by
  obtain ⟨t, ht, h⟩ := Option.bind_eq_some_iff.1 h
  obtain ⟨q, hq, rfl⟩ := Option.map_eq_some_iff.1 h
  exact ⟨q, ht, hq, rfl⟩

theorem atGate_of_step {t u : Intake} (hx : t.Step x u) :
    u.atGate = match x with
      | .clear => t.atGate + 1
      | .pass | .turnBack => t.atGate - 1
      | _ => t.atGate := by
  cases hx <;> rfl

/-- Whoever looks on keeps nobody from anything: there is a call that can be the one that passes the gate or
is dropped there. -/
theorem exists_follow (hw : o.waiting.length = o.intake.atGate) (ht : o.intake.step? x = some t) :
    ∃ c q, o.follow c x = some q ∧ q.waiting.length = t.atGate := by
  have hlength := atGate_of_step (Intake.step_of_step? ht)
  have hfront (ha : 0 < o.intake.atGate) :
      ∃ c ∈ o.waiting, (o.waiting.erase c).length = o.intake.atGate - 1 := by
    obtain ⟨c, hc⟩ := List.exists_mem_of_length_pos (hw ▸ ha)
    exact ⟨c, hc, by rw [List.length_erase_of_mem hc, hw]⟩
  cases x with
  | clear => exact ⟨0, _, rfl, by rw [hlength, ← hw, List.length_append]; rfl⟩
  | pass =>
    dsimp only [Intake.step?] at ht
    split at ht
    · rename_i hg
      obtain ⟨c, hc, hl⟩ := hfront (of_decide_eq_true (Bool.and_eq_true_iff.1 hg).2)
      exact ⟨c, _, if_pos hc, hl.trans hlength.symm⟩
    · cases ht
  | turnBack =>
    dsimp only [Intake.step?] at ht
    split at ht
    · rename_i hg
      obtain ⟨c, hc, hl⟩ := hfront hg
      exact ⟨c, _, if_pos hc, hl.trans hlength.symm⟩
    · cases ht
  | _ => exact ⟨0, _, rfl, hw.trans hlength.symm⟩

/-- So every run of the receiver can be seen. -/
theorem exists_run (hw : o.waiting.length = o.intake.atGate) (ht : o.intake.run xs = some t) :
    ∃ ys p, ys.map (·.1) = xs ∧ o.run ys = some p ∧ p.intake = t := by
  induction xs generalizing o with
  | nil => exact ⟨[], o, rfl, rfl, Option.some.inj ht⟩
  | cons x xs ih =>
    obtain ⟨u, hu, ht⟩ := Option.bind_eq_some_iff.1 ht
    obtain ⟨c, q, hq, hl⟩ := exists_follow hw hu
    obtain ⟨ys, p, hys, hp, hi⟩ := ih (o := { q with intake := u, history := o.history ++ o.sights x }) hl ht
    refine ⟨(x, c) :: ys, p, by rw [List.map_cons, hys], ?_, hi⟩
    rw [run, step?, hu, Option.bind_some, hq]
    exact hp

end Lookout
end PartitionConsumer
