import PartitionConsumer.Proofs.Overlap.Precedence
/-!
# Intakes

A receiver of the in-memory transport among those who use it: deliveries, calls that clear its handler, and
whoever installs one or moves the gate. Any number of deliveries is made at any time, and what they call
takes any time. Whoever asks for the receiver's lock gets the next ticket.
-/
namespace PartitionConsumer

structure Delivery where
  ticket : Nat
  parcel : Parcel
  /-- The handler that it has called and that has not returned. -/
  calling : Option Handler := none
  deriving DecidableEq, Repr, Inhabited

inductive Traffic where
  | install (slot : InstalledHandler)
  | arrive (parcel : Parcel)
  /-- A delivery that has its share looks for the handler and calls it. -/
  | call (ticket : Nat)
  /-- The handler returns. -/
  | finish (ticket : Nat)
  /-- A call that clears the handler takes it out, and waits at the gate. -/
  | clear
  /-- It passes the gate, and asks for the lock. -/
  | pass
  /-- It has the lock, and returns. -/
  | cleared (ticket : Nat)
  /-- A delivery, or a call that has passed the gate, is dropped. -/
  | drop (ticket : Nat)
  /-- A call that waits at the gate is dropped. -/
  | turnBack
  | gate (isOpen : Bool)
  deriving Repr, Inhabited

structure Intake where
  receiver : Receiver
  deliveries : List Delivery := []
  /-- The number of calls that wait at the gate. -/
  atGate : Nat := 0
  /-- The tickets of the calls that have passed it. -/
  draining : List Nat := []
  next : Nat := 0
  deriving Inhabited

namespace Intake

def inProgress (t : Intake) (h : Handler) : Nat := t.deliveries.countP (·.calling == some h)

def delivery? (t : Intake) (k : Nat) : Option Delivery := t.deliveries.find? (·.ticket == k)

/-- A delivery gives its share of the lock up, or its place in the queue. -/
def depart (t : Intake) (k : Nat) : Intake :=
  { t with receiver := t.receiver.leave k, deliveries := t.deliveries.filter (·.ticket != k) }

/-- The delivery `k` has called a handler. -/
def begin (t : Intake) (k : Nat) (h : Handler) : Intake :=
  { t with deliveries := t.deliveries.map fun d => if d.ticket = k then { d with calling := some h } else d }

/-- A delivery inside the lock calls the handler, if there is one. A failure is taken without a wait. -/
def look (t : Intake) (d : Delivery) : Intake :=
  match t.receiver.handler, d.parcel with
  | some slot, .batch _ => t.begin d.ticket slot.handler
  | _, _ => t.depart d.ticket

def step? (t : Intake) : Traffic → Option Intake
  | .install slot => some { t with receiver := { t.receiver with handler := some slot } }
  | .arrive parcel => some { t with
      receiver := t.receiver.enterDelivery t.next
      deliveries := t.deliveries ++ [{ ticket := t.next, parcel }]
      next := t.next + 1 }
  | .call k => (t.delivery? k).bind fun d =>
    if d.calling.isNone && t.receiver.isInside k then some (t.look d) else none
  | .finish k => (t.delivery? k).bind fun d => if d.calling.isSome then some (t.depart k) else none
  | .clear => some { t with receiver := t.receiver.beginClear, atGate := t.atGate + 1 }
  | .pass =>
    if t.receiver.gateOpen && 0 < t.atGate then
      some { t with
        receiver := t.receiver.enterClear t.next
        atGate := t.atGate - 1
        draining := t.next :: t.draining
        next := t.next + 1 }
    else none
  | .cleared k =>
    if k ∈ t.draining ∧ t.receiver.isInside k = true then
      some { t with receiver := t.receiver.endClear k, draining := t.draining.filter (· != k) }
    else none
  | .drop k =>
    if (t.delivery? k).isSome || k ∈ t.draining then
      some { t.depart k with draining := t.draining.filter (· != k) }
    else none
  | .turnBack => if 0 < t.atGate then some { t with atGate := t.atGate - 1 } else none
  | .gate isOpen => some { t with receiver := { t.receiver with gateOpen := isOpen } }

inductive Step (t : Intake) : Traffic → Intake → Prop where
  | install (slot : InstalledHandler) :
    Step t (.install slot) { t with receiver := { t.receiver with handler := some slot } }
  | arrive (parcel : Parcel) : Step t (.arrive parcel) { t with
      receiver := t.receiver.enterDelivery t.next
      deliveries := t.deliveries ++ [{ ticket := t.next, parcel }]
      next := t.next + 1 }
  | call (d : Delivery) (slot : InstalledHandler) (hd : d ∈ t.deliveries)
      (hi : t.receiver.isInside d.ticket = true) (hh : t.receiver.handler = some slot) :
    Step t (.call d.ticket) (t.begin d.ticket slot.handler)
  /-- The delivery finds no handler, or the handler has taken a failure. -/
  | miss (d : Delivery) (hd : d ∈ t.deliveries) : Step t (.call d.ticket) (t.depart d.ticket)
  | finish (d : Delivery) (hd : d ∈ t.deliveries) : Step t (.finish d.ticket) (t.depart d.ticket)
  | clear : Step t .clear { t with receiver := t.receiver.beginClear, atGate := t.atGate + 1 }
  | pass : Step t .pass { t with
      receiver := t.receiver.enterClear t.next
      atGate := t.atGate - 1
      draining := t.next :: t.draining
      next := t.next + 1 }
  | cleared (k : Nat) (hk : k ∈ t.draining) : Step t (.cleared k)
      { t with receiver := t.receiver.endClear k, draining := t.draining.filter (· != k) }
  | drop (k : Nat) : Step t (.drop k) { t.depart k with draining := t.draining.filter (· != k) }
  | turnBack : Step t .turnBack { t with atGate := t.atGate - 1 }
  | gate (isOpen : Bool) :
    Step t (.gate isOpen) { t with receiver := { t.receiver with gateOpen := isOpen } }

variable {t u : Intake} {x : Traffic} {d : Delivery} {k : Nat}

theorem mem_of_delivery? (h : t.delivery? k = some d) : d ∈ t.deliveries ∧ d.ticket = k :=
  ⟨List.mem_of_find?_eq_some h, by simpa using List.find?_some h⟩

theorem step_of_step? (h : t.step? x = some u) : t.Step x u := by
  cases x with
  | install slot =>
    cases h
    exact .install slot
  | arrive parcel =>
    cases h
    exact .arrive parcel
  | call k =>
    obtain ⟨d, hf, h⟩ := Option.bind_eq_some_iff.1 h
    obtain ⟨hd, rfl⟩ := mem_of_delivery? hf
    split at h
    · rename_i hc
      obtain rfl := Option.some.inj h
      unfold look
      split
      · rename_i slot messages hh hp
        exact .call d slot hd (Bool.and_eq_true_iff.1 hc).2 hh
      · exact .miss d hd
    · cases h
  | finish k =>
    obtain ⟨d, hf, h⟩ := Option.bind_eq_some_iff.1 h
    obtain ⟨hd, rfl⟩ := mem_of_delivery? hf
    split at h
    · cases h
      exact .finish d hd
    · cases h
  | clear =>
    cases h
    exact .clear
  | pass =>
    dsimp only [step?] at h
    split at h
    · cases h
      exact .pass
    · cases h
  | cleared k =>
    dsimp only [step?] at h
    split at h
    · rename_i hk
      cases h
      exact .cleared k hk.1
    · cases h
  | drop k =>
    dsimp only [step?] at h
    split at h
    · cases h
      exact .drop k
    · cases h
  | turnBack =>
    dsimp only [step?] at h
    split at h
    · cases h
      exact .turnBack
    · cases h
  | gate isOpen =>
    cases h
    exact .gate isOpen

def run (t : Intake) : List Traffic → Option Intake
  | [] => some t
  | x :: xs => (t.step? x).bind fun u => u.run xs

def new (epoch : Nat) : Intake := { receiver := { epoch } }

theorem run_append (t : Intake) (xs ys : List Traffic) :
    t.run (xs ++ ys) = (t.run xs).bind fun u => u.run ys := by
  induction xs generalizing t with
  | nil => rfl
  | cons x xs ih =>
    rw [List.cons_append, run, run, Option.bind_assoc]
    exact congrArg _ (funext ih)

end Intake
end PartitionConsumer
