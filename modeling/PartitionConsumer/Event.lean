import PartitionConsumer.Message
/-!
Events that pumps and renewal schedules publish about themselves.
-/
namespace PartitionConsumer

inductive EventKind where
  | pumpOpening
  | openAttemptFailed
  | pumpRunning
  | openFailed
  | pumpErrored
  | pumpClosing
  | pumpClosed
  | teardownFault
  | batchDelivered
  | renewalFired
  | renewalStopped
  deriving DecidableEq, Repr, Inhabited

def EventKind.label : EventKind → String
  | .pumpOpening => "PumpOpening"
  | .openAttemptFailed => "OpenAttemptFailed"
  | .pumpRunning => "PumpRunning"
  | .openFailed => "OpenFailed"
  | .pumpErrored => "PumpErrored"
  | .pumpClosing => "PumpClosing"
  | .pumpClosed => "PumpClosed"
  | .teardownFault => "TeardownFault"
  | .batchDelivered => "BatchDelivered"
  | .renewalFired => "RenewalFired"
  | .renewalStopped => "RenewalStopped"

def EventKind.all : List EventKind :=
  [.pumpOpening, .openAttemptFailed, .pumpRunning, .openFailed, .pumpErrored, .pumpClosing,
    .pumpClosed, .teardownFault, .batchDelivered, .renewalFired, .renewalStopped]

def EventKind.ofLabel? (s : String) : Option EventKind :=
  EventKind.all.find? fun k => k.label == s

/-- What an event says: its kind, and those of the five particulars that belong to it. -/
structure Event where
  kind : EventKind
  partition : Option String := none
  attempt : Option Nat := none
  epoch : Option Nat := none
  count : Option Nat := none
  reason : Option String := none
  deriving DecidableEq, Repr, Inhabited

def Event.isClosed (e : Event) : Bool := e.kind == .pumpClosed

/-- An event with its number; numbers are handed out in the order events are made. -/
structure NumberedEvent extends Event where
  number : Nat
  deriving DecidableEq, Repr, Inhabited

theorem EventKind.mem_all (k : EventKind) : k ∈ EventKind.all := by cases k <;> decide

end PartitionConsumer
