import PartitionConsumer.Partition
import PartitionConsumer.Failure
import PartitionConsumer.Sync.SharedLock
/-!
Receivers and clients of the in-memory transport. Deliveries share a receiver's lock while they run
its handler, and clearing the handler waits for all of them.
-/
namespace PartitionConsumer

/-- What a receiver calls: the bridge to a pump, which knows the receiver it was installed on, or a
recorder. -/
inductive Handler where
  | pump (pump receiver : Nat)
  | recorder (number : Nat)
  deriving DecidableEq, Repr, Inhabited

structure InstalledHandler where
  handler : Handler
  batchSize : Nat
  invokeOnEmpty : Bool
  deriving DecidableEq, Repr, Inhabited

structure Receiver where
  epoch : Nat
  handler : Option InstalledHandler := none
  lock : SharedLock := {}
  /-- While the gate is shut, a call that clears the handler does not go on to wait for deliveries. -/
  gateOpen : Bool := true
  prefetch : Option Nat := none
  timeout : Option Span := none
  tail : Option TailReport := none
  closeError : Option TransportError := none
  clearCalls : Nat := 0
  clearsDone : Nat := 0
  closeCalls : Nat := 0
  deriving Repr, Inhabited

namespace Receiver

/-- A delivery asks for its share of the lock; it looks for the handler when it has it. -/
def enterDelivery (r : Receiver) (id : Nat) : Receiver :=
  { r with lock := r.lock.request id .shared }

/-- A call or a wait gives up the lock, or its place in the queue for it. -/
def leave (r : Receiver) (id : Nat) : Receiver := { r with lock := r.lock.release id }

/-- Takes the handler out, before any wait. -/
def beginClear (r : Receiver) : Receiver :=
  { r with clearCalls := r.clearCalls + 1, handler := none }

/-- The gate is passed: the call now waits until no delivery runs. -/
def enterClear (r : Receiver) (id : Nat) : Receiver :=
  { r with lock := r.lock.request id .exclusive }

def endClear (r : Receiver) (id : Nat) : Receiver :=
  { r with clearsDone := r.clearsDone + 1, lock := r.lock.release id }

def isInside (r : Receiver) (id : Nat) : Bool := r.lock.isHeldBy id

/-- Closing is counted and fails if it was set to. -/
def close (r : Receiver) : Receiver × Except TransportError Unit :=
  ({ r with closeCalls := r.closeCalls + 1 },
    match r.closeError with
    | some e => .error e
    | none => .ok ())

@[simp] theorem handler_beginClear (r : Receiver) : r.beginClear.handler = none := rfl
@[simp] theorem handler_enterDelivery (r : Receiver) (id : Nat) :
    (r.enterDelivery id).handler = r.handler := rfl
@[simp] theorem handler_leave (r : Receiver) (id : Nat) : (r.leave id).handler = r.handler := rfl

end Receiver

structure Client where
  closeCalls : Nat := 0
  closeError : Option TransportError := none
  deriving Repr, Inhabited

def Client.close (c : Client) : Client × Except TransportError Unit :=
  ({ c with closeCalls := c.closeCalls + 1 },
    match c.closeError with
    | some e => .error e
    | none => .ok ())

end PartitionConsumer
