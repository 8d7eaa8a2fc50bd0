import PartitionConsumer.Pump.Opening
import PartitionConsumer.Pump.Delivery
/-!
How waiting calls go on: what each is told by the pump's own state and the clock, how it resumes, and
what becomes of the pump when a waiting call is dropped.
-/
namespace PartitionConsumer

namespace Call

def isOpening : Call → Bool
  | .start _ => true
  | _ => false

/-- The attempt whose creation step the call waits in. -/
def attempt? : Call → Option Attempt
  | .start (.client a) | .start (.receiver a _) => some a
  | _ => none

/-- Whether a creation step is to be given up because its attempt is cancelled. -/
def isInterrupted (c : Call) (p : Pump) : Bool :=
  match c.attempt? with
  | some a => p.isCancelled a.number
  | none => false

def isExpired (c : Call) (now : Nat) : Bool :=
  match c.attempt? with
  | some { deadline := some tick, .. } => tick ≤ now
  | _ => false

/-- What the pump's own state or the clock tells a call that waits for no request. -/
def ownAnswer? (c : Call) (p : Pump) (now : Nat) : Option Answer :=
  match c with
  | .start (.clientReady ..) | .start (.receiverReady ..) => some .resume
  | .start (.backoff _ wake) =>
    if p.stopping then some .cancelled else if wake ≤ now then some .elapsed else none
  | .shutdown ticket _ .queued =>
    if p.once.done || p.once.isTurnOf ticket then some .turn else none
  | .shutdown _ _ (.settling wake) =>
    if p.phase != .opening then some .settled else if wake ≤ now then some .elapsed else none
  | _ => none

def timer? : Call → Option Nat
  | .start (.client a) | .start (.receiver a _) => a.deadline
  | .start (.backoff _ wake) | .shutdown _ _ (.settling wake) => some wake
  | _ => none

/-- The connections whose receiver the call keeps alive. -/
def holds? : Call → Option Connection
  | .start (.release r _) | .shutdown _ _ (.release r) => some r.connection
  | .start (.receiverReady _ client (.ok receiver)) => some ⟨client, receiver⟩
  | _ => none

end Call

namespace Pump

/-- A waiting call is told an answer and runs to its next wait. Nothing happens if it does not wait for
such an answer. -/
def resume (p : Pump) (now : Nat) : Call → Answer → Option Move
  | .start stage, answer => p.resumeStart now stage answer
  | .shutdown ticket reason stage, answer => p.resumeShutdown now ticket reason stage answer
  | .deliver stage, answer => p.resumeDelivery stage answer
  | .report ticket, .hook _ => some (p.beginShutdown now ticket .shutdown)
  | .report _, _ => none

/-- A waiting call is dropped: an opening call counts as settled, and a shutdown call gives its turn
to the next one. -/
def abandon (p : Pump) : Call → Pump
  | .start _ => p.settle
  | .shutdown ticket _ _ => { p with once := p.once.leave ticket }
  | .deliver _ | .report _ => p

end Pump
end PartitionConsumer
