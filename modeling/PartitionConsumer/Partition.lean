import PartitionConsumer.Time
/-!
What is known of one partition: the lease on it, whose epoch fences off earlier holders, the position
to start reading from, and the last report on the partition's tail.
-/
namespace PartitionConsumer

/-- Ownership of a partition, as the lease store and a pump share it. -/
structure Lease where
  partition : String
  owner : String
  epoch : Nat
  deriving DecidableEq, Repr, Inhabited

namespace Lease

/-- Raises the epoch by one, as a takeover does. -/
def bump (l : Lease) : Lease := { l with epoch := l.epoch + 1 }

/-- Puts down the epoch that was used on the wire, whatever it was before. -/
def stamp (l : Lease) (epoch : Nat) : Lease := { l with epoch }

@[simp] theorem epoch_bump (l : Lease) : l.bump.epoch = l.epoch + 1 := rfl
@[simp] theorem epoch_stamp (l : Lease) (e : Nat) : (l.stamp e).epoch = e := rfl

end Lease
inductive Cursor where
  | token (position : String)
  | timestamp (time : Stamp)
  deriving DecidableEq, Repr, Inhabited

def Cursor.text : Cursor → String
  | .token t => "token:" ++ t
  | .timestamp t => "timestamp:" ++ t.text

structure TailReport where
  partition : String
  lastSequence : Int
  lastOffset : String
  lastEnqueued : Stamp
  retrieved : Stamp
  deriving DecidableEq, Repr, Inhabited

structure Context where
  host : String
  group : String
  partition : String
  cursor : Option Cursor
  tail : Option TailReport := none
  deriving DecidableEq, Repr, Inhabited

/-- The identifier a receiver of this partition is created under. -/
def Context.receiverName (c : Context) : String := c.host ++ "-" ++ c.partition

end PartitionConsumer
