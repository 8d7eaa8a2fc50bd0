import PartitionConsumer.Event
import PartitionConsumer.Log
/-!
Fan-out of events to subscribers. Each subscriber has a bounded queue of its own, so a slow one loses
events without holding up the publisher or the other subscribers.
-/
namespace PartitionConsumer

/-- A subscriber's queue; `waiting` are the accepted events that it has not taken yet. -/
structure Subscriber where
  name : String
  capacity : Nat
  waiting : List NumberedEvent := []
  closed : Bool := false
  deriving Repr, Inhabited

inductive Offer where
  | accepted
  | full
  | closed
  deriving DecidableEq, Repr, Inhabited

namespace Subscriber

/-- A queue holds at least one event. -/
def room (s : Subscriber) : Nat := max s.capacity 1

def verdict (s : Subscriber) : Offer :=
  if s.closed then .closed else if s.room ≤ s.waiting.length then .full else .accepted

/-- The queue after an event was offered: it is added at the end if there is room. -/
def offer (s : Subscriber) (e : NumberedEvent) : Subscriber :=
  if s.verdict = .accepted then { s with waiting := s.waiting ++ [e] } else s

/-- The oldest waiting event, and the queue without it. -/
def take? (s : Subscriber) : Option (NumberedEvent × Subscriber) :=
  match s.waiting with
  | [] => none
  | e :: rest => some (e, { s with waiting := rest })

/-- No further event is accepted; those that wait are still taken. -/
def close (s : Subscriber) : Subscriber := { s with closed := true }

def dropRecord? (s : Subscriber) (e : NumberedEvent) : Option LogRecord :=
  let fields := [("subscriber", .text s.name), ("seq", .number e.number)]
  match s.verdict with
  | .accepted => none
  | .full => some { level := .warn, message := "subscriber queue full, event dropped", fields }
  | .closed => some { level := .warn, message := "subscriber queue closed, event dropped", fields }

/-- The record of a subscriber that failed on an event, with the text of its failure. -/
def panicRecord (s : Subscriber) (e : NumberedEvent) (text : String) : LogRecord where
  level := .error
  message := "subscriber panicked"
  fields := [("subscriber", .text s.name), ("seq", .number e.number), ("panic", .text text)]

/-- An event is accepted exactly if the queue is open and not full. -/
theorem verdict_eq_accepted_iff (s : Subscriber) :
    s.verdict = .accepted ↔ s.closed = false ∧ s.waiting.length < s.room := by
  unfold verdict
  cases s.closed <;> simp

theorem waiting_offer (s : Subscriber) (e : NumberedEvent) :
    (s.offer e).waiting = if s.verdict = .accepted then s.waiting ++ [e] else s.waiting := by
  unfold offer
  split <;> rfl

@[simp] theorem capacity_offer (s : Subscriber) (e : NumberedEvent) :
    (s.offer e).capacity = s.capacity := by
  unfold offer
  split <;> rfl

@[simp] theorem closed_offer (s : Subscriber) (e : NumberedEvent) : (s.offer e).closed = s.closed := by
  unfold offer
  split <;> rfl

@[simp] theorem room_offer (s : Subscriber) (e : NumberedEvent) : (s.offer e).room = s.room := by
  unfold offer
  split <;> rfl

/-- A queue never grows beyond its room. -/
theorem length_offer_le (s : Subscriber) (e : NumberedEvent) (h : s.waiting.length ≤ s.room) :
    (s.offer e).waiting.length ≤ (s.offer e).room := by
  rw [room_offer, waiting_offer]
  split
  · rename_i hv
    have := ((verdict_eq_accepted_iff s).1 hv).2
    rw [List.length_append, List.length_singleton]
    omega
  · exact h

end Subscriber

/-- Offers an event to every subscriber, and records those that did not get it. -/
def emit (subscribers : List Subscriber) (e : NumberedEvent) : List Subscriber × List LogRecord :=
  (subscribers.map (·.offer e), subscribers.filterMap (·.dropRecord? e))

def lagRecord (skipped : Nat) : LogRecord where
  level := .warn
  message := "subscriber listener lagged behind the bus"
  fields := [("skipped", .number skipped)]

/-- How an event reads as a log record. Partition and reason are always there; the other particulars
only where the kind of event sets them. -/
def eventRecord (e : Event) : LogRecord :=
  let name := LogValue.text (e.partition.getD "-")
  let partition := ("partition", name)
  let client := ("client", name)
  let reason := ("reason", LogValue.text (e.reason.getD ""))
  let attempt := ("attempt", LogValue.text (optionalText e.attempt))
  let epoch := ("epoch", LogValue.text (optionalText e.epoch))
  let count := ("count", LogValue.text (optionalText e.count))
  match e.kind with
  | .pumpOpening => ⟨.info, "pump opening", [partition, epoch]⟩
  | .openAttemptFailed => ⟨.warn, "open attempt failed", [partition, attempt, epoch, reason]⟩
  | .pumpRunning => ⟨.info, "pump running", [partition, attempt, epoch]⟩
  | .openFailed => ⟨.warn, "open failed", [partition, reason]⟩
  | .pumpErrored => ⟨.warn, "pump errored", [partition, reason]⟩
  | .pumpClosing => ⟨.info, "pump closing", [partition, reason]⟩
  | .pumpClosed => ⟨.info, "pump closed", [partition]⟩
  | .teardownFault => ⟨.warn, "teardown fault", [partition, reason]⟩
  | .batchDelivered => ⟨.debug, "batch delivered", [partition, count]⟩
  | .renewalFired => ⟨.debug, "renewal fired", [client, reason]⟩
  | .renewalStopped => ⟨.info, "renewal stopped", [client, reason]⟩

end PartitionConsumer
