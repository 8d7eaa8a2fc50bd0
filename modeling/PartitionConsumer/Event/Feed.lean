import PartitionConsumer.Event
/-!
The event feed: every subscription reads all events sent after it began, in order, except that only
the latest events are kept. A reader that falls behind is told how many it missed.
-/
namespace PartitionConsumer

/-- A feed that keeps the last `capacity` events. `cursors` holds for each open subscription the
number of events that were sent before its next one. -/
structure Feed where
  capacity : Nat
  sent : Array NumberedEvent := #[]
  cursors : List (Nat × Nat) := []
  deriving Repr, Inhabited

inductive Received where
  | event (e : NumberedEvent)
  | lagged (missed : Nat)
  | empty
  | noSubscription
  deriving DecidableEq, Repr, Inhabited

def nextPowerOfTwo (n : Nat) : Nat := if n ≤ 1 then 1 else 1 <<< ((n - 1).log2 + 1)

theorem le_nextPowerOfTwo (n : Nat) : n ≤ nextPowerOfTwo n := by
  unfold nextPowerOfTwo
  split
  · assumption
  · have := Nat.lt_log2_self (n := n - 1)
    rw [Nat.one_shiftLeft]
    omega

namespace Feed

/-- A feed for at least `capacity` events; the room is rounded up to a power of two. -/
def ofCapacity (capacity : Nat) : Feed := { capacity := nextPowerOfTwo capacity }

def publish (f : Feed) (e : NumberedEvent) : Feed := { f with sent := f.sent.push e }

/-- Opens the subscription `id`, which sees what is sent from now on. -/
def subscribe (f : Feed) (id : Nat) : Feed := { f with cursors := f.cursors ++ [(id, f.sent.size)] }

def unsubscribe (f : Feed) (id : Nat) : Feed :=
  { f with cursors := f.cursors.filter fun c => c.1 != id }

def receiverCount (f : Feed) : Nat := f.cursors.length

/-- Puts the cursor of `id` before the event at `position`. -/
def moveCursor (f : Feed) (id position : Nat) : Feed :=
  { f with cursors := f.cursors.map fun c => if c.1 = id then (id, position) else c }

/-- How many of the events sent are no longer kept. -/
def forgotten (f : Feed) : Nat := f.sent.size - f.capacity

/-- The next thing subscription `id` finds, and the feed after it was taken. -/
def receive (f : Feed) (id : Nat) : Received × Feed :=
  match f.cursors.find? fun c => c.1 == id with
  | none => (.noSubscription, f)
  | some (_, position) =>
    if position < f.forgotten then
      (.lagged (f.forgotten - position), f.moveCursor id f.forgotten)
    else
      match f.sent[position]? with
      | some e => (.event e, f.moveCursor id (position + 1))
      | none => (.empty, f)

/-- Whether subscription `id` would find an event, or that it missed some. -/
def hasNews (f : Feed) (id : Nat) : Bool :=
  f.cursors.any fun c => c.1 == id && c.2 < f.sent.size

/-- All that subscription `id` finds until nothing is left, with at most `fuel` looks. -/
def drainFor : Nat → Feed → Nat → List Received × Feed
  | 0, f, _ => ([], f)
  | fuel + 1, f, id =>
    match f.receive id with
    | (.event e, f') =>
      let (rest, f'') := drainFor fuel f' id
      (.event e :: rest, f'')
    | (.lagged n, f') =>
      let (rest, f'') := drainFor fuel f' id
      (.lagged n :: rest, f'')
    | _ => ([], f)

/-- All that subscription `id` finds until nothing is left: at most one notice of missed events, and
the events kept. -/
def drain (f : Feed) (id : Nat) : List Received × Feed := drainFor (f.sent.size + 2) f id

@[simp] theorem sent_publish (f : Feed) (e : NumberedEvent) : (f.publish e).sent = f.sent.push e := rfl
@[simp] theorem sent_subscribe (f : Feed) (id : Nat) : (f.subscribe id).sent = f.sent := rfl
@[simp] theorem sent_moveCursor (f : Feed) (id n : Nat) : (f.moveCursor id n).sent = f.sent := rfl

/-- Reading changes no event. -/
@[simp] theorem sent_receive (f : Feed) (id : Nat) : (f.receive id).2.sent = f.sent := by
  unfold receive
  repeat' split
  all_goals rfl

end Feed
end PartitionConsumer
