import PartitionConsumer.Event.Feed
/-!
A feed that is used through handles. As long as one is left, events can be sent and subscriptions
opened; when the last is gone, a subscription that has read everything finds the feed closed.
-/
namespace PartitionConsumer

/-- A feed, its first handle and the copies of it. Subscriptions and events are numbered in the order
they are asked for. -/
structure HandledFeed where
  feed : Feed
  first : Bool := true
  copies : Nat := 0
  subscriptions : Nat := 0
  events : Nat := 0
  deriving Inhabited

inductive FeedRequest where
  | subscribe
  | publish (e : Event)
  /-- Sends so many events of a delivered batch, each with that number as its count; without a handle
  it does nothing. -/
  | publishMany (n : Nat)
  | receive (subscription : Nat)
  | unsubscribe (subscription : Nat)
  | copy
  | drop
  | dropCopy
  deriving Inhabited

inductive FeedReply where
  | done
  /-- No handle is left to send with. -/
  | noHandle
  | found (r : Received)
  /-- All has been read, and nothing can come any more. -/
  | closed
  deriving DecidableEq, Inhabited

namespace HandledFeed

def ofCapacity (capacity : Nat) : HandledFeed := { feed := .ofCapacity capacity }

def isOpen (f : HandledFeed) : Bool := f.first || 0 < f.copies

/-- The number of open subscriptions, as long as a handle is left to ask. -/
def receiverCount? (f : HandledFeed) : Option Nat :=
  if f.isOpen then some f.feed.receiverCount else none

def publish (f : HandledFeed) (e : Event) : HandledFeed :=
  { f with feed := f.feed.publish { e with number := f.events }, events := f.events + 1 }

def answer (f : HandledFeed) : FeedRequest → FeedReply × HandledFeed
  | .subscribe =>
    let feed := if f.isOpen then f.feed.subscribe f.subscriptions else f.feed
    (.done, { f with feed, subscriptions := f.subscriptions + 1 })
  | .publish e => if f.isOpen then (.done, f.publish e) else (.noHandle, f)
  | .publishMany n =>
    let events := List.replicate n { kind := .batchDelivered, count := n : Event }
    (.done, if f.isOpen then events.foldl publish f else f)
  | .receive i =>
    let (found, feed) := f.feed.receive i
    let reply := if found = .empty && !f.isOpen then .closed else .found found
    (reply, { f with feed })
  | .unsubscribe i => (.done, { f with feed := f.feed.unsubscribe i })
  | .copy => (.done, if f.isOpen then { f with copies := f.copies + 1 } else f)
  | .drop => (.done, { f with first := false })
  | .dropCopy => (.done, { f with copies := f.copies - 1 })

/-- Each request's answer, with the number of open subscriptions after it. -/
def run (f : HandledFeed) : List FeedRequest → List (FeedReply × Option Nat)
  | [] => []
  | r :: rest =>
    let (reply, f) := f.answer r
    (reply, f.receiverCount?) :: f.run rest

end HandledFeed
end PartitionConsumer
