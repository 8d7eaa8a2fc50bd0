import PartitionConsumer.Proofs.Session.Turns
import PartitionConsumer.Transport.Scripted
/-!
# Benches

A session on the in-memory transport. What the pump does to the transport is carried out at once, and
the answers the pump gets are those the transport gives: a creation call makes a client or a receiver,
or fails; a handler counts as cleared when no delivery is left inside. Deliveries come from outside, at
any time and on any receiver, and reach the pump only through the handler they find.

A stimulus is whatever happens next. The surroundings choose its outcome freely, so every script of the
transport, and every transport that wraps it and adds errors or delays, is among the runs.
-/
namespace PartitionConsumer

inductive Parcel where
  | batch (messages : Option Batch)
  | failure (error : TransportError)
  deriving DecidableEq, Repr, Inhabited

/-- A delivery from outside, from its asking for the receiver's lock to its giving it up. -/
structure Visit where
  ticket : Nat
  receiver : Nat
  parcel : Parcel
  /-- The call on the pump it has made. -/
  call : Option Nat := none
  deriving DecidableEq, Repr, Inhabited

/-- A call that clears a handler and has passed the gate. -/
structure Drain where
  call : Nat
  receiver : Nat
  ticket : Nat
  deriving DecidableEq, Repr, Inhabited

inductive Stimulus where
  /-- Something that does not concern the transport. -/
  | own (cause : Cause)
  /-- A creation call is answered. -/
  | create (id : Nat) (error : Option TransportError)
  /-- The closing of a receiver or a client returns. -/
  | close (id : Nat) (error : Option TransportError)
  /-- A call that clears a handler passes the gate. -/
  | pass (id : Nat)
  /-- A call that clears a handler returns. -/
  | drain (id : Nat) (error : Option TransportError)
  /-- A delivery asks for its share of a receiver's lock. -/
  | arrive (receiver : Nat) (parcel : Parcel)
  /-- A delivery that has its share looks for the handler. -/
  | enter (ticket : Nat) (report : Option TailReport)
  /-- A delivery whose call has returned gives its share up. -/
  | leave (ticket : Nat)
  | gate (receiver : Nat) (isOpen : Bool)
  deriving Repr, Inhabited

/-- Whether the cause concerns neither the transport nor a dropped call. -/
def Cause.isOwn : Cause → Bool
  | .start | .shutdown _ | .report _ | .discard _ | .wake _ | .bump | .pass _ => true
  | .answer _ (.hook _) | .answer _ .cancelled | .answer _ .timedOut => true
  | _ => false

theorem Cause.isDrop_of_isOwn {c : Cause} (h : c.isOwn = true) : c.isDrop = false := by
  cases c <;> first | rfl | cases h

theorem Cause.ne_released_of_isOwn {c : Cause} (h : c.isOwn = true) (id : Nat)
    (outcome : Except TransportError Unit) : c ≠ .answer id (.released outcome) := by
  rintro rfl
  cases h

theorem Cause.ne_deliver_of_isOwn {c : Cause} (h : c.isOwn = true) (report : Option TailReport)
    (batch : Option Batch) : c ≠ .deliver report batch := by
  rintro rfl
  cases h

namespace Transport

def perform (o : Options) (t : Transport) : Effect → Transport
  | .tune r prefetch timeout =>
    t.modifyReceiver r fun receiver =>
      { receiver with prefetch := some prefetch, timeout := some timeout }
  | .install r =>
    t.modifyReceiver r fun receiver =>
      { receiver with handler := some ⟨.pump 0 r, o.maxBatchSize, o.invokeOnEmpty⟩ }
  | .ask .createClient => t.callClient.2
  | .ask (.createReceiver _ request) => (t.callReceiver request).2
  | .ask (.clearHandler r) => t.modifyReceiver r (·.beginClear)
  | .ask (.closeReceiver r) => (t.closeReceiver r).1
  | .ask (.closeClient c) => (t.closeClient c).1
  | _ => t

end Transport

structure Bench where
  session : Session
  transport : Transport := {}
  visits : List Visit := []
  drains : List Drain := []
  next : Nat := 0
  deriving Inhabited

namespace Bench

/-- The session goes on, and the transport follows. -/
def follow? (b : Bench) (c : Cause) : Option Bench :=
  (b.session.step? c).map fun t =>
    { b with
      session := t
      transport := (effects (t.history.drop b.session.history.length)).foldl
        (Transport.perform t.pump.options) b.transport }

def outcome : Option TransportError → Except TransportError Unit
  | some e => .error e
  | none => .ok ()

def request? (b : Bench) (id : Nat) : Option Request := (b.session.call? id).bind (·.request)

def modify (b : Bench) (r : Nat) (f : Receiver → Receiver) : Bench :=
  { b with transport := b.transport.modifyReceiver r f }

def visit? (b : Bench) (ticket : Nat) : Option Visit := b.visits.find? (·.ticket == ticket)

def isInside (b : Bench) (r ticket : Nat) : Bool :=
  (b.transport.receivers[r]?).any (·.isInside ticket)

def depart (b : Bench) (v : Visit) : Bench :=
  { b.modify v.receiver (·.leave v.ticket) with
    visits := b.visits.filter (·.ticket != v.ticket) }

/-- The delivery has made the next call of the session. -/
def handIn (b : Bench) (v : Visit) : Bench :=
  { b with
    visits := { v with call := some b.session.next } :: b.visits.filter (·.ticket != v.ticket) }

/-- The transport answers a creation call: what it makes is new. -/
def create? (b : Bench) (id : Nat) (error : Option TransportError) : Option Bench :=
  match b.request? id, error with
  | some .createClient, some e => b.follow? (.answer id (.client (.error e)))
  | some .createClient, none =>
    { b with transport := b.transport.addClient.2 }.follow?
      (.answer id (.client (.ok b.transport.addClient.1)))
  | some (.createReceiver ..), some e => b.follow? (.answer id (.receiver (.error e)))
  | some (.createReceiver _ request), none =>
    { b with transport := (b.transport.addReceiver request.epoch).2 }.follow?
      (.answer id (.receiver (.ok (b.transport.addReceiver request.epoch).1)))
  | _, _ => none

/-- A delivery inside the lock hands its parcel to the handler, or finds none. -/
def enter? (b : Bench) (v : Visit) (report : Option TailReport) : Option Bench :=
  match (b.transport.receivers[v.receiver]?).bind (·.handler), v.parcel with
  | none, _ => some (b.depart v)
  | some _, .batch messages => (b.handIn v).follow? (.deliver report messages)
  | some _, .failure e => (b.depart v).follow? (.fail e)

def step? (b : Bench) : Stimulus → Option Bench
  | .own c => if c.isOwn then b.follow? c else none
  | .create id error => b.create? id error
  | .close id error =>
    match b.request? id with
    | some (.closeReceiver _) | some (.closeClient _) =>
      b.follow? (.answer id (.released (outcome error)))
    | _ => none
  | .pass id =>
    match b.request? id with
    | some (.clearHandler r) =>
      if (b.transport.receivers[r]?).any (·.gateOpen) && b.drains.all (·.call != id) then
        some { b.modify r (·.enterClear b.next) with
          drains := ⟨id, r, b.next⟩ :: b.drains, next := b.next + 1 }
      else none
    | _ => none
  | .drain id error =>
    (b.drains.find? (·.call == id)).bind fun d =>
      if b.isInside d.receiver d.ticket then
        { b.modify d.receiver (·.endClear d.ticket) with
          drains := b.drains.filter (·.call != id) }.follow? (.answer id (.released (outcome error)))
      else none
  | .arrive r parcel =>
    if r < b.transport.receivers.size then
      some { b.modify r (·.enterDelivery b.next) with
        visits := ⟨b.next, r, parcel, none⟩ :: b.visits, next := b.next + 1 }
    else none
  | .enter ticket report =>
    (b.visit? ticket).bind fun v =>
      if v.call.isNone && b.isInside v.receiver ticket then b.enter? v report else none
  | .leave ticket =>
    (b.visit? ticket).bind fun v =>
      match v.call with
      | some id => if (b.session.call? id).isNone then some (b.depart v) else none
      | none => none
  | .gate r isOpen => some (b.modify r fun receiver => { receiver with gateOpen := isOpen })

def run (b : Bench) : List Stimulus → Option Bench
  | [] => some b
  | x :: xs => (b.step? x).bind fun c => c.run xs

def new (p : Pump) : Bench := { session := .new p }

def sample : Bench :=
  new (.new ⟨"h", "g", "0", some (.timestamp ⟨0⟩), none⟩ ⟨"0", "h", 1⟩ {} "mock" fun _ => 0)

/-- What brings a pump with the default options to run. -/
def opening : List Stimulus :=
  [.own .start, .own (.answer 0 (.hook (.ok ()))), .create 0 none, .own (.wake 0), .create 0 none,
    .own (.wake 0)]

end Bench
end PartitionConsumer
