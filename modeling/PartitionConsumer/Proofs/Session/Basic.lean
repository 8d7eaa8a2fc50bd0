import PartitionConsumer.Pump.Resume
/-!
# Sessions

One pump among its callers. A session holds the pump, the calls that wait and what each of them waits
for, and the failures handed to the executor. Whatever the surroundings do next is a cause: a call that
begins, an answer, a timer, a dropped call. Any order of causes is a run, as long as each of them is
possible when its turn comes, so a statement about all runs is one about every interleaving at the
points where calls wait, every outcome and duration of the hooks, and every behaviour of the transport.

The history keeps all that can be seen of a run, in order. Log records are left out of it.
-/
namespace PartitionConsumer

inductive Errand where
  | start
  | shutdown (reason : CloseReason)
  | delivery (batch : Option Batch)
  | failure (error : TransportError)
  /-- The deferred part of a failure. -/
  | report (error : TransportError)
  deriving DecidableEq, Repr, Inhabited

/-- A call that waits: for the answer to a request, or for the pump's own state and the clock. -/
structure Waiting where
  errand : Errand
  call : Call
  request : Option Request := none
  deriving Repr, Inhabited

/-- One thing that can be seen of a run. The number is that of the call it belongs to. -/
inductive Mark where
  | began (id : Nat) (errand : Errand)
  | did (id : Nat) (effect : Effect)
  | told (id : Nat) (waiting : Waiting) (answer : Answer)
  | returned (id : Nat) (errand : Errand)
  /-- The call has died or was dropped. -/
  | lost (id : Nat) (errand : Errand)
  /-- Time has passed. -/
  | passed (ticks : Nat)
  deriving Repr, Inhabited

inductive Cause where
  | start
  | shutdown (reason : CloseReason)
  /-- The pump's handler is called with a batch; the receiver may report on the partition's tail. -/
  | deliver (report : Option TailReport) (batch : Option Batch)
  /-- The pump's handler is called with a failure of the receiver. -/
  | fail (error : TransportError)
  /-- The executor runs one of the deferred tasks it holds. -/
  | report (n : Nat)
  /-- The executor gives up a deferred task, or the pump was gone when it ran it. -/
  | discard (n : Nat)
  /-- A request is answered. -/
  | answer (id : Nat) (answer : Answer)
  /-- A call that waits for no request goes on. -/
  | wake (id : Nat)
  /-- The caller drops a call that waits. -/
  | drop (id : Nat)
  /-- The lease store raises the lease's epoch. -/
  | bump
  | pass (ticks : Nat)
  deriving Repr, Inhabited

def Cause.isDrop : Cause → Bool
  | .drop _ => true
  | _ => false

namespace Effect

def isShown : Effect → Bool
  | .log _ => false
  | _ => true

def deferred? : Effect → Option TransportError
  | .defer e => some e
  | _ => none

end Effect

namespace Pump

def new (context : Context) (lease : Lease) (options : Options) (wire : String) (draw : Nat → Nat) :
    Pump :=
  { context, lease, options, wire, draw }

/-- The effects of the trace that a history keeps. -/
def shown (p : Pump) : List Effect := p.trace.filter Effect.isShown

def untraced (p : Pump) : Pump := { p with trace := [] }

theorem build_eq_ok {context : Context} {lease : Lease} {options : Options} {executor : Bool}
    {wire : String} {p : Pump} (h : build context lease options executor wire = .ok p) :
    p = new context lease options wire fun _ => 0 := by
  unfold build at h
  cases hv : options.validate with
  | error e => simp [hv, bind, Except.bind] at h
  | ok _ =>
    cases executor with
    | false => simp [hv, bind, Except.bind] at h
    | true => simp [hv, bind, Except.bind, pure, Except.pure] at h; exact h.symm

end Pump

namespace Waiting

/-- Whether the request can be answered in this way now. A creation step looks at its token first: once
the attempt is cancelled it is told nothing else, and it runs into its deadline only if it was not
answered before. -/
def admits (w : Waiting) (p : Pump) (now : Nat) (a : Answer) : Bool :=
  match w.request, a with
  | some (.hook _), .hook _ => true
  | some .createClient, .client _ => !w.call.isInterrupted p
  | some (.createReceiver ..), .receiver _ => !w.call.isInterrupted p
  | some .createClient, .cancelled => w.call.isInterrupted p
  | some (.createReceiver ..), .cancelled => w.call.isInterrupted p
  | some .createClient, .timedOut => !w.call.isInterrupted p && w.call.isExpired now
  | some (.createReceiver ..), .timedOut => !w.call.isInterrupted p && w.call.isExpired now
  | some (.clearHandler _), .released _ => true
  | some (.closeReceiver _), .released _ => true
  | some (.closeClient _), .released _ => true
  | _, _ => false

/-- What a call is on after it was told an answer: the deferred part of a failure goes on as a
shutdown. -/
def goesOn (w : Waiting) : Errand :=
  match w.call with
  | .report _ => .shutdown .shutdown
  | _ => w.errand

def marks (w : Waiting) (id : Nat) (a : Answer) : List Mark :=
  match w.call with
  | .report _ => [.told id w a, .began id (.shutdown .shutdown)]
  | _ => [.told id w a]

end Waiting

namespace Next

/-- Only a call that opens the pump can die, and then the open counts as settled. -/
def leave : Next → Pump → Pump
  | .crash, p => p.settle
  | _, p => p

def waiting? (errand : Errand) : Next → Option Waiting
  | .ask request call => some { errand, call, request }
  | .wait call => some { errand, call }
  | .finish | .crash => none

def marks (id : Nat) (errand : Errand) : Next → List Mark
  | .finish => [.returned id errand]
  | .crash => [.lost id errand]
  | _ => []

end Next

structure Session where
  pump : Pump
  now : Nat := 0
  /-- The calls in progress, by their numbers. -/
  calls : List (Nat × Waiting) := []
  /-- Failures handed to the executor whose deferred part has not begun. -/
  deferred : List TransportError := []
  next : Nat := 0
  history : List Mark := []
  deriving Inhabited

namespace Session

def note (s : Session) (ms : List Mark) : Session := { s with history := s.history ++ ms }

def call? (s : Session) (id : Nat) : Option Waiting := s.calls.lookup id

def take (s : Session) (id : Nat) : Session := { s with calls := s.calls.eraseP (·.1 == id) }

def forget (s : Session) (n : Nat) : Session := { s with deferred := s.deferred.eraseIdx n }

/-- The session after a call has come to its next wait or its end: the pump is `p`, and `es` was shown
on the way. -/
def carry (s : Session) (id : Nat) (errand : Errand) (p : Pump) (es : List Effect) (next : Next) :
    Session :=
  { s with
    pump := next.leave p
    calls := (next.waiting? errand).toList.map (id, ·) ++ s.calls
    deferred := s.deferred ++ es.filterMap Effect.deferred?
    history := s.history ++ es.map (.did id) ++ next.marks id errand }

def move (s : Session) (id : Nat) (errand : Errand) (m : Move) : Session :=
  s.carry id errand m.1.untraced m.1.shown m.2

def begin (s : Session) (errand : Errand) : Session :=
  { s with next := s.next + 1 }.note [.began s.next errand]

def tell? (s : Session) (id : Nat) (w : Waiting) (a : Answer) : Option Session :=
  (s.pump.resume s.now w.call a).map fun m => ((s.take id).note (w.marks id a)).move id w.goesOn m

def step? (s : Session) : Cause → Option Session
  | .start => some ((s.begin .start).move s.next .start s.pump.beginStart)
  | .shutdown reason =>
    some ((s.begin (.shutdown reason)).move s.next (.shutdown reason)
      (s.pump.beginShutdown s.now s.next reason))
  | .deliver report batch =>
    some ((s.begin (.delivery batch)).move s.next (.delivery batch) (s.pump.receive report batch))
  | .fail e =>
    some ((s.begin (.failure e)).move s.next (.failure e) (s.pump.receiverFailed e, .finish))
  | .report n =>
    s.deferred[n]?.map fun e =>
      ((s.forget n).begin (.report e)).move s.next (.report e) (s.pump.beginReport s.next e)
  | .discard n => if n < s.deferred.length then some (s.forget n) else none
  | .answer id a =>
    (s.call? id).bind fun w => if w.admits s.pump s.now a then s.tell? id w a else none
  | .wake id =>
    (s.call? id).bind fun w =>
      if w.request.isNone then (w.call.ownAnswer? s.pump s.now).bind (s.tell? id w) else none
  | .drop id =>
    (s.call? id).map fun w =>
      { s.take id with pump := s.pump.abandon w.call }.note [.lost id w.errand]
  | .bump => some { s with pump := { s.pump with lease := s.pump.lease.bump } }
  | .pass ticks => some ({ s with now := s.now + ticks }.note [.passed ticks])

def run (s : Session) : List Cause → Option Session
  | [] => some s
  | c :: cs => (s.step? c).bind fun t => t.run cs

def new (p : Pump) : Session := { pump := p }

def sample : Session :=
  new (.new ⟨"h", "g", "0", some (.timestamp ⟨0⟩), none⟩ ⟨"0", "h", 1⟩ {} "mock" fun _ => 0)

/-- What brings a pump with the default options to run. -/
def opening : List Cause :=
  [.start, .answer 0 (.hook (.ok ())), .answer 0 (.client (.ok 0)), .wake 0,
    .answer 0 (.receiver (.ok 0)), .wake 0]

end Session
end PartitionConsumer
