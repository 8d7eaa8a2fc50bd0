import PartitionConsumer.Pump.Basic
/-!
Calls on a pump in progress. A call runs until it has to wait; what it waits for and how it will go on
is its stage. Between two waits of a call nothing else happens.
-/
namespace PartitionConsumer

structure Attempt where
  number : Nat
  /-- Where reading is to start. -/
  cursor : Cursor
  /-- The lease's epoch when the attempt began. -/
  epoch : Nat
  /-- The tick by which both of its steps have to be done. -/
  deadline : Option Nat
  deriving DecidableEq, Repr, Inhabited

inductive AttemptFailure where
  | cancelled
  | failed (error : TransportError)
  deriving DecidableEq, Repr, Inhabited

inductive ReleaseStep where
  | clearHandler
  | closeReceiver
  | closeClient
  deriving DecidableEq, Repr, Inhabited

structure Release where
  connection : Connection
  step : ReleaseStep
  deriving DecidableEq, Repr, Inhabited

inductive OpenStage where
  /-- In the opening hook. -/
  | onOpen
  /-- In the error hook, which is told that the opening hook failed. -/
  | refused (error : ProcessorError)
  /-- In the closing hook, which shutdown has left to this call. -/
  | lateClose
  | client (attempt : Attempt)
  /-- The transport has answered, and the call has not looked yet. -/
  | clientReady (attempt : Attempt) (answer : Except TransportError Nat)
  | receiver (attempt : Attempt) (client : Nat)
  | receiverReady (attempt : Attempt) (client : Nat) (answer : Except TransportError Nat)
  /-- While the client of a failed attempt is closed. -/
  | abandon (attempt : Attempt) (failure : AttemptFailure)
  /-- Between two attempts. -/
  | backoff (attempt : Attempt) (wake : Nat)
  /-- In the error hook, which is told that the open failed. -/
  | failed (error : OpenError)
  /-- While a connection is released; `closing` if this call then closes the pump. -/
  | release (r : Release) (closing : Bool)
  deriving Repr, Inhabited

inductive ShutdownStage where
  /-- For its turn to run the procedure, or for its end. -/
  | queued
  /-- For the open to settle, or for the grace to run out. -/
  | settling (wake : Nat)
  | release (r : Release)
  /-- In the closing hook. -/
  | onClose
  deriving DecidableEq, Repr, Inhabited

inductive DeliveryStage where
  /-- In the batch hook. -/
  | onEvents (count : Nat)
  /-- In the error hook, which is told that the batch hook failed. -/
  | onError
  deriving DecidableEq, Repr, Inhabited

inductive Call where
  | start (stage : OpenStage)
  | shutdown (ticket : Nat) (reason : CloseReason) (stage : ShutdownStage)
  | deliver (stage : DeliveryStage)
  /-- The deferred part of a receiver's failure: the error hook, and then a shutdown. -/
  | report (ticket : Nat)
  deriving Repr, Inhabited

inductive Answer where
  /-- A hook has returned. -/
  | hook (outcome : Except ProcessorError Unit)
  | client (outcome : Except TransportError Nat)
  | receiver (outcome : Except TransportError Nat)
  /-- A handler was cleared, or a receiver or client closed. -/
  | released (outcome : Except TransportError Unit)
  /-- The attempt, or the wait for the next one, is cancelled. -/
  | cancelled
  /-- The attempt has reached its deadline. -/
  | timedOut
  /-- A wait is over. -/
  | elapsed
  /-- The open has settled. -/
  | settled
  /-- The caller's turn has come, or nobody has to wait any more. -/
  | turn
  /-- The call may look at an answer that is there. -/
  | resume
  deriving Repr, Inhabited

inductive Next where
  /-- It waits for the answer to a request. -/
  | ask (request : Request) (call : Call)
  /-- It waits for the pump's own state or for the clock. -/
  | wait (call : Call)
  /-- It has returned. -/
  | finish
  /-- It has died: a time could not be computed. -/
  | crash
  deriving Repr, Inhabited

/-- The pump after a call has run to its next wait, and that wait. -/
abbrev Move := Pump × Next

namespace Pump

def ask (p : Pump) (r : Request) (c : Call) : Move := (p.tell (.ask r), .ask r c)

end Pump

namespace Release

def start (c : Connection) : Release := ⟨c, .clearHandler⟩

def request (r : Release) : Request :=
  match r.step with
  | .clearHandler => .clearHandler r.connection.receiver
  | .closeReceiver => .closeReceiver r.connection.receiver
  | .closeClient => .closeClient r.connection.client

def stepText : ReleaseStep → String
  | .clearHandler => "clearing receive handler"
  | .closeReceiver => "closing receiver"
  | .closeClient => "closing client"

/-- The next step, if any is left: the handler is cleared, then the receiver closed, then the
client. -/
def next? (r : Release) : Option Release :=
  match r.step with
  | .clearHandler => some { r with step := .closeReceiver }
  | .closeReceiver => some { r with step := .closeClient }
  | .closeClient => none

end Release

namespace Pump

/-- A fault of a step of the release is logged and published, and goes no further. -/
def noteFault (p : Pump) (r : Release) (outcome : Except TransportError Unit) : Pump :=
  match outcome with
  | .ok () => p
  | .error e =>
    let step := Release.stepText r.step
    (p.log .warn "teardown step failed" [("step", .text step), ("error", .text e.message)]).publish
      { kind := .teardownFault, reason := step ++ ": " ++ e.message }

end Pump
end PartitionConsumer
