import PartitionConsumer.Options
import PartitionConsumer.Partition
import PartitionConsumer.Event
import PartitionConsumer.Log
import PartitionConsumer.Text.Quoted
import PartitionConsumer.Sync.Once
import PartitionConsumer.Pump.AttemptSlot
/-!
The state of a pump: one partition's connection from its opening to its end. All that a pump does to
its surroundings is written to its trace, in order.
-/
namespace PartitionConsumer

inductive Status where
  | uninitialized
  | opening
  | openFailed
  | running
  | errored
  | closing
  | closed
  deriving DecidableEq, Repr, Inhabited

namespace Status

def label : Status → String
  | .uninitialized => "uninitialized"
  | .opening => "opening"
  | .openFailed => "open_failed"
  | .running => "running"
  | .errored => "errored"
  | .closing => "closing"
  | .closed => "closed"

def name : Status → String
  | .uninitialized => "Uninitialized"
  | .opening => "Opening"
  | .openFailed => "OpenFailed"
  | .running => "Running"
  | .errored => "Errored"
  | .closing => "Closing"
  | .closed => "Closed"

def isClosingOrClosed : Status → Bool
  | .closing | .closed => true
  | _ => false

def all : List Status :=
  [.uninitialized, .opening, .openFailed, .running, .errored, .closing, .closed]

theorem mem_all (s : Status) : s ∈ all := by cases s <;> decide

end Status

inductive CloseReason where
  | leaseLost
  | shutdown
  deriving DecidableEq, Repr, Inhabited

def CloseReason.label : CloseReason → String
  | .leaseLost => "lease_lost"
  | .shutdown => "shutdown"

def CloseReason.isShutdown (r : CloseReason) : Bool := r == .shutdown

inductive OpenPhase where
  | idle
  | opening
  | settled
  deriving DecidableEq, Repr, Inhabited

/-- An open connection, by the transport's numbers for its two halves. -/
structure Connection where
  client : Nat
  receiver : Nat
  deriving DecidableEq, Repr, Inhabited

inductive HookCall where
  | onOpen
  | onEvents (batch : Batch)
  | onError (error : PumpError)
  | onClose (reason : CloseReason)
  deriving DecidableEq, Repr, Inhabited

structure ReceiverRequest where
  group : String
  partition : String
  cursor : Cursor
  epoch : Nat
  metrics : Bool
  identifier : Option String
  deriving DecidableEq, Repr, Inhabited

/-- What a pump asks of its surroundings and waits for. -/
inductive Request where
  | hook (call : HookCall)
  | createClient
  | createReceiver (client : Nat) (request : ReceiverRequest)
  | clearHandler (receiver : Nat)
  | closeReceiver (receiver : Nat)
  | closeClient (client : Nat)
  deriving DecidableEq, Repr, Inhabited

inductive Effect where
  /-- The status was set. -/
  | status (s : Status)
  | publish (e : Event)
  | log (r : LogRecord)
  /-- A request was made; its answer is awaited. -/
  | ask (r : Request)
  /-- Prefetch depth and receive timeout were set on a receiver. -/
  | tune (receiver : Nat) (prefetch : Nat) (timeout : Span)
  /-- The pump's handler was installed on a receiver. -/
  | install (receiver : Nat)
  /-- A receiver's failure was handed to the executor, to be dealt with outside the delivery. -/
  | defer (e : TransportError)
  deriving DecidableEq, Repr, Inhabited

structure Pump where
  context : Context
  lease : Lease
  options : Options
  /-- The transport's name for itself. -/
  wire : String := ""
  /-- The random source: the draw for the wait after each failed attempt. -/
  draw : Nat → Nat := fun _ => 0
  status : Status := .uninitialized
  phase : OpenPhase := .idle
  /-- Shutdown has been requested; from then on no attempt goes on. -/
  stopping : Bool := false
  attempts : AttemptSlot := {}
  /-- The shutdown procedure and the callers that wait for it. -/
  once : Once := {}
  /-- The opening hook has succeeded. -/
  opened : Bool := false
  /-- The reason with which shutdown has gone past the closing hook. -/
  passed : Option CloseReason := none
  connection : Option Connection := none
  trace : List Effect := []
  deriving Inhabited

namespace Pump

/-- A pump that has not been opened. Its options must hold together, and there must be an executor for
the deferred part of failures. -/
def build (context : Context) (lease : Lease) (options : Options) (executor : Bool)
    (wire : String) : Except ConfigError Pump := do
  options.validate
  if executor then return { context, lease, options, wire } else throw .noExecutor

def host (p : Pump) : String := p.context.host

def partition (p : Pump) : String := p.context.partition

def isRunning (p : Pump) : Bool := p.status == .running

def text (p : Pump) : String :=
  "PartitionPump \x7b host: " ++ quoted p.host ++ ", partition: " ++ quoted p.partition
    ++ ", status: " ++ p.status.name ++ " \x7d"

def tell (p : Pump) (e : Effect) : Pump := { p with trace := p.trace ++ [e] }

def setStatus (p : Pump) (s : Status) : Pump := { p with status := s }.tell (.status s)

def publish (p : Pump) (e : Event) : Pump := p.tell (.publish { e with partition := p.partition })

/-- Logs a record that begins with the pump's host and partition. -/
def log (p : Pump) (level : LogLevel) (message : String) (fields : List (String × LogValue)) : Pump :=
  p.tell (.log
    { level, message,
      fields := [("host", .text p.host), ("partition", .text p.partition)] ++ fields })

/-- Whether the token of an attempt is cancelled: its own was, or the pump is shutting down. -/
def isCancelled (p : Pump) (attempt : Nat) : Bool := p.stopping || p.attempts.isRevoked attempt

/-- The call that opens the pump has come to its end, however it did. -/
def settle (p : Pump) : Pump := { p with phase := .settled }

def markClosed (p : Pump) : Pump :=
  ((p.setStatus .closed).log .info "pump closed" []).publish { kind := .pumpClosed }

@[simp] theorem status_tell (p : Pump) (e : Effect) : (p.tell e).status = p.status := rfl
@[simp] theorem status_setStatus (p : Pump) (s : Status) : (p.setStatus s).status = s := rfl
@[simp] theorem status_publish (p : Pump) (e : Event) : (p.publish e).status = p.status := rfl
@[simp] theorem status_log (p : Pump) (l : LogLevel) (m : String) (fs : List (String × LogValue)) :
    (p.log l m fs).status = p.status := rfl
@[simp] theorem status_settle (p : Pump) : p.settle.status = p.status := rfl
@[simp] theorem status_markClosed (p : Pump) : p.markClosed.status = .closed := rfl
@[simp] theorem trace_tell (p : Pump) (e : Effect) : (p.tell e).trace = p.trace ++ [e] := rfl
@[simp] theorem trace_settle (p : Pump) : p.settle.trace = p.trace := rfl

end Pump
end PartitionConsumer
