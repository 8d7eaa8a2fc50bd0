import PartitionConsumer.Fanout
import PartitionConsumer.Transport.Scripted
/-!
What a simulation is given: pumps with scripted hooks, scripts for the transport, subscribers, and the
actions to take one after another.
-/
namespace PartitionConsumer.Simulation

inductive HookName where
  | onOpen
  | onEvents
  | onError
  | onClose
  deriving DecidableEq, Repr, Inhabited

def HookName.ofCall : HookCall → HookName
  | .onOpen => .onOpen
  | .onEvents _ => .onEvents
  | .onError _ => .onError
  | .onClose _ => .onClose

/-- What one call of a hook does, in the order of the fields, and how it returns. -/
structure HookAct where
  bump : Bool := false
  spawnShutdown : Option CloseReason := none
  awaitShutdown : Option CloseReason := none
  hang : Bool := false
  delay : Option Span := none
  fail : Option String := none
  deriving Repr, Inhabited

/-- What the calls of each hook do; a call beyond the script does nothing. -/
structure HookScripts where
  onOpen : List HookAct := []
  onEvents : List HookAct := []
  onError : List HookAct := []
  onClose : List HookAct := []
  deriving Repr, Inhabited

def HookScripts.take (s : HookScripts) : HookName → HookAct × HookScripts
  | .onOpen => (s.onOpen.headD {}, { s with onOpen := s.onOpen.tail })
  | .onEvents => (s.onEvents.headD {}, { s with onEvents := s.onEvents.tail })
  | .onError => (s.onError.headD {}, { s with onError := s.onError.tail })
  | .onClose => (s.onClose.headD {}, { s with onClose := s.onClose.tail })

structure PumpPlan where
  partition : String := "7"
  owner : String := "host-a"
  epoch : Nat := 3
  host : String := "host-a"
  group : String := "$Default"
  cursor : Option Cursor := some (.token "T1")
  options : Options := {}
  /-- The processor has no hook but the one for batches. -/
  batchesOnly : Bool := false
  /-- Deferred tasks wait until they are run. -/
  manual : Bool := false
  hooks : HookScripts := {}
  deriving Repr, Inhabited

/-- The text a subscriber fails with, if its failure has one. -/
inductive PanicText where
  | fixed
  | kind
  | absent
  deriving DecidableEq, Repr, Inhabited

def PanicText.render : PanicText → EventKind → String
  | .fixed, _ => "static text"
  | .kind, k => "seen " ++ k.label
  | .absent, _ => "unknown panic"

inductive SubscriberPlan where
  /-- Writes each event as a log record. -/
  | log
  /-- Keeps each event under its name, after a delay, or fails on it. -/
  | recorder (name label : String) (capacity : Nat) (delay : Span)
      (panics : List (EventKind × PanicText))
  deriving Repr, Inhabited

def SubscriberPlan.queue : SubscriberPlan → Subscriber
  | .log => { name := "LogWriter", capacity := 1024 }
  | .recorder _ label capacity _ _ => { name := label, capacity }

/-- A shutdown that is called while the transport answers one of the calls for a receiver. -/
structure Ambush where
  call : Nat
  pump : Nat
  reason : CloseReason
  deriving Repr, Inhabited

structure Plan where
  pumps : List PumpPlan := []
  wrapped : Bool := false
  clients : List CreationStep := []
  receivers : List CreationStep := []
  sharedFeed : Option Nat := none
  subscribers : Option (List SubscriberPlan) := none
  attach : Bool := false
  ambush : Option Ambush := none
  deriving Inhabited

structure RenewalAct where
  delay : Option Span := none
  fail : Option String := none
  deriving Repr, Inhabited

inductive TransportAction where
  | deliver (receiver : Option Nat) (batch : Option Batch)
  | fail (receiver : Option Nat) (error : TransportError)
  /-- Calls a handler that was once installed. -/
  | rawDeliver (handler : Nat) (batch : Option Batch)
  | rawFail (handler : Nat) (error : TransportError)
  | clearError (error : Option TransportError)
  | scriptClients (steps : List CreationStep)
  | scriptReceivers (steps : List CreationStep)
  | holdClear (receiver : Option Nat)
  | releaseClear (receiver : Option Nat)
  | failCloseReceiver (receiver : Option Nat) (error : TransportError)
  | setTail (receiver : Option Nat) (report : TailReport)
  | getTail (receiver : Option Nat)
  | failCloseClient (client : Nat) (error : TransportError)
  | makeClient
  | makeReceiver (client : Nat) (request : ReceiverRequest)
  | setHandler (receiver : Option Nat) (batchSize : Nat) (invokeOnEmpty : Bool)
      (script : List (Option Span))
  | setPrefetch (receiver : Option Nat) (count : Nat)
  | setTimeout (receiver : Option Nat) (timeout : Span)
  | clear (receiver : Option Nat)
  | closeReceiver (receiver : Option Nat)
  | closeClient (client : Nat)
  deriving Inhabited

inductive PumpAction where
  | start
  | shutdown (reason : CloseReason)
  /-- The handle of the pump is dropped. -/
  | drop
  | bump
  | stamp (epoch : Nat)
  | describe
  | inspect
  | publish (events : List Event)
  deriving Inhabited

inductive RenewalAction where
  /-- Starts a schedule for an owner of this name, or for a pump if there is no name. -/
  | start (pump : Nat) (interval : Span) (owner : Option String) (publishes : Bool)
      (script : List RenewalAct)
  | cancel (renewal : Nat)
  | closeOwner (owner : Nat) (reopen : Bool)
  | describe (renewal : Nat)
  deriving Inhabited

inductive SubscriberAction where
  | emit (events : List Event)
  | detach
  | shutdown
  deriving Inhabited

inductive Action where
  | advance (ticks : Nat)
  | abort (step : Nat)
  | runDeferred
  | dropDeferred
  | transport (a : TransportAction)
  | pump (p : Nat) (a : PumpAction)
  | renewal (a : RenewalAction)
  | subscribers (a : SubscriberAction)
  deriving Inhabited

end PartitionConsumer.Simulation
