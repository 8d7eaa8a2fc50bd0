import PartitionConsumer.Simulation.Plan
import PartitionConsumer.Event.Feed
import PartitionConsumer.Fanout
import PartitionConsumer.Renewal
import PartitionConsumer.Pump.Resume
/-!
The state of a simulation: pumps, the transport, feeds, subscribers and renewals, the tasks that run on
them, and what has been recorded. A task is a stack of frames: the top one says what the task waits
for, and the one below waits for it to return.
-/
namespace PartitionConsumer.Simulation

structure Seat where
  pump : Pump
  hooks : HookScripts
  batchesOnly : Bool
  manual : Bool
  /-- The simulation still has its handle of the pump; without it the hooks cannot see the pump. -/
  held : Bool := true
  feed : Nat
  deriving Inhabited

inductive Owner where
  | pump (p : Nat)
  | entity (o : Nat)
  deriving DecidableEq, Repr, Inhabited

structure RenewalSeat where
  renewal : Renewal
  owner : Owner
  feed : Option Nat
  script : List RenewalAct
  deriving Inhabited

structure SubscriberSeat where
  queue : Subscriber
  plan : SubscriberPlan
  deriving Inhabited

structure Sighting where
  subscriber : String
  time : Nat
  event : NumberedEvent
  deriving Inhabited

/-- How a task that is none of a pump's calls begins one. -/
inductive Invocation where
  | start
  | shutdown (reason : CloseReason)
  deriving Repr, Inhabited

inductive HookStage where
  | entered
  /-- While the shutdown it called runs. -/
  | awaiting
  | sleeping (wake : Nat)
  | hanging
  deriving Repr, Inhabited

inductive Creation where
  | client
  /-- `call` numbers the calls through the wrapped transport. -/
  | receiver (epoch : Nat) (call : Option Nat)
  deriving Repr, Inhabited

inductive ClearStage where
  | entered
  | gate
  | draining
  deriving DecidableEq, Repr, Inhabited

inductive Result where
  | nothing
  | flag (b : Bool)
  | status (s : Status)
  | made (outcome : Except TransportError Unit)
  deriving Repr, Inhabited

inductive Frame where
  | begin (pump : Nat) (invocation : Invocation)
  | call (pump : Nat) (c : Call)
  /-- The answer to the request of the call below. -/
  | reply (answer : Answer)
  /-- The call above has returned. -/
  | returned
  | hook (pump : Nat) (name : HookName) (act : HookAct) (stage : HookStage)
  /-- A creation call, and when it is answered, if ever. -/
  | creating (what : Creation) (answer : Option (Nat × Option TransportError))
  | clear (receiver id : Nat) (wrapped : Bool) (stage : ClearStage)
  /-- A delivery before and after it has asked for its share of the receiver's lock. -/
  | deliver (receiver : Nat) (id : Option Nat) (batch : Option Batch)
  | delivering (receiver id : Nat)
  | fail (receiver : Nat) (id : Option Nat) (error : TransportError)
  | invoke (handler : Handler) (batch : Option Batch)
  | recording (recorder wake : Nat)
  | deferred (pump : Nat) (error : TransportError)
  | timer (renewal wake : Nat)
  | renewing (renewal : Nat) (act : RenewalAct) (wake : Option Nat)
  | worker (subscriber : Nat)
  | handling (subscriber : Nat) (event : NumberedEvent) (wake : Nat)
  | listener (feed : Nat)
  | disbanding
  | give (result : Result)
  deriving Inhabited

structure Task where
  id : Nat
  /-- The action that started it. -/
  step : Option Nat := none
  frames : List Frame
  deriving Inhabited

/-- What a hook, a handler or an action of a renewal notes down when it is called. -/
inductive HookNote where
  | called (pump : Nat) (status : Option Status) (context : Context) (call : HookCall)
  | ended (pump : Nat) (status : Option Status) (name : HookName)
  | renew (n : Nat)
  | renewEnded (n : Nat)
  | received (h : Nat) (batch : Option Batch)
  | receivedEnded (h : Nat)
  | receiverFailed (h : Nat) (error : TransportError)
  deriving Inhabited

structure Finished where
  step : Nat
  time : Nat
  result : Result
  deriving Inhabited

structure World where
  now : Nat := 0
  seats : Array Seat := #[]
  /-- All pumps publish on one feed, which stays open. -/
  sharedFeed : Bool := false
  feeds : Array Feed := #[]
  /-- Feeds whose end has been reported. -/
  ended : List Nat := []
  transport : Transport := {}
  wrapped : Bool := false
  /-- Calls for a receiver through the wrapped transport. -/
  wrappedCalls : Nat := 0
  ambush : Option Ambush := none
  clearError : Option TransportError := none
  /-- Handlers installed through the wrapped transport, in order. -/
  installed : Array Handler := #[]
  /-- Clients made from outside. -/
  made : Array Nat := #[]
  recorders : Array (List (Option Span)) := #[]
  subscribers : Array SubscriberSeat := #[]
  /-- The set of subscribers is there and takes events. -/
  assembled : Bool := false
  renewals : Array RenewalSeat := #[]
  /-- Owners made from outside: their names, and whether they are closed. -/
  owners : Array (String × Bool) := #[]
  deferred : List (Nat × TransportError) := []
  tasks : List Task := []
  /-- The task that runs, after those it started that run to their first wait before it goes on. -/
  focus : List Nat := []
  /-- The other tasks that can go on, in the order they became able to. -/
  queue : List Nat := []
  nextId : Nat := 0
  nextNumber : Nat := 0
  /-- Actions that started a task. -/
  started : List Nat := []
  notes : List (Nat × HookNote) := []
  finished : List Finished := []
  seen : List Sighting := []
  logs : List LogRecord := []
  eventLogs : List LogRecord := []
  fanoutLogs : List LogRecord := []
  /-- How many of the calls for a receiver have been reported. -/
  requestsReported : Nat := 0
  deriving Inhabited

def observer : Nat := 0

/-- The subscription of the listener that feeds the subscribers. -/
def listenerId : Nat := 1

namespace Frame

def timer? : Frame → Option Nat
  | .call _ c => c.timer?
  | .hook _ _ _ (.sleeping wake) => some wake
  | .creating _ (some (wake, _)) => some wake
  | .recording _ wake | .timer _ wake | .handling _ _ wake => some wake
  | .renewing _ _ wake => wake
  | _ => none

def keepsPump (p : Nat) : Frame → Bool
  | .begin q _ | .call q _ => q == p
  | _ => false

def keepsReceiver (r : Nat) : Frame → Bool
  | .call _ c => (c.holds?.map (·.receiver)) == some r
  | _ => false

end Frame

namespace World

def frames (w : World) : List Frame := w.tasks.flatMap (·.frames)

def pump? (w : World) (p : Nat) : Option Pump := (w.seats[p]?).map (·.pump)

def setPump (w : World) (p : Nat) (pump : Pump) : World :=
  { w with seats := w.seats.modify p fun s => { s with pump } }

/-- A pump lives as long as the simulation, a call on it or a renewal for it has a handle. -/
def pumpAlive (w : World) (p : Nat) : Bool :=
  (match w.seats[p]? with
    | some s => s.held
    | none => false)
  || w.frames.any (·.keepsPump p) || w.renewals.any (·.owner == .pump p)

/-- A receiver of the plain transport always lives; one that is wrapped lives as long as the
connection it belongs to. -/
def receiverAlive (w : World) (p r : Nat) : Bool :=
  !w.wrapped || (((w.pump? p).bind (·.connection)).map (·.receiver)) == some r
    || w.frames.any (·.keepsReceiver r)

/-- A feed is open as long as someone can publish on it. -/
def feedOpen (w : World) (f : Nat) : Bool :=
  w.sharedFeed || w.renewals.any (·.feed == some f)
    || (List.range w.seats.size).any fun p =>
        (w.seats[p]?.map (·.feed)) == some f && w.pumpAlive p

/-- The status of a pump, as long as it can be seen. -/
def visibleStatus (w : World) (p : Nat) : Option Status :=
  match w.seats[p]? with
  | some s => if s.held then some s.pump.status else none
  | none => none

def note (w : World) (n : HookNote) : World := { w with notes := w.notes ++ [(w.now, n)] }

def log (w : World) (r : LogRecord) : World := { w with logs := w.logs ++ [r] }

def number (w : World) (e : Event) : NumberedEvent × World :=
  ({ e with number := w.nextNumber }, { w with nextNumber := w.nextNumber + 1 })

def publish (w : World) (f : Nat) (e : Event) : World :=
  let (e, w) := w.number e
  { w with feeds := w.feeds.modify f (·.publish e) }

def fresh (w : World) : Nat × World := (w.nextId, { w with nextId := w.nextId + 1 })

def spawn (w : World) (frames : List Frame) (step : Option Nat := none) : World :=
  let (id, w) := w.fresh
  { w with tasks := w.tasks ++ [{ id, step, frames }] }

/-- Adds a task that runs to its first wait before anything else does. -/
def spawnNow (w : World) (frames : List Frame) : World :=
  let (id, w) := w.fresh
  { w with tasks := w.tasks ++ [{ id, frames }], focus := id :: w.focus }

def setFrames (w : World) (id : Nat) (frames : List Frame) : World :=
  { w with tasks := w.tasks.map fun t => if t.id = id then { t with frames } else t }

def removeTask (w : World) (id : Nat) : World :=
  { w with tasks := w.tasks.filter (·.id != id) }

def finishTask (w : World) (id : Nat) (result : Result) : World :=
  let step := (w.tasks.find? (·.id == id)).bind (·.step)
  let w := w.removeTask id
  match step with
  | some step => { w with finished := w.finished ++ [{ step, time := w.now, result }] }
  | none => w

/-- The top frame of a task has returned to the frames below it, or the task is at its end. -/
def ret (w : World) (id : Nat) (result : Result) : List Frame → World
  | [] => w.finishTask id result
  | rest => w.setFrames id (.returned :: rest)

def dropFrame (w : World) : Frame → World
  | .call p c =>
    match w.pump? p with
    | some pump => w.setPump p (pump.abandon c)
    | none => w
  | .clear r id .. | .deliver r (some id) _ | .delivering r id | .fail r (some id) _ =>
    { w with transport := w.transport.modifyReceiver r (·.leave id) }
  | _ => w

/-- Drops a task where it waits, its top frame first. -/
def dropTask (w : World) (t : Task) : World := t.frames.foldl dropFrame (w.removeTask t.id)

end World
end PartitionConsumer.Simulation
