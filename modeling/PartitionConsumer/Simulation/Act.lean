import PartitionConsumer.Simulation.Run
/-!
What each action from outside does. An action that names something that is not there does nothing and
says so.
-/
namespace PartitionConsumer.Simulation

structure Inspection where
  context : Context
  lease : Lease
  feedReceivers : Nat
  options : Options
  deriving Inhabited

inductive Reply where
  | silent
  /-- Something that the action names is not there. -/
  | missing
  /-- Whether the task was still running. -/
  | aborted (wasRunning : Bool)
  | epoch (n : Nat)
  | text (s : String)
  | tail (report : TailReport)
  | schedule (text : String) (interval : Span)
  | inspection (i : Inspection)
  deriving Inhabited

namespace World

/-- Acts on a receiver: the one that is named, or the last one made. -/
def onReceiver (w : World) (r : Option Nat) (f : Nat → Receiver → World × Reply) : World × Reply :=
  let r := r.getD (w.transport.receivers.size - 1)
  match w.transport.receivers[r]? with
  | some receiver => f r receiver
  | none => (w, .missing)

def updateReceiver (w : World) (r : Option Nat) (f : Receiver → Receiver) : World × Reply :=
  w.onReceiver r fun r _ => ({ w with transport := w.transport.modifyReceiver r f }, .silent)

/-- Acts on a pump whose handle is still held. -/
def onPump (w : World) (p : Nat) (f : Seat → World × Reply) : World × Reply :=
  match w.seats[p]? with
  | some seat => if seat.held then f seat else (w, .missing)
  | none => (w, .missing)

/-- Acts on a pump's lease, which outlives the handle. -/
def onLease (w : World) (p : Nat) (f : Lease → Lease) (reply : Lease → Reply) : World × Reply :=
  match w.seats[p]? with
  | some seat =>
    let lease := f seat.pump.lease
    (w.setPump p { seat.pump with lease }, reply lease)
  | none => (w, .missing)

def startTask (w : World) (step : Nat) (frames : List Frame) : World × Reply :=
  ({ w with started := step :: w.started }.spawn frames (some step), .silent)

def startCall (w : World) (step : Nat) (call : World → Nat → World) : World × Reply :=
  let id := w.nextId
  (call (w.startTask step []).1 id, .silent)

/-- The feed that is written to on behalf of pump `p`: the shared one, or its own. -/
def feedFor? (w : World) (p : Nat) : Option Nat :=
  if w.sharedFeed then some 0
  else match w.seats[p]? with
    | some seat => if seat.held then some seat.feed else none
    | none => none

def startRenewal (w : World) (client : String) (owner : Owner) (interval : Span) (feed : Option Nat)
    (script : List RenewalAct) : World :=
  let n := w.renewals.size
  let renewal := Renewal.start client interval
  let w := { w with renewals := w.renewals.push { renewal, owner, feed, script } }
  (w.adoptRenewal n renewal).armTimer n renewal

/-- The listener stops and gives up its subscription. -/
def stopListener (w : World) : World :=
  { w with
    tasks := w.tasks.filter fun t => !t.frames.any (fun | .listener _ => true | _ => false)
    feeds := w.feeds.map (·.unsubscribe listenerId) }

def hasListener (w : World) : Bool := w.frames.any fun | .listener _ => true | _ => false

/-- The timer of a renewal goes with its schedule. -/
def cancelRenewal (w : World) (n : Nat) (r : Renewal) : World :=
  let w := w.adoptRenewal n r.cancel
  { w with
    tasks := w.tasks.filter fun t => !t.frames.any (fun | .timer m _ => m == n | _ => false) }

/-- Drops the task of an action, if it still runs. -/
def abort (w : World) (step : Nat) : World × Reply :=
  if w.started.contains step then
    match w.tasks.find? (·.step == some step) with
    | some t => (w.dropTask t, .aborted true)
    | none => (w, .aborted false)
  else (w, .missing)

def inspect (w : World) (seat : Seat) : Inspection where
  context := seat.pump.context
  lease := seat.pump.lease
  feedReceivers := (w.feeds[seat.feed]?.map (·.receiverCount)).getD 0
  options := seat.pump.options

def publishAll (w : World) (f : Nat) (events : List Event) : World := events.foldl (·.publish f ·) w

/-- Numbers events and offers them to the subscribers, without a pause between. -/
def emitAll (w : World) (events : List Event) : World :=
  events.foldl
    (fun w e =>
      let (e, w) := w.number e
      w.emit e)
    w

def actTransport (w : World) (step : Nat) : TransportAction → World × Reply
  | .deliver r batch => w.onReceiver r fun r _ => w.startTask step [.deliver r none batch]
  | .fail r e => w.onReceiver r fun r _ => w.startTask step [.fail r none e]
  | .rawDeliver h batch =>
    match w.installed[h]? with
    | some handler => w.startTask step [.invoke handler batch]
    | none => (w, .missing)
  | .rawFail h e =>
    match w.installed[h]? with
    | some handler => (w.invokeError handler e, .silent)
    | none => (w, .missing)
  | .clearError e => ({ w with clearError := e }, .silent)
  | .scriptClients steps =>
    let clientScript := w.transport.clientScript ++ steps
    ({ w with transport := { w.transport with clientScript } }, .silent)
  | .scriptReceivers steps =>
    let receiverScript := w.transport.receiverScript ++ steps
    ({ w with transport := { w.transport with receiverScript } }, .silent)
  | .holdClear r => w.updateReceiver r ({ · with gateOpen := false })
  | .releaseClear r => w.updateReceiver r ({ · with gateOpen := true })
  | .failCloseReceiver r e => w.updateReceiver r ({ · with closeError := some e })
  | .setTail r report => w.updateReceiver r ({ · with tail := some report })
  | .getTail r => w.onReceiver r fun _ receiver =>
    match receiver.tail with
    | some report => (w, .tail report)
    | none => (w, .silent)
  | .setHandler r batchSize invokeOnEmpty script =>
    w.onReceiver r fun r _ =>
      let handler := Handler.recorder w.recorders.size
      let slot : InstalledHandler := { handler, batchSize, invokeOnEmpty }
      ({ w with
          recorders := w.recorders.push script
          transport := w.transport.modifyReceiver r ({ · with handler := some slot }) }, .silent)
  | .setPrefetch r count => w.updateReceiver r ({ · with prefetch := some count })
  | .setTimeout r timeout => w.updateReceiver r ({ · with timeout := some timeout })
  | .clear r => w.onReceiver r fun r _ =>
    w.startCall step fun w id => w.callForClear id r false []
  | .closeReceiver r => w.onReceiver r fun r _ =>
    let (transport, outcome) := w.transport.closeReceiver r
    { w with transport }.startTask step [.give (.made outcome)]
  | .failCloseClient c e =>
    if c < w.transport.clients.size then
      let transport := w.transport.modifyClient c ({ · with closeError := some e })
      ({ w with transport }, .silent)
    else (w, .missing)
  | .makeClient => w.startCall step fun w id => w.callForClient id []
  | .makeReceiver c request =>
    match w.made[c]? with
    | some _ => w.startCall step fun w id => w.callForReceiver id request false []
    | none => (w, .missing)
  | .closeClient c =>
    match w.made[c]? with
    | some client =>
      let (transport, outcome) := w.transport.closeClient client
      { w with transport }.startTask step [.give (.made outcome)]
    | none => (w, .missing)

def onDeferred (w : World) (f : World → Nat × TransportError → World × Reply) : World × Reply :=
  match w.deferred with
  | task :: deferred => f { w with deferred } task
  | [] => (w, .missing)

def actPump (w : World) (step p : Nat) : PumpAction → World × Reply
  | .start => w.onPump p fun _ => w.startTask step [.begin p .start]
  | .shutdown reason => w.onPump p fun _ => w.startTask step [.begin p (.shutdown reason)]
  | .drop =>
    if p < w.seats.size then
      ({ w with seats := w.seats.modify p ({ · with held := false }) }, .silent)
    else (w, .missing)
  | .bump => w.onLease p (·.bump) fun l => .epoch l.epoch
  | .stamp epoch => w.onLease p (·.stamp epoch) fun _ => .silent
  | .describe => w.onPump p fun seat => (w, .text seat.pump.text)
  | .inspect => w.onPump p fun seat => (w, .inspection (w.inspect seat))
  | .publish events =>
    match w.feedFor? p with
    | some f => (w.publishAll f events, .silent)
    | none => (w, .missing)

def actRenewal (w : World) : RenewalAction → World × Reply
  | .start p interval owner publishes script =>
    let feed := if publishes then w.feedFor? p else none
    if publishes && feed.isNone then (w, .missing)
    else match owner with
      | some name =>
        let o := w.owners.size
        let w := { w with owners := w.owners.push (name, false) }
        (w.startRenewal name (.entity o) interval feed script, .silent)
      | none => w.onPump p fun seat =>
        (w.startRenewal seat.pump.partition (.pump p) interval feed script, .silent)
  | .cancel n =>
    match w.renewals[n]? with
    | some seat => (w.cancelRenewal n seat.renewal, .silent)
    | none => (w, .missing)
  | .closeOwner o reopen =>
    if o < w.owners.size then
      ({ w with owners := w.owners.modify o fun owner => (owner.1, !reopen) }, .silent)
    else (w, .missing)
  | .describe n =>
    match w.renewals[n]? with
    | some seat => (w, .schedule seat.renewal.text seat.renewal.interval)
    | none => (w, .missing)

def actSubscribers (w : World) (step : Nat) : SubscriberAction → World × Reply
  | .emit events => if w.assembled then (w.emitAll events, .silent) else (w, .missing)
  | .detach => if w.hasListener then (w.stopListener, .silent) else (w, .missing)
  | .shutdown =>
    if w.assembled then { w.stopListener with assembled := false }.startTask step [.disbanding]
    else (w, .missing)

def act (w : World) (step : Nat) : Action → World × Reply
  | .advance ticks => (w.advance w.now (w.now + ticks), .silent)
  | .abort s => w.abort s
  | .runDeferred => w.onDeferred fun w (p, e) => w.startTask step [.deferred p e]
  | .dropDeferred => w.onDeferred fun w _ => (w, .silent)
  | .transport a => w.actTransport step a
  | .pump p a => w.actPump step p a
  | .renewal a => w.actRenewal a
  | .subscribers a => w.actSubscribers step a

end World
end PartitionConsumer.Simulation
