import PartitionConsumer.Simulation.Act
/-!
What is seen of a simulation after an action, and whole runs. A report takes what has been recorded
since the last one out of the world.
-/
namespace PartitionConsumer.Simulation

structure PumpView where
  /-- The status, as long as the handle is held. -/
  status : Option Status
  epoch : Nat
  tail : Option TailReport
  deriving Inhabited

inductive Observed where
  | event (e : NumberedEvent)
  | lagged (missed : Nat)
  | closed
  deriving Inhabited

structure Report where
  time : Nat
  reply : Reply
  notes : List (Nat × HookNote)
  finished : List Finished
  seen : List Sighting
  /-- What was observed, with the pump whose own feed it is, if it is one's. -/
  observed : List (Option Nat × Observed)
  requests : List ReceiverRequest
  pumps : List PumpView
  pending : List Bool
  /-- The number of subscribers, as long as their set is there. -/
  subscribers : Option Nat
  deferred : Nat
  logs : List LogRecord
  eventLogs : List LogRecord
  fanoutLogs : List LogRecord
  attempts : Nat
  clients : List Client
  receivers : List Receiver
  deriving Inhabited

namespace World

/-- What the observer of a feed found, and at its end that the feed is closed. -/
def observe (w : World) (f : Nat) : List Observed × World :=
  match w.feeds[f]? with
  | none => ([], w)
  | some feed =>
    let (found, feed) := feed.drain observer
    let shown := found.filterMap fun
      | .event e => some (Observed.event e)
      | .lagged n => some (Observed.lagged n)
      | _ => none
    let w := { w with feeds := w.feeds.set! f feed }
    if w.feedOpen f || w.ended.contains f then (shown, w)
    else (shown ++ [.closed], { w with ended := f :: w.ended })

def observeAll (w : World) : List (Option Nat × Observed) × World :=
  (List.range w.feeds.size).foldl
    (fun (shown, w) f =>
      let (more, w) := w.observe f
      (shown ++ more.map fun o => (if w.sharedFeed then none else some f, o), w))
    ([], w)

/-- Earlier times come first, then earlier actions. -/
def finishedBefore (a b : Finished) : Bool :=
  a.time < b.time || (a.time == b.time && a.step ≤ b.step)

def pumpViews (w : World) : List PumpView :=
  (List.range w.seats.size).filterMap fun p =>
    (w.seats[p]?).map fun seat =>
      { status := w.visibleStatus p, epoch := seat.pump.lease.epoch,
        tail := seat.pump.context.tail }

def report (w : World) (reply : Reply) : Report × World :=
  let (observed, w) := w.observeAll
  ({ time := w.now
     reply
     notes := w.notes
     finished := w.finished.mergeSort finishedBefore
     seen := w.seen
     observed
     requests := (w.transport.requests.toList).drop w.requestsReported
     pumps := w.pumpViews
     pending := w.renewals.toList.map (·.renewal.pending)
     subscribers := if w.assembled then some w.subscribers.size else none
     deferred := w.deferred.length
     logs := w.logs
     eventLogs := w.eventLogs
     fanoutLogs := w.fanoutLogs
     attempts := w.transport.attempts
     clients := w.transport.clients.toList
     receivers := w.transport.receivers.toList },
   { w with
     notes := [], finished := [], seen := [], logs := [], eventLogs := [], fanoutLogs := []
     requestsReported := w.transport.requests.size })

/-- Builds a pump and adds it; without a shared feed it gets its own. -/
def addPump (w : World) (plan : PumpPlan) : Except ConfigError World := do
  let context : Context :=
    { host := plan.host, group := plan.group, partition := plan.partition, cursor := plan.cursor }
  let lease : Lease := { partition := plan.partition, owner := plan.owner, epoch := plan.epoch }
  let pump ← Pump.build context lease plan.options true (if w.wrapped then "transport" else "mock")
  let seat : Seat :=
    { pump, hooks := plan.hooks, batchesOnly := plan.batchesOnly, manual := plan.manual
      feed := if w.sharedFeed then 0 else w.feeds.size }
  let feed := (Feed.ofCapacity plan.options.clampedFeedCapacity).subscribe observer
  return { w with
    seats := w.seats.push seat
    feeds := if w.sharedFeed then w.feeds else w.feeds.push feed }

def addSubscribers (w : World) (plans : List SubscriberPlan) : World :=
  let w := { w with
    subscribers := (plans.map fun plan => { queue := plan.queue, plan : SubscriberSeat }).toArray
    assembled := true }
  (List.range plans.length).foldl (fun w s => w.spawn [.worker s]) w

/-- Lets the subscribers listen to the shared feed or to that of the first pump. -/
def attachListener (w : World) : World :=
  if w.feeds.isEmpty then w
  else { w with feeds := w.feeds.modify 0 (·.subscribe listenerId) }.spawn [.listener 0]

/-- The world of a plan before the first action, unless a pump cannot be built. -/
def ofPlan (plan : Plan) : Except ConfigError World := do
  let feeds := match plan.sharedFeed with
    | some capacity => #[(Feed.ofCapacity capacity).subscribe observer]
    | none => #[]
  let w : World :=
    { sharedFeed := plan.sharedFeed.isSome
      feeds
      transport := { clientScript := plan.clients, receiverScript := plan.receivers }
      wrapped := plan.wrapped
      ambush := plan.ambush }
  let w ← plan.pumps.foldlM addPump w
  match plan.subscribers with
  | some subscribers =>
    let w := w.addSubscribers subscribers
    return if plan.attach then w.attachListener else w
  | none => return w

/-- Takes an action, runs all it sets off, and reports. -/
def take (w : World) (step : Nat) (a : Action) : Report × World :=
  let (w, reply) := w.act step a
  w.settle.report reply

/-- Takes actions one after another, the first of them being the `step`-th. -/
def runFrom (w : World) (step : Nat) : List Action → List Report
  | [] => []
  | a :: rest =>
    let (report, w) := w.take step a
    report :: w.runFrom (step + 1) rest

end World

/-- Runs a plan: one report for each action, unless a pump cannot be built. -/
def Plan.run (plan : Plan) (actions : List Action) : Except ConfigError (List Report) := do
  let w ← World.ofPlan plan
  return w.settle.runFrom 0 actions

end PartitionConsumer.Simulation
