import PartitionConsumer.Simulation.World
/-!
Turns of the subscribers' workers, of the listener that feeds them, and of their shutdown.
-/
namespace PartitionConsumer.Simulation
namespace World

def modifySubscriber (w : World) (s : Nat) (f : SubscriberSeat → SubscriberSeat) : World :=
  { w with subscribers := w.subscribers.modify s f }

/-- A worker takes the next event, or ends when its queue is closed and empty. -/
def turnWorker (w : World) (id s : Nat) : Option World := do
  let seat ← w.subscribers[s]?
  match seat.queue.take? with
  | some (e, queue) =>
    let delay := match seat.plan with
      | .log => .zero
      | .recorder _ _ _ delay _ => delay
    return (w.modifySubscriber s fun seat => { seat with queue }).setFrames id
      [.handling s e (wakeTime w.now delay), .worker s]
  | none => if seat.queue.closed then return w.finishTask id .nothing else none

/-- A subscriber gets to see an event. One that fails on it is recorded and goes on with the next. -/
def handle (w : World) (s : Nat) (e : NumberedEvent) : World :=
  match w.subscribers[s]? with
  | none => w
  | some seat =>
    match seat.plan with
    | .log => { w with eventLogs := w.eventLogs ++ [eventRecord e.toEvent] }
    | .recorder name _ _ _ panics =>
      match panics.lookup e.kind with
      | some text =>
        { w with fanoutLogs := w.fanoutLogs ++ [seat.queue.panicRecord e (text.render e.kind)] }
      | none => { w with seen := w.seen ++ [⟨name, w.now, e⟩] }

def emit (w : World) (e : NumberedEvent) : World :=
  let (queues, records) := PartitionConsumer.emit (w.subscribers.toList.map (·.queue)) e
  { w with
    subscribers := w.subscribers.mapIdx fun i seat => { seat with queue := queues.getD i seat.queue }
    fanoutLogs := w.fanoutLogs ++ records }

/-- The listener takes what it finds on its feed, and ends when the feed is closed and drained. -/
def turnListener (w : World) (id f : Nat) : Option World := do
  let feed ← w.feeds[f]?
  let (found, feed') := feed.receive listenerId
  let w' := { w with feeds := w.feeds.set! f feed' }
  match found with
  | .event e => return w'.emit e
  | .lagged n => return { w' with fanoutLogs := w.fanoutLogs ++ [lagRecord n] }
  | .empty => if w.feedOpen f then none else return w.finishTask id .nothing
  | .noSubscription => return w.finishTask id .nothing

/-- All queues are closed; the task ends when the workers have ended. -/
def turnDisbanding (w : World) (id : Nat) : Option World :=
  if w.subscribers.any fun s => !s.queue.closed then
    some { w with subscribers := w.subscribers.map fun s => { s with queue := s.queue.close } }
  else if w.frames.any (fun | .worker _ => true | _ => false) then none
  else some (w.finishTask id .nothing)

end World
end PartitionConsumer.Simulation
