import PartitionConsumer.Simulation.Calls
import PartitionConsumer.Simulation.Deliveries
import PartitionConsumer.Simulation.Renewals
import PartitionConsumer.Simulation.Subscribers
/-!
One turn of a task: what its top frame does when it can go on. A task that cannot waits for a timer, a
gate, a lock, another task or nothing.
-/
namespace PartitionConsumer.Simulation
namespace World

/-- One turn of the task `id` with these frames, if it can go on. -/
def turn? (w : World) (id : Nat) : List Frame → Option World
  | [] => some (w.finishTask id .nothing)
  | .begin p invocation :: rest => w.beginCall id p invocation rest
  | .reply answer :: .call p c :: rest => w.resumeCall id p c answer rest
  | .reply _ :: _ => none
  | .call p c :: rest => do
    let pump ← w.pump? p
    let answer ← c.ownAnswer? pump w.now
    w.resumeCall id p c answer rest
  | .returned :: .hook p name act .awaiting :: rest => some (w.finishHook id p name act rest)
  | .returned :: .delivering r ticket :: rest =>
    some ({ w with transport := w.transport.modifyReceiver r (·.leave ticket) }.ret id (.flag true)
      rest)
  | .returned :: rest => some (w.setFrames id rest)
  | .hook p name act .entered :: rest => some (w.enterHook id p name act rest)
  | .hook p name act (.sleeping wake) :: rest =>
    if wake ≤ w.now then some (w.endHook id p name act rest) else none
  | .hook .. :: _ | .delivering .. :: _ => none
  | .creating what answer :: rest => w.turnCreating id what answer rest
  | .clear r ticket wrapped stage :: rest => w.turnClear id r ticket wrapped stage rest
  | .deliver r ticket batch :: rest => w.turnDeliver id r ticket batch rest
  | .fail r ticket e :: rest => w.turnFail id r ticket e rest
  | .invoke handler batch :: rest => some (w.invoke id handler batch rest)
  | .recording h wake :: rest =>
    if wake ≤ w.now then some ((w.note (.receivedEnded h)).ret id .nothing rest) else none
  | .deferred p e :: rest =>
    match w.pump? p with
    | some pump =>
      if w.pumpAlive p then
        let (ticket, w) := w.fresh
        some (w.applyMove id p false (pump.beginReport ticket e) rest)
      else some (w.ret id .nothing rest)
    | none => some (w.ret id .nothing rest)
  | .timer n wake :: _ => if wake ≤ w.now then w.turnTimer id n else none
  | .renewing n act wake :: _ =>
    if wake.all (· ≤ w.now) then w.turnRenewing id n act else none
  | .worker s :: _ => w.turnWorker id s
  | .handling s e wake :: rest =>
    if wake ≤ w.now then some ((w.handle s e).setFrames id rest) else none
  | .listener f :: _ => w.turnListener id f
  | .disbanding :: _ => w.turnDisbanding id
  | .give result :: rest => some (w.ret id result rest)

end World
end PartitionConsumer.Simulation
