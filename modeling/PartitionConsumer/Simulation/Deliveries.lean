import PartitionConsumer.Simulation.Effects
/-!
Turns of deliveries, and of calls that clear a receiver's handler.
-/
namespace PartitionConsumer.Simulation
namespace World

/-- A handler is cleared, or something closed, for a call of a pump or for a task from outside. -/
def released (w : World) (id : Nat) (outcome : Except TransportError Unit) : List Frame → World
  | [] => w.finishTask id (.made outcome)
  | rest => w.setFrames id (.reply (.released outcome) :: rest)

def turnClear (w : World) (id r ticket : Nat) (wrapped : Bool) (stage : ClearStage)
    (rest : List Frame) : Option World := do
  let receiver ← w.transport.receivers[r]?
  let go (w : World) (f : Receiver → Receiver) : World :=
    { w with transport := w.transport.modifyReceiver r f }
  match stage with
  | .entered =>
    return (go w (·.beginClear)).setFrames id (.clear r ticket wrapped .gate :: rest)
  | .gate =>
    if receiver.gateOpen then
      return (go w (·.enterClear ticket)).setFrames id (.clear r ticket wrapped .draining :: rest)
    else none
  | .draining =>
    if receiver.isInside ticket then
      let outcome := match w.clearError with
        | some e => if wrapped then .error e else .ok ()
        | none => .ok ()
      return (go w (·.endClear ticket)).released id outcome rest
    else none

/-- A batch reaches a handler. A pump that is gone takes no notice. -/
def invoke (w : World) (id : Nat) (handler : Handler) (batch : Option Batch) (rest : List Frame) :
    World :=
  match handler with
  | .pump p r =>
    match w.pump? p with
    | some pump =>
      if w.pumpAlive p then
        let report := if w.receiverAlive p r then (w.transport.receivers[r]?).bind (·.tail) else none
        w.applyMove id p false (pump.receive report batch) rest
      else w.ret id .nothing rest
    | none => w.ret id .nothing rest
  | .recorder h =>
    let w := w.note (.received h batch)
    let script := w.recorders.getD h []
    let w := { w with recorders := w.recorders.modify h List.tail }
    match script with
    | some d :: _ => w.setFrames id (.recording h (wakeTime w.now d) :: rest)
    | _ => w.ret id .nothing rest

def invokeError (w : World) (handler : Handler) (e : TransportError) : World :=
  match handler with
  | .pump p _ =>
    match w.pump? p with
    | some pump => if w.pumpAlive p then w.adopt p (pump.receiverFailed e) else w
    | none => w
  | .recorder h => w.note (.receiverFailed h e)

/-- A delivery that has the lock, or asks for it. -/
def turnDeliver (w : World) (id r : Nat) (ticket : Option Nat) (batch : Option Batch)
    (rest : List Frame) : Option World :=
  match ticket with
  | none =>
    let (ticket, w) := w.fresh
    let w := { w with transport := w.transport.modifyReceiver r (·.enterDelivery ticket) }
    some (w.setFrames id (.deliver r (some ticket) batch :: rest))
  | some ticket => do
    let receiver ← w.transport.receivers[r]?
    if receiver.isInside ticket then
      match receiver.handler with
      | some h => return w.invoke id h.handler batch (.delivering r ticket :: rest)
      | none =>
        return { w with transport := w.transport.modifyReceiver r (·.leave ticket) }.ret id
          (.flag false) rest
    else none

/-- A failure that has the lock, or asks for it. Handlers take failures without a wait. -/
def turnFail (w : World) (id r : Nat) (ticket : Option Nat) (e : TransportError) (rest : List Frame) :
    Option World :=
  match ticket with
  | none =>
    let (ticket, w) := w.fresh
    let w := { w with transport := w.transport.modifyReceiver r (·.enterDelivery ticket) }
    some (w.setFrames id (.fail r (some ticket) e :: rest))
  | some ticket => do
    let receiver ← w.transport.receivers[r]?
    if receiver.isInside ticket then
      let w := match receiver.handler with
        | some h => w.invokeError h.handler e
        | none => w
      return { w with transport := w.transport.modifyReceiver r (·.leave ticket) }.ret id
        (.flag receiver.handler.isSome) rest
    else none

end World
end PartitionConsumer.Simulation
