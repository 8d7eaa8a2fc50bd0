import PartitionConsumer.Simulation.World
/-!
How the trace of a pump is carried out in the world, and how its requests are taken up. A request puts
a frame on top of the call that made it.
-/
namespace PartitionConsumer.Simulation

/-- What a call comes to when it has returned: an opening call tells the status it reached. -/
def callResult (opening : Bool) (p : Pump) : Result := if opening then .status p.status else .nothing

namespace World

/-- Installs the pump's handler on a receiver. Through a wrapped transport every handler stays
known. -/
def installHandler (w : World) (p r : Nat) (o : Options) : World :=
  let handler := Handler.pump p r
  let slot : InstalledHandler :=
    { handler, batchSize := o.maxBatchSize, invokeOnEmpty := o.invokeOnEmpty }
  { w with
    transport := w.transport.modifyReceiver r fun receiver => { receiver with handler := some slot }
    installed := if w.wrapped then w.installed.push handler else w.installed }

/-- Hands the deferred part of a failure to the pump's executor: it is queued until it is run, or a
task of its own. -/
def submit (w : World) (p : Nat) (manual : Bool) (e : TransportError) : World :=
  if manual then { w with deferred := w.deferred ++ [(p, e)] } else w.spawn [.deferred p e]

def perform (p : Nat) (seat : Seat) (w : World) : Effect → World
  | .status _ | .ask _ => w
  | .publish e => w.publish seat.feed e
  | .log r => w.log r
  | .tune r prefetch timeout =>
    { w with
      transport := w.transport.modifyReceiver r fun receiver =>
        { receiver with prefetch := some prefetch, timeout := some timeout } }
  | .install r => w.installHandler p r seat.pump.options
  | .defer e => w.submit p seat.manual e

/-- Puts pump `p` back after a move and carries out what it did. -/
def adopt (w : World) (p : Nat) (pump : Pump) : World :=
  match w.seats[p]? with
  | some seat => pump.trace.foldl (perform p seat) (w.setPump p { pump with trace := [] })
  | none => w

/-- Calls a hook of pump `p` for the call on `stack`. Hooks that the processor does not have return at
once and unseen. -/
def callHook (w : World) (id p : Nat) (call : HookCall) (stack : List Frame) : World :=
  match w.seats[p]? with
  | none => w.removeTask id
  | some seat =>
    let name := HookName.ofCall call
    if seat.batchesOnly && name != .onEvents then w.setFrames id (.reply (.hook (.ok ())) :: stack)
    else
      let w := w.note (.called p (w.visibleStatus p) seat.pump.context call)
      let (act, hooks) := seat.hooks.take name
      { w with seats := w.seats.modify p fun s => { s with hooks } }.setFrames id
        (.hook p name act .entered :: stack)

def callForClient (w : World) (id : Nat) (stack : List Frame) : World :=
  let (step, transport) := w.transport.callClient
  { w with transport }.setFrames id (.creating .client (step.schedule w.now) :: stack)

/-- A call for a receiver begins; those of pumps are numbered if the transport is wrapped. -/
def callForReceiver (w : World) (id : Nat) (request : ReceiverRequest) (wrapped : Bool)
    (stack : List Frame) : World :=
  let (step, transport) := w.transport.callReceiver request
  let call := if wrapped then some w.wrappedCalls else none
  let wrappedCalls := if wrapped then w.wrappedCalls + 1 else w.wrappedCalls
  { w with transport, wrappedCalls }.setFrames id
    (.creating (.receiver request.epoch call) (step.schedule w.now) :: stack)

def callForClear (w : World) (id r : Nat) (wrapped : Bool) (stack : List Frame) : World :=
  let (ticket, w) := w.fresh
  w.setFrames id (.clear r ticket wrapped .entered :: stack)

def takeUp (w : World) (id p : Nat) (request : Request) (stack : List Frame) : World :=
  match request with
  | .hook call => w.callHook id p call stack
  | .createClient => w.callForClient id stack
  | .createReceiver _ request => w.callForReceiver id request w.wrapped stack
  | .clearHandler r => w.callForClear id r w.wrapped stack
  | .closeReceiver r =>
    let (transport, outcome) := w.transport.closeReceiver r
    { w with transport }.setFrames id (.reply (.released outcome) :: stack)
  | .closeClient c =>
    let (transport, outcome) := w.transport.closeClient c
    { w with transport }.setFrames id (.reply (.released outcome) :: stack)

def dropNumbered (w : World) (id : Nat) : World :=
  match w.tasks.find? (·.id == id) with
  | some t => w.dropTask t
  | none => w

def applyMove (w : World) (id p : Nat) (opening : Bool) (move : Move) (rest : List Frame) : World :=
  let w := w.adopt p move.1
  match move.2 with
  | .ask request c => w.takeUp id p request (.call p c :: rest)
  | .wait c => w.setFrames id (.call p c :: rest)
  | .finish => w.ret id (callResult opening move.1) rest
  | .crash => w.dropNumbered id

end World
end PartitionConsumer.Simulation
