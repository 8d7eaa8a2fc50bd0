import PartitionConsumer.Simulation.Effects
/-!
Turns of calls on pumps, of the hooks they call and of the creation calls they wait for.
-/
namespace PartitionConsumer.Simulation
namespace World

def resumeCall (w : World) (id p : Nat) (c : Call) (answer : Answer) (rest : List Frame) :
    Option World := do
  let pump ← w.pump? p
  let move ← pump.resume w.now c answer
  return w.applyMove id p c.isOpening move rest

def beginCall (w : World) (id p : Nat) (invocation : Invocation) (rest : List Frame) :
    Option World := do
  let pump ← w.pump? p
  match invocation with
  | .start => return w.applyMove id p true pump.beginStart rest
  | .shutdown reason =>
    let (ticket, w) := w.fresh
    return w.applyMove id p false (pump.beginShutdown w.now ticket reason) rest

/-- The call of a hook is over: its end is noted if it took its time, and it returns as its act
says. -/
def endHook (w : World) (id p : Nat) (name : HookName) (act : HookAct) (rest : List Frame) : World :=
  let w := if act.awaitShutdown.isSome || act.delay.isSome then
      w.note (.ended p (w.visibleStatus p) name)
    else w
  let outcome := match act.fail with
    | some message => .error ⟨message⟩
    | none => .ok ()
  w.setFrames id (.reply (.hook outcome) :: rest)

/-- The last parts of a hook's act: it hangs, or waits, or is over. -/
def finishHook (w : World) (id p : Nat) (name : HookName) (act : HookAct) (rest : List Frame) :
    World :=
  if act.hang then w.setFrames id (.hook p name act .hanging :: rest)
  else match act.delay with
    | some d => w.setFrames id (.hook p name act (.sleeping (wakeTime w.now d)) :: rest)
    | none => w.endHook id p name act rest

/-- The first parts of a hook's act. The shutdowns are left out if the hook cannot see the pump. -/
def enterHook (w : World) (id p : Nat) (name : HookName) (act : HookAct) (rest : List Frame) :
    World :=
  let held := (w.visibleStatus p).isSome
  let w := if act.bump then
      { w with seats := w.seats.modify p fun s =>
          { s with pump := { s.pump with lease := s.pump.lease.bump } } }
    else w
  let w := match act.spawnShutdown with
    | some reason => if held then w.spawn [.begin p (.shutdown reason)] else w
    | none => w
  match act.awaitShutdown with
  | some reason =>
    if held then
      w.setFrames id (.begin p (.shutdown reason) :: .hook p name act .awaiting :: rest)
    else w.finishHook id p name act rest
  | none => w.finishHook id p name act rest

/-- A creation call has been answered: the client or receiver is made, if the script lets it succeed.
The ambush falls in between the making and the answer. -/
def create (w : World) (what : Creation) (error : Option TransportError) : Answer × World :=
  match what, error with
  | .client, some e => (.client (.error e), w)
  | .client, none =>
    let (c, transport) := w.transport.addClient
    (.client (.ok c), { w with transport })
  | .receiver epoch call, error =>
    let (outcome, w) : Except TransportError Nat × World := match error with
      | some e => (.error e, w)
      | none =>
        let (r, transport) := w.transport.addReceiver epoch
        (.ok r, { w with transport })
    match w.ambush with
    | some a =>
      if call = some a.call && (w.visibleStatus a.pump).isSome then
        (.receiver outcome,
          { w with ambush := none }.spawnNow [.begin a.pump (.shutdown a.reason)])
      else (.receiver outcome, w)
    | none => (.receiver outcome, w)

/-- A creation call under way for a call of a pump, or for a task from outside. -/
def turnCreating (w : World) (id : Nat) (what : Creation)
    (answer : Option (Nat × Option TransportError)) (rest : List Frame) : Option World :=
  let interrupted := match rest with
    | .call p c :: _ => (w.pump? p).any c.isInterrupted
    | _ => false
  let expired := match rest with
    | .call _ c :: _ => c.isExpired w.now
    | _ => false
  let ready := answer.filter fun a => a.1 ≤ w.now
  if interrupted then some (w.setFrames id (.reply .cancelled :: rest))
  else match ready with
    | some (_, error) =>
      let (answer, w) := w.create what error
      match rest, answer with
      | [], .client outcome =>
        let w := match outcome with
          | .ok c => { w with made := w.made.push c }
          | .error _ => w
        some (w.finishTask id (.made (outcome.map fun _ => ())))
      | [], .receiver outcome => some (w.finishTask id (.made (outcome.map fun _ => ())))
      | _, _ => some (w.setFrames id (.reply answer :: rest))
    | none => if expired then some (w.setFrames id (.reply .timedOut :: rest)) else none

end World
end PartitionConsumer.Simulation
