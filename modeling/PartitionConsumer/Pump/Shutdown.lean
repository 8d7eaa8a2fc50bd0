import PartitionConsumer.Pump.Call
/-!
Shutting a pump down. The first caller runs the procedure and the others wait for it: the running
attempt is cancelled, the open gets some time to settle, the connection is released, the closing hook
is called if the opening hook had succeeded, and the pump is closed.
-/
namespace PartitionConsumer.Pump

def finishShutdown (p : Pump) : Move := ({ p with once := p.once.finish }, .finish)

def passCloseHook (p : Pump) (ticket : Nat) (reason : CloseReason) : Move :=
  let p := { p with passed := some reason }
  if p.opened then p.ask (.hook (.onClose reason)) (.shutdown ticket reason .onClose)
  else p.markClosed.finishShutdown

def cancelAttempt (p : Pump) : Pump :=
  if p.attempts.isRegistered then
    { p with attempts := p.attempts.cancel }.log .debug "cancelled in-flight open attempt" []
  else p

/-- From now on the pump is closing, if it is not closed already. -/
def beginClosing (p : Pump) : Pump :=
  if p.status.isClosingOrClosed then p else p.setStatus .closing

/-- Takes the connection out of the pump and releases it. -/
def disconnect (p : Pump) (ticket : Nat) (reason : CloseReason) : Move :=
  let p := (p.publish { kind := .pumpClosing, reason := reason.label }).cancelAttempt.beginClosing
  match p.connection with
  | some c =>
    let p := { p with connection := none }.log .info "releasing connection"
      [("reason", .text reason.label)]
    let r := Release.start c
    p.ask r.request (.shutdown ticket reason (.release r))
  | none =>
    (p.log .debug "no connection to release" [("reason", .text reason.label)]).passCloseHook
      ticket reason

/-- The open has settled or had its time. A pump that closed itself meanwhile stays as it is. -/
def afterSettling (p : Pump) (ticket : Nat) (reason : CloseReason) : Move :=
  if p.status == .closed then p.finishShutdown else p.disconnect ticket reason

/-- The procedure itself, run by the caller whose turn it is. -/
def runShutdown (p : Pump) (now ticket : Nat) (reason : CloseReason) : Move :=
  let p := p.log .info "pump shutdown requested"
    [("reason", .text reason.label), ("status", .text p.status.label)]
  let p := { p with stopping := true }
  if p.status == .closed then (p.log .debug "pump already closed" []).finishShutdown
  else if p.phase == .opening then
    (p, .wait (.shutdown ticket reason (.settling (wakeTime now p.options.cancelGrace))))
  else p.disconnect ticket reason

def beginShutdown (p : Pump) (now ticket : Nat) (reason : CloseReason) : Move :=
  if p.once.done then (p, .finish)
  else
    let p := { p with once := p.once.enter ticket }
    if p.once.isTurnOf ticket then p.runShutdown now ticket reason
    else (p, .wait (.shutdown ticket reason .queued))

def resumeShutdown (p : Pump) (now ticket : Nat) (reason : CloseReason) :
    ShutdownStage → Answer → Option Move
  | .queued, .turn =>
    some (if p.once.done then (p, .finish) else p.runShutdown now ticket reason)
  | .settling _, .settled => some (p.afterSettling ticket reason)
  | .settling _, .elapsed =>
    some ((p.log .warn "open did not settle within cancellation grace, tearing down anyway"
      [("grace", .text p.options.cancelGrace.text)]).afterSettling ticket reason)
  | .release r, .released outcome =>
    let p := p.noteFault r outcome
    some (match r.next? with
      | some r => p.ask r.request (.shutdown ticket reason (.release r))
      | none => p.passCloseHook ticket reason)
  | .onClose, .hook _ => some p.markClosed.finishShutdown
  | _, _ => none

end PartitionConsumer.Pump
