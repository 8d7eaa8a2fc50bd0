import PartitionConsumer.Pump.Shutdown
/-!
Deliveries: batches go to the batch hook, and a failure of the receiver is handed to the executor.
-/
namespace PartitionConsumer.Pump

def snapshot (p : Pump) (report : Option TailReport) : Pump :=
  match report with
  | some r => { p with context := { p.context with tail := some r } }
  | none => p

/-- Hands a batch to the batch hook. A pump that is closing drops it. -/
def handleBatch (p : Pump) (batch : Batch) : Move :=
  if p.status.isClosingOrClosed then
    (p.log .debug "dropping delivery during shutdown" [("count", .number batch.length)], .finish)
  else p.ask (.hook (.onEvents batch)) (.deliver (.onEvents batch.length))

/-- A delivery: the receiver's report is kept if metrics are enabled, and a window without messages
becomes an empty batch or nothing at all. -/
def receive (p : Pump) (report : Option TailReport) (messages : Option Batch) : Move :=
  let p := if p.options.metricsEnabled then p.snapshot report else p
  match messages with
  | some (m :: ms) => p.handleBatch (m :: ms)
  | _ => if p.options.invokeOnEmpty then p.handleBatch [] else (p, .finish)

def resumeDelivery (p : Pump) : DeliveryStage → Answer → Option Move
  | .onEvents count, .hook (.ok ()) =>
    some (p.publish { kind := .batchDelivered, count := count }, .finish)
  | .onEvents count, .hook (.error e) =>
    some ((p.log .warn "on_events failed"
      [("count", .number count), ("error", .text e.message)]).ask
      (.hook (.onError (.processor e))) (.deliver .onError))
  | .onError, .hook _ => some (p, .finish)
  | _, _ => none

/-- The receiver has failed. The first failure of a running pump is published and handed to the
executor; any other is ignored. -/
def receiverFailed (p : Pump) (e : TransportError) : Pump :=
  if p.status != .running then
    p.log .debug "ignoring receiver error outside running state"
      [("status", .text p.status.label), ("error", .text e.message)]
  else
    let p := p.setStatus .errored
    let p := if e.isFenced then
        p.log .info
          "receiver disconnected by a higher epoch, another host likely took this partition"
          [("epoch", .number p.lease.epoch), ("error", .text e.message)]
      else p.log .warn "receiver error" [("error", .text e.message)]
    (p.publish { kind := .pumpErrored, reason := e.message }).tell (.defer e)

/-- The deferred part of a failure: the error hook is told, and then the pump is shut down. -/
def beginReport (p : Pump) (ticket : Nat) (e : TransportError) : Move :=
  p.ask (.hook (.onError (.delivery e))) (.report ticket)

end PartitionConsumer.Pump
