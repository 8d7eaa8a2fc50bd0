import PartitionConsumer.Pump.Call
/-!
Opening a pump: the opening hook, then connection attempts until one succeeds, one fails for good, or
none is left. Each attempt reads the lease's epoch anew, and a client left over from a failed attempt
is closed before the next one begins. A shutdown cuts the sequence short at every wait.
-/
namespace PartitionConsumer.Pump

def finishStart (p : Pump) : Move := (p.settle, .finish)

/-- The open was cut short by a shutdown, which does the rest. -/
def openCancelled (p : Pump) : Move := (p.log .debug "open cancelled by shutdown" []).finishStart

/-- The open failed. The error hook is told, unless a shutdown has been requested. -/
def failOpen (p : Pump) (e : OpenError) : Move :=
  let p := p.log .warn "open failed" [("error", .text e.message), ("label", .text e.label)]
  if p.stopping then p.finishStart
  else p.ask (.hook (.onError (.opening e))) (.start (.failed e))

/-- The error hook knows of the failed open: the pump closes itself, unless a shutdown has taken the
status over. -/
def closeAfterFailure (p : Pump) (e : OpenError) : Move :=
  if p.status == .opening then
    let p := (p.setStatus .openFailed).publish { kind := .openFailed, reason := e.message }
    let p := (p.setStatus .closing).publish { kind := .pumpClosing, reason := "open_failed" }
    match p.connection with
    | some c =>
      let r := Release.start c
      { p with connection := none }.ask r.request (.start (.release r true))
    | none =>
      (p.log .debug "no connection to release after failed open" []).markClosed.finishStart
  else p.finishStart

/-- The error hook knows of the failed opening hook: the pump closes itself, unless a shutdown has
taken the status over. -/
def closeAfterRefusal (p : Pump) (e : ProcessorError) : Move :=
  if p.status == .opening then
    let p := (p.setStatus .openFailed).publish { kind := .openFailed, reason := e.message }
    let p := (p.setStatus .closing).publish { kind := .pumpClosing, reason := "on_open_failed" }
    p.markClosed.finishStart
  else p.finishStart

def askForClient (p : Pump) (a : Attempt) : Move :=
  (p.log .info "opening client" [("transport", .text p.wire)]).ask .createClient (.start (.client a))

/-- Begins an attempt: a token for it, the epoch to use, and the deadline of its steps. -/
def beginAttempt (p : Pump) (now number : Nat) (cursor : Cursor) : Move :=
  if p.stopping then p.openCancelled
  else match p.options.attemptDeadline? now with
    | some deadline =>
      { p with attempts := p.attempts.register number }.askForClient
        { number, cursor, epoch := p.lease.epoch, deadline }
    | none => ({ p with attempts := p.attempts.register number }, .crash)

/-- The position to start from, or why there is none. -/
def startingCursor : Option Cursor → Except OpenError Cursor
  | none => .error (.invalidCursor "no starting cursor")
  | some (.token t) =>
    if t.isEmpty then .error (.invalidCursor "empty position token") else .ok (.token t)
  | some (.timestamp t) => .ok (.timestamp t)

/-- The sequence of attempts; without a position to start from there is none. -/
def connect (p : Pump) (now : Nat) : Move :=
  match startingCursor p.context.cursor with
  | .error e => (p.log .warn "refusing to open receiver" [("error", .text e.message)]).failOpen e
  | .ok cursor => p.beginAttempt now 1 cursor

def attemptFields (a : Attempt) (e : TransportError) : List (String × LogValue) :=
  [("epoch", .number a.epoch), ("attempt", .number a.number), ("error", .text e.message)]

/-- Begins the attempt after `a`, at once or after a wait. -/
def pauseAfter (p : Pump) (now : Nat) (a : Attempt) : Except WaitError Span → Move
  | .error _ => (p, .crash)
  | .ok wait =>
    if wait.isZero then p.beginAttempt now (a.number + 1) a.cursor
    else
      (p.log .debug "waiting before next open attempt" [("delay", .text wait.text)],
        .wait (.start (.backoff a (wakeTime now wait))))

/-- An attempt has failed for now: the next one follows, if any is left. -/
def retryAfter (p : Pump) (now : Nat) (a : Attempt) (e : TransportError) : Move :=
  let p := p.log .warn "failure creating client or receiver" (attemptFields a e)
  let p := p.publish
    { kind := .openAttemptFailed, attempt := a.number, epoch := a.epoch, reason := e.message }
  if p.options.retry.allows a.number then
    p.pauseAfter now a (p.options.retry.delay a.number (p.draw a.number))
  else p.failOpen (.retriesExhausted a.number e)

/-- An attempt is over without a connection: the sequence ends if a higher epoch holds the partition
or no attempt is left, and waits for the next one otherwise. -/
def endAttempt (p : Pump) (now : Nat) (a : Attempt) (failure : AttemptFailure) : Move :=
  let p := { p with attempts := p.attempts.clear }
  match failure with
  | .cancelled => (p.log .info "open cancelled" [("attempt", .number a.number)]).openCancelled
  | .failed e =>
    if e.isFenced then
      (p.log .warn "receiver rejected on create, a higher epoch holds the partition"
        (attemptFields a e)).failOpen (.fenced a.epoch e)
    else p.retryAfter now a e

/-- A connection that comes too late is released. -/
def rejectConnection (p : Pump) (c : Connection) : Move :=
  let r := Release.start c
  (p.log .info "shutdown raced the open, releasing the new connection" []).ask r.request
    (.start (.release r false))

def keepConnection (p : Pump) (a : Attempt) (c : Connection) : Move :=
  let p := (p.setStatus .running).tell (.install c.receiver)
  let p := { p with connection := some c }.log .info "pump running"
    [("epoch", .number a.epoch), ("attempts", .number a.number)]
  (p.publish { kind := .pumpRunning, attempt := a.number, epoch := a.epoch }).finishStart

/-- An attempt has brought a connection: it is installed, unless a shutdown got there first, and then
it is released. -/
def install (p : Pump) (a : Attempt) (c : Connection) : Move :=
  let p := { p with attempts := p.attempts.clear }.log .info "client and receiver creation finished"
    [("epoch", .number a.epoch), ("attempt", .number a.number)]
  if p.stopping || p.status != .opening then p.rejectConnection c else p.keepConnection a c

def receiverRequest (p : Pump) (a : Attempt) : ReceiverRequest where
  group := p.context.group
  partition := p.partition
  cursor := a.cursor
  epoch := a.epoch
  metrics := p.options.metricsEnabled
  identifier := some p.context.receiverName

/-- The receiver step of an attempt is over. Unless it was cancelled, the epoch it used is put down in
the lease. -/
def afterReceiver (p : Pump) (a : Attempt) (client : Nat) (outcome : Except AttemptFailure Nat) :
    Move :=
  match outcome with
  | .ok receiver =>
    let p := { p with lease := p.lease.stamp a.epoch }
    (p.tell (.tune receiver p.options.prefetchCount p.options.receiveTimeout)).install a
      ⟨client, receiver⟩
  | .error (.failed e) =>
    { p with lease := p.lease.stamp a.epoch }.ask (.closeClient client)
      (.start (.abandon a (.failed e)))
  | .error .cancelled => p.ask (.closeClient client) (.start (.abandon a .cancelled))

/-- The client step of an attempt is over. If the attempt was cancelled meanwhile, no receiver is asked
for: the receiver step is over before it began. -/
def afterClient (p : Pump) (now : Nat) (a : Attempt) (outcome : Except AttemptFailure Nat) : Move :=
  match outcome with
  | .ok client =>
    let p := p.log .info "opening epoch receiver"
      [("epoch", .number a.epoch), ("cursor", .text a.cursor.text)]
    if p.isCancelled a.number then p.afterReceiver a client (.error .cancelled)
    else p.ask (.createReceiver client (p.receiverRequest a)) (.start (.receiver a client))
  | .error failure => p.endAttempt now a failure

/-- A failure to close the client of a failed attempt is only logged. -/
def afterAbandon (p : Pump) (now : Nat) (a : Attempt) (failure : AttemptFailure)
    (outcome : Except TransportError Unit) : Move :=
  let p := match outcome with
    | .ok () => p
    | .error e =>
      p.log .info "closing partially opened client failed" [("error", .text e.message)]
  p.endAttempt now a failure

def afterOnOpen (p : Pump) (now : Nat) (outcome : Except ProcessorError Unit) : Move :=
  match outcome with
  | .error e =>
    (p.log .warn "on_open failed" [("error", .text e.message)]).ask
      (.hook (.onError (.onOpen e))) (.start (.refused e))
  | .ok () =>
    let p := { p with opened := true }
    match p.passed with
    | some reason =>
      (p.log .info "on_open returned after shutdown, closing processor"
        [("reason", .text reason.label)]).ask (.hook (.onClose reason)) (.start .lateClose)
    | none =>
      if p.stopping then (p.log .debug "shutdown requested during on_open" []).finishStart
      else p.connect now

/-- A call to open the pump. Only the first one does anything, and only before a shutdown. -/
def beginStart (p : Pump) : Move :=
  if p.stopping || p.status != .uninitialized then
    (p.log .warn "start ignored" [("status", .text p.status.label)], .finish)
  else
    let p := { p.setStatus .opening with phase := .opening }
    let p := p.log .info "opening pump"
      [("epoch", .number p.lease.epoch), ("driver", .text "epoch_receiver")]
    (p.publish { kind := .pumpOpening, epoch := p.lease.epoch }).ask (.hook .onOpen) (.start .onOpen)

def attemptOutcome (answer : Except TransportError Nat) : Except AttemptFailure Nat :=
  answer.mapError .failed

def resumeStart (p : Pump) (now : Nat) : OpenStage → Answer → Option Move
  | .onOpen, .hook outcome => some (p.afterOnOpen now outcome)
  | .refused e, .hook _ => some (p.closeAfterRefusal e)
  | .lateClose, .hook _ => some p.finishStart
  | .client a, .cancelled => some (p.afterClient now a (.error .cancelled))
  | .client a, .timedOut => some (p.afterClient now a (.error (.failed .attemptTimedOut)))
  | .client a, .client answer => some (p, .wait (.start (.clientReady a answer)))
  | .clientReady a answer, .resume => some (p.afterClient now a (attemptOutcome answer))
  | .receiver a client, .cancelled => some (p.afterReceiver a client (.error .cancelled))
  | .receiver a client, .timedOut =>
    some (p.afterReceiver a client (.error (.failed .attemptTimedOut)))
  | .receiver a client, .receiver answer =>
    some (p, .wait (.start (.receiverReady a client answer)))
  | .receiverReady a client answer, .resume =>
    some (p.afterReceiver a client (attemptOutcome answer))
  | .abandon a failure, .released outcome => some (p.afterAbandon now a failure outcome)
  | .backoff _ _, .cancelled => some p.openCancelled
  | .backoff a _, .elapsed => some (p.beginAttempt now (a.number + 1) a.cursor)
  | .failed e, .hook _ => some (p.closeAfterFailure e)
  | .release r closing, .released outcome =>
    let p := p.noteFault r outcome
    some (match r.next? with
      | some r => p.ask r.request (.start (.release r closing))
      | none => if closing then p.markClosed.finishStart else p.finishStart)
  | _, _ => none

end PartitionConsumer.Pump
