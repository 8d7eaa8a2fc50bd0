import PartitionConsumer.Proofs.Session.Basic
/-!
# Moves

What a call can do between two waits. For each kind of call one relation lists the outcomes: what
becomes of the pump, what is shown, and how the call goes on. All later case analyses are on these
relations and none on the procedures.
-/
namespace PartitionConsumer.Pump

/-- The events a pump publishes name its partition. -/
def event (p : Pump) (e : Event) : Effect := .publish { e with partition := p.partition }

def faults (p : Pump) (r : Release) : Except TransportError Unit → List Effect
  | .ok () => []
  | .error e =>
    [p.event { kind := .teardownFault, reason := Release.stepText r.step ++ ": " ++ e.message }]

/-- A pump that closes itself passes through both of its last states at once. -/
def closingEffects (p : Pump) (openReason closeReason : String) : List Effect :=
  [.status .openFailed, p.event { kind := .openFailed, reason := openReason },
    .status .closing, p.event { kind := .pumpClosing, reason := closeReason }]

def closedEffects (p : Pump) : List Effect := [.status .closed, p.event { kind := .pumpClosed }]

/-- How the sequence of attempts goes on: `cut` if the last attempt was cancelled, after `shown`. -/
inductive AttemptMove (p : Pump) (cut : Bool) (shown : List Effect) :
    Pump → List Effect → Next → Prop where
  | stop (h : cut = true ∨ p.stopping = true) :
    AttemptMove p cut shown { p with phase := .settled } shown .finish
  | attempt (a : Attempt) (hs : p.stopping = false) (he : a.epoch = p.lease.epoch) :
    AttemptMove p cut shown { p with attempts := p.attempts.register a.number }
      (shown ++ [.ask .createClient]) (.ask .createClient (.start (.client a)))
  | pause (a : Attempt) (wake : Nat) :
    AttemptMove p cut shown p shown (.wait (.start (.backoff a wake)))
  | report (e : OpenError) (hs : p.stopping = false) (he : e ≠ .cancelled) :
    AttemptMove p cut shown p (shown ++ [.ask (.hook (.onError (.opening e)))])
      (.ask (.hook (.onError (.opening e))) (.start (.failed e)))
  | die (slot : AttemptSlot) : AttemptMove p cut shown { p with attempts := slot } shown .crash

def attemptEvent (a : Attempt) (e : TransportError) : Event where
  kind := .openAttemptFailed
  attempt := a.number
  epoch := a.epoch
  reason := e.message

/-- What a failed attempt shows: nothing if a higher epoch holds the partition. -/
def attemptFault (p : Pump) (a : Attempt) (e : TransportError) : List Effect :=
  if e.isFenced then [] else [p.event (attemptEvent a e)]

def failureFault (p : Pump) (a : Attempt) : AttemptFailure → List Effect
  | .cancelled => []
  | .failed e => p.attemptFault a e

/-- A failed attempt shows one event at most. -/
theorem failureFault_eq (p : Pump) (a : Attempt) (f : AttemptFailure) :
    p.failureFault a f = [] ∨ ∃ e, p.failureFault a f = [p.event (attemptEvent a e)] := by
  cases f with
  | cancelled => exact .inl rfl
  | failed e =>
    unfold failureFault attemptFault
    dsimp only
    split
    · exact .inl rfl
    · exact .inr ⟨e, rfl⟩

inductive OpenMove (p : Pump) : OpenStage → Answer → Pump → List Effect → Next → Prop where
  | refuse (e : ProcessorError) :
    OpenMove p .onOpen (.hook (.error e)) p [.ask (.hook (.onError (.onOpen e)))]
      (.ask (.hook (.onError (.onOpen e))) (.start (.refused e)))
  | closeLate (reason : CloseReason) (hp : p.passed = some reason) :
    OpenMove p .onOpen (.hook (.ok ())) { p with opened := true } [.ask (.hook (.onClose reason))]
      (.ask (.hook (.onClose reason)) (.start .lateClose))
  | cutShort (hp : p.passed = none) (hs : p.stopping = true) :
    OpenMove p .onOpen (.hook (.ok ())) { p with opened := true, phase := .settled } [] .finish
  | connect {q es nx} (hp : p.passed = none) (hs : p.stopping = false)
      (h : AttemptMove { p with opened := true } false [] q es nx) :
    OpenMove p .onOpen (.hook (.ok ())) q es nx
  | refusedCloses (e : ProcessorError) (outcome) (hs : p.status = .opening) :
    OpenMove p (.refused e) (.hook outcome) { p with status := .closed, phase := .settled }
      (p.closingEffects e.message "on_open_failed" ++ p.closedEffects) .finish
  | refusedLeaves (e : ProcessorError) (outcome) (hs : p.status ≠ .opening) :
    OpenMove p (.refused e) (.hook outcome) { p with phase := .settled } [] .finish
  | closedLate (outcome) : OpenMove p .lateClose (.hook outcome) { p with phase := .settled } [] .finish
  | clientAnswered (a : Attempt) (answer) :
    OpenMove p (.client a) (.client answer) p [] (.wait (.start (.clientReady a answer)))
  | clientFailed {stage answer q es nx} (a : Attempt) (f : AttemptFailure)
      (hs : stage = .client a ∧ answer = .cancelled ∧ f = .cancelled
        ∨ stage = .client a ∧ answer = .timedOut ∧ f = .failed .attemptTimedOut
        ∨ ∃ e, stage = .clientReady a (.error e) ∧ answer = .resume ∧ f = .failed e)
      (h : AttemptMove { p with attempts := p.attempts.clear } (f == .cancelled) (p.failureFault a f)
        q es nx) :
    OpenMove p stage answer q es nx
  | clientMade (a : Attempt) (client : Nat) (hc : p.isCancelled a.number = false) :
    OpenMove p (.clientReady a (.ok client)) .resume p
      [.ask (.createReceiver client (p.receiverRequest a))]
      (.ask (.createReceiver client (p.receiverRequest a)) (.start (.receiver a client)))
  | clientUnwanted (a : Attempt) (client : Nat) (hc : p.isCancelled a.number = true) :
    OpenMove p (.clientReady a (.ok client)) .resume p [.ask (.closeClient client)]
      (.ask (.closeClient client) (.start (.abandon a .cancelled)))
  | receiverAnswered (a : Attempt) (client : Nat) (answer) :
    OpenMove p (.receiver a client) (.receiver answer) p []
      (.wait (.start (.receiverReady a client answer)))
  | receiverCancelled (a : Attempt) (client : Nat) :
    OpenMove p (.receiver a client) .cancelled p [.ask (.closeClient client)]
      (.ask (.closeClient client) (.start (.abandon a .cancelled)))
  | receiverFailed {stage answer} (a : Attempt) (client : Nat) (e : TransportError)
      (hs : stage = .receiver a client ∧ answer = .timedOut ∧ e = .attemptTimedOut
        ∨ stage = .receiverReady a client (.error e) ∧ answer = .resume) :
    OpenMove p stage answer { p with lease := p.lease.stamp a.epoch } [.ask (.closeClient client)]
      (.ask (.closeClient client) (.start (.abandon a (.failed e))))
  | install (a : Attempt) (client receiver : Nat) (hs : p.stopping = false)
      (ho : p.status = .opening) :
    OpenMove p (.receiverReady a client (.ok receiver)) .resume
      { p with
        lease := p.lease.stamp a.epoch, attempts := p.attempts.clear, status := .running,
        connection := some ⟨client, receiver⟩, phase := .settled }
      [.tune receiver p.options.prefetchCount p.options.receiveTimeout, .status .running,
        .install receiver, p.event { kind := .pumpRunning, attempt := a.number, epoch := a.epoch }]
      .finish
  | reject (a : Attempt) (client receiver : Nat) (hs : p.stopping = true ∨ p.status ≠ .opening) :
    OpenMove p (.receiverReady a client (.ok receiver)) .resume
      { p with lease := p.lease.stamp a.epoch, attempts := p.attempts.clear }
      [.tune receiver p.options.prefetchCount p.options.receiveTimeout, .ask (.clearHandler receiver)]
      (.ask (.clearHandler receiver) (.start (.release ⟨⟨client, receiver⟩, .clearHandler⟩ false)))
  | abandoned {q es nx} (a : Attempt) (f : AttemptFailure) (outcome)
      (h : AttemptMove { p with attempts := p.attempts.clear } (f == .cancelled) (p.failureFault a f)
        q es nx) :
    OpenMove p (.abandon a f) (.released outcome) q es nx
  | pauseCut (a : Attempt) (wake : Nat) :
    OpenMove p (.backoff a wake) .cancelled { p with phase := .settled } [] .finish
  | pauseOver {q es nx} (a : Attempt) (wake : Nat) (h : AttemptMove p false [] q es nx) :
    OpenMove p (.backoff a wake) .elapsed q es nx
  | failedCloses (e : OpenError) (outcome) (hs : p.status = .opening) (hc : p.connection = none) :
    OpenMove p (.failed e) (.hook outcome) { p with status := .closed, phase := .settled }
      (p.closingEffects e.message "open_failed" ++ p.closedEffects) .finish
  | failedReleases (e : OpenError) (outcome) (c : Connection) (hs : p.status = .opening)
      (hc : p.connection = some c) :
    OpenMove p (.failed e) (.hook outcome) { p with status := .closing, connection := none }
      (p.closingEffects e.message "open_failed" ++ [.ask (.clearHandler c.receiver)])
      (.ask (.clearHandler c.receiver) (.start (.release ⟨c, .clearHandler⟩ true)))
  | failedLeaves (e : OpenError) (outcome) (hs : p.status ≠ .opening) :
    OpenMove p (.failed e) (.hook outcome) { p with phase := .settled } [] .finish
  | releaseNext (r r' : Release) (closing : Bool) (outcome) (hr : r.next? = some r') :
    OpenMove p (.release r closing) (.released outcome) p (p.faults r outcome ++ [.ask r'.request])
      (.ask r'.request (.start (.release r' closing)))
  | releaseCloses (r : Release) (outcome) (hr : r.next? = none) :
    OpenMove p (.release r true) (.released outcome) { p with status := .closed, phase := .settled }
      (p.faults r outcome ++ p.closedEffects) .finish
  | releaseEnds (r : Release) (outcome) (hr : r.next? = none) :
    OpenMove p (.release r false) (.released outcome) { p with phase := .settled }
      (p.faults r outcome) .finish

inductive StartMove (p : Pump) : Pump → List Effect → Next → Prop where
  | ignored (h : p.stopping = true ∨ p.status ≠ .uninitialized) : StartMove p p [] .finish
  | opens (hs : p.stopping = false) (hu : p.status = .uninitialized) :
    StartMove p { p with status := .opening, phase := .opening }
      [.status .opening, p.event { kind := .pumpOpening, epoch := p.lease.epoch },
        .ask (.hook .onOpen)]
      (.ask (.hook .onOpen) (.start .onOpen))

/-- The status a shutdown leaves a pump in that it takes the connection from. -/
def closingStatus (p : Pump) : Status := if p.status.isClosingOrClosed then p.status else .closing

def closingStatusEffects (p : Pump) : List Effect :=
  if p.status.isClosingOrClosed then [] else [.status .closing]

inductive PassMove (p : Pump) (ticket : Nat) (reason : CloseReason) (shown : List Effect) :
    Pump → List Effect → Next → Prop where
  | hook (h : p.opened = true) :
    PassMove p ticket reason shown { p with passed := some reason }
      (shown ++ [.ask (.hook (.onClose reason))])
      (.ask (.hook (.onClose reason)) (.shutdown ticket reason .onClose))
  | close (h : p.opened = false) :
    PassMove p ticket reason shown
      { p with passed := some reason, status := .closed, once := p.once.finish }
      (shown ++ p.closedEffects) .finish

/-- The pump after its attempt was cancelled and its connection taken out. -/
def unlinked (p : Pump) : Pump :=
  { p with attempts := p.attempts.cancel, status := p.closingStatus, connection := none }

def unlinkedEffects (p : Pump) (reason : CloseReason) : List Effect :=
  p.event { kind := .pumpClosing, reason := reason.label } :: p.closingStatusEffects

inductive DisconnectMove (p : Pump) (ticket : Nat) (reason : CloseReason) :
    Pump → List Effect → Next → Prop where
  | release (c : Connection) (h : p.connection = some c) :
    DisconnectMove p ticket reason p.unlinked
      (p.unlinkedEffects reason ++ [.ask (.clearHandler c.receiver)])
      (.ask (.clearHandler c.receiver) (.shutdown ticket reason (.release ⟨c, .clearHandler⟩)))
  | pass {q es nx} (h : p.connection = none)
      (hp : PassMove p.unlinked ticket reason (p.unlinkedEffects reason) q es nx) :
    DisconnectMove p ticket reason q es nx

inductive RunMove (p : Pump) (now ticket : Nat) (reason : CloseReason) :
    Pump → List Effect → Next → Prop where
  | closed (h : p.status = .closed) :
    RunMove p now ticket reason { p with stopping := true, once := p.once.finish } [] .finish
  | settle (h : p.status ≠ .closed) (hp : p.phase = .opening) :
    RunMove p now ticket reason { p with stopping := true } []
      (.wait (.shutdown ticket reason (.settling (wakeTime now p.options.cancelGrace))))
  | disconnect {q es nx} (h : p.status ≠ .closed) (hp : p.phase ≠ .opening)
      (hd : DisconnectMove { p with stopping := true } ticket reason q es nx) :
    RunMove p now ticket reason q es nx

inductive EnterMove (p : Pump) (now ticket : Nat) (reason : CloseReason) :
    Pump → List Effect → Next → Prop where
  | done (h : p.once.done = true) : EnterMove p now ticket reason p [] .finish
  | queue (h : p.once.done = false) (ht : (p.once.enter ticket).isTurnOf ticket = false) :
    EnterMove p now ticket reason { p with once := p.once.enter ticket } []
      (.wait (.shutdown ticket reason .queued))
  | run {q es nx} (h : p.once.done = false) (ht : (p.once.enter ticket).isTurnOf ticket = true)
      (hr : RunMove { p with once := p.once.enter ticket } now ticket reason q es nx) :
    EnterMove p now ticket reason q es nx

inductive ShutdownMove (p : Pump) (now ticket : Nat) (reason : CloseReason) :
    ShutdownStage → Answer → Pump → List Effect → Next → Prop where
  | queuedDone (h : p.once.done = true) :
    ShutdownMove p now ticket reason .queued .turn p [] .finish
  | queuedRun {q es nx} (h : p.once.done = false) (hr : RunMove p now ticket reason q es nx) :
    ShutdownMove p now ticket reason .queued .turn q es nx
  | foundClosed {answer} (wake : Nat) (ha : answer = .settled ∨ answer = .elapsed)
      (h : p.status = .closed) :
    ShutdownMove p now ticket reason (.settling wake) answer { p with once := p.once.finish } []
      .finish
  | disconnect {answer q es nx} (wake : Nat) (ha : answer = .settled ∨ answer = .elapsed)
      (h : p.status ≠ .closed) (hd : DisconnectMove p ticket reason q es nx) :
    ShutdownMove p now ticket reason (.settling wake) answer q es nx
  | releaseNext (r r' : Release) (outcome) (hr : r.next? = some r') :
    ShutdownMove p now ticket reason (.release r) (.released outcome) p
      (p.faults r outcome ++ [.ask r'.request])
      (.ask r'.request (.shutdown ticket reason (.release r')))
  | releaseEnds {q es nx} (r : Release) (outcome) (hr : r.next? = none)
      (hp : PassMove p ticket reason (p.faults r outcome) q es nx) :
    ShutdownMove p now ticket reason (.release r) (.released outcome) q es nx
  | close (outcome) :
    ShutdownMove p now ticket reason .onClose (.hook outcome)
      { p with status := .closed, once := p.once.finish } p.closedEffects .finish

inductive ReceiveMove (p : Pump) (batch : Option Batch) : Pump → List Effect → Next → Prop where
  | unheard (tail : Option TailReport) (h : p.status.isClosingOrClosed = true ∨ batch.getD [] = []) :
    ReceiveMove p batch { p with context := { p.context with tail } } [] .finish
  | handle (tail : Option TailReport) (h : p.status.isClosingOrClosed = false) :
    ReceiveMove p batch { p with context := { p.context with tail } }
      [.ask (.hook (.onEvents (batch.getD [])))]
      (.ask (.hook (.onEvents (batch.getD []))) (.deliver (.onEvents (batch.getD []).length)))

inductive DeliveryMove (p : Pump) : DeliveryStage → Answer → List Effect → Next → Prop where
  | handled (count : Nat) :
    DeliveryMove p (.onEvents count) (.hook (.ok ()))
      [p.event { kind := .batchDelivered, count := count }] .finish
  | failed (count : Nat) (e : ProcessorError) :
    DeliveryMove p (.onEvents count) (.hook (.error e)) [.ask (.hook (.onError (.processor e)))]
      (.ask (.hook (.onError (.processor e))) (.deliver .onError))
  | reported (outcome) : DeliveryMove p .onError (.hook outcome) [] .finish

inductive FailureMove (p : Pump) (e : TransportError) : Pump → List Effect → Prop where
  | ignored (h : p.status ≠ .running) : FailureMove p e p []
  | taken (h : p.status = .running) :
    FailureMove p e { p with status := .errored }
      [.status .errored, p.event { kind := .pumpErrored, reason := e.message }, .defer e]

/-! ## Every move is one of them -/

/-- After what the pump has shown, the move shows some effects and comes to an outcome in `R`. -/
def Goes (p : Pump) (m : Move) (R : Pump → List Effect → Next → Prop) : Prop :=
  ∃ es, m.1.shown = p.shown ++ es ∧ R m.1.untraced es m.2

section Traces

variable (p : Pump)

theorem shown_tell (e : Effect) (h : e.isShown = true) : (p.tell e).shown = p.shown ++ [e] := by
  simp [shown, h]

@[simp] theorem shown_log (l : LogLevel) (m : String) (fs : List (String × LogValue)) :
    (p.log l m fs).shown = p.shown := by simp [log, shown, Effect.isShown]

@[simp] theorem shown_publish (e : Event) : (p.publish e).shown = p.shown ++ [p.event e] :=
  shown_tell p _ rfl

@[simp] theorem shown_setStatus (s : Status) : (p.setStatus s).shown = p.shown ++ [.status s] :=
  shown_tell { p with status := s } _ rfl

@[simp] theorem stopping_log (l : LogLevel) (m : String) (fs : List (String × LogValue)) :
    (p.log l m fs).stopping = p.stopping := rfl

@[simp] theorem untraced_tell (e : Effect) : (p.tell e).untraced = p.untraced := rfl

@[simp] theorem untraced_log (l : LogLevel) (m : String) (fs : List (String × LogValue)) :
    (p.log l m fs).untraced = p.untraced := rfl

@[simp] theorem untraced_publish (e : Event) : (p.publish e).untraced = p.untraced := rfl

@[simp] theorem untraced_setStatus (s : Status) :
    (p.setStatus s).untraced = { p.untraced with status := s } := rfl

theorem untraced_of_trace {p : Pump} (h : p.trace = []) : p.untraced = p := by
  cases p
  cases h
  rfl

theorem shown_of_trace {p : Pump} (h : p.trace = []) : p.shown = [] := by simp [shown, h]

end Traces

theorem Goes.mono {p : Pump} {m : Move} {R R' : Pump → List Effect → Next → Prop}
    (h : p.Goes m R) (hr : ∀ q es nx, R q es nx → R' q es nx) : p.Goes m R' := by
  obtain ⟨es, he, h⟩ := h
  exact ⟨es, he, hr _ _ _ h⟩

/-- A log record before a move changes nothing. -/
theorem goes_log {p : Pump} {l : LogLevel} {m : String} {fs : List (String × LogValue)} {move : Move}
    {R : Pump → List Effect → Next → Prop} (h : (p.log l m fs).Goes move R) : p.Goes move R := by
  obtain ⟨es, he, h⟩ := h
  exact ⟨es, by simpa using he, h⟩

theorem goes_finishStart {p : Pump} {R : Pump → List Effect → Next → Prop}
    (h : R { p.untraced with phase := .settled } [] .finish) : p.Goes p.finishStart R :=
  ⟨[], by simp [finishStart, settle, shown], h⟩

theorem goes_ask (p : Pump) (r : Request) (c : Call) {R : Pump → List Effect → Next → Prop}
    (h : R p.untraced [.ask r] (.ask r c)) : p.Goes (p.ask r c) R :=
  ⟨[.ask r], shown_tell p _ rfl, h⟩

theorem goes_failOpen (p : Pump) (cut : Bool) (e : OpenError) (he : e ≠ .cancelled) :
    p.Goes (p.failOpen e) (AttemptMove p.untraced cut []) := by
  unfold failOpen
  dsimp only
  split
  · rename_i hs
    exact goes_log (goes_finishStart (.stop (.inr hs)))
  · rename_i hs
    exact goes_log (goes_ask _ _ _ (.report e (Bool.eq_false_iff.2 hs) he))

theorem goes_beginAttempt (p : Pump) (now number : Nat) (cursor : Cursor) :
    p.Goes (p.beginAttempt now number cursor) (AttemptMove p.untraced false []) := by
  unfold beginAttempt
  by_cases hs : p.stopping = true
  · rw [if_pos hs]
    exact goes_log (goes_finishStart (.stop (.inr hs)))
  · rw [if_neg hs]
    cases p.options.attemptDeadline? now with
    | none => exact ⟨[], by simp [shown], .die _⟩
    | some deadline =>
      exact ⟨[.ask .createClient], by simp [askForClient, ask, log, shown, Effect.isShown],
        .attempt ⟨_, _, _, _⟩ (Bool.eq_false_iff.2 hs) rfl⟩

theorem goes_pauseAfter (p : Pump) (now : Nat) (a : Attempt) (wait : Except WaitError Span) :
    p.Goes (p.pauseAfter now a wait) (AttemptMove p.untraced false []) := by
  cases wait with
  | error e => exact ⟨[], by simp [pauseAfter], .die _⟩
  | ok wait =>
    unfold pauseAfter
    dsimp only
    by_cases hz : wait.isZero = true
    · rw [if_pos hz]
      exact goes_beginAttempt ..
    · rw [if_neg hz]
      exact ⟨[], by simp, .pause _ _⟩

/-- What was shown before a sequence of attempts goes on is shown before all it shows. -/
theorem AttemptMove.prepend {p : Pump} {cut : Bool} {shown : List Effect} {q es nx}
    (h : AttemptMove p cut [] q es nx) : AttemptMove p cut shown q (shown ++ es) nx := by
  cases h with
  | stop h => simpa using .stop h
  | attempt a hs he => exact .attempt a hs he
  | pause a wake => simpa using .pause a wake
  | report e hs he => exact .report e hs he
  | die slot => simpa using .die slot

theorem goes_retryAfter (p : Pump) (now : Nat) (a : Attempt) (e : TransportError) :
    p.Goes (p.retryAfter now a e) (AttemptMove p.untraced false [p.event (attemptEvent a e)]) := by
  unfold retryAfter
  dsimp only
  generalize hq : (p.log .warn "failure creating client or receiver" (attemptFields a e)).publish
    { kind := .openAttemptFailed, attempt := a.number, epoch := a.epoch, reason := e.message } = q
  have hs : q.shown = p.shown ++ [p.event (attemptEvent a e)] := by simp [← hq]; rfl
  have hu : q.untraced = p.untraced := by simp [← hq]
  rw [← hu]
  split
  · obtain ⟨es, he, h⟩ := goes_pauseAfter q now a (q.options.retry.delay a.number (q.draw a.number))
    exact ⟨_, by rw [he, hs, List.append_assoc], h.prepend⟩
  · obtain ⟨es, he, h⟩ := goes_failOpen q false (.retriesExhausted a.number e) (by simp)
    exact ⟨_, by rw [he, hs, List.append_assoc], h.prepend⟩

theorem goes_endAttempt (p : Pump) (now : Nat) (a : Attempt) (f : AttemptFailure) :
    p.Goes (p.endAttempt now a f)
      (AttemptMove { p.untraced with attempts := p.attempts.clear } (f == .cancelled)
        (p.failureFault a f)) := by
  cases f with
  | cancelled => exact goes_log (goes_log (goes_finishStart (.stop (.inl rfl))))
  | failed e =>
    unfold endAttempt
    dsimp only
    by_cases hf : e.isFenced = true
    · rw [if_pos hf]
      simp only [failureFault, attemptFault, hf, if_true]
      exact goes_log (goes_failOpen _ _ _ (by simp))
    · rw [if_neg hf]
      simp only [failureFault, attemptFault, hf]
      exact goes_retryAfter { p with attempts := p.attempts.clear } now a e

theorem goes_connect (p : Pump) (now : Nat) :
    p.Goes (p.connect now) (AttemptMove p.untraced false []) := by
  unfold connect
  cases hc : startingCursor p.context.cursor with
  | ok cursor => exact goes_beginAttempt ..
  | error e =>
    have he : e ≠ .cancelled := by
      rintro rfl
      unfold startingCursor at hc
      split at hc
      · cases hc
      · split at hc <;> cases hc
      · cases hc
    exact goes_log (goes_failOpen _ _ _ he)

theorem goes_afterOnOpen (p : Pump) (now : Nat) (outcome : Except ProcessorError Unit) :
    p.Goes (p.afterOnOpen now outcome) (OpenMove p.untraced .onOpen (.hook outcome)) := by
  rcases outcome with e | ⟨⟩
  · exact goes_log (goes_ask _ _ _ (.refuse e))
  · obtain ⟨_, _, _, _, _, _, _, stopping, _, _, _, passed, _, _⟩ := p
    cases passed with
    | some reason => exact goes_log (goes_ask _ _ _ (.closeLate reason rfl))
    | none =>
      cases stopping with
      | true => exact goes_log (goes_finishStart (.cutShort rfl rfl))
      | false => exact (goes_connect _ now).mono fun _ _ _ h => .connect rfl rfl h

/-- What a pump shows before it is closed by the call that opens it. -/
theorem shown_closing (p : Pump) (openReason closeReason : String) :
    ((((p.setStatus .openFailed).publish { kind := .openFailed, reason := openReason }).setStatus
      .closing).publish { kind := .pumpClosing, reason := closeReason }).shown
      = p.shown ++ p.closingEffects openReason closeReason := by
  simp only [shown_publish, shown_setStatus, closingEffects, List.append_assoc, List.cons_append,
    List.nil_append]
  rfl

@[simp] theorem shown_markClosed (p : Pump) : p.markClosed.shown = p.shown ++ p.closedEffects := by
  simp only [markClosed, shown_publish, shown_log, shown_setStatus, closedEffects,
    List.append_assoc, List.cons_append, List.nil_append]
  rfl

@[simp] theorem untraced_markClosed (p : Pump) :
    p.markClosed.untraced = { p.untraced with status := .closed } := rfl

theorem closedEffects_congr {p q : Pump} (h : q.context = p.context) :
    q.closedEffects = p.closedEffects := by simp [closedEffects, event, partition, h]

/-- A pump that has shown some more is closed, and the call that opened it returns. -/
theorem goes_closed {p q : Pump} {shown : List Effect} {R : Pump → List Effect → Next → Prop}
    (hq : q.shown = p.shown ++ shown) (hc : q.context = p.context)
    (h : R { q.untraced with status := .closed, phase := .settled } (shown ++ p.closedEffects)
      .finish) : p.Goes q.markClosed.finishStart R := by
  refine ⟨_, ?_, h⟩
  calc q.markClosed.finishStart.1.shown = q.markClosed.shown := rfl
    _ = p.shown ++ (shown ++ p.closedEffects) := by
      rw [shown_markClosed, hq, closedEffects_congr hc, List.append_assoc]

theorem goes_closeAfterRefusal (p : Pump) (e : ProcessorError) (outcome) :
    p.Goes (p.closeAfterRefusal e) (OpenMove p.untraced (.refused e) (.hook outcome)) := by
  unfold closeAfterRefusal
  split
  · rename_i hs
    exact goes_closed (shown_closing p e.message "on_open_failed") rfl
      (.refusedCloses e outcome (eq_of_beq hs))
  · rename_i hs
    exact goes_finishStart (.refusedLeaves e outcome fun h => hs (beq_iff_eq.2 h))

theorem goes_closeAfterFailure (p : Pump) (e : OpenError) (outcome) :
    p.Goes (p.closeAfterFailure e) (OpenMove p.untraced (.failed e) (.hook outcome)) := by
  unfold closeAfterFailure
  split
  · rename_i hs
    have hq := shown_closing p e.message "open_failed"
    obtain ⟨_, _, _, _, _, _, _, _, _, _, _, _, connection, _⟩ := p
    cases connection with
    | none =>
      exact goes_closed ((shown_log _ ..).trans hq) rfl (.failedCloses e outcome (eq_of_beq hs) rfl)
    | some c =>
      refine ⟨_, ?_, .failedReleases e outcome c (eq_of_beq hs) rfl⟩
      refine (shown_tell _ _ rfl).trans ?_
      rw [← List.append_assoc]
      exact congrArg (· ++ _) hq
  · rename_i hs
    exact goes_finishStart (.failedLeaves e outcome fun h => hs (beq_iff_eq.2 h))

/-- What is shown before a move comes before what the move shows. -/
theorem goes_shown {p q : Pump} {m : Move} {shown : List Effect}
    {R : Pump → List Effect → Next → Prop} (hq : q.shown = p.shown ++ shown)
    (h : q.Goes m fun r es nx => R r (shown ++ es) nx) : p.Goes m R := by
  obtain ⟨es, he, h⟩ := h
  exact ⟨shown ++ es, by rw [he, hq, List.append_assoc], h⟩

/-- A change to the pump that shows nothing. -/
theorem goes_quiet {p q : Pump} {m : Move} {R : Pump → List Effect → Next → Prop}
    (hq : q.shown = p.shown) (h : q.Goes m R) : p.Goes m R := by
  obtain ⟨es, he, h⟩ := h
  exact ⟨es, by rw [he, hq], h⟩

theorem goes_keepConnection (p : Pump) (a : Attempt) (c : Connection)
    {R : Pump → List Effect → Next → Prop}
    (h : R { p.untraced with status := .running, connection := some c, phase := .settled }
      [.status .running, .install c.receiver,
        p.event { kind := .pumpRunning, attempt := a.number, epoch := a.epoch }] .finish) :
    p.Goes (p.keepConnection a c) R := by
  have hi : ((p.setStatus .running).tell (.install c.receiver)).shown
      = p.shown ++ [.status .running, .install c.receiver] := by
    rw [shown_tell _ _ rfl, shown_setStatus, List.append_assoc]
    rfl
  refine ⟨_, ?_, h⟩
  refine (shown_publish ..).trans ?_
  rw [shown_log]
  exact (congrArg (· ++ _) hi).trans (List.append_assoc ..)

theorem goes_install (p : Pump) (a : Attempt) (c : Connection)
    {R : Pump → List Effect → Next → Prop}
    (hr : p.stopping = true ∨ p.status ≠ .opening →
      R { p.untraced with attempts := p.attempts.clear } [.ask (.clearHandler c.receiver)]
        (.ask (.clearHandler c.receiver) (.start (.release ⟨c, .clearHandler⟩ false))))
    (hk : p.stopping = false → p.status = .opening →
      R { p.untraced with
          attempts := p.attempts.clear, status := .running, connection := some c,
          phase := .settled }
        [.status .running, .install c.receiver,
          p.event { kind := .pumpRunning, attempt := a.number, epoch := a.epoch }] .finish) :
    p.Goes (p.install a c) R := by
  unfold install
  apply goes_log
  dsimp only
  split
  · rename_i hs
    exact goes_log (goes_ask _ _ _ (hr (by simpa using hs)))
  · rename_i hs
    have hs' : p.stopping = false ∧ p.status = .opening := by simpa using hs
    exact goes_keepConnection _ a c (hk hs'.1 hs'.2)

theorem goes_receiverMade (p : Pump) (a : Attempt) (client receiver : Nat) :
    p.Goes (p.afterReceiver a client (.ok receiver))
      (OpenMove p.untraced (.receiverReady a client (.ok receiver)) .resume) := by
  have ht := shown_tell { p with lease := p.lease.stamp a.epoch }
    (.tune receiver p.options.prefetchCount p.options.receiveTimeout) rfl
  exact goes_shown ht (goes_install _ a ⟨client, receiver⟩
    (fun hs => .reject a client receiver hs) fun hs ho => .install a client receiver hs ho)

theorem goes_afterClient (p : Pump) (now : Nat) (a : Attempt) (client : Nat) :
    p.Goes (p.afterClient now a (.ok client))
      (OpenMove p.untraced (.clientReady a (.ok client)) .resume) := by
  unfold afterClient
  dsimp only
  split
  · rename_i hc
    exact goes_log (goes_ask _ _ _ (.clientUnwanted a client hc))
  · rename_i hc
    exact goes_log (goes_ask _ _ _ (.clientMade a client (Bool.eq_false_iff.2 hc)))

theorem goes_clientFailed (p : Pump) (now : Nat) (a : Attempt) (f : AttemptFailure) {stage answer}
    (hs : stage = .client a ∧ answer = .cancelled ∧ f = .cancelled
      ∨ stage = .client a ∧ answer = .timedOut ∧ f = .failed .attemptTimedOut
      ∨ ∃ e, stage = .clientReady a (.error e) ∧ answer = .resume ∧ f = .failed e) :
    p.Goes (p.afterClient now a (.error f)) (OpenMove p.untraced stage answer) :=
  (goes_endAttempt p now a f).mono fun _ _ _ h => .clientFailed a f hs h

theorem goes_afterAbandon (p : Pump) (now : Nat) (a : Attempt) (f : AttemptFailure)
    (outcome : Except TransportError Unit) :
    p.Goes (p.afterAbandon now a f outcome) (OpenMove p.untraced (.abandon a f) (.released outcome)) := by
  rcases outcome with e | ⟨⟩
  · exact goes_log ((goes_endAttempt _ now a f).mono fun _ _ _ h => .abandoned a f _ h)
  · exact (goes_endAttempt p now a f).mono fun _ _ _ h => .abandoned a f _ h

theorem shown_noteFault (p : Pump) (r : Release) (outcome : Except TransportError Unit) :
    (p.noteFault r outcome).shown = p.shown ++ p.faults r outcome := by
  rcases outcome with e | ⟨⟩
  · exact (shown_publish ..).trans (congrArg (· ++ _) (shown_log ..))
  · simp [noteFault, faults]

@[simp] theorem untraced_noteFault (p : Pump) (r : Release) (outcome : Except TransportError Unit) :
    (p.noteFault r outcome).untraced = p.untraced := by
  rcases outcome with e | ⟨⟩ <;> rfl

theorem context_noteFault (p : Pump) (r : Release) (outcome : Except TransportError Unit) :
    (p.noteFault r outcome).context = p.context := by
  rcases outcome with e | ⟨⟩ <;> rfl

theorem goes_openRelease (p : Pump) (r : Release) (closing : Bool)
    (outcome : Except TransportError Unit) :
    p.Goes
      (match r.next? with
        | some r' => (p.noteFault r outcome).ask r'.request (.start (.release r' closing))
        | none =>
          if closing then (p.noteFault r outcome).markClosed.finishStart
          else (p.noteFault r outcome).finishStart)
      (OpenMove p.untraced (.release r closing) (.released outcome)) := by
  apply goes_shown (shown_noteFault p r outcome)
  have hu := untraced_noteFault p r outcome
  have hc := closedEffects_congr (context_noteFault p r outcome)
  generalize p.noteFault r outcome = q at *
  cases hr : r.next? with
  | some r' => exact goes_ask q _ _ (by rw [hu]; exact .releaseNext r r' closing outcome hr)
  | none =>
    cases closing with
    | true =>
      refine goes_closed (List.append_nil _).symm rfl ?_
      rw [hu, hc]
      exact .releaseCloses r outcome hr
    | false =>
      apply goes_finishStart
      rw [hu, List.append_nil]
      exact .releaseEnds r outcome hr

theorem goes_resumeStart {p : Pump} {now : Nat} {stage : OpenStage} {answer : Answer} {m : Move}
    (h : p.resumeStart now stage answer = some m) : p.Goes m (OpenMove p.untraced stage answer) := by
  unfold resumeStart at h
  split at h
  all_goals try (cases h)
  · exact goes_afterOnOpen ..
  · exact goes_closeAfterRefusal ..
  · exact goes_finishStart (.closedLate _)
  · exact goes_clientFailed p now _ _ (.inl ⟨rfl, rfl, rfl⟩)
  · exact goes_clientFailed p now _ _ (.inr (.inl ⟨rfl, rfl, rfl⟩))
  · exact ⟨[], by simp, .clientAnswered ..⟩
  · rename_i a answer
    cases answer with
    | ok client => exact goes_afterClient ..
    | error e => exact goes_clientFailed p now _ _ (.inr (.inr ⟨e, rfl, rfl, rfl⟩))
  · exact goes_ask _ _ _ (.receiverCancelled ..)
  · exact goes_quiet rfl (goes_ask { p with lease := _ } _ _ (.receiverFailed _ _ _ (.inl ⟨rfl, rfl, rfl⟩)))
  · exact ⟨[], by simp, .receiverAnswered ..⟩
  · rename_i a client answer
    cases answer with
    | ok receiver => exact goes_receiverMade ..
    | error e =>
      exact goes_quiet rfl (goes_ask { p with lease := _ } _ _ (.receiverFailed _ _ e (.inr ⟨rfl, rfl⟩)))
  · exact goes_afterAbandon ..
  · exact goes_log (goes_finishStart (.pauseCut ..))
  · exact (goes_beginAttempt ..).mono fun _ _ _ h => .pauseOver _ _ h
  · exact goes_closeAfterFailure ..
  · exact goes_openRelease ..

theorem goes_beginStart (p : Pump) : p.Goes p.beginStart (StartMove p.untraced) := by
  unfold beginStart
  split
  · rename_i hs
    have hs' : p.stopping = true ∨ p.status ≠ .uninitialized := by simpa using hs
    exact ⟨[], by simp, .ignored hs'⟩
  · rename_i hs
    have hs' : p.stopping = false ∧ p.status = .uninitialized := by simpa using hs
    refine ⟨_, ?_, .opens hs'.1 hs'.2⟩
    refine (shown_tell _ _ rfl).trans ?_
    rw [shown_publish, shown_log]
    have h1 : { p.setStatus .opening with phase := .opening }.shown = p.shown ++ [.status .opening] :=
      shown_setStatus ..
    rw [h1]
    simp only [List.append_assoc]
    rfl

/-! ## Shutdown -/

theorem goes_passCloseHook (p : Pump) (ticket : Nat) (reason : CloseReason) :
    p.Goes (p.passCloseHook ticket reason) (PassMove p.untraced ticket reason []) := by
  unfold passCloseHook
  dsimp only
  split
  · rename_i ho
    exact goes_quiet rfl (goes_ask { p with passed := some reason } _ _ (.hook ho))
  · rename_i ho
    refine ⟨_, ?_, .close (Bool.eq_false_iff.2 ho)⟩
    exact (shown_markClosed { p with passed := some reason })

theorem PassMove.prepend {p : Pump} {ticket : Nat} {reason : CloseReason} {shown : List Effect}
    {q es nx} (h : PassMove p ticket reason [] q es nx) :
    PassMove p ticket reason shown q (shown ++ es) nx := by
  cases h with
  | hook h => exact .hook h
  | close h => exact .close h

@[simp] theorem shown_cancelAttempt (p : Pump) : p.cancelAttempt.shown = p.shown := by
  unfold cancelAttempt
  split
  · exact shown_log { p with attempts := p.attempts.cancel } ..
  · rfl

theorem untraced_cancelAttempt (p : Pump) :
    p.cancelAttempt.untraced = { p.untraced with attempts := p.attempts.cancel } := by
  unfold cancelAttempt
  split
  · rfl
  · rename_i h
    have hc : p.attempts.current = none := by simpa [AttemptSlot.isRegistered] using h
    have : p.attempts.cancel = p.attempts := by simp [AttemptSlot.cancel, hc]
    rw [this]
    rfl

theorem shown_beginClosing (p : Pump) :
    p.beginClosing.shown = p.shown ++ p.closingStatusEffects := by
  unfold beginClosing closingStatusEffects
  split <;> simp

theorem untraced_beginClosing (p : Pump) :
    p.beginClosing.untraced = { p.untraced with status := p.closingStatus } := by
  unfold beginClosing closingStatus
  split <;> rfl

theorem closingStatus_congr {p q : Pump} (h : q.status = p.status) :
    q.closingStatus = p.closingStatus ∧ q.closingStatusEffects = p.closingStatusEffects := by
  simp [closingStatus, closingStatusEffects, h]

theorem status_cancelAttempt (p : Pump) : p.cancelAttempt.status = p.status := by
  unfold cancelAttempt
  split <;> rfl

theorem goes_disconnect (p : Pump) (ticket : Nat) (reason : CloseReason) :
    p.Goes (p.disconnect ticket reason) (DisconnectMove p.untraced ticket reason) := by
  unfold disconnect
  generalize hq : (p.publish { kind := .pumpClosing, reason := reason.label }).cancelAttempt = q
  have hu : q.untraced = { p.untraced with attempts := p.attempts.cancel } := by
    rw [← hq, untraced_cancelAttempt]
    rfl
  have hst : q.status = p.status := by
    rw [← hq, status_cancelAttempt]
    rfl
  have hs : q.shown = p.shown ++ [p.event { kind := .pumpClosing, reason := reason.label }] := by
    rw [← hq, shown_cancelAttempt, shown_publish]
  obtain ⟨hcs, hce⟩ := closingStatus_congr hst
  have hbs : q.beginClosing.shown = p.shown ++ p.unlinkedEffects reason := by
    rw [shown_beginClosing, hs, hce, List.append_assoc]
    rfl
  have hbu : { q.beginClosing with connection := none }.untraced = p.untraced.unlinked := by
    have h := untraced_beginClosing q
    rw [hu, hcs] at h
    exact congrArg (fun x : Pump => { x with connection := none }) h
  have hc : q.beginClosing.connection = p.connection := by
    have h := untraced_beginClosing q
    rw [hu] at h
    exact congrArg (·.connection) h
  generalize q.beginClosing = r at hbs hbu hc
  apply goes_shown hbs
  obtain ⟨_, _, _, _, _, _, _, _, _, _, _, _, connection, _⟩ := r
  cases connection with
  | some c =>
    have hd : DisconnectMove p.untraced ticket reason _ _ _ := .release c hc.symm
    rw [← hbu] at hd
    exact goes_quiet (by rfl) (goes_log (goes_ask _ _ _ hd))
  | none =>
    refine goes_log ((goes_passCloseHook ..).mono fun _ _ _ h => ?_)
    have hp : PassMove p.untraced.unlinked ticket reason [] _ _ _ := hbu ▸ h
    exact .pass hc.symm hp.prepend

theorem goes_finishShutdown (p : Pump) {R : Pump → List Effect → Next → Prop}
    (h : R { p.untraced with once := p.once.finish } [] .finish) : p.Goes p.finishShutdown R :=
  ⟨[], by simp [finishShutdown, shown], h⟩

theorem goes_runShutdown (p : Pump) (now ticket : Nat) (reason : CloseReason) :
    p.Goes (p.runShutdown now ticket reason) (RunMove p.untraced now ticket reason) := by
  unfold runShutdown
  generalize hq : p.log .info "pump shutdown requested"
    [("reason", .text reason.label), ("status", .text p.status.label)] = q
  have hs : q.shown = p.shown := by rw [← hq, shown_log]
  have hu : q.untraced = p.untraced := by rw [← hq, untraced_log]
  rw [← hu]
  apply goes_quiet (q := { q with stopping := true }) hs
  dsimp only
  split
  · rename_i h
    exact goes_log (goes_finishShutdown _ (.closed (eq_of_beq h)))
  · rename_i h
    have hc : q.status ≠ .closed := fun he => h (beq_iff_eq.2 he)
    split
    · rename_i hp
      exact ⟨[], by simp, .settle hc (eq_of_beq hp)⟩
    · rename_i hp
      exact (goes_disconnect ..).mono fun _ _ _ hd =>
        .disconnect hc (fun he => hp (beq_iff_eq.2 he)) hd

theorem goes_afterSettling (p : Pump) (now ticket : Nat) (reason : CloseReason) (wake : Nat) (answer)
    (ha : answer = .settled ∨ answer = .elapsed) :
    p.Goes (p.afterSettling ticket reason)
      (ShutdownMove p.untraced now ticket reason (.settling wake) answer) := by
  unfold afterSettling
  split
  · rename_i h
    exact goes_finishShutdown _ (.foundClosed wake ha (eq_of_beq h))
  · rename_i h
    exact (goes_disconnect ..).mono fun _ _ _ hd =>
      .disconnect wake ha (fun he => h (beq_iff_eq.2 he)) hd

theorem goes_beginShutdown (p : Pump) (now ticket : Nat) (reason : CloseReason) :
    p.Goes (p.beginShutdown now ticket reason) (EnterMove p.untraced now ticket reason) := by
  unfold beginShutdown
  split
  · rename_i hd
    exact ⟨[], by simp, .done hd⟩
  · rename_i hd
    have hd' : p.once.done = false := Bool.eq_false_iff.2 hd
    dsimp only
    split
    · rename_i ht
      exact goes_quiet rfl ((goes_runShutdown { p with once := p.once.enter ticket } ..).mono
        fun _ _ _ h => .run hd' ht h)
    · rename_i ht
      exact ⟨[], by simp [shown], .queue hd' (Bool.eq_false_iff.2 ht)⟩

theorem goes_shutdownRelease (p : Pump) (now ticket : Nat) (reason : CloseReason) (r : Release)
    (outcome : Except TransportError Unit) :
    p.Goes
      (match r.next? with
        | some r' => (p.noteFault r outcome).ask r'.request (.shutdown ticket reason (.release r'))
        | none => (p.noteFault r outcome).passCloseHook ticket reason)
      (ShutdownMove p.untraced now ticket reason (.release r) (.released outcome)) := by
  apply goes_shown (shown_noteFault p r outcome)
  have hu := untraced_noteFault p r outcome
  generalize p.noteFault r outcome = q at *
  cases hr : r.next? with
  | some r' => exact goes_ask q _ _ (by rw [hu]; exact .releaseNext r r' outcome hr)
  | none =>
    refine (goes_passCloseHook ..).mono fun _ _ _ h => ?_
    rw [hu] at h
    exact .releaseEnds r outcome hr h.prepend

theorem goes_resumeShutdown {p : Pump} {now ticket : Nat} {reason : CloseReason}
    {stage : ShutdownStage} {answer : Answer} {m : Move}
    (h : p.resumeShutdown now ticket reason stage answer = some m) :
    p.Goes m (ShutdownMove p.untraced now ticket reason stage answer) := by
  unfold resumeShutdown at h
  split at h
  all_goals try (cases h)
  · split
    · rename_i hd
      exact ⟨[], by simp, .queuedDone hd⟩
    · rename_i hd
      exact (goes_runShutdown ..).mono fun _ _ _ h => .queuedRun (Bool.eq_false_iff.2 hd) h
  · exact goes_afterSettling _ _ _ _ _ _ (.inl rfl)
  · exact goes_log (goes_afterSettling _ _ _ _ _ _ (.inr rfl))
  · exact goes_shutdownRelease ..
  · exact ⟨_, shown_markClosed p, .close _⟩

/-! ## Deliveries -/

theorem goes_handleBatch (p : Pump) (batch : Batch) (R : Pump → List Effect → Next → Prop)
    (hd : p.status.isClosingOrClosed = true → R p.untraced [] .finish)
    (ha : p.status.isClosingOrClosed = false →
      R p.untraced [.ask (.hook (.onEvents batch))]
        (.ask (.hook (.onEvents batch)) (.deliver (.onEvents batch.length)))) :
    p.Goes (p.handleBatch batch) R := by
  unfold handleBatch
  split
  · rename_i h
    exact ⟨[], by simp, hd h⟩
  · rename_i h
    exact goes_ask _ _ _ (ha (Bool.eq_false_iff.2 h))

/-- Keeping a report changes nothing but the context's tail. -/
theorem exists_tail (p : Pump) (keep : Bool) (report : Option TailReport) :
    ∃ tail, (if keep then p.snapshot report else p)
      = { p with context := { p.context with tail } } := by
  cases keep with
  | false => exact ⟨p.context.tail, rfl⟩
  | true =>
    cases report with
    | none => exact ⟨p.context.tail, rfl⟩
    | some r => exact ⟨some r, rfl⟩

theorem goes_receive (p : Pump) (report : Option TailReport) (batch : Option Batch) :
    p.Goes (p.receive report batch) (ReceiveMove p.untraced batch) := by
  unfold receive
  obtain ⟨tail, ht⟩ := exists_tail p p.options.metricsEnabled report
  rw [ht]
  refine goes_quiet (q := { p with context := { p.context with tail } }) rfl ?_
  dsimp only
  split
  · exact goes_handleBatch _ _ _ (fun h => .unheard tail (.inl h)) fun h => .handle tail h
  · rename_i hne
    have hb : batch.getD [] = [] := by
      rcases batch with _ | ⟨_ | ⟨m, ms⟩⟩
      · rfl
      · rfl
      · exact absurd rfl (hne m ms)
    split
    · exact goes_handleBatch _ _ _ (fun h => .unheard tail (.inl h)) fun h => hb ▸ .handle tail h
    · exact ⟨[], by simp, .unheard tail (.inr hb)⟩

theorem goes_resumeDelivery {p : Pump} {stage : DeliveryStage} {answer : Answer} {m : Move}
    (h : p.resumeDelivery stage answer = some m) :
    p.Goes m fun q es nx => q = p.untraced ∧ DeliveryMove p.untraced stage answer es nx := by
  unfold resumeDelivery at h
  split at h
  all_goals try (cases h)
  · exact ⟨_, shown_publish .., rfl, .handled _⟩
  · exact goes_log (goes_ask _ _ _ ⟨rfl, .failed _ _⟩)
  · exact ⟨[], by simp, rfl, .reported _⟩

theorem goes_receiverFailed (p : Pump) (e : TransportError) :
    p.Goes (p.receiverFailed e, .finish) fun q es nx =>
      FailureMove p.untraced e q es ∧ nx = .finish := by
  unfold receiverFailed
  split
  · rename_i h
    have hr : p.status ≠ .running := by simpa using h
    exact ⟨[], by simp, .ignored hr, rfl⟩
  · rename_i h
    have hr : p.status = .running := by simpa using h
    have hl (l : LogLevel) (m : String) (fs : List (String × LogValue)) :
        ((((p.setStatus .errored).log l m fs).publish
          { kind := .pumpErrored, reason := e.message }).tell (.defer e)).shown
          = p.shown ++ [.status .errored, p.event { kind := .pumpErrored, reason := e.message },
            .defer e] := by
      rw [shown_tell _ _ rfl, shown_publish, shown_log, shown_setStatus, List.append_assoc,
        List.append_assoc]
      rfl
    dsimp only
    split
    · exact ⟨_, hl .., .taken hr, rfl⟩
    · exact ⟨_, hl .., .taken hr, rfl⟩

theorem goes_beginReport (p : Pump) (ticket : Nat) (e : TransportError) :
    p.Goes (p.beginReport ticket e) fun q es nx => q = p.untraced
      ∧ es = [.ask (.hook (.onError (.delivery e)))]
      ∧ nx = .ask (.hook (.onError (.delivery e))) (.report ticket) :=
  goes_ask _ _ _ ⟨rfl, rfl, rfl⟩

end PartitionConsumer.Pump
