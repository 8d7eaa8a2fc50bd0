import PartitionConsumer.Proofs.Session.Calls
/-!
# Turns

At any time at most one call opens the pump. As long as no call is dropped, the shutdown procedure is
run by one call at most, which is the first that came, and it is run to its end once.
-/
namespace PartitionConsumer

namespace Pump

variable {p q : Pump} {es : List Effect} {nx : Next}

/-! ## What the moves leave alone -/

/-- No call changes the options or what the pump knows of its partition, or leaves anything in the trace. -/
structure Kept (p q : Pump) : Prop where
  trace : q.trace = p.trace
  options : q.options = p.options
  context : q.context = p.context

structure KeepsTurns (p q : Pump) : Prop extends Kept p q where
  once : q.once = p.once
  stopping : q.stopping = p.stopping

structure KeepsLease (p q : Pump) : Prop extends Kept p q where
  lease : q.lease = p.lease

theorem AttemptMove.keeps {cut : Bool} {shown : List Effect} (h : AttemptMove p cut shown q es nx) :
    KeepsTurns p q := by cases h <;> exact ⟨⟨rfl, rfl, rfl⟩, rfl, rfl⟩

theorem OpenMove.keeps {stage : OpenStage} {a : Answer} (h : OpenMove p stage a q es nx) :
    KeepsTurns p q := by
  cases h with
  | connect _ _ h => exact { h.keeps with }
  | clientFailed _ _ _ h => exact { h.keeps with }
  | abandoned _ _ _ h => exact { h.keeps with }
  | pauseOver _ _ h => exact h.keeps
  | _ => exact ⟨⟨rfl, rfl, rfl⟩, rfl, rfl⟩

theorem StartMove.keeps (h : StartMove p q es nx) : KeepsTurns p q := by
  cases h <;> exact ⟨⟨rfl, rfl, rfl⟩, rfl, rfl⟩

theorem FailureMove.keeps {e : TransportError} (h : FailureMove p e q es) : KeepsTurns p q := by
  cases h <;> exact ⟨⟨rfl, rfl, rfl⟩, rfl, rfl⟩

/-! A delivery puts down how far the partition has got. -/

theorem ReceiveMove.trace {batch : Option Batch} (h : ReceiveMove p batch q es nx) :
    q.trace = p.trace := by cases h <;> rfl

theorem ReceiveMove.options {batch : Option Batch} (h : ReceiveMove p batch q es nx) :
    q.options = p.options := by cases h <;> rfl

theorem ReceiveMove.partition {batch : Option Batch} (h : ReceiveMove p batch q es nx) :
    q.partition = p.partition := by cases h <;> rfl

theorem ReceiveMove.once {batch : Option Batch} (h : ReceiveMove p batch q es nx) :
    q.once = p.once := by cases h <;> rfl

def Opening (p q : Pump) (nx : Next) : Prop :=
  (q.phase = p.phase ∧ ∃ stage, nx = .wait (.start stage) ∨ ∃ r, nx = .ask r (.start stage))
    ∨ ((nx.leave q).phase = .settled ∧ nx.call? = none)

theorem AttemptMove.opening {cut : Bool} {shown : List Effect} (h : AttemptMove p cut shown q es nx) :
    Opening p q nx := by
  cases h with
  | stop => exact .inr ⟨rfl, rfl⟩
  | attempt a => exact .inl ⟨rfl, _, .inr ⟨_, rfl⟩⟩
  | pause a wake => exact .inl ⟨rfl, _, .inl rfl⟩
  | report e => exact .inl ⟨rfl, _, .inr ⟨_, rfl⟩⟩
  | die => exact .inr ⟨rfl, rfl⟩

theorem OpenMove.opening {stage : OpenStage} {a : Answer} (h : OpenMove p stage a q es nx) :
    Opening p q nx := by
  cases h with
  | refuse => exact .inl ⟨rfl, _, .inr ⟨_, rfl⟩⟩
  | closeLate => exact .inl ⟨rfl, _, .inr ⟨_, rfl⟩⟩
  | connect _ _ h => exact h.opening
  | clientAnswered => exact .inl ⟨rfl, _, .inl rfl⟩
  | clientFailed _ _ _ h => exact h.opening
  | clientMade => exact .inl ⟨rfl, _, .inr ⟨_, rfl⟩⟩
  | clientUnwanted => exact .inl ⟨rfl, _, .inr ⟨_, rfl⟩⟩
  | receiverAnswered => exact .inl ⟨rfl, _, .inl rfl⟩
  | receiverCancelled => exact .inl ⟨rfl, _, .inr ⟨_, rfl⟩⟩
  | receiverFailed => exact .inl ⟨rfl, _, .inr ⟨_, rfl⟩⟩
  | reject => exact .inl ⟨rfl, _, .inr ⟨_, rfl⟩⟩
  | abandoned _ _ _ h => exact h.opening
  | pauseOver _ _ h => exact h.opening
  | failedReleases => exact .inl ⟨rfl, _, .inr ⟨_, rfl⟩⟩
  | releaseNext => exact .inl ⟨rfl, _, .inr ⟨_, rfl⟩⟩
  | _ => exact .inr ⟨rfl, rfl⟩

theorem AttemptMove.status {cut : Bool} {shown : List Effect} (h : AttemptMove p cut shown q es nx) :
    q.status = p.status := by cases h <;> rfl

theorem OpenMove.uninitialized {stage : OpenStage} {a : Answer} (h : OpenMove p stage a q es nx)
    (hq : q.status = .uninitialized) : p.status = .uninitialized := by
  cases h with
  | connect _ _ h => exact h.status ▸ hq
  | clientFailed _ _ _ h => exact h.status ▸ hq
  | abandoned _ _ _ h => exact h.status ▸ hq
  | pauseOver _ _ h => exact h.status ▸ hq
  | refusedCloses => cases hq
  | install => cases hq
  | failedCloses => cases hq
  | failedReleases => cases hq
  | releaseCloses => cases hq
  | _ => exact hq

/-- What a move of a call keeps that does not open the pump: it neither settles the open nor begins the
pump's life anew, it makes no connection, and a pump that is closed stays so. -/
structure Aside (p q : Pump) : Prop where
  phase : q.phase = p.phase
  uninitialized : q.status = .uninitialized → p.status = .uninitialized
  opened : q.opened = p.opened
  connection : q.connection = p.connection ∨ q.connection = none
  stopping : p.stopping = true → q.stopping = true
  closed : p.status = .closed → q.status = .closed

theorem Aside.of_eq (hp : q.phase = p.phase) (hs : q.status = p.status) (ho : q.opened = p.opened)
    (hc : q.connection = p.connection) (ht : q.stopping = p.stopping) : Aside p q :=
  ⟨hp, fun h => hs.symm.trans h, ho, .inl hc, fun h => ht.trans h, fun h => hs.trans h⟩

theorem Aside.trans {r : Pump} (h : Aside p q) (k : Aside q r) : Aside p r where
  phase := k.phase.trans h.phase
  uninitialized hu := h.uninitialized (k.uninitialized hu)
  opened := k.opened.trans h.opened
  connection := by
    obtain hc | hc := k.connection
    · rw [hc]
      exact h.connection
    · exact .inr hc
  stopping ht := k.stopping (h.stopping ht)
  closed hc := k.closed (h.closed hc)

theorem ReceiveMove.aside {batch : Option Batch} (h : ReceiveMove p batch q es nx) : Aside p q := by
  cases h <;> exact .of_eq rfl rfl rfl rfl rfl

theorem FailureMove.aside {e : TransportError} (h : FailureMove p e q es) : Aside p q := by
  cases h with
  | ignored => exact .of_eq rfl rfl rfl rfl rfl
  | taken hr => exact ⟨rfl, nofun, rfl, .inl rfl, id, fun hc => by rw [hr] at hc; cases hc⟩

section Shutdown

variable {now ticket : Nat} {reason : CloseReason}

theorem PassMove.keeps {shown : List Effect} (h : PassMove p ticket reason shown q es nx) :
    KeepsLease p q := by cases h <;> exact ⟨⟨rfl, rfl, rfl⟩, rfl⟩

theorem DisconnectMove.keeps (h : DisconnectMove p ticket reason q es nx) : KeepsLease p q := by
  cases h with
  | release => exact ⟨⟨rfl, rfl, rfl⟩, rfl⟩
  | pass _ hp => exact { hp.keeps with }

theorem RunMove.keeps (h : RunMove p now ticket reason q es nx) : KeepsLease p q := by
  cases h with
  | disconnect _ _ hd => exact { hd.keeps with }
  | _ => exact ⟨⟨rfl, rfl, rfl⟩, rfl⟩

theorem EnterMove.keeps (h : EnterMove p now ticket reason q es nx) : KeepsLease p q := by
  cases h with
  | run _ _ hr => exact { hr.keeps with }
  | _ => exact ⟨⟨rfl, rfl, rfl⟩, rfl⟩

theorem ShutdownMove.keeps {stage : ShutdownStage} {a : Answer}
    (h : ShutdownMove p now ticket reason stage a q es nx) : KeepsLease p q := by
  cases h with
  | queuedRun _ hr => exact hr.keeps
  | disconnect _ _ _ hd => exact hd.keeps
  | releaseEnds _ _ _ hp => exact hp.keeps
  | _ => exact ⟨⟨rfl, rfl, rfl⟩, rfl⟩

theorem PassMove.aside {shown : List Effect} (h : PassMove p ticket reason shown q es nx) :
    Aside p q := by
  cases h with
  | hook => exact .of_eq rfl rfl rfl rfl rfl
  | close => exact ⟨rfl, nofun, rfl, .inl rfl, id, fun _ => rfl⟩

theorem aside_unlinked (p : Pump) : Aside p p.unlinked := by
  refine ⟨rfl, fun hu => ?_, rfl, .inr rfl, id, fun hc => ?_⟩
  · unfold unlinked closingStatus at hu
    cases hs : p.status <;> simp [hs, Status.isClosingOrClosed] at hu
  · unfold unlinked closingStatus
    simp [hc, Status.isClosingOrClosed]

theorem aside_stop (p : Pump) : Aside p { p with stopping := true } :=
  ⟨rfl, id, rfl, .inl rfl, fun _ => rfl, id⟩

theorem DisconnectMove.aside (h : DisconnectMove p ticket reason q es nx) : Aside p q := by
  cases h with
  | release => exact aside_unlinked p
  | pass _ hp => exact (aside_unlinked p).trans hp.aside

theorem RunMove.aside (h : RunMove p now ticket reason q es nx) : Aside p q := by
  cases h with
  | closed => exact (aside_stop p).trans (.of_eq rfl rfl rfl rfl rfl)
  | settle => exact aside_stop p
  | disconnect _ _ hd => exact (aside_stop p).trans hd.aside

theorem EnterMove.aside (h : EnterMove p now ticket reason q es nx) : Aside p q := by
  cases h with
  | run _ _ hr =>
    have he : Aside p { p with once := p.once.enter ticket } := .of_eq rfl rfl rfl rfl rfl
    exact he.trans hr.aside
  | _ => exact .of_eq rfl rfl rfl rfl rfl

theorem ShutdownMove.aside {stage : ShutdownStage} {a : Answer}
    (h : ShutdownMove p now ticket reason stage a q es nx) : Aside p q := by
  cases h with
  | queuedRun _ hr => exact hr.aside
  | disconnect _ _ _ hd => exact hd.aside
  | releaseEnds _ _ _ hp => exact hp.aside
  | close => exact ⟨rfl, nofun, rfl, .inl rfl, id, fun _ => rfl⟩
  | _ => exact .of_eq rfl rfl rfl rfl rfl

def Turning (p : Pump) (ticket : Nat) (q : Pump) (nx : Next) : Prop :=
  (q.once = p.once ∧ ∃ reason stage, stage ≠ .queued
      ∧ (nx = .wait (.shutdown ticket reason stage)
        ∨ ∃ r, nx = .ask r (.shutdown ticket reason stage)))
    ∨ (q.once = p.once.finish ∧ nx = .finish)

theorem PassMove.turning {shown : List Effect} (h : PassMove p ticket reason shown q es nx) :
    Turning p ticket q nx := by
  cases h with
  | hook => exact .inl ⟨rfl, reason, .onClose, by simp, .inr ⟨_, rfl⟩⟩
  | close => exact .inr ⟨rfl, rfl⟩

theorem DisconnectMove.turning (h : DisconnectMove p ticket reason q es nx) :
    Turning p ticket q nx := by
  cases h with
  | release c => exact .inl ⟨rfl, reason, .release ⟨c, .clearHandler⟩, by simp, .inr ⟨_, rfl⟩⟩
  | pass _ hp => exact hp.turning

theorem RunMove.turning (h : RunMove p now ticket reason q es nx) : Turning p ticket q nx := by
  cases h with
  | closed => exact .inr ⟨rfl, rfl⟩
  | settle => exact .inl ⟨rfl, reason, .settling _, by simp, .inl rfl⟩
  | disconnect _ _ hd => exact hd.turning

/-- A caller that has its turn keeps it until the procedure is at its end. -/
theorem ShutdownMove.turning {stage : ShutdownStage} {a : Answer} (hs : stage ≠ .queued)
    (h : ShutdownMove p now ticket reason stage a q es nx) : Turning p ticket q nx := by
  cases h with
  | queuedDone => exact absurd rfl hs
  | queuedRun => exact absurd rfl hs
  | foundClosed => exact .inr ⟨rfl, rfl⟩
  | disconnect _ _ _ hd => exact hd.turning
  | releaseNext _ r' => exact .inl ⟨rfl, reason, .release r', by simp, .inr ⟨_, rfl⟩⟩
  | releaseEnds _ _ _ hp => exact hp.turning
  | close => exact .inr ⟨rfl, rfl⟩

theorem Turning.leave (h : Turning p ticket q nx) : nx.leave q = q := by
  obtain ⟨-, _, _, -, rfl | ⟨_, rfl⟩⟩ | ⟨-, rfl⟩ := h <;> rfl

theorem Turning.turns (h : Turning p ticket q nx) {t : Nat} (ht : t ∈ q.once.turns) :
    t ∈ p.once.turns := by
  obtain ⟨ho, -⟩ | ⟨ho, -⟩ := h
  · rwa [ho] at ht
  · rw [ho] at ht
    cases ht

theorem EnterMove.leave (h : EnterMove p now ticket reason q es nx) : nx.leave q = q := by
  cases h with
  | run _ _ hr => exact hr.turning.leave
  | _ => rfl

theorem EnterMove.turns (h : EnterMove p now ticket reason q es nx) {t : Nat}
    (ht : t ∈ q.once.turns) : t ∈ p.once.turns ∨ t = ticket := by
  cases h with
  | done => exact .inl ht
  | queue => simpa [Once.enter] using ht
  | run _ _ hr => simpa [Once.enter] using hr.turning.turns ht

theorem ShutdownMove.turns {stage : ShutdownStage} {a : Answer}
    (h : ShutdownMove p now ticket reason stage a q es nx) {t : Nat} (ht : t ∈ q.once.turns) :
    t ∈ p.once.turns := by
  by_cases hs : stage = .queued
  · subst hs
    cases h with
    | queuedDone => exact ht
    | queuedRun _ hr => exact hr.turning.turns ht
  · exact (h.turning hs).turns ht

theorem ShutdownMove.leave {stage : ShutdownStage} {a : Answer}
    (h : ShutdownMove p now ticket reason stage a q es nx) : nx.leave q = q := by
  by_cases hs : stage = .queued
  · subst hs
    cases h with
    | queuedDone => rfl
    | queuedRun _ hr => exact hr.turning.leave
  · exact (h.turning hs).leave

structure Ends (p q : Pump) (nx : Next) : Prop where
  kept : p.once.done = true → q.once.done = true
  reached : nx = .finish → q.once.done = true

theorem Turning.ends (h : Turning p ticket q nx) : Ends p q nx := by
  obtain ⟨ho, _, _, -, hn⟩ | ⟨ho, rfl⟩ := h
  · refine ⟨fun hd => ho ▸ hd, fun he => ?_⟩
    obtain rfl | ⟨_, rfl⟩ := hn <;> cases he
  · exact ⟨fun _ => ho ▸ rfl, fun _ => ho ▸ rfl⟩

theorem EnterMove.ends (h : EnterMove p now ticket reason q es nx) : Ends p q nx := by
  cases h with
  | done hd => exact ⟨id, fun _ => hd⟩
  | queue => exact ⟨id, fun he => by cases he⟩
  | run _ _ hr => exact ⟨hr.turning.ends.kept, hr.turning.ends.reached⟩

theorem ShutdownMove.ends {stage : ShutdownStage} {a : Answer}
    (h : ShutdownMove p now ticket reason stage a q es nx) : Ends p q nx := by
  by_cases hs : stage = .queued
  · subst hs
    cases h with
    | queuedDone hd => exact ⟨id, fun _ => hd⟩
    | queuedRun _ hr => exact hr.turning.ends
  · exact (h.turning hs).ends

end Shutdown

theorem ReceiveMove.leave {batch : Option Batch} (h : ReceiveMove p batch q es nx) :
    nx.leave q = q := by cases h <;> rfl

theorem DeliveryMove.leave {stage : DeliveryStage} {a : Answer} (h : DeliveryMove p stage a es nx) :
    nx.leave q = q := by cases h <;> rfl

end Pump

def Mark.isShutDown : Mark → Bool
  | .returned _ (.shutdown _) => true
  | _ => false

def hasShutDown (h : List Mark) : Bool := h.any Mark.isShutDown

@[simp] theorem hasShutDown_append (h k : List Mark) :
    hasShutDown (h ++ k) = (hasShutDown h || hasShutDown k) := List.any_append

@[simp] theorem hasShutDown_did (id : Nat) (es : List Effect) :
    hasShutDown (es.map (.did id)) = false := by simp [hasShutDown, Mark.isShutDown]

theorem hasShutDown_begin (s : Session) (e : Errand) :
    hasShutDown (s.begin e).history = hasShutDown s.history :=
  (hasShutDown_append ..).trans (Bool.or_false _)

theorem hasShutDown_told (s : Session) (id : Nat) (w : Waiting) (a : Answer) :
    hasShutDown (s.told id w a).history = hasShutDown s.history := by
  have hm : hasShutDown (w.marks id a) = false := by
    unfold Waiting.marks
    split <;> rfl
  rw [Session.history_told, hasShutDown_append, hm, Bool.or_false]

def Errand.isReport : Errand → Bool
  | .report _ => true
  | _ => false

namespace Pump

/-! A call that is dropped settles the open, or gives its turn away, and does nothing else to the pump. -/

variable (p : Pump) (c : Call)

@[simp] theorem context_abandon : (p.abandon c).context = p.context := by cases c <;> rfl

@[simp] theorem lease_abandon : (p.abandon c).lease = p.lease := by cases c <;> rfl

@[simp] theorem status_abandon : (p.abandon c).status = p.status := by cases c <;> rfl

@[simp] theorem stopping_abandon : (p.abandon c).stopping = p.stopping := by cases c <;> rfl

@[simp] theorem opened_abandon : (p.abandon c).opened = p.opened := by cases c <;> rfl

@[simp] theorem passed_abandon : (p.abandon c).passed = p.passed := by cases c <;> rfl

@[simp] theorem connection_abandon : (p.abandon c).connection = p.connection := by cases c <;> rfl

end Pump

namespace Next

/-! A call that dies settles the open and does nothing else to the pump. -/

@[simp] theorem once_leave (nx : Next) (p : Pump) : (nx.leave p).once = p.once := by cases nx <;> rfl

@[simp] theorem status_leave (nx : Next) (p : Pump) : (nx.leave p).status = p.status := by
  cases nx <;> rfl

@[simp] theorem opened_leave (nx : Next) (p : Pump) : (nx.leave p).opened = p.opened := by
  cases nx <;> rfl

@[simp] theorem passed_leave (nx : Next) (p : Pump) : (nx.leave p).passed = p.passed := by
  cases nx <;> rfl

@[simp] theorem connection_leave (nx : Next) (p : Pump) :
    (nx.leave p).connection = p.connection := by cases nx <;> rfl

@[simp] theorem stopping_leave (nx : Next) (p : Pump) : (nx.leave p).stopping = p.stopping := by
  cases nx <;> rfl

@[simp] theorem trace_leave (nx : Next) (p : Pump) : (nx.leave p).trace = p.trace := by
  cases nx <;> rfl

theorem errand_waiting? {nx : Next} {errand : Errand} {w : Waiting}
    (h : nx.waiting? errand = some w) : w.errand = errand := by
  cases nx with
  | ask r c => exact Option.some.inj h ▸ rfl
  | wait c => exact Option.some.inj h ▸ rfl
  | finish => cases h
  | crash => cases h

/-- Only a call to open the pump goes on as one. -/
theorem Fits.opening? {nx : Next} {id : Nat} {errand : Errand} (h : nx.Fits id errand)
    (he : errand ≠ .start) : nx.opening? = none := by
  refine (call?_waiting? nx errand Call.opening?).symm.trans ?_
  cases hw : nx.waiting? errand with
  | none => rfl
  | some w =>
    have hf := h w hw
    have hr := errand_waiting? hw
    cases hf with
    | start => exact absurd hr.symm he
    | _ => rfl

/-- Only a call for shutdown comes to have its turn. -/
theorem Fits.turn? {nx : Next} {id : Nat} {errand : Errand} (h : nx.Fits id errand)
    (he : ∀ reason, errand ≠ .shutdown reason) : nx.turn? = none := by
  refine (call?_waiting? nx errand Call.turn?).symm.trans ?_
  cases hw : nx.waiting? errand with
  | none => rfl
  | some w =>
    have hf := h w hw
    have hr := errand_waiting? hw
    cases hf with
    | shutdown => exact absurd hr.symm (he _)
    | _ => rfl

end Next

namespace Session

/-- The calls have numbers of their own, all given out before, and each of them fits. -/
structure Tidy (s : Session) : Prop where
  trace : s.pump.trace = []
  nodup : (s.calls.map (·.1)).Nodup
  fresh : ∀ x ∈ s.calls, x.1 < s.next
  fits : ∀ x ∈ s.calls, x.2.Fits x.1
  turns : ∀ t ∈ s.pump.once.turns, t < s.next
  /-- The deferred part of a failure has not asked for a turn. -/
  reports : ∀ x ∈ s.calls, x.2.errand.isReport = true → x.1 ∉ s.pump.once.turns

namespace Tidy

variable {s : Session} {id : Nat} {w : Waiting}

theorem new (p : Pump) (h : p.trace = []) (ho : p.once = {}) : (new p).Tidy where
  trace := h
  nodup := List.nodup_nil
  fresh := by intro x hx; cases hx
  fits := by intro x hx; cases hx
  turns := by
    intro t ht
    have : t ∈ p.once.turns := ht
    rw [ho] at this
    cases this
  reports := by intro x hx; cases hx

theorem fits_call (h : s.Tidy) (hw : s.call? id = some w) : w.Fits id :=
  h.fits _ (mem_of_call? hw)

theorem begin (h : s.Tidy) (e : Errand) : (s.begin e).Tidy where
  trace := h.trace
  nodup := h.nodup
  fresh x hx := Nat.lt_succ_of_lt (h.fresh x hx)
  fits := h.fits
  turns t ht := Nat.lt_succ_of_lt (h.turns t ht)
  reports := h.reports

theorem forget (h : s.Tidy) (n : Nat) : (s.forget n).Tidy := ⟨h.1, h.2, h.3, h.4, h.5, h.6⟩

theorem note (h : s.Tidy) (ms : List Mark) : (s.note ms).Tidy := ⟨h.1, h.2, h.3, h.4, h.5, h.6⟩

theorem take (h : s.Tidy) (id : Nat) : (s.take id).Tidy where
  trace := h.trace
  nodup := h.nodup.sublist (List.eraseP_sublist.map _)
  fresh x hx := h.fresh x (mem_of_mem_take hx)
  fits x hx := h.fits x (mem_of_mem_take hx)
  turns := h.turns
  reports x hx := h.reports x (mem_of_mem_take hx)

theorem told (h : s.Tidy) (id : Nat) (w : Waiting) (a : Answer) : (s.told id w a).Tidy :=
  (h.take id).note _

/-- No other call has the number of a call that is taken out. -/
theorem ne_of_mem_take (h : s.Tidy) (hw : s.call? id = some w) {x : Nat × Waiting}
    (hx : x ∈ (s.take id).calls) : x.1 ≠ id := by
  have hp := (perm_take hw).map (·.1)
  have hn := (hp.nodup_iff.1 h.nodup)
  rw [List.map_cons, List.nodup_cons] at hn
  rintro rfl
  exact hn.1 (List.mem_map.2 ⟨x, hx, rfl⟩)

theorem lt_next (h : s.Tidy) (hw : s.call? id = some w) : id < s.next := h.fresh _ (mem_of_call? hw)

/-- A call whose number is free goes on. -/
theorem carry (h : s.Tidy) {errand : Errand} {q : Pump} {es : List Effect} {nx : Next}
    (hid : id < s.next) (hf : ∀ x ∈ s.calls, x.1 ≠ id) (hq : q.trace = [])
    (ht : ∀ t ∈ q.once.turns, t ∈ s.pump.once.turns ∨ t = id) (hn : nx.Fits id errand)
    (hr : errand.isReport = true → id ∉ q.once.turns) : (s.carry id errand q es nx).Tidy := by
  have hc : ∀ x ∈ (s.carry id errand q es nx).calls,
      x ∈ s.calls ∨ x.1 = id ∧ nx.waiting? errand = some x.2 := by
    intro x hx
    rw [calls_carry, List.mem_append] at hx
    refine hx.symm.imp_right fun hx => ?_
    obtain ⟨w, hw, rfl⟩ := List.mem_map.1 hx
    exact ⟨rfl, Option.mem_toList.1 hw⟩
  refine ⟨(nx.trace_leave q).trans hq, ?_, ?_, ?_, ?_, ?_⟩
  · rw [calls_carry, List.map_append]
    cases hw : nx.waiting? errand with
    | none => exact h.nodup
    | some w =>
      refine List.nodup_cons.2 ⟨fun hm => ?_, h.nodup⟩
      obtain ⟨x, hx, he⟩ := List.mem_map.1 hm
      exact hf x hx he
  · intro x hx
    obtain hx | ⟨he, -⟩ := hc x hx
    · exact h.fresh x hx
    · exact he ▸ hid
  · intro x hx
    obtain hx | ⟨he, hw⟩ := hc x hx
    · exact h.fits x hx
    · exact he ▸ hn x.2 hw
  · intro t hm
    rw [pump_carry, Next.once_leave] at hm
    obtain ht | rfl := ht t hm
    · exact h.turns t ht
    · exact hid
  · intro x hx he hm
    rw [pump_carry, Next.once_leave] at hm
    obtain hx | ⟨hi, hw⟩ := hc x hx
    · obtain ht | hi := ht _ hm
      · exact h.reports x hx he ht
      · exact hf x hx hi
    · rw [Next.errand_waiting? hw] at he
      exact hr he (hi ▸ hm)

/-- A new call begins. -/
theorem launch (h : s.Tidy) {errand : Errand} {q : Pump} {es : List Effect} {nx : Next}
    (hq : q.trace = s.pump.trace) (ht : ∀ t ∈ q.once.turns, t ∈ s.pump.once.turns ∨ t = s.next)
    (hn : nx.Fits s.next errand) (hr : errand.isReport = true → q.once = s.pump.once) :
    ((s.begin errand).carry s.next errand q es nx).Tidy := by
  refine (h.begin errand).carry (Nat.lt_succ_self _) (fun x hx => Nat.ne_of_lt (h.fresh x hx))
    (hq.trans h.trace) ht hn fun he hm => ?_
  rw [hr he] at hm
  exact Nat.lt_irrefl _ (h.turns _ hm)

/-- A waiting call is told an answer. -/
theorem tell (h : s.Tidy) (hw : s.call? id = some w) {a : Answer} {errand : Errand} {q : Pump}
    {es : List Effect} {nx : Next} (hq : q.trace = s.pump.trace)
    (ht : ∀ t ∈ q.once.turns, t ∈ s.pump.once.turns ∨ t = id) (hn : nx.Fits id errand)
    (hr : errand.isReport = false) : ((s.told id w a).carry id errand q es nx).Tidy := by
  refine (h.told id w a).carry (h.lt_next hw) (fun x hx => h.ne_of_mem_take hw hx)
    (hq.trans h.trace) ht hn fun he => ?_
  rw [hr] at he
  cases he

theorem step {c : Cause} {t : Session} (h : s.Tidy) (hs : s.Step c t) : t.Tidy := by
  cases hs with
  | start hm =>
    exact h.launch hm.keeps.trace (fun t ht => .inl (hm.keeps.once ▸ ht)) (hm.fits _)
      (by simp [Errand.isReport])
  | shutdown reason hm =>
    exact h.launch hm.keeps.trace (fun t ht => hm.turns ht) hm.fits (by simp [Errand.isReport])
  | deliver report batch hm =>
    exact h.launch hm.trace (fun t ht => .inl (hm.once ▸ ht)) hm.fits (by simp [Errand.isReport])
  | fail e hm =>
    exact h.launch hm.keeps.trace (fun t ht => .inl (hm.keeps.once ▸ ht)) .finish (by simp [Errand.isReport])
  | report n e he =>
    exact (h.forget n).launch rfl (fun t ht => .inl ht) (.ask (.report e)) fun _ => rfl
  | discard n hn => exact h.forget n
  | tellStart id w a stage ht hw hm =>
    rw [((h.fits_call ht.call?).of_start hw).1]
    exact h.tell ht.call? hm.keeps.trace (fun t ht => .inl (hm.keeps.once ▸ ht)) (hm.fits _) rfl
  | tellShutdown id w a ticket reason stage ht hw hm =>
    obtain ⟨he, rfl, -⟩ := (h.fits_call ht.call?).of_shutdown hw
    rw [he]
    exact h.tell ht.call? hm.keeps.trace (fun t ht => .inl (hm.turns ht)) hm.fits rfl
  | tellDelivery id w a stage ht hw hm =>
    obtain ⟨⟨batch, he⟩, -⟩ := (h.fits_call ht.call?).of_deliver hw
    rw [he]
    exact h.tell ht.call? rfl (fun t ht => .inl ht) hm.fits rfl
  | tellReport id w outcome ticket ht hw hm =>
    obtain ⟨rfl, -⟩ := (h.fits_call ht.call?).of_report hw
    exact h.tell ht.call? hm.keeps.trace (fun t ht => hm.turns ht) hm.fits rfl
  | drop id w hw =>
    have hd : s.pump.abandon w.call = s.pump ∨ s.pump.abandon w.call = s.pump.settle
        ∨ ∃ t, s.pump.abandon w.call = { s.pump with once := s.pump.once.leave t } := by
      cases w.call with
      | start _ => exact .inr (.inl rfl)
      | shutdown t _ _ => exact .inr (.inr ⟨t, rfl⟩)
      | deliver _ => exact .inl rfl
      | report _ => exact .inl rfl
    have ht : ∀ t ∈ (s.pump.abandon w.call).once.turns, t ∈ s.pump.once.turns := by
      intro t hm
      obtain hd | hd | ⟨u, hd⟩ := hd
      · rwa [hd] at hm
      · rwa [hd] at hm
      · rw [hd] at hm
        exact (List.mem_filter.1 hm).1
    have hp : (s.pump.abandon w.call).trace = [] := by
      obtain hd | hd | ⟨u, hd⟩ := hd <;> rw [hd] <;> exact h.trace
    have hk := h.take id
    exact ⟨hp, hk.nodup, hk.fresh, hk.fits, fun t hm => hk.turns t (ht t hm),
      fun x hx he hm => hk.reports x hx he (ht _ hm)⟩
  | bump => exact ⟨h.1, h.2, h.3, h.4, h.5, h.6⟩
  | pass ticks => exact ⟨h.1, h.2, h.3, h.4, h.5, h.6⟩

end Tidy

/-! ## The end of the procedure -/

def Ended (s : Session) : Prop := hasShutDown s.history = true → s.pump.once.done = true

namespace Ended

variable {s b : Session} {id : Nat} {errand : Errand} {q : Pump} {es : List Effect} {nx : Next}

theorem carry (h : s.Ended) (hb : hasShutDown b.history = hasShutDown s.history)
    (hq : s.pump.once.done = true → q.once.done = true)
    (hn : nx = .finish → (∃ reason, errand = .shutdown reason) → q.once.done = true) :
    (b.carry id errand q es nx).Ended := by
  intro hr
  rw [pump_carry, Next.once_leave]
  rw [history_carry, hasShutDown_append, hasShutDown_append, hasShutDown_did, Bool.or_false,
    Bool.or_eq_true, hb] at hr
  rcases hr with hr | hr
  · exact hq (h hr)
  · cases nx with
    | finish =>
      cases errand with
      | shutdown reason => exact hn rfl ⟨reason, rfl⟩
      | _ => cases hr
    | _ => cases hr

theorem step {t : Session} {c : Cause} (hi : s.Tidy) (h : s.Ended) (hs : s.Step c t) : t.Ended := by
  cases hs with
  | start hm => exact h.carry (hasShutDown_begin s _) (fun hd => hm.keeps.once ▸ hd) (by simp)
  | shutdown reason hm =>
    exact h.carry (hasShutDown_begin s _) hm.ends.kept fun hn _ => hm.ends.reached hn
  | deliver report batch hm => exact h.carry (hasShutDown_begin s _) (fun hd => hm.once ▸ hd) (by simp)
  | fail e hm => exact h.carry (hasShutDown_begin s _) (fun hd => hm.keeps.once ▸ hd) (by simp)
  | report n e he =>
    exact h.carry (hasShutDown_begin (s.forget n) _) (fun hd => hd) (by simp)
  | discard n hn => exact h
  | tellStart id w a stage ht hw hm =>
    have he := ((hi.fits_call ht.call?).of_start hw).1
    exact h.carry (hasShutDown_told s id w a) (fun hd => hm.keeps.once ▸ hd) (by simp [he])
  | tellShutdown id w a ticket reason stage ht hw hm =>
    exact h.carry (hasShutDown_told s id w a) hm.ends.kept fun hn _ => hm.ends.reached hn
  | tellDelivery id w a stage ht hw hm =>
    obtain ⟨batch, he⟩ := ((hi.fits_call ht.call?).of_deliver hw).1
    exact h.carry (hasShutDown_told s id w a) (fun hd => hd) (by simp [he])
  | tellReport id w outcome ticket ht hw hm =>
    exact h.carry (hasShutDown_told s id w _) hm.ends.kept fun hn _ => hm.ends.reached hn
  | drop id w hw =>
    intro hr
    have hd : s.pump.once.done = true := h (by simpa [hasShutDown, Mark.isShutDown] using hr)
    cases hc : w.call with
    | shutdown => simpa [hc, Pump.abandon] using hd
    | _ => simpa [hc, Pump.abandon, Pump.settle] using hd
  | bump => exact h
  | pass ticks =>
    intro hr
    exact h (by simpa [hasShutDown, Mark.isShutDown] using hr)

end Ended

/-! ## Who runs what -/

/-- Before the end of the procedure a caller in the queue goes on only when its turn has come. -/
theorem Tells.isTurnOf {s : Session} {c : Cause} {id ticket : Nat} {w : Waiting}
    {reason : CloseReason} (h : s.Tells id w .turn c) (hw : w.call = .shutdown ticket reason .queued)
    (hd : s.pump.once.done = false) : s.pump.once.isTurnOf ticket = true := by
  cases h with
  | answer _ ha => simp [Waiting.admits] at ha
  | wake _ _ ha =>
    cases ht : s.pump.once.isTurnOf ticket with
    | true => rfl
    | false => simp [hw, Call.ownAnswer?, hd, ht] at ha

section Carry

variable {b : Session} {id : Nat} {errand : Errand} {q : Pump} {es : List Effect} {nx : Next}

theorem openers_carry :
    (b.carry id errand q es nx).openers = nx.opening?.toList ++ b.openers := by
  rw [Next.opening?, ← Next.call?_waiting? nx errand]
  exact waiting_carry ..

theorem runners_carry : (b.carry id errand q es nx).runners = nx.turn?.toList ++ b.runners := by
  rw [Next.turn?, ← Next.call?_waiting? nx errand]
  exact waiting_carry ..

end Carry

theorem openers_told {s : Session} {id : Nat} {w : Waiting} {a : Answer} (hw : s.call? id = some w)
    (ho : w.opening? = none) : (s.told id w a).openers = s.openers := waiting_take_of_none hw ho

theorem runners_told {s : Session} {id : Nat} {w : Waiting} {a : Answer} (hw : s.call? id = some w)
    (ho : w.turn? = none) : (s.told id w a).runners = s.runners := waiting_take_of_none hw ho

/-- A turn has the number of its call for a ticket. -/
theorem Tidy.ticket_eq {s : Session} (h : s.Tidy) {x : Nat × Waiting} (hx : x ∈ s.calls) {t : Turn}
    (ht : x.2.turn? = some t) : t.ticket = x.1 := by
  obtain ⟨k, v⟩ := x
  have hf : v.Fits k := h.fits _ hx
  cases hf with
  | @shutdown _ stage _ _ => cases stage <;> cases ht <;> rfl
  | _ => cases ht

theorem Tidy.nodup_tickets {s : Session} (h : s.Tidy) : (s.runners.map (·.ticket)).Nodup := by
  have hs (xs : List (Nat × Waiting)) (hx : ∀ x ∈ xs, x ∈ s.calls) :
      ((xs.filterMap fun x => x.2.turn?).map (·.ticket)).Sublist (xs.map (·.1)) := by
    induction xs with
    | nil => exact List.Sublist.refl _
    | cons x xs ih =>
      have ih := ih fun y hy => hx y (List.mem_cons_of_mem _ hy)
      rw [List.filterMap_cons]
      cases ht : x.2.turn? with
      | none => exact ih.cons _
      | some t =>
        rw [List.map_cons, List.map_cons, h.ticket_eq (hx x List.mem_cons_self) ht]
        exact ih.cons_cons _
  exact h.nodup.sublist (hs s.calls fun _ hx => hx)

/-- One call at most opens the pump, and one at most runs the shutdown procedure: the first of those
that wait for it. Calls may be dropped. -/
structure Led (s : Session) : Prop where
  tidy : s.Tidy
  opener : s.openers.length = if s.pump.phase = .opening then 1 else 0
  unopened : s.pump.status = .uninitialized → s.pump.phase = .idle
  runner : ∀ t ∈ s.runners, s.pump.once.isTurnOf t.ticket = true

namespace Led

variable {s : Session} {id : Nat} {w : Waiting}

theorem new (p : Pump) (h : p.trace = []) (ho : p.once = {}) (hp : p.phase = .idle) :
    (new p).Led where
  tidy := .new p h ho
  opener := by
    have hp' : (Session.new p).pump.phase = .idle := hp
    rw [hp']
    rfl
  unopened _ := hp
  runner := nofun

theorem opener_le (h : s.Led) : s.openers.length ≤ 1 := by
  have := h.opener
  split at this <;> omega

theorem runner_le (h : s.Led) : s.runners.length ≤ 1 := by
  have hn := h.tidy.nodup_tickets
  have hr := h.runner
  generalize s.runners = rs at hn hr
  match rs with
  | [] => exact Nat.zero_le _
  | [_] => exact Nat.le_refl _
  | t :: u :: _ =>
    have he := Once.isTurnOf_unique (hr t List.mem_cons_self)
      (hr u (List.mem_cons_of_mem _ List.mem_cons_self))
    rw [List.map_cons, List.map_cons, he, List.nodup_cons] at hn
    exact absurd List.mem_cons_self hn.1

/-- A call that opens the pump is the only one. -/
theorem openers_of_start (h : s.Led) {stage : OpenStage} (hw : s.call? id = some w)
    (hc : w.call = .start stage) :
    s.openers = [stage] ∧ (s.take id).openers = [] ∧ s.pump.phase = .opening := by
  have hf : w.opening? = some stage := by simp [Waiting.opening?, Call.opening?, hc]
  obtain ⟨h1, h2⟩ := waiting_take_of_some hw hf h.opener_le
  refine ⟨h1, h2, ?_⟩
  have ho := h.opener
  unfold openers at ho
  rw [h1] at ho
  split at ho
  · assumption
  · cases ho

/-- A call that has its turn to shut the pump down is the only one. -/
theorem runners_of_turn (h : s.Led) {turn : Turn} (hw : s.call? id = some w)
    (hc : w.turn? = some turn) :
    s.runners = [turn] ∧ (s.take id).runners = [] ∧ s.pump.once.isTurnOf turn.ticket = true := by
  obtain ⟨h1, h2⟩ := waiting_take_of_some hw hc h.runner_le
  refine ⟨h1, h2, h.runner turn ?_⟩
  unfold runners
  rw [h1]
  exact List.mem_cons_self

/-- When the turn has come to a call in the queue, no other has it. -/
theorem runners_of_queued (h : s.Led) {reason : CloseReason} (hw : s.call? id = some w)
    (hc : w.call = .shutdown id reason .queued) (ht : s.pump.once.isTurnOf id = true) :
    s.runners = [] := by
  refine List.eq_nil_iff_forall_not_mem.2 fun turn hm => ?_
  have he := Once.isTurnOf_unique (h.runner turn hm) ht
  obtain ⟨x, hx, hv⟩ := List.mem_filterMap.1 hm
  have hk := h.tidy.ticket_eq hx hv
  rcases List.mem_cons.1 ((perm_take hw).mem_iff.1 hx) with rfl | hx
  · simp [Waiting.turn?, Call.turn?, hc] at hv
  · exact h.tidy.ne_of_mem_take hw hx (hk.symm.trans he)

/-- If a call has its turn as soon as it asks for it, nobody waits for one, and nobody has one. -/
theorem runners_of_enter (h : s.Led) {ticket : Nat} (ht : ticket ∉ s.pump.once.turns)
    (hd : s.pump.once.done = false) (hq : (s.pump.once.enter ticket).isTurnOf ticket = true) :
    s.pump.once.turns = [] ∧ s.runners = [] := by
  have hl : s.pump.once.turns = [] := by
    cases hl : s.pump.once.turns with
    | nil => rfl
    | cons u us =>
      have hu : u = ticket := by simpa [Once.isTurnOf, Once.enter, hd, hl] using hq
      exact absurd (by rw [hl, hu]; exact List.mem_cons_self) ht
  refine ⟨hl, List.eq_nil_iff_forall_not_mem.2 fun turn hm => ?_⟩
  have hr := h.runner turn hm
  simp [Once.isTurnOf, hl] at hr

/-! What is known of the call that a step tells an answer. -/

section Told

variable {a : Answer} {c : Cause}

theorem told_start {stage : OpenStage} (h : s.Led) (ht : s.Tells id w a c)
    (hw : w.call = .start stage) :
    w.errand = .start ∧ s.openers = [stage] ∧ (s.told id w a).openers = []
      ∧ (s.told id w a).runners = s.runners := by
  obtain ⟨ho, hl, -⟩ := h.openers_of_start ht.call? hw
  have hn : w.turn? = none := by simp [Waiting.turn?, Call.turn?, hw]
  exact ⟨((h.tidy.fits_call ht.call?).of_start hw).1, ho, hl, runners_told ht.call? hn⟩

/-- A call for shutdown returns from the queue, or it has its turn and nobody else has. -/
theorem told_shutdown {ticket : Nat} {reason : CloseReason} {stage : ShutdownStage} {q : Pump}
    {es : List Effect} {nx : Next} (h : s.Led) (ht : s.Tells id w a c)
    (hw : w.call = .shutdown ticket reason stage)
    (hm : s.pump.ShutdownMove s.now ticket reason stage a q es nx) :
    w.errand = .shutdown reason ∧ ticket = id ∧ (s.told id w a).openers = s.openers
      ∧ (s.pump.once.done = true ∧ q = s.pump ∧ es = [] ∧ nx = .finish
          ∧ (s.told id w a).runners = s.runners
        ∨ s.pump.once.isTurnOf ticket = true ∧ (s.told id w a).runners = []
          ∧ (s.runners = [] ∧ s.pump.RunMove s.now ticket reason q es nx
            ∨ stage ≠ .queued ∧ s.runners = [⟨ticket, reason, stage⟩])) := by
  obtain ⟨he, rfl, -⟩ := (h.tidy.fits_call ht.call?).of_shutdown hw
  have ho : w.opening? = none := by simp [Waiting.opening?, Call.opening?, hw]
  refine ⟨he, rfl, openers_told ht.call? ho, ?_⟩
  by_cases hs : stage = .queued
  · subst hs
    have hn : w.turn? = none := by simp [Waiting.turn?, Call.turn?, hw]
    have hr := runners_told (a := a) ht.call? hn
    cases hm with
    | queuedDone hd => exact .inl ⟨hd, rfl, rfl, rfl, hr⟩
    | queuedRun hd hm =>
      have hq := ht.isTurnOf hw hd
      have hl := h.runners_of_queued ht.call? hw hq
      exact .inr ⟨hq, hr.trans hl, .inl ⟨hl, hm⟩⟩
  · have hn : w.turn? = some ⟨ticket, reason, stage⟩ := by
      cases stage with
      | queued => exact absurd rfl hs
      | _ => simp [Waiting.turn?, Call.turn?, hw]
    obtain ⟨hr, hl, hq⟩ := h.runners_of_turn ht.call? hn
    exact .inr ⟨hq, hl, .inr ⟨hs, hr⟩⟩

theorem told_delivery {stage : DeliveryStage} (h : s.Led) (ht : s.Tells id w a c)
    (hw : w.call = .deliver stage) :
    (∃ batch, w.errand = .delivery batch) ∧ (s.told id w a).openers = s.openers
      ∧ (s.told id w a).runners = s.runners := by
  have ho : w.opening? = none := by simp [Waiting.opening?, Call.opening?, hw]
  have hn : w.turn? = none := by simp [Waiting.turn?, Call.turn?, hw]
  exact ⟨((h.tidy.fits_call ht.call?).of_deliver hw).1, openers_told ht.call? ho,
    runners_told ht.call? hn⟩

theorem told_report {ticket : Nat} (h : s.Led) (ht : s.Tells id w a c)
    (hw : w.call = .report ticket) :
    ticket = id ∧ ticket ∉ s.pump.once.turns ∧ (s.told id w a).openers = s.openers
      ∧ (s.told id w a).runners = s.runners := by
  obtain ⟨rfl, e, he, -⟩ := (h.tidy.fits_call ht.call?).of_report hw
  have ho : w.opening? = none := by simp [Waiting.opening?, Call.opening?, hw]
  have hn : w.turn? = none := by simp [Waiting.turn?, Call.turn?, hw]
  exact ⟨rfl, h.tidy.reports _ (mem_of_call? ht.call?) (by simp [he, Errand.isReport]),
    openers_told ht.call? ho, runners_told ht.call? hn⟩

theorem next_not_mem_turns (h : s.Led) : s.next ∉ s.pump.once.turns :=
  fun hm => Nat.lt_irrefl _ (h.tidy.turns _ hm)

end Told

/-! The parts of the next state. -/

section Carry

variable {b : Session} {errand : Errand} {q : Pump} {es : List Effect} {nx : Next}

/-- The pump is opened by the same call as before. -/
theorem opener_aside (ho : b.openers.length = if b.pump.phase = .opening then 1 else 0)
    (hf : nx.Fits id errand) (he : errand ≠ .start) (hl : nx.leave q = q)
    (hp : q.phase = b.pump.phase) :
    (b.carry id errand q es nx).openers.length
      = if (b.carry id errand q es nx).pump.phase = .opening then 1 else 0 := by
  rw [openers_carry, hf.opening? he, pump_carry, hl, hp]
  exact ho

theorem unopened_aside (hb : b.pump.status = .uninitialized → b.pump.phase = .idle) (hl : nx.leave q = q)
    (h : b.pump.Aside q) : (b.carry id errand q es nx).pump.status = .uninitialized →
      (b.carry id errand q es nx).pump.phase = .idle := by
  rw [pump_carry, hl]
  exact fun hu => h.phase.trans (hb (h.uninitialized hu))

/-- The turn is with the same call as before. -/
theorem runner_aside (hr : ∀ t ∈ b.runners, b.pump.once.isTurnOf t.ticket = true)
    (hf : nx.Fits id errand) (he : ∀ reason, errand ≠ .shutdown reason) (hq : q.once = b.pump.once) :
    ∀ t ∈ (b.carry id errand q es nx).runners,
      (b.carry id errand q es nx).pump.once.isTurnOf t.ticket = true := by
  rw [runners_carry, hf.turn? he, pump_carry, Next.once_leave, hq]
  exact hr

/-- The call whose turn it is goes on, or the procedure is at its end. -/
theorem runner_turning {p : Pump} {ticket : Nat} (ht : p.once.isTurnOf ticket = true)
    (hb : b.runners = []) (h : p.Turning ticket q nx) :
    ∀ t ∈ (b.carry id errand q es nx).runners,
      (b.carry id errand q es nx).pump.once.isTurnOf t.ticket = true := by
  rw [runners_carry, hb, List.append_nil, pump_carry, h.leave]
  intro t hm
  obtain ⟨ho, reason, stage, hs, hn⟩ | ⟨-, rfl⟩ := h
  · obtain rfl : t = ⟨ticket, reason, stage⟩ := by
      obtain rfl | ⟨r, rfl⟩ := hn <;> cases stage <;> simp_all [Call.turn?]
    rw [ho]
    exact ht
  · cases hm

/-- A call asks for its turn. -/
theorem runner_enter {now ticket : Nat} {reason : CloseReason}
    (hr : ∀ t ∈ b.runners, b.pump.once.isTurnOf t.ticket = true)
    (hb : b.pump.once.done = false → (b.pump.once.enter ticket).isTurnOf ticket = true →
      b.runners = [])
    (h : b.pump.EnterMove now ticket reason q es nx) :
    ∀ t ∈ (b.carry id errand q es nx).runners,
      (b.carry id errand q es nx).pump.once.isTurnOf t.ticket = true := by
  cases h with
  | done hd =>
    rw [runners_carry]
    exact hr
  | queue hd hq =>
    rw [runners_carry]
    intro t hm
    have ht := hr t hm
    simp only [Once.isTurnOf, Bool.and_eq_true, beq_iff_eq] at ht
    have hh : (b.pump.once.turns ++ [ticket]).head? = some t.ticket := by rw [List.head?_append, ht.2]; rfl
    simp [Once.enter, Once.isTurnOf, hd, hh]
  | run hd hq h =>
    exact runner_turning (p := { b.pump with once := b.pump.once.enter ticket }) hq (hb hd hq) h.turning

/-- A caller that is dropped takes its turn with it. -/
theorem runner_drop (h : s.Led) (hw : s.call? id = some w) :
    ∀ t ∈ (s.take id).runners, (s.pump.abandon w.call).once.isTurnOf t.ticket = true := by
  intro t hm
  obtain ⟨x, hx, hv⟩ := List.mem_filterMap.1 hm
  have hk := h.tidy.ticket_eq (mem_of_mem_take hx) hv
  have hn : t.ticket ≠ id := fun he => h.tidy.ne_of_mem_take hw hx (hk.symm.trans he)
  have ht := h.runner t (List.mem_filterMap.2 ⟨x, mem_of_mem_take hx, hv⟩)
  have hf := h.tidy.fits_call hw
  cases hf with
  | start => exact ht
  | shutdown =>
    simp only [Once.isTurnOf, Bool.and_eq_true, beq_iff_eq] at ht
    obtain ⟨us, hu⟩ := List.head?_eq_some_iff.1 ht.2
    simp [Pump.abandon, Once.leave, Once.isTurnOf, hu, hn, ht.1]
  | deliver => exact ht
  | report => exact ht

end Carry

/-! What a step keeps of each. -/

section Step

variable {c : Cause} {t : Session}

theorem opener_step (h : s.Led) (hs : s.Step c t) :
    t.openers.length = if t.pump.phase = .opening then 1 else 0 := by
  cases hs with
  | start hm =>
    cases hm with
    | ignored => exact h.opener
    | opens _ hu =>
      have hp := h.opener
      rw [h.unopened hu, if_neg (by simp), List.length_eq_zero_iff] at hp
      rw [openers_carry, openers_begin, hp]
      rfl
  | shutdown reason hm =>
    exact opener_aside (b := s.begin _) h.opener hm.fits (by simp) hm.leave hm.aside.phase
  | deliver report batch hm =>
    exact opener_aside (b := s.begin _) h.opener hm.fits (by simp) hm.leave hm.aside.phase
  | fail e hm => exact opener_aside (b := s.begin _) h.opener .finish (by simp) rfl hm.aside.phase
  | tellStart id w a stage ht hw hm =>
    obtain ⟨-, -, hl, -⟩ := h.told_start ht hw
    obtain ⟨-, -, hp⟩ := h.openers_of_start ht.call? hw
    rw [openers_carry, hl, List.append_nil, pump_carry]
    obtain ⟨hq, stage', rfl | ⟨r, rfl⟩⟩ | ⟨hq, hn⟩ := hm.opening
    · exact (if_pos (hq.trans hp)).symm
    · exact (if_pos (hq.trans hp)).symm
    · rw [Next.opening?, hn, hq]
      rfl
  | tellShutdown id w a ticket reason stage ht hw hm =>
    obtain ⟨he, rfl, ho, -⟩ := h.told_shutdown ht hw hm
    rw [he]
    exact opener_aside (b := s.told ticket w a) (ho ▸ h.opener) hm.fits (by simp) hm.leave hm.aside.phase
  | tellDelivery id w a stage ht hw hm =>
    obtain ⟨⟨batch, he⟩, ho, -⟩ := h.told_delivery ht hw
    rw [he]
    exact opener_aside (b := s.told id w a) (ho ▸ h.opener) hm.fits (by simp) hm.leave rfl
  | tellReport id w outcome ticket ht hw hm =>
    obtain ⟨rfl, -, ho, -⟩ := h.told_report ht hw
    exact opener_aside (b := s.told ticket w _) (ho ▸ h.opener) hm.fits (by simp) hm.leave hm.aside.phase
  | drop id w hw =>
    cases hc : w.call with
    | start stage =>
      obtain ⟨-, hl, -⟩ := h.openers_of_start hw hc
      exact congrArg List.length hl
    | _ =>
      have hn : w.opening? = none := by simp [Waiting.opening?, Call.opening?, hc]
      exact (congrArg List.length (waiting_take_of_none hw hn)).trans h.opener
  | _ => exact h.opener

theorem unopened_step (h : s.Led) (hs : s.Step c t) :
    t.pump.status = .uninitialized → t.pump.phase = .idle := by
  cases hs with
  | start hm =>
    cases hm with
    | ignored => exact h.unopened
    | opens => nofun
  | shutdown reason hm => exact unopened_aside (b := s.begin _) h.unopened hm.leave hm.aside
  | deliver report batch hm => exact unopened_aside (b := s.begin _) h.unopened hm.leave hm.aside
  | fail e hm => exact unopened_aside (b := s.begin _) h.unopened rfl hm.aside
  | tellStart id w a stage ht hw hm =>
    obtain ⟨-, -, hp⟩ := h.openers_of_start ht.call? hw
    intro hq
    rw [pump_carry, Next.status_leave] at hq
    rw [h.unopened (hm.uninitialized hq)] at hp
    cases hp
  | tellShutdown id w a ticket reason stage ht hw hm =>
    exact unopened_aside (b := s.told id w a) h.unopened hm.leave hm.aside
  | tellDelivery id w a stage ht hw hm =>
    exact unopened_aside (b := s.told id w a) h.unopened hm.leave (.of_eq rfl rfl rfl rfl rfl)
  | tellReport id w outcome ticket ht hw hm =>
    exact unopened_aside (b := s.told id w _) h.unopened hm.leave hm.aside
  | drop id w hw =>
    intro hu
    cases hc : w.call with
    | start stage =>
      obtain ⟨-, -, hp⟩ := h.openers_of_start hw hc
      rw [h.unopened (by simpa [Pump.abandon, hc] using hu)] at hp
      cases hp
    | _ => exact h.unopened (by simpa [Pump.abandon, hc] using hu)
  | _ => exact h.unopened

theorem runner_step (h : s.Led) (hs : s.Step c t) :
    ∀ turn ∈ t.runners, t.pump.once.isTurnOf turn.ticket = true := by
  cases hs with
  | start hm =>
    cases hm with
    | ignored | opens => exact h.runner
  | shutdown reason hm =>
    exact runner_enter (b := s.begin _) h.runner
      (fun hd hq => (h.runners_of_enter h.next_not_mem_turns hd hq).2) hm
  | deliver report batch hm => exact runner_aside (b := s.begin _) h.runner hm.fits (by simp) hm.once
  | fail e hm => exact runner_aside (b := s.begin _) h.runner .finish (by simp) hm.keeps.once
  | tellStart id w a stage ht hw hm =>
    obtain ⟨he, -, -, hr⟩ := h.told_start ht hw
    exact runner_aside (b := s.told id w a) (hr ▸ h.runner) (he ▸ hm.fits id) (by simp [he]) hm.keeps.once
  | tellShutdown id w a ticket reason stage ht hw hm =>
    obtain ⟨-, rfl, -, ⟨-, rfl, -, rfl, hr⟩ | ⟨hq, hl, ⟨-, hm⟩ | ⟨hs, -⟩⟩⟩ :=
      h.told_shutdown ht hw hm
    · rw [runners_carry, hr]
      exact h.runner
    · exact runner_turning (b := s.told ticket w a) hq hl hm.turning
    · exact runner_turning (b := s.told ticket w a) hq hl (hm.turning hs)
  | tellDelivery id w a stage ht hw hm =>
    obtain ⟨⟨batch, he⟩, -, hr⟩ := h.told_delivery ht hw
    rw [he]
    exact runner_aside (b := s.told id w a) (hr ▸ h.runner) hm.fits (by simp) rfl
  | tellReport id w outcome ticket ht hw hm =>
    obtain ⟨rfl, hn, -, hr⟩ := h.told_report ht hw
    exact runner_enter (b := s.told ticket w _) (hr ▸ h.runner)
      (fun hd hq => hr ▸ (h.runners_of_enter hn hd hq).2) hm
  | drop id w hw => exact h.runner_drop hw
  | _ => exact h.runner

theorem step (h : s.Led) (hs : s.Step c t) : t.Led :=
  ⟨h.tidy.step hs, h.opener_step hs, h.unopened_step hs, h.runner_step hs⟩

end Step

end Led

/-- What every step of a session keeps holds in every state of a run. -/
theorem run_led {P : Session → Prop} {s t : Session} {cs : List Cause} (hs : s.Led) (h0 : P s)
    (hk : ∀ s c t, s.Led → P s → s.Step c t → P t) (h : s.run cs = some t) : t.Led ∧ P t := by
  refine run_induction (P := fun s => s.Led ∧ P s) ⟨hs, h0⟩ ?_ h
  rintro u c v - ⟨hu, hp⟩ hv
  have hstep := step_of_step? hu.tidy.trace hv
  exact ⟨hu.step hstep, hk u c v hu hp hstep⟩

/-- As long as no call is dropped, nobody waits for a turn that nobody has. -/
structure InTurn (s : Session) : Prop extends s.Led where
  ended : s.Ended
  taken : s.runners = [] → s.pump.once.done = false → s.pump.once.turns = []

namespace InTurn

variable {s : Session} {id : Nat} {w : Waiting}

theorem new (p : Pump) (h : p.trace = []) (ho : p.once = {}) (hp : p.phase = .idle) :
    (new p).InTurn where
  toLed := .new p h ho hp
  ended := nofun
  taken _ _ := by
    have ho' : (Session.new p).pump.once = {} := ho
    rw [ho']

/-- When the procedure has been run to its end, nobody runs it. -/
theorem runners_of_done (h : s.InTurn) (hd : s.pump.once.done = true) : s.runners = [] := by
  refine List.eq_nil_iff_forall_not_mem.2 fun t hm => ?_
  have ht := h.runner t hm
  simp [Once.isTurnOf, hd] at ht

/-- A caller in the queue goes on only to return. -/
theorem told_shutdown {a : Answer} {c : Cause} {ticket : Nat} {reason : CloseReason}
    {stage : ShutdownStage} {q : Pump} {es : List Effect} {nx : Next} (h : s.InTurn)
    (ht : s.Tells id w a c) (hw : w.call = .shutdown ticket reason stage)
    (hm : s.pump.ShutdownMove s.now ticket reason stage a q es nx) :
    w.errand = .shutdown reason ∧ ticket = id ∧ (s.told id w a).openers = s.openers
      ∧ (s.pump.once.done = true ∧ q = s.pump ∧ es = [] ∧ nx = .finish
          ∧ (s.told id w a).runners = s.runners
        ∨ stage ≠ .queued ∧ s.pump.once.done = false
          ∧ s.runners = [⟨ticket, reason, stage⟩] ∧ (s.told id w a).runners = []) := by
  obtain ⟨he, ho, hl, hr⟩ := h.toLed.told_shutdown ht hw hm
  refine ⟨he, ho, hl, hr.imp_right fun ⟨hq, hn, hr⟩ => ?_⟩
  simp only [Once.isTurnOf, Bool.and_eq_true, Bool.not_eq_true', beq_iff_eq] at hq
  obtain ⟨hr, -⟩ | ⟨hs, hr⟩ := hr
  · rw [h.taken hr hq.1] at hq
    cases hq.2
  · exact ⟨hs, hq.1, hr, hn⟩

section Carry

variable {b : Session} {errand : Errand} {q : Pump} {es : List Effect} {nx : Next}

/-- The call whose turn it is goes on, or the procedure is at its end. -/
theorem taken_turning {p : Pump} {ticket : Nat} (h : p.Turning ticket q nx) :
    (b.carry id errand q es nx).runners = [] → (b.carry id errand q es nx).pump.once.done = false →
      (b.carry id errand q es nx).pump.once.turns = [] := by
  rw [runners_carry, pump_carry, h.leave]
  intro hr hd
  obtain ⟨-, reason, stage, hs, hn⟩ | ⟨ho, -⟩ := h
  · obtain rfl | ⟨r, rfl⟩ := hn <;> cases stage <;> simp_all [Call.turn?]
  · rw [ho]
    rfl

/-- A call asks for its turn. -/
theorem taken_enter {now ticket : Nat} {reason : CloseReason}
    (hb : b.runners = [] → b.pump.once.done = false → b.pump.once.turns = [])
    (h : b.pump.EnterMove now ticket reason q es nx) :
    (b.carry id errand q es nx).runners = [] → (b.carry id errand q es nx).pump.once.done = false →
      (b.carry id errand q es nx).pump.once.turns = [] := by
  cases h with
  | done =>
    rw [runners_carry]
    exact hb
  | queue hd hq =>
    rw [runners_carry]
    intro hr _
    have hl := hb hr hd
    simp [Once.isTurnOf, Once.enter, hd, hl] at hq
  | run _ _ h => exact taken_turning h.turning

/-- A call goes on that has nothing to do with turns. -/
theorem taken_aside (hb : b.runners = [] → b.pump.once.done = false → b.pump.once.turns = [])
    (hq : q.once = b.pump.once) :
    (b.carry id errand q es nx).runners = [] → (b.carry id errand q es nx).pump.once.done = false →
      (b.carry id errand q es nx).pump.once.turns = [] := by
  rw [runners_carry, pump_carry, Next.once_leave, hq]
  exact fun hr => hb (List.append_eq_nil_iff.1 hr).2

end Carry

theorem step {c : Cause} {t : Session} (h : s.InTurn) (hd : c.isDrop = false) (hs : s.Step c t) :
    t.InTurn := by
  have ht := h.toLed.step hs
  have he := h.ended.step h.tidy hs
  refine ⟨ht, he, ?_⟩
  clear ht he
  cases hs with
  | start hm => exact taken_aside (b := s.begin _) h.taken hm.keeps.once
  | shutdown reason hm => exact taken_enter (b := s.begin _) h.taken hm
  | deliver report batch hm => exact taken_aside (b := s.begin _) h.taken hm.once
  | fail e hm => exact taken_aside (b := s.begin _) h.taken hm.keeps.once
  | report n e he => exact taken_aside (b := (s.forget n).begin _) h.taken rfl
  | discard n hn => exact h.taken
  | tellStart id w a stage ht hw hm =>
    obtain ⟨-, -, -, hr⟩ := h.told_start ht hw
    exact taken_aside (b := s.told id w a) (by rw [hr]; exact h.taken) hm.keeps.once
  | tellShutdown id w a ticket reason stage ht hw hm =>
    obtain ⟨-, rfl, -, ⟨-, rfl, -, rfl, hr⟩ | ⟨hs, -⟩⟩ := h.told_shutdown ht hw hm
    · exact taken_aside (b := s.told ticket w a) (by rw [hr]; exact h.taken) rfl
    · exact taken_turning (hm.turning hs)
  | tellDelivery id w a stage ht hw hm =>
    obtain ⟨-, -, hr⟩ := h.told_delivery ht hw
    exact taken_aside (b := s.told id w a) (by rw [hr]; exact h.taken) rfl
  | tellReport id w outcome ticket ht hw hm =>
    obtain ⟨rfl, -, -, hr⟩ := h.told_report ht hw
    exact taken_enter (b := s.told ticket w _) (by rw [hr]; exact h.taken) hm
  | drop id w hw => cases hd
  | bump => exact h.taken
  | pass ticks => exact h.taken

theorem step? {c : Cause} {t : Session} (h : s.InTurn) (hd : c.isDrop = false)
    (hs : s.step? c = some t) : t.InTurn := h.step hd (step_of_step? h.tidy.trace hs)

end InTurn

/-- What every step of a session keeps that drops no call holds in every state of a run that drops
none. -/
theorem run_undropped {P : Session → Prop} {s t : Session} {cs : List Cause} (hs : s.InTurn)
    (h0 : P s) (hd : ∀ c ∈ cs, c.isDrop = false)
    (hk : ∀ s c t, c.isDrop = false → s.InTurn → P s → s.Step c t → P t) (h : s.run cs = some t) :
    t.InTurn ∧ P t := by
  refine run_induction (P := fun s => s.InTurn ∧ P s) ⟨hs, h0⟩ ?_ h
  rintro u c v hc ⟨hu, hp⟩ hv
  exact ⟨hu.step? (hd c hc) hv, hk u c v (hd c hc) hu hp (step_of_step? hu.tidy.trace hv)⟩

end Session
end PartitionConsumer
