import PartitionConsumer.Proofs.Session.Halts
/-!
# Stopping

From the first call for shutdown on a pump is stopping, and it stays so. A pump that is stopping asks for
no connection any more, and keeps none that is brought to it.
-/
namespace PartitionConsumer

namespace Effect

/-- The open gets further: a creation begins, the pump comes to run, or its handler is installed. -/
def connects : Effect → Bool
  | .ask .createClient | .ask (.createReceiver ..) | .status .running | .install _ => true
  | _ => false

/-- The open is seen to fail, the whole of it or an attempt, by an event or by the error hook. -/
def blames : Effect → Bool
  | .publish e => e.kind == .openAttemptFailed || e.kind == .openFailed
  | .ask (.hook (.onError (.opening _))) | .ask (.hook (.onError (.onOpen _))) => true
  | _ => false

/-- What only a call does that opens the pump. -/
def isOfOpen (e : Effect) : Bool := e.connects || e.blames

/-- What a call for shutdown does. -/
def isOfShutdown : Effect → Bool
  | .status .closing | .status .closed | .ask (.hook (.onClose _)) => true
  | .ask (.clearHandler _) | .ask (.closeReceiver _) | .ask (.closeClient _) => true
  | .publish e => e.kind == .pumpClosing || e.kind == .pumpClosed || e.kind == .teardownFault
  | _ => false

theorem isOfOpen_of_isOfShutdown {e : Effect} (h : e.isOfShutdown = true) : e.isOfOpen = false := by
  unfold isOfShutdown at h
  split at h
  all_goals first | rfl | skip
  · rename_i e
    simp only [Bool.or_eq_true, beq_iff_eq] at h
    obtain (hk | hk) | hk := h <;> simp [isOfOpen, connects, blames, hk]
  · cases h

/-- Where everything is `g`, and nothing that is `g` is `f`, nothing is `f`. -/
theorem any_eq_false_of_all {f g : Effect → Bool} {es : List Effect} (h : es.all g = true)
    (hfg : ∀ e, g e = true → f e = false) : es.any f = false := by
  apply List.any_eq_false.2
  intro e he
  rw [hfg e (List.all_eq_true.1 h e he)]
  exact Bool.false_ne_true

end Effect

namespace Pump

variable {p q : Pump} {es : List Effect} {nx : Next}

section Parts

variable (p)

@[simp] theorem connects_event (e : Event) : (p.event e).connects = false := rfl

@[simp] theorem connects_faults (r : Release) (outcome : Except TransportError Unit) :
    (p.faults r outcome).any Effect.connects = false := by
  rcases outcome with e | ⟨⟩ <;> simp [faults]

@[simp] theorem connects_failureFault (a : Attempt) (f : AttemptFailure) :
    (p.failureFault a f).any Effect.connects = false := by
  obtain h | ⟨e, h⟩ := p.failureFault_eq a f <;> rw [h] <;> rfl

@[simp] theorem connects_closedEffects : p.closedEffects.any Effect.connects = false := rfl

@[simp] theorem connects_closingEffects (r r' : String) :
    (p.closingEffects r r').any Effect.connects = false := rfl

@[simp] theorem connects_request (r : Release) : (Effect.ask r.request).connects = false := by
  unfold Release.request
  split <;> rfl

end Parts

/-! ## The moves of a pump that is stopping -/

/-- A pump that is stopping, or has left its first state, is not opened. -/
theorem StartMove.refused (h : StartMove p q es nx) (hs : p.stopping = true ∨ p.status ≠ .uninitialized) :
    q = p ∧ es = [] ∧ nx = .finish := by
  cases h with
  | ignored => exact ⟨rfl, rfl, rfl⟩
  | opens hn hu =>
    obtain hs | hs := hs
    · rw [hs] at hn
      cases hn
    · exact absurd hu hs

theorem StartMove.of_stopping (h : StartMove p q es nx) (hs : p.stopping = true) :
    q = p ∧ es = [] ∧ nx = .finish := h.refused (.inl hs)

/-- No attempt begins, and the open is not given up for a failure. -/
theorem AttemptMove.of_stopping {cut : Bool} {shown : List Effect}
    (h : AttemptMove p cut shown q es nx) (hs : p.stopping = true) : es = shown := by
  cases h with
  | attempt a hn =>
    rw [hs] at hn
    cases hn
  | report e hn =>
    rw [hs] at hn
    cases hn
  | _ => rfl

/-- The open gets no further. -/
theorem OpenMove.of_stopping {stage : OpenStage} {a : Answer} (h : OpenMove p stage a q es nx)
    (hs : p.stopping = true) : es.any Effect.connects = false := by
  cases h with
  | connect _ hn =>
    rw [hs] at hn
    cases hn
  | clientFailed a f _ h => simp [h.of_stopping hs]
  | clientMade a client hc => simp [isCancelled, hs] at hc
  | install a client receiver hn =>
    rw [hs] at hn
    cases hn
  | abandoned a f outcome h => simp [h.of_stopping hs]
  | pauseOver a wake h => simp [h.of_stopping hs]
  | refusedCloses => simp
  | failedCloses => simp
  | failedReleases => simp [Effect.connects]
  | releaseNext => simp
  | releaseCloses => simp
  | releaseEnds => simp
  | _ => rfl

section Shutdown

variable {now ticket : Nat} {reason : CloseReason}

/-! All that a call for shutdown does is to shut the pump down. -/

theorem all_isOfShutdown_faults (r : Release) (outcome : Except TransportError Unit) :
    (p.faults r outcome).all Effect.isOfShutdown = true := by
  rcases outcome with e | ⟨⟩ <;> rfl

theorem all_isOfShutdown_unlinkedEffects (reason : CloseReason) :
    (p.unlinkedEffects reason).all Effect.isOfShutdown = true := by
  unfold unlinkedEffects closingStatusEffects
  split <;> rfl

theorem isOfShutdown_request (r : Release) : (Effect.ask r.request).isOfShutdown = true := by
  unfold Release.request
  split <;> rfl

theorem PassMove.all_isOfShutdown {shown : List Effect} (h : PassMove p ticket reason shown q es nx)
    (hs : shown.all Effect.isOfShutdown = true) : es.all Effect.isOfShutdown = true := by
  cases h with
  | hook =>
    rw [List.all_append, hs]
    rfl
  | close =>
    rw [List.all_append, hs]
    rfl

theorem DisconnectMove.all_isOfShutdown (h : DisconnectMove p ticket reason q es nx) :
    es.all Effect.isOfShutdown = true := by
  cases h with
  | release =>
    rw [List.all_append, all_isOfShutdown_unlinkedEffects]
    rfl
  | pass _ hp => exact hp.all_isOfShutdown (all_isOfShutdown_unlinkedEffects reason)

theorem RunMove.all_isOfShutdown (h : RunMove p now ticket reason q es nx) :
    es.all Effect.isOfShutdown = true := by
  cases h with
  | disconnect _ _ hd => exact hd.all_isOfShutdown
  | _ => rfl

theorem EnterMove.all_isOfShutdown (h : EnterMove p now ticket reason q es nx) :
    es.all Effect.isOfShutdown = true := by
  cases h with
  | run _ _ hr => exact hr.all_isOfShutdown
  | _ => rfl

theorem ShutdownMove.all_isOfShutdown {stage : ShutdownStage} {a : Answer}
    (h : ShutdownMove p now ticket reason stage a q es nx) : es.all Effect.isOfShutdown = true := by
  cases h with
  | queuedRun _ hr => exact hr.all_isOfShutdown
  | disconnect _ _ _ hd => exact hd.all_isOfShutdown
  | releaseNext r r' outcome =>
    rw [List.all_append, all_isOfShutdown_faults]
    simp [isOfShutdown_request]
  | releaseEnds r outcome _ hp => exact hp.all_isOfShutdown (all_isOfShutdown_faults r outcome)
  | _ => rfl

theorem EnterMove.apart (h : EnterMove p now ticket reason q es nx) : es.any Effect.isOfOpen = false :=
  Effect.any_eq_false_of_all h.all_isOfShutdown fun _ => Effect.isOfOpen_of_isOfShutdown

theorem ShutdownMove.apart {stage : ShutdownStage} {a : Answer}
    (h : ShutdownMove p now ticket reason stage a q es nx) : es.any Effect.isOfOpen = false :=
  Effect.any_eq_false_of_all h.all_isOfShutdown fun _ => Effect.isOfOpen_of_isOfShutdown

end Shutdown

theorem ReceiveMove.apart {batch : Option Batch} (h : ReceiveMove p batch q es nx) :
    es.any Effect.isOfOpen = false := by cases h <;> rfl

theorem DeliveryMove.apart {stage : DeliveryStage} {a : Answer} (h : DeliveryMove p stage a es nx) :
    es.any Effect.isOfOpen = false := by cases h <;> rfl

theorem FailureMove.apart {e : TransportError} (h : FailureMove p e q es) :
    es.any Effect.isOfOpen = false := by cases h <;> rfl

/-! ## How a pump comes to be stopping -/

/-- A pump is stopping when a caller waits for its end, and when it has come to it. -/
def Braced (p : Pump) : Prop := p.once.done = true ∨ p.once.turns ≠ [] → p.stopping = true

theorem Braced.fresh {context : Context} {lease : Lease} {options : Options} {wire : String}
    {draw : Nat → Nat} : (new context lease options wire draw).Braced := by
  rintro (hd | ht)
  · cases hd
  · exact absurd rfl ht

theorem Braced.keep (h : p.Braced) (ho : q.once = p.once) (hs : p.stopping = true → q.stopping = true) :
    q.Braced := by
  intro hq
  rw [ho] at hq
  exact hs (h hq)

theorem Braced.of_turn (h : p.Braced) {ticket : Nat} (ht : p.once.isTurnOf ticket = true) :
    p.stopping = true := by
  refine h (.inr fun hn => ?_)
  simp [Once.isTurnOf, hn] at ht

theorem RunMove.stops {now ticket : Nat} {reason : CloseReason}
    (h : RunMove p now ticket reason q es nx) : q.stopping = true := by
  cases h with
  | closed => rfl
  | settle => rfl
  | disconnect _ _ hd => exact hd.aside.stopping rfl

/-- Whoever calls for shutdown finds the pump stopping, or makes it so. -/
theorem EnterMove.stops {now ticket : Nat} {reason : CloseReason}
    (h : EnterMove p now ticket reason q es nx) (hb : p.Braced) : q.stopping = true := by
  cases h with
  | done hd => exact hb (.inl hd)
  | queue hd hq =>
    refine hb (.inr fun hn => ?_)
    rw [Once.isTurnOf_enter_of_empty hd hn] at hq
    cases hq
  | run _ _ hr => exact hr.stops

end Pump

namespace Session

variable {s t : Session} {c : Cause}

theorem stopping_leave_of {q : Pump} {b : Session} {id : Nat} {errand : Errand} {es : List Effect}
    {nx : Next} (h : q.stopping = true) : (b.carry id errand q es nx).pump.stopping = true := by
  rw [pump_carry, Next.stopping_leave]
  exact h

/-- A pump that is stopping stays so. -/
theorem Step.stopping (h : s.Step c t) (hs : s.pump.stopping = true) : t.pump.stopping = true := by
  cases h with
  | start hm => exact stopping_leave_of ((hm.of_stopping hs).1 ▸ hs)
  | shutdown reason hm => exact stopping_leave_of (hm.aside.stopping hs)
  | deliver report batch hm => exact stopping_leave_of (hm.aside.stopping hs)
  | fail e hm => exact stopping_leave_of (hm.aside.stopping hs)
  | tellStart id w a stage ht hw hm => exact stopping_leave_of (hm.keeps.stopping.trans hs)
  | tellShutdown id w a ticket reason stage ht hw hm => exact stopping_leave_of (hm.aside.stopping hs)
  | tellDelivery => exact stopping_leave_of hs
  | tellReport id w outcome ticket ht hw hm => exact stopping_leave_of (hm.aside.stopping hs)
  | drop id w hw => exact (s.pump.stopping_abandon w.call).trans hs
  | _ => exact hs

theorem braced_carry {b : Session} {id : Nat} {errand : Errand} {q : Pump} {es : List Effect}
    {nx : Next} (h : q.Braced) : (b.carry id errand q es nx).pump.Braced := by
  unfold Pump.Braced
  rw [pump_carry, Next.once_leave, Next.stopping_leave]
  exact h

theorem Led.braced_step (hi : s.Led) (hb : s.pump.Braced) (h : s.Step c t) : t.pump.Braced := by
  cases h with
  | start hm => exact braced_carry (hb.keep hm.keeps.once fun hs => (hm.of_stopping hs).1 ▸ hs)
  | shutdown reason hm => exact braced_carry fun _ => hm.stops hb
  | deliver report batch hm => exact braced_carry (hb.keep hm.once hm.aside.stopping)
  | fail e hm => exact braced_carry (hb.keep hm.keeps.once hm.aside.stopping)
  | tellStart id w a stage ht hw hm => exact braced_carry (hb.keep hm.keeps.once hm.keeps.stopping.trans)
  | tellShutdown id w a ticket reason stage ht hw hm =>
    obtain ⟨-, -, -, ⟨-, rfl, -⟩ | ⟨hq, -⟩⟩ := hi.told_shutdown ht hw hm
    · exact braced_carry hb
    · exact braced_carry fun _ => hm.aside.stopping (hb.of_turn hq)
  | tellDelivery => exact braced_carry hb
  | tellReport id w outcome ticket ht hw hm => exact braced_carry fun _ => hm.stops hb
  | drop id w hw =>
    intro hq
    cases hc : w.call with
    | shutdown ticket reason stage =>
      simp only [hc, pump_note, Pump.abandon, Once.done_leave] at hq ⊢
      refine hb (hq.imp_right fun hn he => hn ?_)
      simp [Once.leave, he]
    | _ =>
      simp only [hc, pump_note, Pump.abandon, Pump.settle] at hq ⊢
      exact hb hq
  | _ => exact hb

/-- A pump is stopping in every state of a run in which somebody runs its shutdown procedure. -/
theorem braced_of_run {context : Context} {lease : Lease} {options : Options} {wire : String}
    {draw : Nat → Nat} {cs : List Cause} {s : Session}
    (h : (new (.new context lease options wire draw)).run cs = some s) : s.pump.Braced :=
  (run_led (P := fun s => s.pump.Braced) (.new _ rfl rfl rfl) .fresh
    (fun _ _ _ hi hb hs => hi.braced_step hb hs) h).2

/-! ## What a step shows of an open -/

/-- In a pump that is stopping only a call that opens the pump can show anything of an open. -/
theorem Step.mute {f : Effect → Bool} (h : s.Step c t) (hs : s.pump.stopping = true)
    (hf : ∀ e, f e = true → e.isOfOpen = true)
    (ho : ∀ id w a stage q es nx, s.Tells id w a c → w.call = .start stage →
      s.pump.OpenMove stage a q es nx → es.any f = false) :
    ∃ ms, t.history = s.history ++ ms ∧ (effects ms).any f = false := by
  have carry (b : Session) (ms : List Mark) (hb : b.history = s.history ++ ms) (hms : effects ms = [])
      (id : Nat) (e : Errand) {q es nx} (hm : es.any f = false) :
      ∃ ms, (b.carry id e q es nx).history = s.history ++ ms ∧ (effects ms).any f = false := by
    obtain ⟨ks, hk, he⟩ := exists_effects_carry id e q es nx hb hms
    exact ⟨ks, hk, he ▸ hm⟩
  have apart {es : List Effect} (he : es.any Effect.isOfOpen = false) : es.any f = false := by
    refine List.any_eq_false.2 fun e hm hfe => ?_
    exact List.any_eq_false.1 he e hm (hf e hfe)
  cases h with
  | start hm => exact carry (s.begin _) _ rfl rfl _ _ ((hm.of_stopping hs).2.1 ▸ rfl)
  | shutdown reason hm => exact carry (s.begin _) _ rfl rfl _ _ (apart hm.apart)
  | deliver report batch hm => exact carry (s.begin _) _ rfl rfl _ _ (apart hm.apart)
  | fail e hm => exact carry (s.begin _) _ rfl rfl _ _ (apart hm.apart)
  | report n e he => exact carry ((s.forget n).begin _) _ rfl rfl _ _ (apart rfl)
  | discard => exact ⟨[], (List.append_nil _).symm, rfl⟩
  | tellStart id w a stage ht hw hm =>
    exact carry (s.told id w a) _ rfl (effects_marks ..) _ _ (ho _ _ _ _ _ _ _ ht hw hm)
  | tellShutdown id w a ticket reason stage ht hw hm =>
    exact carry (s.told id w a) _ rfl (effects_marks ..) _ _ (apart hm.apart)
  | tellDelivery id w a stage ht hw hm =>
    exact carry (s.told id w a) _ rfl (effects_marks ..) _ _ (apart hm.apart)
  | tellReport id w outcome ticket ht hw hm =>
    exact carry (s.told id w _) _ rfl (effects_marks ..) _ _ (apart hm.apart)
  | drop => exact ⟨_, rfl, rfl⟩
  | bump => exact ⟨[], (List.append_nil _).symm, rfl⟩
  | pass => exact ⟨_, rfl, rfl⟩

/-- In a pump that is stopping no open gets any further. -/
theorem Step.connects (h : s.Step c t) (hs : s.pump.stopping = true) :
    ∃ ms, t.history = s.history ++ ms ∧ (effects ms).any Effect.connects = false := by
  refine h.mute hs (fun e he => by simp [Effect.isOfOpen, he]) ?_
  exact fun _ _ _ _ _ _ _ _ _ hm => hm.of_stopping hs

/-- No call comes to open a pump that is stopping, or has left its first state. -/
theorem Step.openers_nil (hi : s.Led) (h : s.Step c t)
    (hs : s.pump.stopping = true ∨ s.pump.status ≠ .uninitialized) (ho : s.openers = []) :
    t.openers = [] := by
  have carry {b : Session} {id : Nat} {e : Errand} {q es nx} (hb : b.openers = [])
      (hf : nx.Fits id e) (he : e ≠ .start) : (b.carry id e q es nx).openers = [] := by
    rw [openers_carry, hf.opening? he, hb]
    rfl
  cases h with
  | start hm =>
    obtain ⟨-, -, rfl⟩ := hm.refused hs
    rw [openers_carry]
    exact ho
  | shutdown reason hm => exact carry (b := s.begin _) ho hm.fits (by simp)
  | deliver report batch hm => exact carry (b := s.begin _) ho hm.fits (by simp)
  | fail e hm => exact carry (b := s.begin _) ho .finish (by simp)
  | report n e he => exact carry (b := (s.forget n).begin _) ho (.ask (.report e)) (by simp)
  | tellStart id w a stage ht hw hm =>
    obtain ⟨-, hn, -⟩ := hi.told_start ht hw
    rw [ho] at hn
    cases hn
  | tellShutdown id w a ticket reason stage ht hw hm =>
    obtain ⟨he, rfl, hl, -⟩ := hi.told_shutdown ht hw hm
    exact carry (hl.trans ho) (he ▸ hm.fits) (by simp [he])
  | tellDelivery id w a stage ht hw hm =>
    obtain ⟨⟨batch, he⟩, hl, -⟩ := hi.told_delivery ht hw
    exact carry (hl.trans ho) (he ▸ hm.fits) (by simp [he])
  | tellReport id w outcome ticket ht hw hm =>
    obtain ⟨rfl, -, hl, -⟩ := hi.told_report ht hw
    exact carry (hl.trans ho) hm.fits (by simp)
  | drop id w hw =>
    refine List.eq_nil_iff_forall_not_mem.2 fun st hm => ?_
    have hm' : st ∈ s.openers := mem_waiting_take hm
    rw [ho] at hm'
    cases hm'
  | _ => exact ho

end Session
end PartitionConsumer
