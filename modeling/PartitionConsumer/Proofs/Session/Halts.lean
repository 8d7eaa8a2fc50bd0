import PartitionConsumer.Proofs.Session.Turns
/-!
# How a pump comes to be closed

A pump is closed by a shutdown, or by its opening call where the open failed, and stays closed. Calls may
be dropped at any time.
-/
namespace PartitionConsumer

def ShutdownStage.isReleasing : ShutdownStage → Bool
  | .release _ | .onClose => true
  | _ => false

namespace Pump

variable {p q : Pump} {es : List Effect} {nx : Next}

/-- Only a pump that runs or has run into an error has a connection. -/
def Linked (p : Pump) : Prop := p.connection.isSome → p.status = .running ∨ p.status = .errored

theorem Linked.eq_none (h : p.Linked) (hr : p.status ≠ .running) (he : p.status ≠ .errored) :
    p.connection = none := by
  cases hc : p.connection with
  | none => rfl
  | some c =>
    obtain hl | hl := h (by rw [hc]; rfl)
    · exact absurd hl hr
    · exact absurd hl he

theorem Linked.of_none (h : p.connection = none) : p.Linked := by
  intro hc
  rw [h] at hc
  cases hc

structure Steady (p q : Pump) (es : List Effect) (nx : Next) : Prop where
  stopping : q.stopping = p.stopping
  closing : p.status = .closing → q.status = .closing
  closed : p.status = .closed → q.status = .closed
  closes : q.status = .closed → p.status = .closed ∨ nx.call? = none
  published : 0 < es.countP (Effect.announces .pumpClosed) → q.status = .closed ∧ nx.call? = none
  linked : q.Linked
  release : ∀ r, .release r true ∉ nx.opening?

theorem Steady.same (ht : q.stopping = p.stopping) (hs : q.status = p.status)
    (hc : q.connection = p.connection) (hp : es.countP (Effect.announces .pumpClosed) = 0)
    (hl : p.Linked) (hr : ∀ r, .release r true ∉ nx.opening?) : Steady p q es nx where
  stopping := ht
  closing h := hs.trans h
  closed h := hs.trans h
  closes h := .inl (hs.symm.trans h)
  published h := by omega
  linked h := by
    rw [hs]
    exact hl (hc ▸ h)
  release := hr

theorem AttemptMove.steady {r : Pump} {cut : Bool} {shown : List Effect}
    (h : AttemptMove r cut shown q es nx) (ht : r.stopping = p.stopping) (hs : r.status = p.status)
    (hc : r.connection = p.connection) (hp : shown.countP (Effect.announces .pumpClosed) = 0)
    (hl : p.Linked) : Steady p q es nx := by
  have he := (announced_attempt _ _ h).trans hp
  cases h <;> exact .same ht hs hc he hl (by simp)

theorem OpenMove.steady {stage : OpenStage} {a : Answer} (h : OpenMove p stage a q es nx)
    (hl : p.Linked) (hr : ∀ r, stage ≠ .release r true) : Steady p q es nx := by
  have closes {q : Pump} {es : List Effect} {nx : Next} (ht : q.stopping = p.stopping)
      (ho : p.status = .opening) (hs : q.status = .closed) (hc : q.connection = p.connection)
      (hn : nx.call? = none) : Steady p q es nx := by
    have hk : q.connection = none := hc.trans (hl.eq_none (by simp [ho]) (by simp [ho]))
    refine ⟨ht, by simp [ho], by simp [ho], fun _ => .inr hn, fun _ => ⟨hs, hn⟩, .of_none hk, fun r => ?_⟩
    rw [Next.opening?, hn]
    simp
  cases h with
  | connect _ _ h => exact h.steady rfl rfl rfl rfl hl
  | refusedCloses e outcome ho => exact closes rfl ho rfl rfl rfl
  | clientFailed a f _ h => exact h.steady rfl rfl rfl (by simp) hl
  | install a client receiver hs ho =>
    refine ⟨rfl, by simp [ho], by simp [ho], by simp, fun hp => ?_, fun _ => .inl rfl, by simp⟩
    simp at hp
  | abandoned a f outcome h => exact h.steady rfl rfl rfl (by simp) hl
  | pauseOver a wake h => exact h.steady rfl rfl rfl rfl hl
  | failedCloses e outcome ho => exact closes rfl ho rfl rfl rfl
  | failedReleases e outcome c ho hc =>
    rw [hl.eq_none (by simp [ho]) (by simp [ho])] at hc
    cases hc
  | releaseNext r r' closing =>
    cases closing with
    | true => exact absurd rfl (hr r)
    | false => exact .same rfl rfl rfl (by simp) hl (by simp)
  | releaseCloses r => exact absurd rfl (hr r)
  | _ => exact .same rfl rfl rfl (by simp) hl (by simp)

theorem StartMove.steady (h : StartMove p q es nx) (hl : p.Linked) : Steady p q es nx := by
  cases h with
  | ignored => exact .same rfl rfl rfl (by simp) hl (by simp)
  | opens hs hu =>
    have hk : p.connection = none := hl.eq_none (by simp [hu]) (by simp [hu])
    exact ⟨rfl, by simp [hu], by simp [hu], nofun, by simp, .of_none hk, by simp⟩

theorem ReceiveMove.steady {batch : Option Batch} (h : ReceiveMove p batch q es nx) (hl : p.Linked) :
    Steady p q es nx := by
  cases h <;> exact .same rfl rfl rfl (by simp) hl (by simp [Call.opening?])

theorem DeliveryMove.steady {stage : DeliveryStage} {a : Answer} (h : DeliveryMove p stage a es nx)
    (hl : p.Linked) : Steady p p es nx := by
  cases h <;> exact .same rfl rfl rfl (by simp) hl (by simp [Call.opening?])

theorem FailureMove.steady {e : TransportError} (h : FailureMove p e q es) (hl : p.Linked) :
    Steady p q es .finish := by
  cases h with
  | ignored => exact .same rfl rfl rfl (by simp) hl (by simp)
  | taken hr => exact ⟨rfl, by simp [hr], by simp [hr], nofun, by simp, fun _ => .inr rfl, by simp⟩

section Shutdown

variable {now ticket : Nat} {reason : CloseReason}

structure Halting (q : Pump) (es : List Effect) (nx : Next) : Prop where
  stopping : q.stopping = true
  releasing : ∀ t ∈ nx.turn?, t.stage.isReleasing = true → q.status = .closing
  published : 0 < es.countP (Effect.announces .pumpClosed) → q.status = .closed ∧ nx.call? = none
  linked : q.Linked

theorem PassMove.halting {shown : List Effect} (h : PassMove p ticket reason shown q es nx)
    (ht : p.stopping = true) (hs : p.status = .closing) (hc : p.connection = none)
    (hp : shown.countP (Effect.announces .pumpClosed) = 0) : Halting q es nx := by
  cases h with
  | hook => exact ⟨ht, fun _ _ _ => hs, fun h => by simp [hp] at h, .of_none hc⟩
  | close => exact ⟨ht, by simp, fun _ => ⟨rfl, rfl⟩, .of_none hc⟩

theorem status_unlinked (h : p.status ≠ .closed) : p.unlinked.status = .closing := by
  unfold unlinked closingStatus
  cases hs : p.status <;> simp_all [Status.isClosingOrClosed]

theorem DisconnectMove.halting (h : DisconnectMove p ticket reason q es nx) (ht : p.stopping = true)
    (hs : p.status ≠ .closed) : Halting q es nx := by
  have hu := status_unlinked hs
  cases h with
  | release => exact ⟨ht, fun _ _ _ => hu, fun h => by simp at h, .of_none rfl⟩
  | pass _ hp => exact hp.halting ht hu rfl (by simp)

theorem RunMove.halting (h : RunMove p now ticket reason q es nx) (hl : p.Linked) :
    Halting q es nx := by
  cases h with
  | closed => exact ⟨rfl, by simp, by simp, hl⟩
  | settle => exact ⟨rfl, by simp [Call.turn?, ShutdownStage.isReleasing], by simp, hl⟩
  | disconnect hs _ hd => exact hd.halting rfl hs

theorem ShutdownMove.halting {stage : ShutdownStage} {a : Answer}
    (h : ShutdownMove p now ticket reason stage a q es nx) (hq : stage ≠ .queued)
    (ht : p.stopping = true) (hs : stage.isReleasing = true → p.status = .closing)
    (hl : p.Linked) : Halting q es nx := by
  have hn (hs : p.status = .closing) : p.connection = none := hl.eq_none (by simp [hs]) (by simp [hs])
  cases h with
  | queuedDone => exact absurd rfl hq
  | queuedRun => exact absurd rfl hq
  | foundClosed => exact ⟨ht, by simp, by simp, hl⟩
  | disconnect wake _ hn hd => exact hd.halting ht hn
  | releaseNext r r' => exact ⟨ht, fun _ _ _ => hs rfl, by simp, hl⟩
  | releaseEnds r outcome _ hp => exact hp.halting ht (hs rfl) (hn (hs rfl)) (by simp)
  | close => exact ⟨ht, by simp, fun _ => ⟨rfl, rfl⟩, .of_none (hn (hs rfl))⟩

theorem EnterMove.published (h : EnterMove p now ticket reason q es nx) (hl : p.Linked)
    (hp : 0 < es.countP (Effect.announces .pumpClosed)) : nx.call? = none := by
  cases h with
  | done => rfl
  | queue => cases hp
  | run _ _ hr => exact ((hr.halting hl).published hp).2

end Shutdown
end Pump

namespace Session

/-- A pump that is closed stays so: it was closed by a shutdown, or no call opens it any more. -/
structure Halted (s : Session) : Prop where
  linked : s.pump.Linked
  release : ∀ r, .release r true ∉ s.openers
  stopping : s.runners ≠ [] → s.pump.stopping = true
  releasing : ∀ t ∈ s.runners, t.stage.isReleasing = true → s.pump.status = .closing
  closed : s.pump.status = .closed → s.openers ≠ [] → s.pump.stopping = true
  published : 0 < announced .pumpClosed s.history → s.pump.status = .closed

theorem mem_waiting_take {α : Type} {s : Session} {id : Nat} {f : Waiting → Option α} {x : α}
    (h : x ∈ (s.take id).waiting f) : x ∈ s.waiting f := by
  obtain ⟨y, hy, hf⟩ := List.mem_filterMap.1 h
  exact List.mem_filterMap.2 ⟨y, mem_of_mem_take hy, hf⟩

namespace Halted

variable {s b : Session} {id : Nat} {errand : Errand} {q : Pump} {es : List Effect} {nx : Next}

theorem new (p : Pump) (hc : p.connection = none) (hs : p.status ≠ .closed) : (new p).Halted where
  linked := .of_none hc
  release _ := nofun
  stopping hn := absurd rfl hn
  releasing := nofun
  closed h := absurd h hs
  published hp := by cases hp

theorem begin (h : s.Halted) (e : Errand) : (s.begin e).Halted where
  linked := h.linked
  release := h.release
  stopping := h.stopping
  releasing := h.releasing
  closed := h.closed
  published hp := h.published (announced_begin s _ e ▸ hp)

/-- A call is taken out of those that wait. -/
theorem take (h : s.Halted) (id : Nat) : (s.take id).Halted where
  linked := h.linked
  release r hm := h.release r (mem_waiting_take hm)
  stopping hn := h.stopping fun he => hn (List.eq_nil_iff_forall_not_mem.2 fun t hm => by
    have hm' : t ∈ s.runners := mem_waiting_take hm
    rw [he] at hm'
    cases hm')
  releasing t hm := h.releasing t (mem_waiting_take hm)
  closed hc hn := h.closed hc fun he => hn (List.eq_nil_iff_forall_not_mem.2 fun st hm => by
    have hm' : st ∈ s.openers := mem_waiting_take hm
    rw [he] at hm'
    cases hm')
  published := h.published

theorem note (h : s.Halted) {ms : List Mark} (hm : announced .pumpClosed ms = 0) : (s.note ms).Halted where
  linked := h.linked
  release := h.release
  stopping := h.stopping
  releasing := h.releasing
  closed := h.closed
  published hp := by
    rw [history_note, announced_append, hm] at hp
    exact h.published hp

theorem told (h : s.Halted) (id : Nat) (w : Waiting) (a : Answer) : (s.told id w a).Halted :=
  (h.take id).note (announced_marks _ w id a)

/-- A call goes on that leaves a closed pump closed, and closes it if it publishes the close. -/
theorem closed_carry (h : b.Halted) (hq : b.pump.status = .closed → q.status = .closed)
    (hes : 0 < es.countP (Effect.announces .pumpClosed) → q.status = .closed)
    (hp : 0 < announced .pumpClosed (b.carry id errand q es nx).history) :
    (b.carry id errand q es nx).pump.status = .closed := by
  rw [announced_carry] at hp
  rw [pump_carry, Next.status_leave]
  obtain hp | hp : 0 < announced .pumpClosed b.history
      ∨ 0 < es.countP (Effect.announces .pumpClosed) := by omega
  · exact hq (h.published hp)
  · exact hes hp

/-- A call goes on that does not run the shutdown procedure. -/
theorem carry (h : b.Halted) (hm : b.pump.Steady q es nx) (hn : nx.turn? = none)
    (hc : q.status = .closed → nx.opening?.toList ++ b.openers ≠ [] → b.pump.stopping = true) :
    (b.carry id errand q es nx).Halted := by
  refine ⟨?_, fun r hr => ?_, fun hr => ?_, fun t ht hs => ?_, fun hs ho => ?_,
    h.closed_carry hm.closed fun hp => (hm.published hp).1⟩
  · unfold Pump.Linked
    rw [pump_carry, Next.connection_leave, Next.status_leave]
    exact hm.linked
  · rw [openers_carry, List.mem_append, Option.mem_toList] at hr
    exact hr.elim (hm.release r) (h.release r)
  · rw [runners_carry, hn] at hr
    rw [pump_carry, Next.stopping_leave, hm.stopping]
    exact h.stopping hr
  · rw [runners_carry, hn] at ht
    rw [pump_carry, Next.status_leave]
    exact hm.closing (h.releasing t ht hs)
  · rw [pump_carry, Next.status_leave] at hs
    rw [openers_carry] at ho
    rw [pump_carry, Next.stopping_leave, hm.stopping]
    exact hc hs ho

/-- A call goes on that neither opens the pump nor runs the shutdown procedure. -/
theorem aside (h : b.Halted) (hm : b.pump.Steady q es nx) (hf : nx.opening? = none)
    (hn : nx.turn? = none) (hs : q.status = .closed → b.pump.status = .closed) :
    (b.carry id errand q es nx).Halted :=
  h.carry hm hn fun hc ho => h.closed (hs hc) (by rwa [hf] at ho)

/-- A call goes on that runs the shutdown procedure. -/
theorem turning (h : b.Halted) (hq : b.pump.Aside q) (hm : Pump.Halting q es nx) (hr : b.runners = [])
    (hn : nx.opening? = none) : (b.carry id errand q es nx).Halted := by
  refine ⟨?_, fun r hr => ?_, fun _ => ?_, fun t ht hs => ?_, fun _ _ => ?_,
    h.closed_carry hq.closed fun hp => (hm.published hp).1⟩
  · unfold Pump.Linked
    rw [pump_carry, Next.connection_leave, Next.status_leave]
    exact hm.linked
  · rw [openers_carry, hn] at hr
    exact h.release r hr
  · rw [pump_carry, Next.stopping_leave]
    exact hm.stopping
  · rw [runners_carry, hr, List.append_nil] at ht
    rw [pump_carry, Next.status_leave]
    exact hm.releasing t (Option.mem_toList.1 ht) hs
  · rw [pump_carry, Next.stopping_leave]
    exact hm.stopping

/-- A call for shutdown asks for its turn. -/
theorem enter {now ticket : Nat} {reason : CloseReason} (h : b.Halted)
    (hb : b.pump.once.done = false → (b.pump.once.enter ticket).isTurnOf ticket = true →
      b.runners = [])
    (hm : b.pump.EnterMove now ticket reason q es nx) : (b.carry id errand q es nx).Halted := by
  have ha := hm.aside
  cases hm with
  | done =>
    exact h.aside (.same rfl rfl rfl rfl h.linked (by simp)) rfl rfl fun hs => hs
  | queue =>
    exact h.aside (.same rfl rfl rfl rfl h.linked (by simp [Call.opening?])) rfl rfl fun hs => hs
  | run hd hq hr =>
    exact h.turning ha (hr.halting h.linked) (hb hd hq) (hr.fits.opening? (by simp))

/-- While a call releases the connection, or is in the closing hook, the pump is closing. -/
theorem releasing_call (h : s.Halted) {w : Waiting} {ticket : Nat} {reason : CloseReason}
    {stage : ShutdownStage} (hw : s.call? id = some w) (hc : w.call = .shutdown ticket reason stage)
    (hs : stage.isReleasing = true) : s.pump.status = .closing := by
  refine h.releasing ⟨ticket, reason, stage⟩ (List.mem_filterMap.2 ⟨_, mem_of_call? hw, ?_⟩) hs
  cases stage with
  | queued => cases hs
  | _ => simp [Waiting.turn?, Call.turn?, hc]

/-- A call for shutdown that is told something returns from the queue, or runs the procedure. -/
theorem halting_told {w : Waiting} {a : Answer} {c : Cause} {ticket : Nat} {reason : CloseReason}
    {stage : ShutdownStage} (hi : s.Led) (h : s.Halted) (ht : s.Tells id w a c)
    (hw : w.call = .shutdown ticket reason stage)
    (hm : s.pump.ShutdownMove s.now ticket reason stage a q es nx) :
    q = s.pump ∧ es = [] ∧ nx = .finish ∨ (s.told id w a).runners = [] ∧ Pump.Halting q es nx := by
  obtain ⟨-, -, -, ⟨-, hq, he, hn, -⟩ | ⟨-, hl, ⟨-, hm⟩ | ⟨hs, hr⟩⟩⟩ := hi.told_shutdown ht hw hm
  · exact .inl ⟨hq, he, hn⟩
  · exact .inr ⟨hl, hm.halting h.linked⟩
  · exact .inr ⟨hl, hm.halting hs (h.stopping (by simp [hr])) (h.releasing_call ht.call? hw) h.linked⟩

theorem step {t : Session} {c : Cause} (hi : s.Led) (h : s.Halted) (hs : s.Step c t) : t.Halted := by
  cases hs with
  | start hm =>
    have hb := h.begin .start
    refine hb.carry (hm.steady h.linked) (by cases hm <;> rfl) fun hs ho => ?_
    cases hm with
    | ignored => exact h.closed hs ho
    | opens => cases hs
  | shutdown reason hm =>
    exact (h.begin (.shutdown reason)).enter
      (fun hd hq => (hi.runners_of_enter hi.next_not_mem_turns hd hq).2) hm
  | deliver report batch hm =>
    exact (h.begin (.delivery batch)).aside (hm.steady h.linked) (by cases hm <;> rfl)
      (by cases hm <;> rfl) fun hs => by cases hm <;> exact hs
  | fail e hm =>
    refine (h.begin (.failure e)).aside (hm.steady h.linked) rfl rfl fun hs => ?_
    cases hm with
    | ignored => exact hs
    | taken => cases hs
  | report n e he =>
    have hf : (s.forget n).Halted := ⟨h.1, h.2, h.3, h.4, h.5, h.6⟩
    exact (hf.begin (.report e)).aside (.same rfl rfl rfl rfl h.linked (by simp [Call.opening?])) rfl rfl
      fun hs => hs
  | discard n hn => exact ⟨h.1, h.2, h.3, h.4, h.5, h.6⟩
  | @tellStart _ q es nx id w a stage ht hw hm =>
    obtain ⟨he, ho, hl, -⟩ := hi.told_start ht hw
    have hr (r : Release) : stage ≠ .release r true := by
      rintro rfl
      exact h.release r (by rw [ho]; exact List.mem_cons_self)
    have hq := hm.steady h.linked hr
    have hf : nx.Fits id w.errand := he ▸ hm.fits id
    refine (h.told id w a).carry hq (hf.turn? (by simp [he])) fun hs hn => ?_
    obtain hs | hs := hq.closes hs
    · exact h.closed hs (by simp [ho])
    · rw [hl, Next.opening?, hs] at hn
      exact absurd rfl hn
  | tellShutdown id w a ticket reason stage ht hw hm =>
    obtain ⟨rfl, rfl, rfl⟩ | ⟨hl, hk⟩ := h.halting_told hi ht hw hm
    · exact (h.told id w a).aside (.same rfl rfl rfl rfl h.linked (by simp)) rfl rfl fun hs => hs
    · exact (h.told id w a).turning hm.aside hk hl (hm.fits.opening? (by simp))
  | tellDelivery id w a stage ht hw hm =>
    exact (h.told id w a).aside (hm.steady h.linked) (by cases hm <;> rfl) (by cases hm <;> rfl) fun hs => hs
  | tellReport id w outcome ticket ht hw hm =>
    obtain ⟨rfl, hn, -, hr⟩ := hi.told_report ht hw
    refine (h.told ticket w (.hook outcome)).enter (fun hd hq => ?_) hm
    rw [hr]
    exact (hi.runners_of_enter hn hd hq).2
  | drop id w hw =>
    have hk := h.take id
    refine note (s := { s.take id with pump := s.pump.abandon w.call }) ⟨?_, hk.release, ?_, ?_, ?_, ?_⟩ rfl
    · unfold Pump.Linked
      rw [Pump.status_abandon, Pump.connection_abandon]
      exact h.linked
    · rw [Pump.stopping_abandon]
      exact hk.stopping
    · rw [Pump.status_abandon]
      exact hk.releasing
    · rw [Pump.status_abandon, Pump.stopping_abandon]
      exact hk.closed
    · rw [Pump.status_abandon]
      exact hk.published
  | bump => exact ⟨h.1, h.2, h.3, h.4, h.5, h.6⟩
  | pass ticks =>
    have hp : Halted { s with now := s.now + ticks } := ⟨h.1, h.2, h.3, h.4, h.5, h.6⟩
    exact hp.note rfl

end Halted

end Session
end PartitionConsumer
