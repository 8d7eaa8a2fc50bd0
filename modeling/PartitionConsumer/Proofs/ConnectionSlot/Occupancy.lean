import PartitionConsumer.Proofs.Session.Requested
import PartitionConsumer.Proofs.Stream.Serving
/-!
# When a pump has its connection

A pump has a connection while it runs or has broken down, and at no other time. A step leaves the connection
where it is and does nothing to its receiver, takes it out, or puts it in: that is the last move of the
opening call, and after it no call opens the pump again. Calls may be dropped at any time.
-/
namespace PartitionConsumer
namespace Pump

variable {p q : Pump} {es : List Effect} {nx : Next}

/-- A pump that runs or has broken down has a connection. -/
def Berthed (p : Pump) : Prop := p.status = .running ∨ p.status = .errored → p.connection.isSome

theorem Berthed.of_down (h : p.status = .closing ∨ p.status = .closed) : p.Berthed := by
  intro hs
  obtain h | h := h <;> rw [h] at hs <;> simp at hs

theorem Berthed.leave (h : q.Berthed) (nx : Next) : (nx.leave q).Berthed := by
  cases nx <;> exact h

theorem StartMove.berthed (h : StartMove p q es nx) (hb : p.Berthed) : q.Berthed := by
  cases h with
  | ignored => exact hb
  | opens =>
    intro hs
    simp at hs

/-- The opening call brings the pump to run with a connection, or to an end. -/
theorem OpenMove.berthed {stage : OpenStage} {a : Answer} (h : OpenMove p stage a q es nx)
    (hb : p.Berthed) : q.Berthed := by
  have same {q : Pump} (hs : q.status = p.status) (hc : q.connection = p.connection) : q.Berthed := by
    unfold Berthed
    rw [hs, hc]
    exact hb
  cases h with
  | connect _ _ h => exact same h.status h.connection
  | refusedCloses => exact .of_down (.inr rfl)
  | clientFailed _ _ _ h => exact same h.status h.connection
  | install => exact fun _ => rfl
  | abandoned _ _ _ h => exact same h.status h.connection
  | pauseOver _ _ h => exact same h.status h.connection
  | failedCloses => exact .of_down (.inr rfl)
  | failedReleases => exact .of_down (.inl rfl)
  | releaseCloses => exact .of_down (.inr rfl)
  | _ => exact same rfl rfl

theorem ReceiveMove.berthed {batch : Option Batch} (h : ReceiveMove p batch q es nx) (hb : p.Berthed) :
    q.Berthed := by cases h <;> exact hb

theorem FailureMove.berthed {e : TransportError} (h : FailureMove p e q es) (hb : p.Berthed) :
    q.Berthed := by
  cases h with
  | ignored => exact hb
  | taken hr => exact fun _ => hb (.inl hr)

section Shutdown

variable {now ticket : Nat} {reason : CloseReason}

theorem PassMove.berthed {shown : List Effect} (h : PassMove p ticket reason shown q es nx)
    (hb : p.Berthed) : q.Berthed := by
  cases h with
  | hook => exact hb
  | close => exact .of_down (.inr rfl)

theorem DisconnectMove.berthed (h : DisconnectMove p ticket reason q es nx) (hs : p.status ≠ .closed) :
    q.Berthed := by
  have hu : p.unlinked.Berthed := .of_down (.inl (status_unlinked hs))
  cases h with
  | release => exact hu
  | pass _ hp => exact hp.berthed hu

theorem RunMove.berthed (h : RunMove p now ticket reason q es nx) (hb : p.Berthed) : q.Berthed := by
  cases h with
  | closed => exact hb
  | settle => exact hb
  | disconnect hs _ hd => exact hd.berthed hs

theorem EnterMove.berthed (h : EnterMove p now ticket reason q es nx) (hb : p.Berthed) : q.Berthed := by
  cases h with
  | run _ _ hr => exact hr.berthed hb
  | _ => exact hb

theorem ShutdownMove.berthed {stage : ShutdownStage} {a : Answer}
    (h : ShutdownMove p now ticket reason stage a q es nx) (hb : p.Berthed) : q.Berthed := by
  cases h with
  | queuedRun _ hr => exact hr.berthed hb
  | disconnect _ _ hs hd => exact hd.berthed hs
  | releaseEnds _ _ _ hp => exact hp.berthed hb
  | close => exact .of_down (.inr rfl)
  | _ => exact hb

/-! ## What a move does to the connection -/

/-- A shutdown does nothing to the transport before it has taken the connection out. -/
def Parts (p q : Pump) (es : List Effect) : Prop :=
  q.connection = p.connection ∧ es.all Effect.isInert = true ∨ q.connection = none

theorem PassMove.connection {shown : List Effect} (h : PassMove p ticket reason shown q es nx) :
    q.connection = p.connection := by cases h <;> rfl

theorem DisconnectMove.connection (h : DisconnectMove p ticket reason q es nx) : q.connection = none := by
  cases h with
  | release => rfl
  | pass _ hp => exact hp.connection

theorem RunMove.parts (h : RunMove p now ticket reason q es nx) : Parts p q es := by
  cases h with
  | closed => exact .inl ⟨rfl, rfl⟩
  | settle => exact .inl ⟨rfl, rfl⟩
  | disconnect _ _ hd => exact .inr hd.connection

theorem EnterMove.parts (h : EnterMove p now ticket reason q es nx) : Parts p q es := by
  cases h with
  | run _ _ hr => exact hr.parts
  | _ => exact .inl ⟨rfl, rfl⟩

theorem ShutdownMove.parts {stage : ShutdownStage} {a : Answer}
    (h : ShutdownMove p now ticket reason stage a q es nx)
    (hc : stage.isReleasing = true → p.connection = none) : Parts p q es := by
  cases h with
  | queuedRun _ hr => exact hr.parts
  | disconnect _ _ _ hd => exact .inr hd.connection
  | releaseNext => exact .inr (hc rfl)
  | releaseEnds _ _ _ hp => exact .inr (hp.connection.trans (hc rfl))
  | close => exact .inr (hc rfl)
  | _ => exact .inl ⟨rfl, rfl⟩

end Shutdown

structure Fills (p : Pump) (a : Attempt) (c : Connection) (q : Pump) (es : List Effect) : Prop where
  stopping : q.stopping = false
  connection : q.connection = some c
  effects : es = [.tune c.receiver p.options.prefetchCount p.options.receiveTimeout, .status .running,
    .install c.receiver, p.event { kind := .pumpRunning, attempt := a.number, epoch := a.epoch }]

theorem OpenMove.fills {stage : OpenStage} {answer : Answer} (h : OpenMove p stage answer q es nx)
    (hc : p.connection = none) (hq : q.connection ≠ none) :
    ∃ a client receiver, stage = .receiverReady a client (.ok receiver)
      ∧ p.Fills a ⟨client, receiver⟩ q es := by
  cases h with
  | install a client receiver hs => exact ⟨a, client, receiver, rfl, hs, rfl, rfl⟩
  | connect _ _ h => exact absurd (h.connection.trans hc) hq
  | clientFailed _ _ _ h => exact absurd (h.connection.trans hc) hq
  | abandoned _ _ _ h => exact absurd (h.connection.trans hc) hq
  | pauseOver _ _ h => exact absurd (h.connection.trans hc) hq
  | failedReleases => exact absurd rfl hq
  | _ => exact absurd hc hq

end Pump

namespace Session

variable {s t : Session} {c : Cause}

theorem berthed_step (h : s.pump.Berthed) (hs : s.Step c t) : t.pump.Berthed := by
  cases hs with
  | start hm => exact (hm.berthed h).leave _
  | shutdown reason hm => exact (hm.berthed h).leave _
  | deliver report batch hm => exact (hm.berthed h).leave _
  | fail e hm => exact hm.berthed h
  | tellStart id w a stage ht hw hm => exact (hm.berthed h).leave _
  | tellShutdown id w a ticket reason stage ht hw hm => exact (hm.berthed h).leave _
  | tellDelivery => exact h.leave _
  | tellReport id w outcome ticket ht hw hm => exact (hm.berthed h).leave _
  | drop id w hw =>
    unfold Pump.Berthed
    rw [pump_note]
    exact fun hs => (s.pump.connection_abandon w.call).symm ▸ h ((s.pump.status_abandon w.call) ▸ hs)
  | _ => exact h

structure Anchored (s : Session) : Prop where
  led : s.Led
  halted : s.Halted
  moored : s.pump.Moored
  berthed : s.pump.Berthed
  requested : s.Requested
  braced : s.pump.Braced

namespace Anchored

variable {context : Context} {lease : Lease} {options : Options} {wire : String} {draw : Nat → Nat}

theorem new : (Session.new (.new context lease options wire draw)).Anchored where
  led := .new _ rfl rfl rfl
  halted := .fresh
  moored := ⟨nofun, nofun⟩
  berthed := by
    rintro (h | h) <;> cases h
  requested := .new
  braced := by
    rintro (h | h)
    · cases h
    · exact absurd rfl h

theorem step (h : s.Anchored) (hs : s.Step c t) : t.Anchored where
  led := h.led.step hs
  halted := h.halted.step h.led hs
  moored := moored_step h.led h.halted h.moored hs
  berthed := berthed_step h.berthed hs
  requested := h.requested.step h.led h.braced hs
  braced := h.led.braced_step h.braced hs

theorem isSome_iff (h : s.Anchored) :
    s.pump.connection.isSome ↔ s.pump.status = .running ∨ s.pump.status = .errored :=
  ⟨h.halted.linked, h.berthed⟩

/-- No connection is there as long as a call opens the pump. -/
theorem connection_of_opening (h : s.Anchored) (hp : s.pump.phase = .opening) :
    s.pump.connection = none := by
  cases hc : s.pump.connection with
  | none => rfl
  | some c =>
    have hs := h.moored.settled (by rw [hc]; rfl)
    rw [hp] at hs
    cases hs

end Anchored

/-! ## What a step does to the connection -/

/-- The connection is where it was, and nothing was done to the transport; or it is not there; or the
opening call has put it there. -/
inductive Shifts (s t : Session) : Prop where
  | stays (hc : t.pump.connection = s.pump.connection)
    (he : ∃ ms, t.history = s.history ++ ms ∧ (effects ms).all Effect.isInert = true)
  | empty (hc : t.pump.connection = none)
  | fills (a : Attempt) (c : Connection) (es : List Effect)
    (ho : s.openers = [.receiverReady a c.client (.ok c.receiver)]) (hp : s.pump.phase = .opening)
    (hf : s.pump.Fills a c t.pump es) (he : ∃ ms, t.history = s.history ++ ms ∧ effects ms = es)

theorem Shifts.carry {b : Session} {id : Nat} {errand : Errand} {q : Pump} {es : List Effect} {nx : Next}
    {ms : List Mark} (hb : b.history = s.history ++ ms) (hms : effects ms = [])
    (h : Pump.Parts s.pump q es) : s.Shifts (b.carry id errand q es nx) := by
  obtain ⟨ks, hk, heff⟩ := exists_effects_carry id errand q es nx hb hms
  obtain ⟨hc, he⟩ | hc := h
  · exact .stays ((Next.connection_leave ..).trans hc) ⟨ks, hk, heff ▸ he⟩
  · exact .empty ((Next.connection_leave ..).trans hc)

theorem Step.shifts (h : s.Anchored) (hs : s.Step c t) : s.Shifts t := by
  cases hs with
  | start hm =>
    refine .carry (b := s.begin .start) rfl rfl ?_
    cases hm with
    | ignored => exact .inl ⟨rfl, rfl⟩
    | opens => exact .inl ⟨rfl, rfl⟩
  | shutdown reason hm => exact .carry (b := s.begin _) rfl rfl hm.parts
  | deliver report batch hm =>
    refine .carry (b := s.begin _) rfl rfl (.inl ?_)
    cases hm <;> exact ⟨rfl, rfl⟩
  | fail e hm =>
    refine .carry (b := s.begin _) rfl rfl (.inl ?_)
    cases hm <;> exact ⟨rfl, rfl⟩
  | report n e he => exact .carry (b := (s.forget n).begin _) rfl rfl (.inl ⟨rfl, rfl⟩)
  | discard n hn => exact .stays rfl ⟨[], (List.append_nil _).symm, rfl⟩
  | @tellStart _ q es nx id w a stage ht hw hm =>
    obtain ⟨ho, -, hp⟩ := h.led.openers_of_start ht.call? hw
    have hc := h.connection_of_opening hp
    cases hq : q.connection with
    | none => exact .empty ((Next.connection_leave ..).trans hq)
    | some k =>
      obtain ⟨b, client, receiver, rfl, hf⟩ := hm.fills hc (by rw [hq]; nofun)
      obtain ⟨ks, hk, heff⟩ :=
        exists_effects_carry (b := s.told id w a) id w.errand q es nx rfl (effects_marks w id a)
      exact .fills b ⟨client, receiver⟩ es ho hp
        ⟨(Next.stopping_leave ..).trans hf.stopping, (Next.connection_leave ..).trans hf.connection,
          hf.effects⟩ ⟨ks, hk, heff⟩
  | tellShutdown id w a ticket reason stage ht hw hm =>
    refine .carry (b := s.told id w a) rfl (effects_marks ..) (hm.parts fun hr => ?_)
    have hcl := h.halted.releasing_call ht.call? hw hr
    exact h.halted.linked.eq_none (by simp [hcl]) (by simp [hcl])
  | tellDelivery id w a stage ht hw hm =>
    refine .carry (b := s.told id w a) rfl (effects_marks ..) (.inl ?_)
    cases hm <;> exact ⟨rfl, rfl⟩
  | tellReport id w outcome ticket ht hw hm =>
    exact .carry (b := s.told id w _) rfl (effects_marks ..) hm.parts
  | drop id w hw => exact .stays (s.pump.connection_abandon w.call) ⟨_, rfl, rfl⟩
  | bump => exact .stays rfl ⟨[], (List.append_nil _).symm, rfl⟩
  | pass ticks => exact .stays rfl ⟨_, rfl, rfl⟩

/-- An open that has settled never begins again. -/
theorem Step.settled (h : s.Led) (hs : s.Step c t) (hp : s.pump.phase = .settled) :
    t.pump.phase = .settled := by
  have leave {q : Pump} (hq : q.phase = .settled) (nx : Next) : (nx.leave q).phase = .settled := by
    cases nx with
    | crash => rfl
    | _ => exact hq
  cases hs with
  | start hm =>
    cases hm with
    | ignored => exact hp
    | opens _ hu =>
      rw [h.unopened hu] at hp
      cases hp
  | shutdown reason hm => exact leave (hm.aside.phase.trans hp) _
  | deliver report batch hm => exact leave (hm.aside.phase.trans hp) _
  | fail e hm => exact hm.aside.phase.trans hp
  | tellStart id w a stage ht hw hm =>
    obtain ⟨-, -, ho⟩ := h.openers_of_start ht.call? hw
    rw [hp] at ho
    cases ho
  | tellShutdown id w a ticket reason stage ht hw hm => exact leave (hm.aside.phase.trans hp) _
  | tellDelivery => exact leave hp _
  | tellReport id w outcome ticket ht hw hm => exact leave (hm.aside.phase.trans hp) _
  | drop id w hw =>
    cases hc : w.call with
    | start => simp [Pump.abandon, Pump.settle]
    | _ => simpa [hc, Pump.abandon] using hp
  | _ => exact hp

end Session
end PartitionConsumer
