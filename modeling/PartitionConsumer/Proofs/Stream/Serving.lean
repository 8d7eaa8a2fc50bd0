import PartitionConsumer.Proofs.LateEvents
import PartitionConsumer.Proofs.Standstill.Progress
import PartitionConsumer.Proofs.Stream.Calm
/-!
# A pump in service

What a step can do to a pump that runs: it is shut down, its receiver has failed, or it runs on with the
connection it has, and nothing is done to the transport. The receiver of that connection has the handler.
-/
namespace PartitionConsumer

/-- The effect does nothing to the transport. -/
def Effect.isInert : Effect → Bool
  | .ask (.hook _) | .status _ | .publish _ | .log _ | .defer _ => true
  | _ => false

namespace Transport

variable (o : Options) (t : Transport)

theorem perform_of_isInert {e : Effect} (h : e.isInert = true) : t.perform o e = t := by
  cases e with
  | ask q => cases q <;> first | rfl | cases h
  | tune | install => cases h
  | _ => rfl

theorem foldl_of_isInert {es : List Effect} (h : es.all Effect.isInert = true) :
    es.foldl (perform o) t = t := by
  induction es with
  | nil => rfl
  | cons e es ih =>
    rw [List.all_cons, Bool.and_eq_true] at h
    rw [List.foldl_cons, perform_of_isInert o t h.1, ih h.2]

/-- A receiver that was made has the handler that is installed on it. -/
theorem handled_install {r : Nat} (h : r < t.receivers.size) :
    (t.perform o (.install r)).handled r = true := by
  unfold handled perform modifyReceiver
  rw [Array.getElem?_modify, if_pos rfl, Array.getElem?_eq_getElem h]
  rfl

end Transport

namespace Session

variable {s t : Session} {c : Cause}

structure Undisturbed (s t : Session) : Prop where
  status : t.pump.status = s.pump.status
  connection : t.pump.connection = s.pump.connection
  options : t.pump.options = s.pump.options
  partition : t.pump.partition = s.pump.partition
  effects : ∃ ms, t.history = s.history ++ ms ∧ (effects ms).all Effect.isInert = true

theorem Undisturbed.carry {b : Session} {id : Nat} {errand : Errand} {q : Pump} {es : List Effect} {nx : Next}
    {ms : List Mark} (hb : b.history = s.history ++ ms) (hms : PartitionConsumer.effects ms = [])
    (hl : nx.leave q = q) (hs : q.status = s.pump.status) (hc : q.connection = s.pump.connection)
    (ho : q.options = s.pump.options) (hp : q.partition = s.pump.partition)
    (he : es.all Effect.isInert = true) : s.Undisturbed (b.carry id errand q es nx) := by
  obtain ⟨ks, hk, heff⟩ := exists_effects_carry id errand q es nx hb hms
  refine ⟨?_, ?_, ?_, ?_, ks, hk, heff ▸ he⟩ <;> rw [pump_carry, hl] <;> assumption

/-- A pump that runs is shut down, or its receiver fails, or it runs on undisturbed. -/
theorem Step.of_running (hi : s.Led) (hb : s.pump.Braced) (ha : s.pump.Afloat) (hc : s.Sheltered)
    (h : s.Step c t) (hr : s.pump.status = .running) :
    t.pump.status ≠ .running ∧ ((∃ reason, c = .shutdown reason) ∨ ∃ e, c = .fail e)
      ∨ s.Undisturbed t := by
  have plain {id : Nat} {w : Waiting} {a : Answer} (ht : s.Tells id w a c) :
      ∃ stage, w.call = .deliver stage := hc.delivers hi ha hr (mem_of_call? ht.call?)
  cases h with
  | start hm =>
    obtain ⟨rfl, rfl, rfl⟩ := hm.refused (.inr (by rw [hr]; nofun))
    exact .inr (.carry (b := s.begin .start) rfl rfl rfl rfl rfl rfl rfl rfl)
  | shutdown reason hm =>
    refine .inl ⟨?_, .inl ⟨reason, rfl⟩⟩
    rw [pump_carry, Next.status_leave]
    exact hm.leaves_running hr hb ha
  | deliver report batch hm =>
    cases hm <;> exact .inr (.carry (b := s.begin _) rfl rfl rfl rfl rfl rfl rfl rfl)
  | fail e hm =>
    cases hm with
    | ignored hn => exact absurd hr hn
    | taken => exact .inl ⟨nofun, .inr ⟨e, rfl⟩⟩
  | report n e he =>
    rw [(hc (ha (.inl hr)).1 (by rw [hr]; nofun)).deferred] at he
    cases he
  | discard n hn => exact .inr ⟨rfl, rfl, rfl, rfl, [], (List.append_nil _).symm, rfl⟩
  | tellStart id w a stage ht hw hm =>
    obtain ⟨stage', hw'⟩ := plain ht
    cases hw.symm.trans hw'
  | tellShutdown id w a ticket reason stage ht hw hm =>
    obtain ⟨stage', hw'⟩ := plain ht
    cases hw.symm.trans hw'
  | tellDelivery id w a stage ht hw hm =>
    cases hm <;> exact .inr (.carry (b := s.told id w _) rfl (effects_marks ..) rfl rfl rfl rfl rfl rfl)
  | tellReport id w outcome ticket ht hw hm =>
    obtain ⟨stage', hw'⟩ := plain ht
    cases hw.symm.trans hw'
  | drop id w hw =>
    obtain ⟨stage, hd⟩ := hc.delivers hi ha hr (mem_of_call? hw)
    refine .inr ⟨s.pump.status_abandon w.call, s.pump.connection_abandon w.call, ?_,
      congrArg Context.partition (s.pump.context_abandon w.call), _, rfl, rfl⟩
    rw [hd]
    rfl
  | bump => exact .inr ⟨rfl, rfl, rfl, rfl, [], (List.append_nil _).symm, rfl⟩
  | pass ticks => exact .inr ⟨rfl, rfl, rfl, rfl, _, rfl, rfl⟩

end Session

/-- The call that opens the pump brings it to run, and installs the handler on the receiver of its new
connection. -/
theorem Pump.OpenMove.runs {p q : Pump} {stage : OpenStage} {a : Answer} {es : List Effect} {nx : Next}
    (h : OpenMove p stage a q es nx) (hp : p.status ≠ .running) (hq : q.status = .running) :
    ∃ c prefetch timeout e, nx = .finish ∧ q.connection = some c
      ∧ es = [.tune c.receiver prefetch timeout, .status .running, .install c.receiver, .publish e] := by
  have same {q : Pump} (hs : q.status = p.status) (hq : q.status = .running) : False := hp (hs ▸ hq)
  cases h with
  | install a client receiver => exact ⟨⟨client, receiver⟩, _, _, _, rfl, rfl, rfl⟩
  | connect _ _ h => exact (same h.status hq).elim
  | clientFailed _ _ _ h => exact (same h.status hq).elim
  | abandoned _ _ _ h => exact (same h.status hq).elim
  | pauseOver _ _ h => exact (same h.status hq).elim
  | refusedCloses | failedCloses | failedReleases | releaseCloses => cases hq
  | _ => exact (same rfl hq).elim

namespace Session

variable {s t : Session} {c : Cause}

/-- A pump comes to run by a step that installs its handler. -/
theorem Step.to_running (hi : s.Led) (hb : s.pump.Braced) (hat : t.pump.Afloat)
    (h : s.Step c t) (hr : s.pump.status ≠ .running) (ht : t.pump.status = .running) :
    ∃ k prefetch timeout e ms, t.pump.connection = some k ∧ t.history = s.history ++ ms ∧ effects ms
      = [.tune k.receiver prefetch timeout, .status .running, .install k.receiver, .publish e] := by
  have hstop := (hat (.inl ht)).1
  have stops {b : Session} {id : Nat} {errand : Errand} {q : Pump} {es : List Effect} {nx : Next}
      (hq : q.stopping = true) (h : (b.carry id errand q es nx).pump.stopping = false) : False := by
    rw [stopping_leave_of hq] at h
    cases h
  cases h with
  | start hm =>
    rw [pump_carry, Next.status_leave] at ht
    cases hm with
    | ignored => exact absurd ht hr
    | opens => cases ht
  | shutdown reason hm => exact (stops (hm.stops hb) hstop).elim
  | deliver report batch hm =>
    rw [pump_carry, Next.status_leave] at ht
    cases hm <;> exact absurd ht hr
  | fail e hm => cases hm <;> first | exact absurd ht hr | cases ht
  | tellStart id w a stage htell hw hm =>
    rw [pump_carry, Next.status_leave] at ht
    obtain ⟨k, prefetch, timeout, e, rfl, hk, he⟩ := hm.runs hr ht
    obtain ⟨ms, hms, heff⟩ :=
      exists_effects_carry (b := s.told id w a) id w.errand _ _ .finish rfl (effects_marks w id a)
    exact ⟨k, prefetch, timeout, e, ms, hk, hms, heff.trans he⟩
  | tellShutdown id w a ticket reason stage htell hw hm =>
    obtain ⟨-, -, -, ⟨-, rfl, -⟩ | ⟨hq, -⟩⟩ := hi.told_shutdown htell hw hm
    · rw [pump_carry, Next.status_leave] at ht
      exact absurd ht hr
    · exact (stops (hm.aside.stopping (hb.of_turn hq)) hstop).elim
  | tellDelivery =>
    rw [pump_carry, Next.status_leave] at ht
    exact absurd ht hr
  | tellReport id w outcome ticket htell hw hm => exact (stops (hm.stops hb) hstop).elim
  | drop id w hw => exact absurd ((s.pump.status_abandon w.call).symm.trans ht) hr
  | _ => exact absurd ht hr

end Session

namespace Bench

variable {b b' : Bench} {x : Stimulus}

def Held (b : Bench) : Prop :=
  b.session.pump.status = .running →
    ∃ c, b.session.pump.connection = some c ∧ b.transport.handled c.receiver = true

structure Regular (b : Bench) : Prop extends b.Orderly where
  afloat : b.session.pump.Afloat
  braced : b.session.pump.Braced
  sheltered : b.session.Sheltered
  held : b.Held

namespace Regular

/-- In a pump that runs every call in progress is a delivery that waits for a hook. -/
theorem hook_of_call (h : b.Regular) (hr : b.session.pump.status = .running) {y : Nat × Waiting}
    (hy : y ∈ b.session.calls) : ∃ call, y.2.request = some (.hook call) := by
  obtain ⟨stage, hc⟩ := h.sheltered.delivers h.inTurn.toLed h.afloat hr hy
  obtain ⟨-, ha⟩ := (h.inTurn.tidy.fits y hy).of_deliver hc
  cases ha' : y.2.request with
  | none =>
    rw [ha'] at ha
    cases ha
  | some r =>
    rw [ha'] at ha
    cases ha <;> exact ⟨_, rfl⟩

theorem hook_of_request? (h : b.Regular) (hr : b.session.pump.status = .running) {id : Nat} {q : Request}
    (hq : b.request? id = some q) : ∃ call, q = .hook call := by
  obtain ⟨w, hw, hq⟩ := call_of_request? hq
  obtain ⟨call, hc⟩ := h.hook_of_call hr (Session.mem_of_call? hw)
  exact ⟨call, Option.some.inj (hq.symm.trans hc)⟩

/-- No handler is being cleared. -/
theorem drains_eq_nil (h : b.Regular) (hr : b.session.pump.status = .running) : b.drains = [] := by
  refine List.eq_nil_iff_forall_not_mem.2 fun d hd => ?_
  obtain ⟨call, hc⟩ := h.hook_of_request? hr (h.guarded.drains d hd)
  cases hc

end Regular

/-- The connection of a pump is to a receiver the transport has made. -/
theorem Balanced.connection_made (h : b.Balanced) {c : Connection}
    (hc : b.session.pump.connection = some c) : c.receiver < b.transport.receivers.size := by
  have howes : 0 < b.session.owes (.clearHandler c.receiver) := by
    refine List.count_pos_iff.2 (List.mem_flatMap.2 ⟨c.due, ?_, List.mem_cons_self⟩)
    rw [Session.dues, Pump.due, hc]
    exact List.mem_cons_self
  have hmade := h.accounted.all (.clearHandler c.receiver)
  rw [h.agrees.made] at hmade
  split at hmade
  · rename_i hh
    simpa [Transport.has] using hh
  · omega

/-- The transport follows the session by a step, or the session stays as it is. -/
theorem Step.follows (h : b.Step x b') :
    b'.session = b.session ∨ ∃ (a : Bench) (c : Cause), a.session = b.session ∧ a.Follows c b' := by
  cases h with
  | own c _ h => exact .inr ⟨_, c, rfl, h⟩
  | noClient _ _ _ h | noReceiver _ _ _ _ _ h | close _ _ _ h => exact .inr ⟨_, _, rfl, h⟩
  | client _ _ h | receiver _ _ _ _ h | drain _ _ _ _ h => exact .inr ⟨_, _, by rfl, h⟩
  | deliver _ _ _ _ _ _ _ _ h | fail _ _ _ _ _ _ _ _ h => exact .inr ⟨_, _, by rfl, h⟩
  | _ => exact .inl rfl

structure Unmoved (b b' : Bench) : Prop where
  session : b'.session = b.session ∨ b.session.Undisturbed b'.session
  handled : ∀ r, b'.transport.handled r = b.transport.handled r

theorem Follows.transport_eq {c : Cause} (hf : b.Follows c b') (hu : b.session.Undisturbed b'.session) :
    b'.transport = b.transport := by
  obtain ⟨ms, hms, he⟩ := hu.effects
  rw [hf.transport, hms, List.drop_left, Transport.foldl_of_isInert _ _ he]

namespace Regular

/-- A pump that runs is shut down, or its receiver fails, or it runs on with the handlers as they are. -/
theorem step_of_running (h : b.Regular) (hr : b.session.pump.status = .running) (hs : b.Step x b') :
    b'.session.pump.status ≠ .running ∧ ((∃ reason, x = .own (.shutdown reason))
        ∨ ∃ v ∈ b.visits, ∃ e report, v.parcel = .failure e ∧ x = .enter v.ticket report)
      ∨ b.Unmoved b' := by
  have follows {a : Bench} {c : Cause} (hb : a.session = b.session) (hf : a.Follows c b') :=
    (Session.step_of_step? h.inTurn.tidy.trace (hb ▸ hf.session)).of_running h.inTurn.toLed h.braced h.afloat
      h.sheltered hr
  have undisturbed {a : Bench} {c : Cause} (hb : a.session = b.session) (hf : a.Follows c b')
      (ht : ∀ r, a.transport.handled r = b.transport.handled r) (hu : b.session.Undisturbed b'.session) :
      b.Unmoved b' :=
    ⟨.inr hu, fun r => by rw [hf.transport_eq (hb ▸ hu)]; exact ht r⟩
  have nothing {id : Nat} {q : Request} (hq : b.request? id = some q) (hn : ∀ call, q ≠ .hook call) :
      False := by
    obtain ⟨call, hc⟩ := h.hook_of_request? hr hq
    exact hn call hc
  cases hs with
  | own c hc hf =>
    obtain ⟨hn, ⟨reason, rfl⟩ | ⟨e, rfl⟩⟩ | hu := follows rfl hf
    · exact .inl ⟨hn, .inl ⟨reason, rfl⟩⟩
    · cases hc
    · exact .inr (undisturbed rfl hf (fun _ => rfl) hu)
  | noClient id e hq hf => exact (nothing hq nofun).elim
  | client id hq hf => exact (nothing hq nofun).elim
  | noReceiver id client request e hq hf => exact (nothing hq nofun).elim
  | receiver id client request hq hf => exact (nothing hq nofun).elim
  | close id error hq hf =>
    obtain ⟨r, hq⟩ | ⟨c, hq⟩ := hq <;> exact (nothing hq nofun).elim
  | pass id r hq hd => exact (nothing hq nofun).elim
  | drain error d hd hl hf =>
    rw [h.drains_eq_nil hr] at hd
    cases hd
  | arrive r parcel _ => exact .inr ⟨.inl rfl, fun s => b.transport.handled_modifyReceiver r s fun _ => rfl⟩
  | depart report v hv hc hl hh =>
    exact .inr ⟨.inl rfl, fun s => b.transport.handled_modifyReceiver _ s fun _ => rfl⟩
  | deliver report v messages hv hc hl hh hp hf =>
    obtain ⟨-, ⟨reason, he⟩ | ⟨e, he⟩⟩ | hu := follows (a := b.handIn v) rfl hf
    · cases he
    · cases he
    · exact .inr (undisturbed (a := b.handIn v) rfl hf (fun _ => rfl) hu)
  | fail report v e hv hc hl hh hp hf =>
    obtain ⟨hn, -⟩ | hu := follows (a := b.depart v) rfl hf
    · exact .inl ⟨hn, .inr ⟨v, hv, e, report, hp, rfl⟩⟩
    · exact .inr (undisturbed (a := b.depart v) rfl hf
        (fun s => b.transport.handled_modifyReceiver _ s fun _ => rfl) hu)
  | leave v id hv hc hn => exact .inr ⟨.inl rfl, fun s => b.transport.handled_modifyReceiver _ s fun _ => rfl⟩
  | gate r isOpen => exact .inr ⟨.inl rfl, fun s => b.transport.handled_modifyReceiver r s fun _ => rfl⟩

end Regular

theorem Unmoved.status (h : b.Unmoved b') : b'.session.pump.status = b.session.pump.status :=
  h.session.elim (fun h => h ▸ rfl) (·.status)

theorem Unmoved.connection (h : b.Unmoved b') : b'.session.pump.connection = b.session.pump.connection :=
  h.session.elim (fun h => h ▸ rfl) (·.connection)

theorem Unmoved.options (h : b.Unmoved b') : b'.session.pump.options = b.session.pump.options :=
  h.session.elim (fun h => h ▸ rfl) (·.options)

theorem Unmoved.partition (h : b.Unmoved b') : b'.session.pump.partition = b.session.pump.partition :=
  h.session.elim (fun h => h ▸ rfl) (·.partition)

/-- A pump that comes to run holds a receiver with the handler. -/
theorem Follows.held {c : Cause} (hf : b.Follows c b') (hi : b.session.InTurn) (hb : b.session.pump.Braced)
    (ha : b'.session.pump.Afloat) (hm : b'.Balanced) (hr : b.session.pump.status ≠ .running) : b'.Held := by
  intro ht
  have hs := Session.step_of_step? hi.tidy.trace hf.session
  obtain ⟨k, prefetch, timeout, e, ms, hk, hms, heff⟩ := hs.to_running hi.toLed hb ha hr ht
  refine ⟨k, hk, ?_⟩
  have hmade : (Transport.has b.transport (.clearHandler k.receiver)) = true := by
    have hh : b'.transport.has (.clearHandler k.receiver) = true := by
      simpa [Transport.has] using hm.connection_made hk
    rwa [hf.transport, Transport.has_foldl] at hh
  rw [hf.transport, hms, List.drop_left, heff]
  refine Transport.handled_install _ _ ?_
  have hsize : (b.transport.modifyReceiver k.receiver fun receiver =>
      { receiver with prefetch := some prefetch, timeout := some timeout }).receivers.size
      = b.transport.receivers.size := Array.size_modify
  exact hsize ▸ of_decide_eq_true hmade

namespace Regular

variable {context : Context} {lease : Lease} {options : Options} {wire : String} {draw : Nat → Nat}

theorem new : (Bench.new (.new context lease options wire draw)).Regular where
  toOrderly := .new
  afloat h := by obtain h | h := h <;> cases h
  braced := .fresh
  sheltered := .new _
  held := nofun

theorem step (h : b.Regular) (hs : b.Step x b') : b'.Regular := by
  obtain ⟨hi, ha, hb, hc⟩ := hs.keeps
    (P := fun s => s.pump.Afloat ∧ s.pump.Braced ∧ s.Sheltered)
    (fun s c t _ hi h hs => ⟨hi.toLed.afloat_step h.1 hs, hi.toLed.braced_step h.2.1 hs,
      h.2.2.step hi.toLed h.2.1 h.1 hs⟩) h.inTurn ⟨h.afloat, h.braced, h.sheltered⟩
  have ho := h.toOrderly.step hs
  refine ⟨ho, ha, hb, hc, ?_⟩
  by_cases hr : b.session.pump.status = .running
  · obtain ⟨hn, -⟩ | hu := h.step_of_running hr hs
    · exact fun ht => absurd ht hn
    · intro _
      obtain ⟨k, hk, hh⟩ := h.held hr
      exact ⟨k, hu.connection.trans hk, (hu.handled _).trans hh⟩
  · obtain he | ⟨a, c, he, hf⟩ := hs.follows
    · exact fun ht => absurd (he ▸ ht) hr
    · exact hf.held (he ▸ h.inTurn) (he ▸ h.braced) ha ho.toBalanced (he ▸ hr)

theorem of_run {xs : List Stimulus} (h : (Bench.new (.new context lease options wire draw)).run xs = some b) :
    b.Regular := Bench.run_induction .new (fun _ _ _ h hs => h.step hs) h

end Regular
end Bench
end PartitionConsumer
