import PartitionConsumer.Proofs.Bench.Guards
import PartitionConsumer.Proofs.Session.Requests
import PartitionConsumer.Proofs.Released
/-!
# Callers

Who waits, and for what. A call stays what it is: a delivery is one to its end, and so is a shutdown. Until
the procedure has been run to its end every call for shutdown has its place among the turns.
-/
namespace PartitionConsumer

/-- The call for a shutdown, with its number as its ticket. -/
theorem Waiting.Fits.call_of_shutdown {id : Nat} {w : Waiting} (h : w.Fits id) {reason : CloseReason}
    (he : w.errand = .shutdown reason) : ∃ stage, w.call = .shutdown id reason stage := by
  cases h with
  | shutdown =>
    cases he
    exact ⟨_, rfl⟩
  | _ => cases he

/-! ## Places among the turns -/

namespace Pump

variable {p q : Pump} {es : List Effect} {nx : Next} {now ticket : Nat} {reason : CloseReason}

/-- Unless the move comes to the end of the procedure, nobody loses a place among the turns, and a call
for shutdown that waits from now on has one. -/
structure Enrols (p q : Pump) (nx : Next) : Prop where
  kept : q.once.done = false → p.once.done = false ∧ ∀ t ∈ p.once.turns, t ∈ q.once.turns
  joins : q.once.done = false → ∀ t reason stage, nx.call? = some (.shutdown t reason stage) →
    t ∈ q.once.turns

theorem Enrols.aside (ho : q.once = p.once) {id : Nat} {errand : Errand} (hf : nx.Fits id errand)
    (he : ∀ reason, errand ≠ .shutdown reason) : Enrols p q nx where
  kept hd := ⟨ho ▸ hd, fun _ ht => ho ▸ ht⟩
  joins _ _ reason _ hn := by
    obtain ⟨r, hw⟩ := hf.of_call? hn
    exact (he reason (hw.of_shutdown rfl).1).elim

theorem Turning.enrols (h : Turning p ticket q nx) (ht : ticket ∈ p.once.turns) : Enrols p q nx := by
  obtain ⟨ho, reason, stage, -, hn⟩ | ⟨ho, -⟩ := h
  · refine ⟨fun hd => ⟨ho ▸ hd, fun _ hm => ho ▸ hm⟩, fun _ t _ _ hc => ?_⟩
    have he : t = ticket := by
      obtain rfl | ⟨r, rfl⟩ := hn <;> cases hc <;> rfl
    rw [ho, he]
    exact ht
  · have hd : q.once.done ≠ false := by simp [ho]
    exact ⟨fun h => absurd h hd, fun h => absurd h hd⟩

theorem EnterMove.enrols (h : EnterMove p now ticket reason q es nx) : Enrols p q nx := by
  cases h with
  | done => exact ⟨fun hd => ⟨hd, fun _ ht => ht⟩, nofun⟩
  | queue =>
    refine ⟨fun hd => ⟨hd, fun _ ht => List.mem_append_left _ ht⟩, fun _ t _ _ hc => ?_⟩
    cases hc
    exact List.mem_append_right _ (List.mem_singleton_self _)
  | run _ _ hr =>
    have he := hr.turning.enrols (List.mem_append_right _ (List.mem_singleton_self _))
    exact ⟨fun hd => ⟨(he.kept hd).1, fun t ht => (he.kept hd).2 t (List.mem_append_left _ ht)⟩, he.joins⟩

end Pump

namespace Session

variable {s t b : Session} {c : Cause}

/-- Until the procedure has been run to its end, every call for shutdown waits in the order of turns. -/
def Enrolled (s : Session) : Prop := s.pump.once.done = false →
  ∀ x ∈ s.calls, ∀ t reason stage, x.2.call = .shutdown t reason stage → t ∈ s.pump.once.turns

namespace Enrolled

theorem carry {id : Nat} {errand : Errand} {q : Pump} {es : List Effect} {nx : Next} (h : s.Enrolled)
    (hb : ∀ x ∈ b.calls, x ∈ s.calls) (hm : s.pump.Enrols q nx) :
    (b.carry id errand q es nx).Enrolled := by
  intro hd x hx t reason stage hc
  rw [pump_carry, Next.once_leave] at hd ⊢
  rw [calls_carry, List.mem_append] at hx
  obtain hx | hx := hx
  · obtain ⟨w, hw, rfl⟩ := List.mem_map.1 hx
    refine hm.joins hd t reason stage ?_
    cases nx <;> simp [Next.waiting?] at hw <;> subst hw <;> exact congrArg some hc
  · exact (hm.kept hd).2 t (h (hm.kept hd).1 x (hb x hx) t reason stage hc)

theorem step (hi : s.InTurn) (h : s.Enrolled) (hd : c.isDrop = false) (hs : s.Step c t) :
    t.Enrolled := by
  cases hs with
  | start hm =>
    exact h.carry (b := s.begin _) (fun _ hx => hx) (.aside hm.keeps.once (hm.fits s.next) (by simp))
  | shutdown reason hm => exact h.carry (b := s.begin _) (fun _ hx => hx) hm.enrols
  | @deliver _ _ nx report batch hm =>
    have hf : nx.Fits s.next (.delivery batch) := hm.fits
    exact h.carry (b := s.begin _) (fun _ hx => hx) (.aside hm.once hf (by simp))
  | fail e hm =>
    have hf : Next.finish.Fits s.next (.failure e) := .finish
    exact h.carry (b := s.begin _) (fun _ hx => hx) (.aside hm.keeps.once hf (by simp))
  | report n e he =>
    exact h.carry (b := (s.forget n).begin _) (fun _ hx => hx)
      (.aside rfl (.ask (.report e)) (by simp))
  | discard n hn => exact h
  | tellStart id w a stage ht hw hm =>
    exact h.carry (b := s.told id w a) (fun _ => mem_of_mem_take)
      (.aside hm.keeps.once (hm.fits id) (by simp))
  | tellShutdown id w a ticket reason stage ht hw hm =>
    obtain ⟨-, rfl, -, ⟨-, rfl, -, rfl, -⟩ | ⟨hn, -, hr, -⟩⟩ := hi.told_shutdown ht hw hm
    · exact h.carry (b := s.told ticket w a) (fun _ => mem_of_mem_take)
        ⟨fun hd => ⟨hd, fun _ ht => ht⟩, nofun⟩
    · refine h.carry (b := s.told ticket w a) (fun _ => mem_of_mem_take) ((hm.turning hn).enrols ?_)
      have hq := hi.runner ⟨ticket, reason, stage⟩ (by rw [hr]; exact List.mem_cons_self)
      simp only [Once.isTurnOf, Bool.and_eq_true, beq_iff_eq] at hq
      exact List.mem_of_head? hq.2
  | @tellDelivery _ _ nx id w a stage ht hw hm =>
    obtain ⟨⟨batch, he⟩, -⟩ := (hi.tidy.fits_call ht.call?).of_deliver hw
    have hf : nx.Fits id (.delivery batch) := hm.fits
    exact h.carry (b := s.told id w a) (fun _ => mem_of_mem_take) (.aside rfl hf (by simp))
  | tellReport id w outcome ticket ht hw hm =>
    exact h.carry (b := s.told id w _) (fun _ => mem_of_mem_take) hm.enrols
  | drop => cases hd
  | bump => exact h
  | pass => exact h

end Enrolled

/-- Until some shutdown has come to its end, one of those that wait runs the procedure. -/
theorem Enrolled.runner (h : s.Enrolled) (hi : s.InTurn) {id : Nat} {w : Waiting} {reason : CloseReason}
    (hw : s.call? id = some w) (he : w.errand = .shutdown reason) (hd : s.pump.once.done = false) :
    ∃ t, s.runners = [t] := by
  obtain ⟨stage, hc⟩ := (hi.tidy.fits_call hw).call_of_shutdown he
  have ht := h hd _ (mem_of_call? hw) id reason stage hc
  cases hr : s.runners with
  | nil =>
    rw [hi.taken hr hd] at ht
    cases ht
  | cons t ts =>
    have hl := hi.runner_le
    rw [hr, List.length_cons] at hl
    rw [List.eq_nil_of_length_eq_zero (by omega : ts.length = 0)]
    exact ⟨t, rfl⟩

/-- A call for shutdown that does not run the procedure is in the queue. -/
theorem Led.queued_of_not_turn (h : s.Led) {id : Nat} {w : Waiting} {reason : CloseReason}
    (hw : s.call? id = some w) (he : w.errand = .shutdown reason) (hn : ∀ t ∈ s.runners, t.ticket ≠ id) :
    w.call = .shutdown id reason .queued := by
  obtain ⟨stage, hc⟩ := (h.tidy.fits_call hw).call_of_shutdown he
  cases stage with
  | queued => exact hc
  | _ =>
    have ht : w.turn? = some ⟨id, reason, _⟩ := congrArg Call.turn? hc
    have hr := (h.runners_of_turn hw ht).1
    exact absurd rfl (hn _ (by rw [hr]; exact List.mem_cons_self))

/-- A caller in the queue is told nothing while another runs the procedure. -/
theorem InTurn.not_tells_queued (h : s.InTurn) {id : Nat} {w : Waiting} {a : Answer}
    {reason : CloseReason} {turn : Turn}
    (hw : s.call? id = some w) (hc : w.call = .shutdown id reason .queued) (hr : turn ∈ s.runners)
    (hn : turn.ticket ≠ id) : ¬ s.Tells id w a c := by
  have hq : w.request = none := ((h.tidy.fits_call hw).of_shutdown hc).2.2.of_queued
  have ht := h.runner turn hr
  intro hk
  cases hk with
  | answer _ ha => simp [Waiting.admits, hq] at ha
  | wake _ _ ha =>
    have hd : s.pump.once.done = false := by
      simp only [Once.isTurnOf, Bool.and_eq_true, Bool.not_eq_true'] at ht
      exact ht.1
    have hi : s.pump.once.isTurnOf id = false := by
      cases hi : s.pump.once.isTurnOf id with
      | false => rfl
      | true => exact absurd (Once.isTurnOf_unique ht hi) hn
    simp [hc, Call.ownAnswer?, hd, hi] at ha

/-! ## What a call is for -/

theorem Tidy.call?_of_mem (h : s.Tidy) {id : Nat} {w : Waiting} (hm : (id, w) ∈ s.calls) :
    s.call? id = some w := by
  cases hc : s.call? id with
  | none => simpa using List.lookup_eq_none_iff.1 hc _ hm
  | some v =>
    have he := List.inj_on_of_nodup_map h.nodup (mem_of_call? hc) hm rfl
    exact congrArg some (Prod.mk.inj he).2

/-- Who runs the procedure waits under its ticket. -/
theorem Tidy.call_of_turn (h : s.Tidy) {t : Turn} (ht : t ∈ s.runners) :
    t.stage ≠ .queued
      ∧ ∃ w, s.call? t.ticket = some w ∧ w.call = .shutdown t.ticket t.reason t.stage := by
  obtain ⟨⟨id, w⟩, hm, hw⟩ := List.mem_filterMap.1 ht
  have hk : t.ticket = id := h.ticket_eq hm hw
  have hw : w.call.turn? = some t := hw
  obtain ⟨hs, hc⟩ : t.stage ≠ .queued ∧ w.call = .shutdown t.ticket t.reason t.stage := by
    cases hc : w.call with
    | shutdown ticket reason stage =>
      rw [hc] at hw
      cases stage <;> cases hw <;> exact ⟨nofun, rfl⟩
    | _ =>
      rw [hc] at hw
      cases hw
  exact ⟨hs, w, hk ▸ h.call?_of_mem hm, hc⟩

/-- The calls after a step are those before it, the one that has begun, and the one that has gone on. -/
theorem Step.mem_calls (h : s.Step c t) {x : Nat × Waiting} (hx : x ∈ t.calls) :
    x ∈ s.calls ∨ x.1 = s.next ∨ ∃ w, (x.1, w) ∈ s.calls ∧ x.2.errand = w.goesOn := by
  have carry {b : Session} {id : Nat} {e : Errand} {q es nx} (hx : x ∈ (b.carry id e q es nx).calls) :
      x ∈ b.calls ∨ x.1 = id ∧ x.2.errand = e := by
    rw [calls_carry, List.mem_append] at hx
    refine hx.symm.imp_right fun hx => ?_
    obtain ⟨w, hw, rfl⟩ := List.mem_map.1 hx
    exact ⟨rfl, Next.errand_waiting? (Option.mem_toList.1 hw)⟩
  have launch {b : Session} (hb : b.calls = s.calls) {e : Errand} {q es nx}
      (hx : x ∈ (b.carry s.next e q es nx).calls) :
      x ∈ s.calls ∨ x.1 = s.next ∨ ∃ w, (x.1, w) ∈ s.calls ∧ x.2.errand = w.goesOn :=
    (carry hx).imp (fun hx => hb ▸ hx) fun hx => .inl hx.1
  have tell {id : Nat} {w : Waiting} {a : Answer} (ht : s.Tells id w a c) {e : Errand} {q es nx}
      (he : e = w.goesOn) (hx : x ∈ ((s.told id w a).carry id e q es nx).calls) :
      x ∈ s.calls ∨ x.1 = s.next ∨ ∃ w, (x.1, w) ∈ s.calls ∧ x.2.errand = w.goesOn := by
    obtain hx | ⟨h1, h2⟩ := carry hx
    · exact .inl (mem_of_mem_take hx)
    · exact .inr (.inr ⟨w, h1 ▸ mem_of_call? ht.call?, h2.trans he⟩)
  cases h with
  | start => exact launch (b := s.begin _) rfl hx
  | shutdown => exact launch (b := s.begin _) rfl hx
  | deliver => exact launch (b := s.begin _) rfl hx
  | fail => exact launch (b := s.begin _) rfl hx
  | report n => exact launch (b := (s.forget n).begin _) rfl hx
  | discard => exact .inl hx
  | tellStart id w a stage ht hw => exact tell ht (by simp [Waiting.goesOn, hw]) hx
  | tellShutdown id w a ticket reason stage ht hw => exact tell ht (by simp [Waiting.goesOn, hw]) hx
  | tellDelivery id w a stage ht hw => exact tell ht (by simp [Waiting.goesOn, hw]) hx
  | tellReport id w outcome ticket ht hw => exact tell ht (by simp [Waiting.goesOn, hw]) hx
  | drop => exact .inl (mem_of_mem_take hx)
  | bump => exact .inl hx
  | pass => exact .inl hx

/-- The number was given out for a call with such an errand, which may have come to its end. -/
structure IsFor (s : Session) (P : Errand → Prop) (id : Nat) : Prop where
  fresh : id < s.next
  errand : ∀ w, (id, w) ∈ s.calls → P w.errand

namespace IsFor

variable {P : Errand → Prop} {id : Nat}

theorem step (h : s.IsFor P id) (hi : s.Tidy) (hs : s.Step c t)
    (hP : ∀ w : Waiting, w.Fits id → P w.errand → P w.goesOn) : t.IsFor P id where
  fresh := Nat.lt_of_lt_of_le h.fresh hs.next_le
  errand w hm := by
    obtain hm | hn | ⟨v, hm, he⟩ := hs.mem_calls hm
    · exact h.errand w hm
    · exact absurd h.fresh (by simp [show id = s.next from hn])
    · have hv : (id, v) ∈ s.calls := hm
      rw [show w.errand = v.goesOn from he]
      exact hP v (hi.fits _ hv) (h.errand v hv)

/-- A call has begun. -/
theorem launch (hi : s.Tidy) {e : Errand} (he : P e) (q : Pump) (es : List Effect) (nx : Next) :
    ((s.begin e).carry s.next e q es nx).IsFor P s.next where
  fresh := Nat.lt_succ_self _
  errand w hm := by
    rw [calls_carry, List.mem_append] at hm
    obtain hm | hm := hm
    · obtain ⟨v, hv, he'⟩ := List.mem_map.1 hm
      obtain ⟨-, rfl⟩ := Prod.mk.inj he'
      rw [Next.errand_waiting? (Option.mem_toList.1 hv)]
      exact he
    · exact absurd (hi.fresh _ hm) (Nat.lt_irrefl _)

end IsFor

def isDelivery (s : Session) (id : Nat) : Prop := s.IsFor (fun e => ∃ batch, e = .delivery batch) id

def isShutdown (s : Session) (id : Nat) : Prop := s.IsFor (fun e => ∃ reason, e = .shutdown reason) id

/-- A delivery stays one. -/
theorem isDelivery.step {id : Nat} (h : s.isDelivery id) (hi : s.Tidy) (hs : s.Step c t) :
    t.isDelivery id :=
  IsFor.step h hi hs fun w hf ⟨batch, he⟩ => by
    cases hf with
    | deliver => exact ⟨batch, he⟩
    | _ => cases he

/-- A shutdown stays one. -/
theorem isShutdown.step {id : Nat} (h : s.isShutdown id) (hi : s.Tidy) (hs : s.Step c t) :
    t.isShutdown id :=
  IsFor.step h hi hs fun w hf ⟨reason, he⟩ => by
    cases hf with
    | shutdown => exact ⟨reason, he⟩
    | _ => cases he

theorem Step.isDelivery_next (hi : s.Tidy) {report : Option TailReport} {batch : Option Batch}
    (h : s.Step (.deliver report batch) t) : t.isDelivery s.next := by
  obtain ⟨q, es, nx, -, rfl⟩ := h.of_deliver
  exact .launch hi ⟨batch, rfl⟩ ..

theorem Step.isShutdown_next (hi : s.Tidy) {reason : CloseReason} (h : s.Step (.shutdown reason) t) :
    t.isShutdown s.next := by
  cases h with
  | shutdown => exact .launch hi ⟨reason, rfl⟩ ..
  | tellStart _ _ _ _ ht => cases ht
  | tellShutdown _ _ _ _ _ _ ht => cases ht
  | tellDelivery _ _ _ _ ht => cases ht
  | tellReport _ _ _ _ ht => cases ht

end Session

namespace Bench

variable {b b' : Bench} {c : Cause} {x : Stimulus}

def Manned (b : Bench) : Prop := ∀ v ∈ b.visits, ∀ id, v.call = some id → b.session.isDelivery id

theorem Manned.depart (h : b.Manned) (v : Visit) : (b.depart v).Manned :=
  fun u hu => h u (List.mem_filter.1 hu).1

theorem Manned.follows (h : b.Manned) (hi : b.session.Tidy) (hf : b.Follows c b') : b'.Manned := by
  intro v hv id hc
  rw [hf.visits] at hv
  exact (h v hv id hc).step hi (Session.step_of_step? hi.trace hf.session)

theorem Manned.step (h : b.Manned) (hi : b.session.Tidy) (hs : b.Step x b') : b'.Manned := by
  cases hs with
  | own c hc hf => exact h.follows hi hf
  | noClient id e hr hf => exact h.follows hi hf
  | client id hr hf => exact follows (b := { b with transport := b.transport.addClient.2 }) h hi hf
  | noReceiver id client request e hr hf => exact h.follows hi hf
  | receiver id client request hr hf =>
    exact follows (b := { b with transport := (b.transport.addReceiver request.epoch).2 }) h hi hf
  | close id error hr hf => exact h.follows hi hf
  | pass id r hr hd => exact h
  | drain error d hd hl hf =>
    exact follows (b := { b.modify d.receiver (·.endClear d.ticket) with
      drains := b.drains.filter (·.call != d.call) }) h hi hf
  | arrive r parcel hr =>
    intro v hv id hc
    obtain rfl | hv := List.mem_cons.1 hv
    · cases hc
    · exact h v hv id hc
  | depart report v => exact h.depart v
  | deliver report v messages hv hc hl hh hp hf =>
    intro u hu id hc
    rw [hf.visits] at hu
    have hs := Session.step_of_step? hi.trace hf.session
    obtain rfl | hu := List.mem_cons.1 hu
    · -- the delivery has just made its call
      obtain rfl := Option.some.inj hc
      exact hs.isDelivery_next hi
    · exact (h u (List.mem_filter.1 hu).1 id hc).step hi hs
  | fail report v e hv hc hl hh hp hf => exact (h.depart v).follows hi hf
  | leave v => exact h.depart v
  | gate r isOpen => exact h

/-- The handlers that are cleared are those of receivers the transport has made. -/
theorem Balanced.receiver_made (h : b.Balanced) (ha : b.session.Attended fun _ => 0) {id r : Nat}
    (hq : b.request? id = some (.clearHandler r)) : r < b.transport.receivers.size := by
  obtain ⟨w, hw, hr⟩ := Option.bind_eq_some_iff.1 hq
  -- what is waited for was asked, what was asked is owed no more, and what is owed was made
  have hasked : 0 < asked (· == .clearHandler r) b.session.history := by
    rw [ha]
    have hpos : 0 < b.session.awaited (· == .clearHandler r) :=
      List.countP_pos_iff.2 ⟨_, Session.mem_of_call? hw, by simp [hr]⟩
    omega
  obtain ⟨e, he, hx⟩ := List.countP_pos_iff.1 hasked
  have hrel : .clearHandler r ∈ released b.session.history := by
    refine List.mem_filterMap.2 ⟨e, he, ?_⟩
    cases e with
    | ask y =>
      obtain rfl : y = .clearHandler r := by simpa using hx
      rfl
    | _ => cases hx
  have hmade := h.accounted.all (.clearHandler r)
  rw [h.agrees.made] at hmade
  have hcount := List.count_pos_iff.2 hrel
  split at hmade
  · rename_i hh
    simpa [Transport.has] using hh
  · omega

end Bench
end PartitionConsumer
