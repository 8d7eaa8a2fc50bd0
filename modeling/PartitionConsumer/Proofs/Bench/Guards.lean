import PartitionConsumer.Proofs.Bench.Locks
import PartitionConsumer.Proofs.Session.Service
/-!
# Guards

A delivery in progress reads the lock of a receiver in service, and only a receiver in service has the
pump's handler. When the call that clears the handler has the lock, no delivery is in progress.
-/
namespace PartitionConsumer

/-! ## Handlers -/

namespace Transport

def handled (t : Transport) (r : Nat) : Bool := (t.receivers[r]?.bind (·.handler)).isSome

variable (t : Transport) (r s : Nat)

theorem handled_modifyReceiver {f : Receiver → Receiver} (hf : ∀ y, (f y).handler = y.handler) :
    (t.modifyReceiver r f).handled s = t.handled s := by
  unfold handled modifyReceiver
  rw [Array.getElem?_modify]
  split
  · cases t.receivers[s]? with
    | none => rfl
    | some y => simp [hf y]
  · rfl

theorem handled_addReceiver {epoch : Nat} (h : (t.addReceiver epoch).2.handled s = true) :
    t.handled s = true := by
  unfold handled addReceiver at h
  rw [Array.getElem?_push] at h
  split at h
  · cases h
  · exact h

/-- A receiver has a handler because it had one that was not cleared, or because one was installed. -/
theorem handled_perform {o : Options} {e : Effect} (h : (perform o t e).handled s = true) :
    e = .install s ∨ t.handled s = true ∧ e ≠ .ask (.clearHandler s) := by
  cases e with
  | ask q =>
    cases q with
    | clearHandler r =>
      unfold perform handled modifyReceiver at h
      rw [Array.getElem?_modify] at h
      split at h
      · cases hr : t.receivers[s]? <;> simp [hr] at h
      · rename_i hn
        exact .inr ⟨h, by simpa using hn⟩
    | closeReceiver r =>
      refine .inr ⟨?_, by simp⟩
      dsimp only [perform, closeReceiver] at h
      cases hr : t.receivers[r]? with
      | none =>
        rw [hr] at h
        exact h
      | some y =>
        rw [hr] at h
        unfold handled modifyReceiver at h
        rw [Array.getElem?_modify] at h
        split at h
        · rename_i hs
          subst hs
          unfold handled
          rw [hr] at h ⊢
          exact h
        · exact h
    | closeClient c =>
      refine .inr ⟨?_, by simp⟩
      dsimp only [perform, closeClient] at h
      cases hc : t.clients[c]? <;> rw [hc] at h <;> exact h
    | _ => exact .inr ⟨h, by simp⟩
  | tune r prefetch timeout =>
    have hu : (perform o t (.tune r prefetch timeout)).handled s = t.handled s :=
      t.handled_modifyReceiver r s fun _ => rfl
    exact .inr ⟨hu.symm.trans h, by simp⟩
  | install r =>
    unfold perform handled modifyReceiver at h
    rw [Array.getElem?_modify] at h
    split at h
    · rename_i hs
      exact .inl (by rw [hs])
    · exact .inr ⟨h, by simp⟩
  | _ => exact .inr ⟨h, by simp⟩

theorem handled_foldl {o : Options} {es : List Effect} (h : (es.foldl (perform o) t).handled s = true) :
    .install s ∈ es ∨ t.handled s = true ∧ .ask (.clearHandler s) ∉ es := by
  induction es generalizing t with
  | nil => exact .inr ⟨h, by simp⟩
  | cons e es ih =>
    obtain hi | ⟨hh, hn⟩ := ih _ h
    · exact .inl (List.mem_cons_of_mem _ hi)
    · obtain rfl | ⟨ht, he⟩ := t.handled_perform s hh
      · exact .inl List.mem_cons_self
      · refine .inr ⟨ht, fun hm => ?_⟩
        obtain hm | hm := List.mem_cons.1 hm
        · exact he hm.symm
        · exact hn hm

end Transport

namespace Bench

variable {b b' : Bench} {c : Cause} {x : Stimulus}

/-- Deliveries in progress read the lock of a receiver in service; calls that drain are those that clear
the handler; the handlers are those of the connection. -/
structure Guarded (b : Bench) : Prop where
  locks : Locks b.transport.lock? b.visits b.drains b.next
  drains : ∀ d ∈ b.drains, b.request? d.call = some (.clearHandler d.receiver)
  inside : ∀ id, b.session.delivers id → ∃ v ∈ b.visits, v.call = some id
    ∧ (∃ l, b.transport.lock? v.receiver = some l ∧ v.ticket ∈ l.readers)
    ∧ b.session.serves v.receiver
  handled : ∀ r, b.transport.handled r = true → ∃ k, b.session.pump.connection = some ⟨k, r⟩

/-- A call that clears a handler is told nothing but that it is cleared. -/
theorem Follows.clears (hf : b.Follows c b') {id r : Nat} (hr : b.request? id = some (.clearHandler r)) :
    c ≠ .wake id ∧ ∀ a, c = .answer id a → ∃ outcome, a = .released outcome := by
  obtain ⟨w, hw, hq⟩ := Option.bind_eq_some_iff.1 hr
  refine ⟨?_, ?_⟩
  · rintro rfl
    have h := hf.session
    simp [Session.step?, hw, hq] at h
  · rintro a rfl
    obtain ⟨v, hv, h⟩ := Option.bind_eq_some_iff.1 hf.session
    obtain rfl := Option.some.inj (hw.symm.trans hv)
    obtain ⟨ha, -⟩ := Option.ite_none_right_eq_some.1 h
    unfold Waiting.admits at ha
    rw [hq] at ha
    cases a with
    | released outcome => exact ⟨outcome, rfl⟩
    | _ => cases ha

theorem request?_of_clearing (hi : b.session.Tidy) {id r : Nat} {w : Waiting}
    (hw : b.session.call? id = some w) (hc : w.Clearing r) : b.request? id = some (.clearHandler r) := by
  unfold request?
  rw [hw]
  exact hc.request (hi.fits_call hw)

theorem Follows.fair_of_not_released (hf : b.Follows c b') (hd : c.isDrop = false)
    (hi : b.session.Tidy) (hr : ∀ id outcome, c ≠ .answer id (.released outcome))
    (hn : ∀ report batch, c ≠ .deliver report batch) : b.session.Fair c where
  undropped := hd
  serves report batch h := absurd h (hn report batch)
  drained id a w r h hw hc := by
    obtain ⟨outcome, rfl⟩ := (hf.clears (request?_of_clearing hi hw hc)).2 a h
    exact absurd h (hr id outcome)

/-- The closing of a receiver or a client returns. -/
theorem fair_close (hi : b.session.Tidy) {id : Nat} (a : Answer)
    (hr : (∃ r, b.request? id = some (.closeReceiver r)) ∨ ∃ c, b.request? id = some (.closeClient c)) :
    b.session.Fair (.answer id a) where
  undropped := rfl
  serves _ _ h := by cases h
  drained i d w r h hw hc := by
    obtain ⟨rfl, rfl⟩ := Cause.answer.inj h
    have hq := request?_of_clearing hi hw hc
    obtain ⟨r, hr⟩ | ⟨r, hr⟩ := hr <;> rw [hr] at hq <;> cases hq

theorem Follows.guarded (hf : b.Follows c b') (hc : b.session.Fair c) (hi : b.session.InTurn)
    (hl : b.session.Settled) (hg : b.Guarded)
    (hr : ∀ id outcome, c = .answer id (.released outcome) → ∀ d ∈ b.drains, d.call ≠ id)
    (hn : ∀ report batch, c = .deliver report batch → ∃ v ∈ b.visits, v.call = some b.session.next
      ∧ (∃ l, b.transport.lock? v.receiver = some l ∧ v.ticket ∈ l.readers)
      ∧ b.session.serves v.receiver) : b'.Guarded := by
  have hs := Session.step_of_step? hi.tidy.trace hf.session
  have hk (r : Nat) : b'.transport.lock? r = b.transport.lock? r := by
    rw [hf.transport]
    exact Transport.lock?_foldl ..
  -- a receiver goes out of service only when no delivery is in progress
  have serves {id r : Nat} (hj : b.session.delivers id) (h : b.session.serves r) :
      b'.session.serves r := by
    obtain h | ⟨i, w, a, he, hw, hk⟩ := hs.serves hi hl hc.undropped h
    · exact h
    · exact absurd hj (hc.drained i a w r he hw hk id)
  refine ⟨?_, fun d hm => ?_, fun id hj => ?_, fun r hh => ?_⟩
  · rw [hf.visits, hf.drains, hf.next]
    exact hg.locks.congr fun r l h => .inl ((hk r).symm.trans h)
  · rw [hf.drains] at hm
    have hq := hg.drains d hm
    obtain ⟨w, hw, hq'⟩ := Option.bind_eq_some_iff.1 hq
    obtain ⟨h1, h2⟩ := hf.clears hq
    have hw' := hs.call?_eq hi.tidy hw (fun a he => ?_) h1 hc.undropped
    · unfold request?
      rw [hw']
      exact hq'
    · obtain ⟨outcome, rfl⟩ := h2 a he
      exact hr d.call outcome he d hm rfl
  · rw [hf.visits]
    obtain hj | ⟨rfl, report, batch, rfl⟩ := hs.delivers hi.tidy hc.undropped hj
    · obtain ⟨v, hv, hi, ⟨l, hl, ht⟩, h⟩ := hg.inside id hj
      exact ⟨v, hv, hi, ⟨l, (hk _).trans hl, ht⟩, serves hj h⟩
    · obtain ⟨v, hv, hi', ⟨l, hl', ht⟩, h⟩ := hn report batch rfl
      refine ⟨v, hv, hi', ⟨l, (hk _).trans hl', ht⟩, ?_⟩
      obtain h | ⟨i, w, a, he, -⟩ := hs.serves hi hl hc.undropped h
      · exact h
      · cases he
  · obtain ⟨ms, hms, h1, h2⟩ := hs.handles hl hc.undropped
    rw [hf.transport, hms, List.drop_left] at hh
    obtain hm | ⟨ht, hm⟩ := Transport.handled_foldl _ _ hh
    · exact h1 r hm
    · obtain ⟨k, hc⟩ := hg.handled r ht
      obtain hc | hc := h2 _ hc
      · exact ⟨k, hc⟩
      · exact absurd hc hm

/-- What is told is not that a handler is cleared. -/
theorem Follows.guarded_of_not_released (hf : b.Follows c b') (hd : c.isDrop = false)
    (hi : b.session.InTurn) (hl : b.session.Settled) (hg : b.Guarded)
    (hr : ∀ id outcome, c ≠ .answer id (.released outcome))
    (hn : ∀ report batch, c ≠ .deliver report batch) : b'.Guarded :=
  hf.guarded (hf.fair_of_not_released hd hi.tidy hr hn) hi hl hg
    (fun id outcome h => absurd h (hr id outcome)) fun report batch h => absurd h (hn report batch)

theorem lock_modify (b : Bench) {r s t : Nat} {f : Receiver → Receiver} {g : SharedLock → SharedLock}
    (hf : ∀ y, (f y).lock = g y.lock) (hg : ∀ l : SharedLock, t ∈ l.readers → t ∈ (g l).readers)
    (h : ∃ l, b.transport.lock? s = some l ∧ t ∈ l.readers) :
    ∃ l, (b.modify r f).transport.lock? s = some l ∧ t ∈ l.readers := by
  obtain ⟨l, hl, ht⟩ := h
  have he := b.transport.lock?_modifyReceiver r s hf
  rw [hl] at he
  split at he
  · exact ⟨g l, he, hg l ht⟩
  · exact ⟨l, he, ht⟩

namespace Guarded

theorem new (p : Pump) : (Bench.new p).Guarded := by
  have hr (r : Nat) : (Bench.new p).transport.receivers[r]? = none := rfl
  have hl (r : Nat) : (Bench.new p).transport.lock? r = none := by rw [Transport.lock?, hr]; rfl
  refine ⟨⟨List.nodup_nil, List.nodup_nil, List.nodup_nil, nofun, nofun, nofun, fun r l h => ?_,
    fun r l h => ?_⟩, nofun, fun id h => ?_, fun r h => ?_⟩
  · rw [hl] at h
    cases h
  · rw [hl] at h
    cases h
  · obtain ⟨w, stage, hm, -⟩ := h
    cases hm
  · rw [Transport.handled, hr] at h
    cases h

theorem tended (hg : b.Guarded) : b.session.Tended := by
  intro id hd
  obtain ⟨v, -, -, -, hs⟩ := hg.inside id hd
  exact ⟨v.receiver, hs⟩

/-- A change of a lock that keeps those readers whose deliveries are in progress. -/
theorem modify (hg : b.Guarded) {r next : Nat} {f : Receiver → Receiver} {g : SharedLock → SharedLock}
    {vs : List Visit} {ds : List Drain} (hf : ∀ y, (f y).lock = g y.lock ∧ (f y).handler = y.handler)
    (hl : Locks (b.transport.modifyReceiver r f).lock? vs ds next)
    (hd : ∀ d ∈ ds, b.request? d.call = some (.clearHandler d.receiver))
    (hv : ∀ v ∈ b.visits, ∀ id, v.call = some id → b.session.delivers id →
      v ∈ vs ∧ ∀ l : SharedLock, v.ticket ∈ l.readers → v.ticket ∈ (g l).readers) :
    Guarded { b.modify r f with visits := vs, drains := ds, next } where
  locks := hl
  drains := hd
  inside id hj := by
    obtain ⟨v, hm, hc, hk, hs⟩ := hg.inside id hj
    obtain ⟨hm, hr⟩ := hv v hm id hc hj
    exact ⟨v, hm, hc, b.lock_modify (fun y => (hf y).1) hr hk, hs⟩
  handled s hs :=
    hg.handled s ((b.transport.handled_modifyReceiver r s fun y => (hf y).2).symm.trans hs)

theorem depart (hg : b.Guarded) {v : Visit} (hv : v ∈ b.visits)
    (hc : ∀ id, v.call = some id → ¬ b.session.delivers id) : (b.depart v).Guarded := by
  have hne (u : Visit) (hu : u ∈ b.visits) (id : Nat) (hi : u.call = some id)
      (hj : b.session.delivers id) : u.ticket ≠ v.ticket := by
    intro he
    obtain rfl := List.inj_on_of_nodup_map hg.locks.visits hu hv he
    exact hc id hi hj
  refine hg.modify (g := (·.release v.ticket)) (fun y => ⟨rfl, rfl⟩)
    (hg.locks.depart hv fun s => b.transport.lock?_modifyReceiver _ s fun y => rfl) hg.drains
    fun u hu id hi hj => ⟨?_, fun l hl => SharedLock.mem_readers_release hl (hne u hu id hi hj)⟩
  exact List.mem_filter.2 ⟨hu, by simpa using hne u hu id hi hj⟩

theorem lock_of_isInside {r t : Nat} (h : b.isInside r t = true) :
    ∃ l, b.transport.lock? r = some l ∧ l.isHeldBy t = true := by
  obtain ⟨y, hy, hh⟩ := (Option.any_eq_true _ _).1 h
  exact ⟨y.lock, by rw [Transport.lock?, hy]; rfl, hh⟩

/-- Whoever holds the lock for a delivery reads it. -/
theorem reads (hg : b.Guarded) {v : Visit} (hv : v ∈ b.visits)
    (hi : b.isInside v.receiver v.ticket = true) :
    ∃ l, b.transport.lock? v.receiver = some l ∧ v.ticket ∈ l.readers := by
  obtain ⟨l, hl, hh⟩ := lock_of_isInside hi
  refine ⟨l, hl, ?_⟩
  rw [SharedLock.isHeldBy, Bool.or_eq_true] at hh
  obtain hh | hh := hh
  · simpa using hh
  · obtain ⟨d, hd, -, ht⟩ := (hg.locks.within _ l hl).writer _ (eq_of_beq hh)
    exact absurd ht.symm (hg.locks.apart v hv d hd)

/-- When a call that clears a handler holds the lock, nobody reads it. -/
theorem unread (hg : b.Guarded) {d : Drain} (hd : d ∈ b.drains)
    (hi : b.isInside d.receiver d.ticket = true) {l : SharedLock}
    (hl : b.transport.lock? d.receiver = some l) : l.readers = [] := by
  obtain ⟨k, hk, hh⟩ := lock_of_isInside hi
  obtain rfl := Option.some.inj (hk.symm.trans hl)
  rw [SharedLock.isHeldBy, Bool.or_eq_true] at hh
  obtain hh | hh := hh
  · obtain ⟨v, hv, -, ht⟩ := (hg.locks.within _ k hl).readers d.ticket (by simpa using hh)
    exact absurd ht (hg.locks.apart v hv d hd)
  · exact hg.locks.exclusive _ k hl (by rw [eq_of_beq hh]; rfl)

/-- When a shutdown learns that the handler is cleared, no delivery is in progress. -/
theorem drained (hg : b.Guarded) (hi : b.session.InTurn) (hl : b.session.Settled) {d : Drain}
    (hd : d ∈ b.drains) (hh : b.isInside d.receiver d.ticket = true) {w : Waiting} {r : Nat}
    (hw : b.session.call? d.call = some w) (hc : w.Clearing r) (j : Nat) :
    ¬ b.session.delivers j := by
  intro hj
  obtain ⟨ticket, reason, k, hc⟩ := hc
  obtain ⟨v, hv, -, ⟨l, hk, hm⟩, hs⟩ := hg.inside j hj
  have ht : w.turn? = some ⟨ticket, reason, .release ⟨⟨k, r⟩, .clearHandler⟩⟩ := by
    unfold Waiting.turn?
    rw [hc]
    rfl
  obtain ⟨hr, -, -⟩ := hi.runners_of_turn hw ht
  -- the receiver that is drained is the only one in service
  have hrd : r = d.receiver := by
    have hq := (request?_of_clearing hi.tidy hw ⟨ticket, reason, k, hc⟩).symm.trans (hg.drains d hd)
    exact Request.clearHandler.inj (Option.some.inj hq)
  have hvr : v.receiver = r := by
    obtain ⟨c, hn⟩ | ⟨u, hu, c, he⟩ := hs
    · have hsnd := hl.turns ⟨ticket, reason, .release ⟨⟨k, r⟩, .clearHandler⟩⟩
        (by rw [hr]; exact List.mem_cons_self)
      rw [hl.of_closing hsnd.2] at hn
      cases hn
    · rw [hr] at hu
      obtain rfl := List.mem_singleton.1 hu
      cases he
      rfl
  rw [hvr, hrd] at hk
  rw [hg.unread hd hh hk] at hm
  cases hm

theorem fair_drain (hg : b.Guarded) (hi : b.session.InTurn) (hl : b.session.Settled) {d : Drain}
    (hd : d ∈ b.drains) (hh : b.isInside d.receiver d.ticket = true) (a : Answer) :
    b.session.Fair (.answer d.call a) where
  undropped := rfl
  serves _ _ h := by cases h
  drained id c w r h hw hc := by
    obtain ⟨rfl, rfl⟩ := Cause.answer.inj h
    exact hg.drained hi hl hd hh hw hc

theorem fair_deliver (hg : b.Guarded) {r : Nat} (hs : b.transport.handled r = true)
    (report : Option TailReport) (batch : Option Batch) : b.session.Fair (.deliver report batch) where
  undropped := rfl
  serves _ _ _ := ⟨r, .inl (hg.handled r hs)⟩
  drained _ _ _ _ h := by cases h

/-- A call that drains is told that its handler is cleared. -/
theorem drain (hg : b.Guarded) (hi : b.session.InTurn) (hl : b.session.Settled) {d : Drain}
    (hd : d ∈ b.drains) (hh : b.isInside d.receiver d.ticket = true)
    {outcome : Except TransportError Unit}
    (hf : Follows { b.modify d.receiver (·.endClear d.ticket) with
      drains := b.drains.filter (·.call != d.call) } (.answer d.call (.released outcome)) b') :
    b'.Guarded := by
  have hm : Guarded { b.modify d.receiver (·.endClear d.ticket) with
      drains := b.drains.filter (·.call != d.call) } := by
    refine hg.modify (g := (·.release d.ticket)) (fun y => ⟨rfl, rfl⟩)
      (hg.locks.drain hd fun s => b.transport.lock?_modifyReceiver _ s fun y => rfl)
      (fun e he => hg.drains e (List.mem_filter.1 he).1) fun v hv id hi hj => ⟨hv, fun l hl => ?_⟩
    exact SharedLock.mem_readers_release hl (hg.locks.apart v hv d hd)
  have hc : b.session.Fair (.answer d.call (.released outcome)) := hg.fair_drain hi hl hd hh _
  refine hf.guarded hc hi hl hm (fun id outcome he e hm => ?_) nofun
  obtain rfl := (Cause.answer.inj he).1
  simpa using (List.mem_filter.1 hm).2

/-- A delivery inside the lock has found the handler and makes its call. -/
theorem deliver (hg : b.Guarded) (hi : b.session.InTurn) (hl : b.session.Settled) {v : Visit}
    (hv : v ∈ b.visits) (hc : v.call = none) (hh : b.isInside v.receiver v.ticket = true)
    (hs : b.transport.handled v.receiver = true) {report : Option TailReport} {batch : Option Batch}
    (hf : (b.handIn v).Follows (.deliver report batch) b') : b'.Guarded := by
  have hm : (b.handIn v).Guarded := by
    refine ⟨hg.locks.handIn hv _, hg.drains, fun id hj => ?_, hg.handled⟩
    obtain ⟨u, hu, hi, hk⟩ := hg.inside id hj
    refine ⟨u, List.mem_cons_of_mem _ (List.mem_filter.2 ⟨hu, ?_⟩), hi, hk⟩
    rw [bne_iff_ne]
    intro he
    rw [List.inj_on_of_nodup_map hg.locks.visits hu hv he, hc] at hi
    cases hi
  have hk := hg.reads hv hh
  have hc : b.session.Fair (.deliver report batch) := hg.fair_deliver hs report batch
  refine hf.guarded hc hi hl hm (fun id outcome he => by cases he) fun _ _ _ => ?_
  exact ⟨_, List.mem_cons_self, rfl, hk, .inl (hg.handled _ hs)⟩

end Guarded

/-- The guards stand after every step. -/
theorem Step.guarded (h : b.Step x b') (hi : b.session.InTurn) (hl : b.session.Settled)
    (hg : b.Guarded) : b'.Guarded := by
  cases h with
  | own c hc hf =>
    exact hf.guarded_of_not_released (c.isDrop_of_isOwn hc) hi hl hg (c.ne_released_of_isOwn hc)
      (c.ne_deliver_of_isOwn hc)
  | noClient id e hr hf => exact hf.guarded_of_not_released rfl hi hl hg nofun nofun
  | client id hr hf =>
    have hm : Guarded { b with transport := b.transport.addClient.2 } :=
      ⟨hg.locks, hg.drains, hg.inside, hg.handled⟩
    exact hf.guarded_of_not_released rfl hi hl hm nofun nofun
  | noReceiver id client request e hr hf => exact hf.guarded_of_not_released rfl hi hl hg nofun nofun
  | receiver id client request hr hf =>
    have hm : Guarded { b with transport := (b.transport.addReceiver request.epoch).2 } := by
      refine ⟨hg.locks.congr fun r l => b.transport.lock?_addReceiver r _, hg.drains,
        fun id hj => ?_, fun r hh => hg.handled r (b.transport.handled_addReceiver r hh)⟩
      obtain ⟨v, hv, hc, ⟨l, hk, ht⟩, hs⟩ := hg.inside id hj
      exact ⟨v, hv, hc, ⟨l, b.transport.lock?_addReceiver_of_some _ _ hk, ht⟩, hs⟩
    exact hf.guarded_of_not_released rfl hi hl hm nofun nofun
  | close id error hr hf =>
    refine hf.guarded (fair_close hi.tidy _ hr) hi hl hg (fun i outcome he d hd hn => ?_) nofun
    obtain rfl := (Cause.answer.inj he).1
    have hq := hg.drains d hd
    rw [hn] at hq
    obtain ⟨r, hr⟩ | ⟨r, hr⟩ := hr <;> rw [hr] at hq <;> cases hq
  | pass id r hr hd =>
    refine hg.modify (g := (·.request b.next .exclusive)) (fun y => ⟨rfl, rfl⟩)
      (hg.locks.pass id r hd fun s => b.transport.lock?_modifyReceiver _ s fun y => rfl)
      (fun d hm => ?_) fun v hv i hi hj => ⟨hv, fun l hl => SharedLock.mem_readers_request hl _ _⟩
    obtain rfl | hm := List.mem_cons.1 hm
    · exact hr
    · exact hg.drains d hm
  | drain error d hd hh hf => exact hg.drain hi hl hd hh hf
  | arrive r parcel hr =>
    exact hg.modify (g := (·.request b.next .shared)) (fun y => ⟨rfl, rfl⟩)
      (hg.locks.arrive r parcel fun s => b.transport.lock?_modifyReceiver _ s fun y => rfl) hg.drains
      fun v hv i hi hj =>
        ⟨List.mem_cons_of_mem _ hv, fun l hl => SharedLock.mem_readers_request hl _ _⟩
  | depart report v hv hc hh hn => exact hg.depart hv fun id hi => by rw [hc] at hi; cases hi
  | deliver report v messages hv hc hh hn hp hf => exact hg.deliver hi hl hv hc hh hn hf
  | fail report v e hv hc hh hn hp hf =>
    have hm := hg.depart hv fun id hi => by rw [hc] at hi; cases hi
    exact hf.guarded_of_not_released rfl hi hl hm nofun nofun
  | leave v id hv hc hn =>
    refine hg.depart hv fun i hi hj => ?_
    obtain rfl := Option.some.inj (hc.symm.trans hi)
    obtain ⟨w, stage, hm, -⟩ := hj
    have hl := List.lookup_eq_none_iff.1 hn _ hm
    simp at hl
  | gate r isOpen =>
    have hk (s : Nat) : (b.transport.modifyReceiver r fun receiver =>
        { receiver with gateOpen := isOpen }).lock? s = b.transport.lock? s :=
      b.transport.lock?_modifyReceiver_of_eq r s fun y => rfl
    exact hg.modify (g := id) (fun y => ⟨rfl, rfl⟩)
      (hg.locks.congr fun s l hs => .inl ((hk s).symm.trans hs)) hg.drains
      fun v hv i hi hj => ⟨hv, fun l hl => hl⟩

/-- The in-memory transport keeps its contract. -/
theorem Step.fair (h : b.Step x b') (hi : b.session.InTurn) (hl : b.session.Settled)
    (hg : b.Guarded) :
    b'.session = b.session ∨ ∃ c, b.session.Fair c ∧ b.session.step? c = some b'.session := by
  have other {b : Bench} {c : Cause} (hf : b.Follows c b') (hi : b.session.InTurn)
      (hd : c.isDrop = false) (hr : ∀ id outcome, c ≠ .answer id (.released outcome))
      (hn : ∀ report batch, c ≠ .deliver report batch) :
      ∃ c, b.session.Fair c ∧ b.session.step? c = some b'.session :=
    ⟨c, hf.fair_of_not_released hd hi.tidy hr hn, hf.session⟩
  cases h with
  | own c hc hf =>
    exact .inr (other hf hi (c.isDrop_of_isOwn hc) (c.ne_released_of_isOwn hc) (c.ne_deliver_of_isOwn hc))
  | noClient id e hr hf => exact .inr (other hf hi rfl nofun nofun)
  | client id hr hf =>
    exact .inr (other (b := { b with transport := b.transport.addClient.2 }) hf hi rfl nofun nofun)
  | noReceiver id client request e hr hf => exact .inr (other hf hi rfl nofun nofun)
  | receiver id client request hr hf =>
    exact .inr (other (b := { b with transport := (b.transport.addReceiver request.epoch).2 }) hf hi rfl
      nofun nofun)
  | close id error hr hf => exact .inr ⟨_, fair_close hi.tidy _ hr, hf.session⟩
  | drain error d hd hh hf => exact .inr ⟨_, hg.fair_drain hi hl hd hh _, hf.session⟩
  | deliver report v messages hv hc hh hn hp hf => exact .inr ⟨_, hg.fair_deliver hn report _, hf.session⟩
  | fail report v e hv hc hh hn hp hf => exact .inr (other (b := b.depart v) hf hi rfl nofun nofun)
  | _ => exact .inl rfl

end Bench
end PartitionConsumer
