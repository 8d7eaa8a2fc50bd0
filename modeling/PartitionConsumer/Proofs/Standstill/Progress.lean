import PartitionConsumer.Proofs.Standstill.Ready
/-!
# Progress of a shutdown

A shutdown that waits does not wait for nothing. It waits for its turn, for the open, for a handler to be
cleared and so for the deliveries on it, for something to be closed, or for the closing hook.
-/
namespace PartitionConsumer

/-- Whether some task goes on by itself. The rest is begun by the surroundings, or is the transport's
answer to a creation call. -/
def Stimulus.isTask : Stimulus → Bool
  | .own (.wake _) | .own (.answer ..) => true
  | .close .. | .pass _ | .drain .. | .enter .. | .leave _ => true
  | _ => false

namespace Bench

structure Orderly (b : Bench) : Prop extends b.Balanced where
  guarded : b.Guarded
  granted : b.Granted
  manned : b.Manned
  enrolled : b.session.Enrolled
  attended : b.session.Attended fun _ => 0

/-- Some task can go on. If it is a hook that returns, it is one of a delivery. -/
def GoesOn (b : Bench) : Prop :=
  ∃ x, x.isTask = true ∧ (b.step? x).isSome = true
    ∧ ∀ id ∈ x.hook?, ∃ w batch, b.session.call? id = some w ∧ w.errand = .delivery batch

namespace Orderly

variable {b b' : Bench} {x : Stimulus}

theorem new {context : Context} {lease : Lease} {options : Options} {wire : String} {draw : Nat → Nat} :
    (Bench.new (.new context lease options wire draw)).Orderly where
  toBalanced := .new
  guarded := .new _
  granted := .new _
  manned := fun _ hv => by cases hv
  enrolled := fun _ _ hx => by cases hx
  attended := fun _ => rfl

theorem step (h : b.Orderly) (hs : b.Step x b') : b'.Orderly := by
  obtain ⟨-, he, ha⟩ := hs.keeps (P := fun s => s.Enrolled ∧ s.Attended fun _ => 0)
    (fun s c t hc hi h hs => ⟨h.1.step hi hc hs, h.2.step_undropped hc hs⟩) h.inTurn
    ⟨h.enrolled, h.attended⟩
  exact ⟨h.toBalanced.step hs, hs.guarded h.inTurn h.settled h.guarded,
    h.granted.step h.guarded (fun _ _ => h.toBalanced.receiver_made h.attended) hs,
    h.manned.step h.inTurn.tidy hs, he, ha⟩

theorem isInside_of_lock {r t : Nat} {l : SharedLock} (hl : b.transport.lock? r = some l)
    (ht : l.isHeldBy t = true) : b.isInside r t = true := by
  obtain ⟨y, hy, rfl⟩ := Option.map_eq_some_iff.1 hl
  rw [isInside, hy]
  exact ht

/-- A delivery inside the lock can go on: it looks for the handler, one of its hooks returns, or it
goes. -/
theorem reader_ready (h : b.Orderly) {v : Visit} (hv : v ∈ b.visits)
    (hl : b.isInside v.receiver v.ticket = true) : b.GoesOn := by
  cases hc : v.call with
  | none => exact ⟨_, rfl, enter_ready h.guarded hv hc hl, nofun⟩
  | some id =>
    cases hw : b.session.call? id with
    | none => exact ⟨_, rfl, leave_ready h.guarded hv hc hw, nofun⟩
    | some w =>
      obtain ⟨batch, he⟩ := (h.manned v hv id hc).errand w (Session.mem_of_call? hw)
      obtain ⟨call, hr⟩ := (h.inTurn.tidy.fits_call hw).request_of_delivery he
      have hq : b.request? id = some (.hook call) := by rw [request?, hw, Option.bind_some, hr]
      refine ⟨_, rfl, hook_ready h.inTurn.tidy hq, fun j hj => ?_⟩
      obtain rfl := Option.some.inj hj
      exact ⟨w, batch, hw, he⟩

/-- While a handler is cleared, a call that clears it can go on, or a delivery can that holds the lock. -/
theorem clear_ready (h : b.Orderly)
    (hg : ∀ receiver ∈ b.transport.receivers, receiver.gateOpen = true) {id r : Nat}
    (hq : b.request? id = some (.clearHandler r)) : b.GoesOn := by
  have drain {d : Drain} (hd : d ∈ b.drains) (hl : b.isInside d.receiver d.ticket = true) : b.GoesOn :=
    ⟨_, rfl, drain_ready h.inTurn.tidy h.guarded hd hl, nofun⟩
  by_cases hd : ∀ d ∈ b.drains, d.call ≠ id
  · exact ⟨_, rfl, pass_ready hq (h.receiver_made h.attended hq) hg hd, nofun⟩
  · obtain ⟨d, hd, -⟩ : ∃ d ∈ b.drains, d.call = id := by simpa using hd
    obtain ⟨l, hl, hw⟩ := h.granted.writes d hd
    obtain hw | hm := hw
    · exact drain hd (isInside_of_lock hl (by simp [SharedLock.isHeldBy, hw]))
    · -- the lock is held by another call that clears the handler, or by deliveries
      have hk := h.guarded.locks.within _ l hl
      obtain ⟨t, ht⟩ | ⟨t, ht⟩ := (h.granted.tight _ l hl).held (List.ne_nil_of_mem hm)
      · obtain ⟨e, he, hr, rfl⟩ := hk.writer t ht
        exact drain he (isInside_of_lock (hr ▸ hl) (by simp [SharedLock.isHeldBy, ht]))
      · obtain ⟨v, hv, hr, rfl⟩ := hk.readers t ht
        exact h.reader_ready hv (isInside_of_lock (hr ▸ hl) (by simp [SharedLock.isHeldBy, ht]))

/-- While a shutdown waits, a task can go on, or a timer is set, or the procedure is in the closing
hook. -/
theorem shutdown_ready (h : b.Orderly)
    (hg : ∀ receiver ∈ b.transport.receivers, receiver.gateOpen = true) {id : Nat} {w : Waiting}
    {reason : CloseReason} (hw : b.session.call? id = some w) (he : w.errand = .shutdown reason) :
    b.GoesOn ∨ (∃ y ∈ b.session.calls, y.2.call.timer?.isSome = true)
      ∨ ∃ ticket reason, b.session.runners = [⟨ticket, reason, .onClose⟩]
        ∧ b.request? ticket = some (.hook (.onClose reason)) := by
  have hi := h.inTurn
  cases hd : b.session.pump.once.done with
  | true =>
    -- nobody runs the procedure any more, so this call only waits to return
    have hc := hi.queued_of_not_turn hw he fun t ht => by
      rw [hi.runners_of_done hd] at ht
      cases ht
    have hr : w.request = none := ((hi.tidy.fits_call hw).of_shutdown hc).2.2.of_queued
    exact .inl ⟨_, rfl, turn_ready hw hc hr hd, nofun⟩
  | false =>
    obtain ⟨⟨ticket, reason', stage'⟩, hr⟩ := h.enrolled.runner hi hw he hd
    obtain ⟨hs, v, hv, hc'⟩ := hi.tidy.call_of_turn (t := ⟨ticket, reason', stage'⟩)
      (by rw [hr]; exact List.mem_cons_self)
    have ha' := ((hi.tidy.fits_call hv).of_shutdown hc').2.2
    have request {x : Request} (hx : v.request = some x) : b.request? ticket = some x := by
      rw [request?, hv, Option.bind_some, hx]
    cases stage' with
    | queued => exact absurd rfl hs
    | settling wake => exact .inr (.inl ⟨_, Session.mem_of_call? hv, by rw [hc']; rfl⟩)
    | release r =>
      have hq := request ha'.of_release
      refine .inl ?_
      obtain ⟨c, step⟩ := r
      cases step with
      | clearHandler => exact h.clear_ready hg hq
      | closeReceiver => exact ⟨_, rfl, close_ready hi.tidy (.inl hq), nofun⟩
      | closeClient => exact ⟨_, rfl, close_ready hi.tidy (.inr hq), nofun⟩
    | onClose => exact .inr (.inr ⟨ticket, reason', hr, request ha'.of_onClose⟩)

end Orderly

end Bench
end PartitionConsumer
