import PartitionConsumer.Proofs.Standstill.Grants
import PartitionConsumer.Proofs.Standstill.Callers
/-!
# Steps that are possible

When the calls, the deliveries and the locks of a bench can go on by themselves.
-/
namespace PartitionConsumer

namespace Waiting.Fits

variable {id : Nat} {w : Waiting}

/-- A call that waits for a hook goes on when the hook returns. -/
theorem resume_hook (h : w.Fits id) {call : HookCall} (hr : w.request = some (.hook call)) (p : Pump)
    (now : Nat) : (p.resume now w.call (.hook (.ok ()))).isSome = true := by
  cases h with
  | start ha =>
    cases ha with
    | release r closing => exact absurd hr (request_ne_of_release rfl)
    | _ => first | rfl | cases hr
  | shutdown ha =>
    cases ha with
    | release r => exact absurd hr (request_ne_of_release rfl)
    | _ => first | rfl | cases hr
  | deliver ha => cases ha <;> rfl
  | report e => rfl

/-- A call that releases something goes on when that is done. -/
theorem resume_released (h : w.Fits id) {r : Request} (hr : w.request = some r)
    (hq : r.isRelease = true) (p : Pump) (now : Nat) (outcome : Except TransportError Unit) :
    (p.resume now w.call (.released outcome)).isSome = true := by
  cases h with
  | start ha => cases ha <;> first | rfl | cases hr <;> cases hq
  | shutdown ha => cases ha <;> first | rfl | cases hr <;> cases hq
  | deliver ha => cases ha <;> cases hr <;> cases hq
  | report e =>
    cases hr
    cases hq

/-- The call for a delivery waits for one of the hooks. -/
theorem request_of_delivery (h : w.Fits id) {batch : Option Batch} (he : w.errand = .delivery batch) :
    ∃ call, w.request = some (.hook call) := by
  cases h with
  | deliver ha => cases ha <;> exact ⟨_, rfl⟩
  | _ => cases he

end Waiting.Fits

theorem Session.step?_answer {s : Session} {id : Nat} {w : Waiting} (hw : s.call? id = some w)
    {a : Answer} (ha : w.admits s.pump s.now a = true)
    (hr : (s.pump.resume s.now w.call a).isSome = true) : (s.step? (.answer id a)).isSome = true := by
  simpa only [step?, hw, Option.bind_some, ha, if_true, tell?, Option.isSome_map] using hr

namespace Bench

variable {b : Bench} {id r : Nat} {w : Waiting}

theorem follow?_isSome {c : Cause} : (b.follow? c).isSome = (b.session.step? c).isSome :=
  Option.isSome_map

theorem call_of_request? {x : Request} (h : b.request? id = some x) :
    ∃ w, b.session.call? id = some w ∧ w.request = some x := Option.bind_eq_some_iff.1 h

/-- A hook can return. -/
theorem hook_ready (hi : b.session.Tidy) {call : HookCall} (h : b.request? id = some (.hook call)) :
    (b.step? (.own (.answer id (.hook (.ok ()))))).isSome = true := by
  obtain ⟨w, hw, hr⟩ := call_of_request? h
  have hs : (b.follow? (.answer id (.hook (.ok ())))).isSome = true := by
    rw [follow?_isSome]
    exact Session.step?_answer hw (by simp [Waiting.admits, hr]) ((hi.fits_call hw).resume_hook hr _ _)
  exact hs

/-- Who waits for the end of the procedure goes on when it has come. -/
theorem turn_ready {reason : CloseReason} (hw : b.session.call? id = some w)
    (hc : w.call = .shutdown id reason .queued) (hr : w.request = none)
    (hd : b.session.pump.once.done = true) : (b.step? (.own (.wake id))).isSome = true := by
  have ha : w.call.ownAnswer? b.session.pump b.session.now = some .turn := by
    simp [Call.ownAnswer?, hc, hd]
  have hs : (b.follow? (.wake id)).isSome = true := by
    rw [follow?_isSome]
    simp only [Session.step?, hw, Option.bind_some, hr, Option.isNone_none, if_true, ha, Session.tell?,
      Option.isSome_map]
    rw [hc]
    rfl
  exact hs

theorem released_ready (hi : b.session.Tidy) {x : Request} (h : b.request? id = some x)
    (hx : x.isRelease = true) (outcome : Except TransportError Unit) :
    (b.session.step? (.answer id (.released outcome))).isSome = true := by
  obtain ⟨w, hw, hr⟩ := call_of_request? h
  refine Session.step?_answer hw ?_ ((hi.fits_call hw).resume_released hr hx _ _ _)
  cases x <;> first | cases hx; done | simp [Waiting.admits, hr]

/-- The closing of a receiver or a client can return. -/
theorem close_ready (hi : b.session.Tidy)
    (h : b.request? id = some (.closeReceiver r) ∨ b.request? id = some (.closeClient r)) :
    (b.step? (.close id none)).isSome = true := by
  obtain h | h := h
  all_goals
    have hs := released_ready hi h rfl (outcome none)
    rw [← follow?_isSome] at hs
    simpa only [step?, h] using hs

/-- A call that clears a handler can pass the gate, if that is open. -/
theorem pass_ready (h : b.request? id = some (.clearHandler r)) (hr : r < b.transport.receivers.size)
    (hg : ∀ receiver ∈ b.transport.receivers, receiver.gateOpen = true)
    (hd : ∀ d ∈ b.drains, d.call ≠ id) : (b.step? (.pass id)).isSome = true := by
  have hopen : (b.transport.receivers[r]?).any (·.gateOpen) = true := by
    rw [Array.getElem?_eq_getElem hr]
    exact hg _ (Array.getElem_mem hr)
  have hnew : b.drains.all (·.call != id) = true := List.all_eq_true.2 fun d hm => by simpa using hd d hm
  simp [step?, h, hopen, hnew]

/-- A call that clears a handler returns when it has the lock. -/
theorem drain_ready (hi : b.session.Tidy) (hg : b.Guarded) {d : Drain} (hd : d ∈ b.drains)
    (hl : b.isInside d.receiver d.ticket = true) : (b.step? (.drain d.call none)).isSome = true := by
  obtain ⟨e, he⟩ : ∃ e, b.drains.find? (·.call == d.call) = some e := by
    refine Option.isSome_iff_exists.1 (List.find?_isSome.2 ⟨d, hd, by simp⟩)
  obtain rfl : e = d := List.inj_on_of_nodup_map hg.locks.calls (List.mem_of_find?_eq_some he) hd
    (eq_of_beq (List.find?_some (p := fun x : Drain => x.call == d.call) he))
  have hs := released_ready hi (hg.drains e hd) rfl (outcome none)
  have hf : (follow? { b.modify e.receiver (·.endClear e.ticket) with
      drains := b.drains.filter (·.call != e.call) } (.answer e.call (.released (outcome none)))).isSome
      = true := by
    rw [follow?_isSome]
    exact hs
  simpa only [step?, he, Option.bind_some, hl, if_true] using hf

theorem visit?_of_mem (hg : b.Guarded) {v : Visit} (hv : v ∈ b.visits) : b.visit? v.ticket = some v := by
  obtain ⟨u, hu⟩ : ∃ u, b.visit? v.ticket = some u :=
    Option.isSome_iff_exists.1 (List.find?_isSome.2 ⟨v, hv, by simp⟩)
  obtain ⟨hm, ht⟩ := mem_of_visit? hu
  rw [hu, List.inj_on_of_nodup_map hg.locks.visits hm hv ht]

/-- A delivery that has its share of the lock goes on. -/
theorem enter_ready (hg : b.Guarded) {v : Visit} (hv : v ∈ b.visits) (hc : v.call = none)
    (hl : b.isInside v.receiver v.ticket = true) : (b.step? (.enter v.ticket none)).isSome = true := by
  have he : (b.enter? v none).isSome = true := by
    unfold enter?
    split
    · rfl
    · rw [follow?_isSome]
      rfl
    · rw [follow?_isSome]
      rfl
  simpa only [step?, visit?_of_mem hg hv, Option.bind_some, hc, Option.isNone_none, hl, Bool.and_self,
    if_true] using he

/-- A delivery whose call has returned goes. -/
theorem leave_ready (hg : b.Guarded) {v : Visit} (hv : v ∈ b.visits) (hc : v.call = some id)
    (hn : b.session.call? id = none) : (b.step? (.leave v.ticket)).isSome = true := by
  simp [step?, visit?_of_mem hg hv, hc, hn]

end Bench
end PartitionConsumer
