import PartitionConsumer.Proofs.CloseHook
import PartitionConsumer.Proofs.Session.Stopping
/-!
# When a shutdown was requested

A pump is stopping if and only if a call for shutdown has begun, the caller's own or that which the
deferred part of a failure goes on with. Calls may be dropped at any time.
-/
namespace PartitionConsumer
namespace Session

/-- The pump knows whether a shutdown was requested. -/
def Requested (s : Session) : Prop := s.pump.stopping = (firstShutdown? s.history).isSome

namespace Requested

variable {s b t : Session} {c : Cause} {id : Nat} {errand : Errand} {q : Pump} {es : List Effect}
  {nx : Next}

theorem carry (h : q.stopping = (firstShutdown? b.history).isSome) :
    (b.carry id errand q es nx).Requested := by
  unfold Requested
  rw [pump_carry, Next.stopping_leave, firstShutdown?_carry]
  exact h

/-- A call begins that is none for shutdown. -/
theorem launch (h : s.Requested) {e : Errand} (he : firstShutdown? [.began s.next e] = none)
    (hq : q.stopping = s.pump.stopping) : ((s.begin e).carry id e q es nx).Requested := by
  apply carry
  rw [history_begin, firstShutdown?_append, he, Option.or_none, hq]
  exact h

/-- A call is told an answer, and does not go on as one for shutdown. -/
theorem tell (h : s.Requested) {w : Waiting} {a : Answer} (hw : ∀ ticket, w.call ≠ .report ticket)
    (hq : q.stopping = s.pump.stopping) : ((s.told id w a).carry id errand q es nx).Requested := by
  have hm : firstShutdown? (w.marks id a) = none := by
    rw [firstShutdown?_marks]
    cases hc : w.call with
    | report ticket => exact absurd hc (hw ticket)
    | _ => rfl
  apply carry
  rw [history_told, firstShutdown?_append, hm, Option.or_none, hq]
  exact h

theorem step (hi : s.Led) (hb : s.pump.Braced) (h : s.Requested) (hs : s.Step c t) : t.Requested := by
  cases hs with
  | start hm =>
    refine h.launch rfl ?_
    cases hm <;> rfl
  | shutdown reason hm =>
    apply carry
    rw [hm.stops hb, history_begin, firstShutdown?_append]
    cases firstShutdown? s.history <;> rfl
  | deliver report batch hm =>
    refine h.launch rfl ?_
    cases hm <;> rfl
  | fail e hm =>
    refine h.launch rfl ?_
    cases hm <;> rfl
  | report n e he =>
    have hf : (s.forget n).Requested := h
    exact hf.launch rfl rfl
  | tellStart id w a stage ht hw hm => exact h.tell (by simp [hw]) hm.keeps.stopping
  | tellShutdown id w a ticket reason stage ht hw hm =>
    refine h.tell (by simp [hw]) ?_
    obtain ⟨-, -, -, ⟨-, rfl, -⟩ | ⟨hq, -⟩⟩ := hi.told_shutdown ht hw hm
    · rfl
    · rw [hb.of_turn hq, hm.aside.stopping (hb.of_turn hq)]
  | tellDelivery id w a stage ht hw hm => exact h.tell (by simp [hw]) rfl
  | tellReport id w outcome ticket ht hw hm =>
    apply carry
    rw [hm.stops hb, history_told, firstShutdown?_append, firstShutdown?_marks, hw]
    cases firstShutdown? s.history <;> rfl
  | drop id w hw =>
    have hl : firstShutdown? (s.history ++ [.lost id w.errand]) = firstShutdown? s.history := by
      rw [firstShutdown?_append]
      exact Option.or_none
    unfold Requested
    rw [pump_note, history_note]
    exact (s.pump.stopping_abandon w.call).trans (h.trans (congrArg Option.isSome hl.symm))
  | pass ticks =>
    have hl : firstShutdown? (s.history ++ [.passed ticks]) = firstShutdown? s.history := by
      rw [firstShutdown?_append]
      exact Option.or_none
    exact h.trans (congrArg Option.isSome hl.symm)
  | _ => exact h

end Requested

variable {context : Context} {lease : Lease} {options : Options} {wire : String} {draw : Nat → Nat}

theorem Requested.new : (Session.new (.new context lease options wire draw)).Requested := rfl

theorem requested_of_run {cs : List Cause} {s : Session}
    (h : (Session.new (.new context lease options wire draw)).run cs = some s) : s.Requested :=
  (run_led (P := fun s => s.pump.Braced ∧ s.Requested) (.new _ rfl rfl rfl) ⟨.fresh, .new⟩
    (fun _ _ _ hi ⟨hb, hr⟩ hs => ⟨hi.braced_step hb hs, hr.step hi hb hs⟩) h).2.2

end Session
end PartitionConsumer
