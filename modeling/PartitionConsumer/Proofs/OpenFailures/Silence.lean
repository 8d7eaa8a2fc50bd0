import PartitionConsumer.Proofs.Statuses
import PartitionConsumer.Proofs.CutShort.Leaving
import PartitionConsumer.Proofs.OpenFailures.Endings
/-!
# Opens that end in silence

Once a shutdown is requested, the sequence of attempts can only come to its end without a word: whatever
it ends in, its call sets no status and publishes no failed open. Another call does neither.
-/
namespace PartitionConsumer

namespace OpenStage

def isConnecting : OpenStage → Bool
  | .client _ | .clientReady .. | .receiver .. | .receiverReady .. | .abandon .. | .backoff .. => true
  | _ => false

/-- At this stage the sequence of attempts is under way, or what it has brought too late is released. -/
def mayWithdraw : OpenStage → Bool
  | .release _ closing => !closing
  | stage => stage.isConnecting

theorem mayWithdraw_of_isConnecting {stage : OpenStage} (h : stage.isConnecting = true) :
    stage.mayWithdraw = true := by
  cases stage <;> first | exact h | cases h

end OpenStage

namespace Pump

variable {p q : Pump} {es : List Effect} {nx : Next}

@[simp] theorem statusesOf_faults (r : Release) (outcome : Except TransportError Unit) :
    statusesOf (p.faults r outcome) = [] := by
  rcases outcome with e | ⟨⟩ <;> rfl

@[simp] theorem statusesOf_failureFault (a : Attempt) (f : AttemptFailure) :
    statusesOf (p.failureFault a f) = [] := by
  obtain h | ⟨e, h⟩ := p.failureFault_eq a f <;> rw [h] <;> rfl

structure Withdraws (es : List Effect) (nx : Next) : Prop where
  statuses : statusesOf es = []
  failed : es.countP (Effect.announces .openFailed) = 0
  stage : ∀ stage ∈ nx.opening?, stage.mayWithdraw = true

theorem AttemptMove.withdraws {cut : Bool} {shown : List Effect} (h : AttemptMove p cut shown q es nx)
    (hs : p.stopping = true) (hst : statusesOf shown = [])
    (hf : shown.countP (Effect.announces .openFailed) = 0) : Withdraws es nx := by
  cases h with
  | attempt a hn =>
    rw [hs] at hn
    cases hn
  | report e hn =>
    rw [hs] at hn
    cases hn
  | pause a wake =>
    refine ⟨hst, hf, fun stage hm => ?_⟩
    obtain rfl := Option.some.inj hm
    rfl
  | _ => exact ⟨hst, hf, Next.forall_opening? rfl⟩

theorem OpenMove.withdraws {stage : OpenStage} {a : Answer} (h : OpenMove p stage a q es nx)
    (hs : p.stopping = true) (hk : stage.mayWithdraw = true) : Withdraws es nx := by
  have next {es : List Effect} {nx : Next} {stage : OpenStage} (he : statusesOf es = [])
      (hf : es.countP (Effect.announces .openFailed) = 0) (hn : nx.opening? = some stage)
      (hst : stage.mayWithdraw = true) : Withdraws es nx := by
    refine ⟨he, hf, fun stage' hm => ?_⟩
    rw [hn] at hm
    exact Option.some.inj hm ▸ hst
  have ends {es : List Effect} (he : statusesOf es = [])
      (hf : es.countP (Effect.announces .openFailed) = 0) : Withdraws es .finish :=
    ⟨he, hf, Next.forall_opening? rfl⟩
  cases h with
  | clientFailed b f _ h => exact h.withdraws hs (by simp) (by simp)
  | clientMade b client hc => simp [isCancelled, hs] at hc
  | install b client receiver hn =>
    rw [hs] at hn
    cases hn
  | abandoned b f outcome h => exact h.withdraws hs (by simp) (by simp)
  | pauseOver b wake h => exact h.withdraws hs rfl rfl
  | clientAnswered => exact next rfl rfl rfl rfl
  | clientUnwanted => exact next rfl rfl rfl rfl
  | receiverAnswered => exact next rfl rfl rfl rfl
  | receiverCancelled => exact next rfl rfl rfl rfl
  | receiverFailed => exact next rfl rfl rfl rfl
  | reject => exact next rfl rfl rfl rfl
  | pauseCut => exact ends rfl rfl
  | releaseNext r r' closing outcome =>
    refine next ?_ (by simp) rfl hk
    rw [statusesOf, List.filterMap_append]
    exact (congrArg (· ++ _) (statusesOf_faults r outcome)).trans rfl
  | releaseEnds r outcome => exact ends (by simp) (by simp)
  | _ => cases hk

end Pump

namespace Session

/-- Since the history was `h` the call `id` has set no status, and nobody has published a failed open: the
pump is stopping, and the sequence of attempts comes to its end or has done so. -/
structure Withdrawn (h : List Mark) (id : Nat) (s : Session) : Prop where
  led : s.Led
  stopping : s.pump.stopping = true
  known : id < s.next
  stage : ∀ w, s.call? id = some w → ∃ stage, w.call = .start stage ∧ stage.mayWithdraw = true
  alone : s.call? id = none → s.openers = []
  marks : ∃ ms, s.history = h ++ ms ∧ announced .openFailed ms = 0 ∧ statuses (trail id ms) = []

namespace Withdrawn

variable {s t : Session} {c : Cause} {h : List Mark} {id : Nat} {w : Waiting} {stage : OpenStage}

/-- Something happens that is not about this call. -/
theorem aloof (hh : Withdrawn h id s) (hs : s.Step c t) (hi : c.id? ≠ some id) : Withdrawn h id t := by
  have ha := hs.aloof hh.known hi
  obtain ⟨ms, hms, hf, hq⟩ := hh.marks
  obtain ⟨ns, hn, ht⟩ := ha.marks
  have hmute : ∃ ns, t.history = s.history ++ ns
      ∧ (effects ns).any (Effect.announces .openFailed) = false := by
    refine hs.mute hh.stopping (fun e he => ?_) ?_
    · cases e with
      | publish e =>
        have he : (e.kind == .openFailed) = true := he
        simp [Effect.isOfOpen, Effect.blames, he]
      | _ => cases he
    · -- a call that opens the pump would be this one
      intro j v a stage q es nx ht hv hm
      refine absurd ?_ hi
      cases hw : s.call? id with
      | none =>
        obtain ⟨-, ho, -⟩ := hh.led.told_start ht hv
        rw [hh.alone hw] at ho
        cases ho
      | some u =>
        obtain ⟨stage', hu, -⟩ := hh.stage u hw
        exact ht.id?.trans (congrArg some (hh.led.opener_unique hw hu ht.call? hv))
  obtain ⟨ns', hn', hm⟩ := hmute
  obtain rfl := List.append_cancel_left (hn.symm.trans hn')
  refine ⟨hh.led.step hs, hs.stopping hh.stopping, ha.next, fun v hv => hh.stage v (ha.call.symm.trans hv),
    fun hg => hs.openers_nil hh.led (.inl hh.stopping) (hh.alone (ha.call.symm.trans hg)),
    ms ++ ns, ?_, ?_, ?_⟩
  · rw [hn, hms, List.append_assoc]
  · rw [announced_append, hf, announced, List.countP_eq_zero.2 (List.any_eq_false.1 hm)]
  · rw [trail_append, ht, List.append_nil]
    exact hq

/-- The call goes on. -/
theorem told (hh : Withdrawn h id s) {a : Answer} (ht : s.Tells id w a c) (hs : s.step? c = some t)
    (hw : w.call = .start stage) (hk : stage.mayWithdraw = true) : Withdrawn h id t := by
  have hst := step_of_step? hh.led.tidy.trace hs
  obtain ⟨ms, hms, hf, hq⟩ := hh.marks
  obtain ⟨q, es, nx, rfl, hm⟩ := ht.opens hh.led.tidy hw hs
  obtain ⟨hes, hef, hnx⟩ := hm.withdraws hh.stopping hk
  have hn : (s.told id w a).call? id = none := hh.led.tidy.call?_take ht.call?
  have hl := (hh.led.told_start ht hw).2.2.1
  refine ⟨hh.led.step hst, hst.stopping hh.stopping, hh.known, fun v hv => ?_, fun hg => ?_,
    ms ++ nx.marksTold id w a es, ?_, ?_, ?_⟩
  · obtain ⟨stage', hc, hs'⟩ := call_of_openMove hn hm hv
    exact ⟨stage', hc, hnx stage' hs'⟩
  · exact openers_of_over hn hl hg
  · rw [history_carry_told nx id w a es s hw, hms, List.append_assoc]
  · rw [announced_append, hf, announced, effects_marksTold, hef]
  · rw [trail_append, trail_marksTold, statuses, effects_append, effects_marksTold, statusesOf,
      List.filterMap_append]
    exact (congrArg₂ (· ++ ·) hq hes).trans rfl

theorem drop (hh : Withdrawn h id s) (hw : s.call? id = some w) (hs : s.step? (.drop id) = some t) :
    Withdrawn h id t := by
  have hst := step_of_step? hh.led.tidy.trace hs
  obtain ⟨ms, hms, hf, hq⟩ := hh.marks
  obtain ⟨stage, hc, -⟩ := hh.stage w hw
  obtain ⟨u, hu, rfl⟩ := Option.map_eq_some_iff.1 hs
  have hn : (s.take id).call? id = none := hh.led.tidy.call?_take hw
  refine ⟨hh.led.step hst, hst.stopping hh.stopping, hh.known, fun v hv => ?_,
    fun _ => (hh.led.openers_of_start hw hc).2.1, ms ++ [.lost id u.errand], ?_, ?_, ?_⟩
  · exact absurd (hn.symm.trans hv) nofun
  · rw [history_note, ← List.append_assoc, ← hms]
    rfl
  · rw [announced_append, hf]
    rfl
  · have hl : effects (trail id [.lost id u.errand]) = [] := by simp [trail, Mark.id?, effects, Mark.effect?]
    rw [trail_append, statuses, effects_append, hl, List.append_nil]
    exact hq

theorem step (hh : Withdrawn h id s) (hs : s.step? c = some t) : Withdrawn h id t := by
  have hst := step_of_step? hh.led.tidy.trace hs
  by_cases hi : c.id? = some id
  · obtain ⟨w, hw, rfl | ⟨a, ht⟩⟩ := tells_of_step? hi hs
    · exact hh.drop hw hs
    · obtain ⟨stage, hc, hk⟩ := hh.stage w hw
      exact hh.told ht hs hc hk
  · exact hh.aloof hst hi

end Withdrawn
end Session
end PartitionConsumer
