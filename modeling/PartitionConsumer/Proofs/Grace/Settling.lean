import PartitionConsumer.Proofs.CutShort
/-!
# Waiting for the open to settle

The first call for shutdown finds the open under way and waits for it. It leaves its wait when the open
has settled or the grace has run out, and does not come back to it.
-/
namespace PartitionConsumer

def Waiting.settling (id : Nat) (reason : CloseReason) (wake : Nat) : Waiting :=
  ⟨.shutdown reason, .shutdown id reason (.settling wake), none⟩

def Waiting.closing (id : Nat) (reason : CloseReason) : Waiting :=
  ⟨.shutdown reason, .shutdown id reason .onClose, some (.hook (.onClose reason))⟩

namespace Pump

variable {p q : Pump} {es : List Effect} {nx : Next} {now ticket : Nat} {reason : CloseReason}

/-- Whoever is the first to call for shutdown while the pump is opened waits for the open. -/
theorem EnterMove.settles (h : EnterMove p now ticket reason q es nx) (hb : p.Braced)
    (hs : p.stopping = false) (hc : p.status ≠ .closed) (hp : p.phase = .opening) :
    es = [] ∧ nx = .wait (.shutdown ticket reason (.settling (wakeTime now p.options.cancelGrace))) := by
  have hn : ¬ (p.once.done = true ∨ p.once.turns ≠ []) := fun hd => by
    have ht := hb hd
    rw [hs] at ht
    cases ht
  obtain ⟨hd, ht⟩ := not_or.1 hn
  cases h with
  | done h => exact absurd h hd
  | queue h hq =>
    rw [Once.isTurnOf_enter_of_empty h (not_not.1 ht)] at hq
    cases hq
  | run _ _ hr =>
    cases hr with
    | closed h => exact absurd h hc
    | settle => exact ⟨rfl, rfl⟩
    | disconnect _ h => exact absurd hp h

/-- A shutdown that has left its wait goes on to its end. -/
theorem PassMove.releasing {shown : List Effect} (h : PassMove p ticket reason shown q es nx) :
    ∀ c ∈ nx.call?, ∃ stage, c = .shutdown ticket reason stage ∧ stage.isReleasing = true := by
  cases h with
  | hook =>
    rintro _ ⟨⟩
    exact ⟨_, rfl, rfl⟩
  | close => nofun

theorem DisconnectMove.releasing (h : DisconnectMove p ticket reason q es nx) :
    ∀ c ∈ nx.call?, ∃ stage, c = .shutdown ticket reason stage ∧ stage.isReleasing = true := by
  cases h with
  | release =>
    rintro _ ⟨⟩
    exact ⟨_, rfl, rfl⟩
  | pass _ hp => exact hp.releasing

theorem ShutdownMove.releasing {stage : ShutdownStage} {a : Answer}
    (h : ShutdownMove p now ticket reason stage a q es nx) (hs : stage ≠ .queued) :
    ∀ c ∈ nx.call?, ∃ stage, c = .shutdown ticket reason stage ∧ stage.isReleasing = true := by
  cases h with
  | queuedDone => exact absurd rfl hs
  | queuedRun => exact absurd rfl hs
  | foundClosed => nofun
  | disconnect _ _ _ hd => exact hd.releasing
  | releaseNext =>
    rintro _ ⟨⟩
    exact ⟨_, rfl, rfl⟩
  | releaseEnds _ _ _ hp => exact hp.releasing
  | close => nofun

end Pump

namespace Session

variable {s t : Session} {c : Cause} {id k : Nat} {w : Waiting} {a : Answer}

/-- A step that tells a shutdown an answer is a move of that call. -/
theorem Tells.shuts {ticket : Nat} {reason : CloseReason} {stage : ShutdownStage}
    (h : s.Tells id w a c) (hi : s.Tidy) (hw : w.call = .shutdown ticket reason stage)
    (hs : s.step? c = some t) :
    ∃ q es nx, t = (s.told id w a).carry id (.shutdown reason) q es nx
      ∧ s.pump.ShutdownMove s.now ticket reason stage a q es nx := by
  obtain ⟨m, hm, rfl⟩ := Option.map_eq_some_iff.1 (h.step?_eq.symm.trans hs)
  rw [hw] at hm
  have he : w.goesOn = .shutdown reason := by
    simp [Waiting.goesOn, hw, ((hi.fits_call h.call?).of_shutdown hw).1]
  obtain ⟨q, es, nx, hq, hn⟩ :=
    (s.told id w a).move_eq_carry hi.trace (Pump.goes_resumeShutdown hm) id w.goesOn
  rw [Pump.untraced_of_trace hi.trace] at hn
  rw [he] at hq
  exact ⟨q, es, nx, he ▸ hq, hn⟩

/-- No call has the number of the next one. -/
theorem Tidy.call?_next (hi : s.Tidy) : s.call? s.next = none :=
  Option.eq_none_iff_forall_ne_some.2 fun _ hw => Nat.lt_irrefl _ (hi.lt_next hw)

structure Past (k : Nat) (s : Session) : Prop where
  led : s.Led
  known : k < s.next
  stage : ∀ w, s.call? k = some w →
    ∃ ticket reason stage, w.call = .shutdown ticket reason stage ∧ stage.isReleasing = true

namespace Past

theorem of_told {ticket : Nat} {reason : CloseReason} {stage : ShutdownStage} (hi : s.Led)
    (ht : s.Tells k w a c) (hw : w.call = .shutdown ticket reason stage) (hq : stage ≠ .queued)
    (hs : s.step? c = some t) : Past k t := by
  have hst := step_of_step? hi.tidy.trace hs
  obtain ⟨q, es, nx, rfl, hm⟩ := ht.shuts hi.tidy hw hs
  have hn : (s.told k w a).call? k = none := hi.tidy.call?_take ht.call?
  refine ⟨hi.step hst, hi.tidy.lt_next ht.call?, fun v hv => ?_⟩
  rw [call?_carry hn] at hv
  have hc : v.call ∈ nx.call? := by cases nx <;> cases hv <;> rfl
  obtain ⟨stage', hs', hr⟩ := hm.releasing hq v.call hc
  exact ⟨ticket, reason, stage', hs', hr⟩

theorem step (h : Past k s) (hs : s.step? c = some t) : Past k t := by
  have hst := step_of_step? h.led.tidy.trace hs
  by_cases hk : c.id? = some k
  · obtain ⟨w, hw, rfl | ⟨a, ht⟩⟩ := tells_of_step? hk hs
    · have hn := h.led.tidy.call?_drop hs
      exact ⟨h.led.step hst, Nat.lt_of_lt_of_le h.known hst.next_le,
        fun v hv => absurd (hn.symm.trans hv) nofun⟩
    · obtain ⟨ticket, reason, stage, hc, hr⟩ := h.stage w hw
      exact of_told h.led ht hc (by rintro rfl; cases hr) hs
  · have ha := hst.aloof h.known hk
    exact ⟨h.led.step hst, ha.next, fun v hv => h.stage v (ha.call.symm.trans hv)⟩

theorem run (h : Past k s) {cs : List Cause} (hs : s.run cs = some t) : Past k t :=
  run_induction (P := Past k) h (fun _ _ _ _ hp hx => hp.step hx) hs

/-- It does not wait for the open any more. -/
theorem ne_settling (h : Past k s) (reason : CloseReason) (wake : Nat) :
    s.call? k ≠ some (.settling k reason wake) := by
  intro hw
  obtain ⟨_, _, _, hc, hr⟩ := h.stage _ hw
  cases hc
  cases hr

end Past

/-- The first call for shutdown waits for the open that is under way. -/
theorem ShutsDown.settles {stage : OpenStage} (h : s.ShutsDown c) (hi : s.Led) (hl : s.Halted)
    (hb : s.pump.Braced) (hs : s.pump.stopping = false) (hw : s.call? id = some w)
    (hc : w.call = .start stage) (ht : s.Step c t) :
    ∃ k reason ms, t.history = s.history ++ ms ++ [.began k (.shutdown reason)]
      ∧ t.call? k = some (.settling k reason (wakeTime s.now s.pump.options.cancelGrace)) := by
  obtain ⟨ho, -, hp⟩ := hi.openers_of_start hw hc
  have hst : s.pump.status ≠ .closed := by
    intro hn
    have := hl.closed hn (by rw [ho]; exact List.cons_ne_nil _ _)
    rw [hs] at this
    cases this
  obtain ⟨k, reason, b, q, es, nx, he, rfl, hm⟩ := h.enters hi.tidy ht
  obtain ⟨ms, hh, -⟩ := he.history
  obtain ⟨rfl, rfl⟩ := hm.settles hb hs hst hp
  have hn : b.call? k = none := by
    cases he with
    | begins hk hb => rw [hb, hk]; exact hi.tidy.call?_next
    | goesOn ht _ _ hb => rw [hb]; exact hi.tidy.call?_take ht.call?
  refine ⟨k, reason, ms, ?_, call?_carry hn ..⟩
  rw [history_carry, hh]
  simp [Next.marks]

end Session
end PartitionConsumer
