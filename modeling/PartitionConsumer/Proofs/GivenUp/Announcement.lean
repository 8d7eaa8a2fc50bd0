import PartitionConsumer.Proofs.Session.Drops
/-!
# The announcement of the close

The close is announced once, and once more for each call that was dropped while it took the pump down.
-/
namespace PartitionConsumer

/-- A caller takes the connection down, or is in the closing hook. -/
def Next.isReleasing (nx : Next) : Bool := nx.turn?.any (·.stage.isReleasing)

def Waiting.isReleasing (w : Waiting) : Bool := w.turn?.any (·.stage.isReleasing)

namespace Pump

variable {p q : Pump} {es : List Effect} {nx : Next}

def isClosed (p : Pump) : Bool := p.status == .closed

theorem isClosed_congr (h : q.status = p.status) : q.isClosed = p.isClosed := by
  unfold isClosed
  rw [h]

theorem AttemptMove.announces {cut : Bool} {shown : List Effect} (h : AttemptMove p cut shown q es nx)
    (hs : shown.countP (Effect.announces .pumpClosing) = 0) :
    es.countP (Effect.announces .pumpClosing) + p.isClosed.toNat = q.isClosed.toNat := by
  rw [announced_attempt _ _ h, hs, isClosed_congr h.status, Nat.zero_add]

/-- The opening call announces the close only where it closes the pump. -/
theorem OpenMove.announces {stage : OpenStage} {a : Answer} (h : OpenMove p stage a q es nx)
    (hl : p.Linked) (hr : ∀ r, stage ≠ .release r true) :
    es.countP (Effect.announces .pumpClosing) + p.isClosed.toNat = q.isClosed.toNat := by
  cases h with
  | connect _ _ h => exact h.announces rfl
  | refusedCloses e outcome hs => simp [closingEffects, isClosed, hs]
  | clientFailed a f _ h => exact h.announces (announces_failureFault _ _ a f (by simp))
  | install a client receiver _ hs => simp [isClosed, hs]; rfl
  | abandoned a f outcome h => exact h.announces (announces_failureFault _ _ a f (by simp))
  | pauseOver a wake h => exact h.announces rfl
  | failedCloses e outcome hs => simp [closingEffects, isClosed, hs]
  | failedReleases e outcome c hs hc =>
    rw [hl.eq_none (by simp [hs]) (by simp [hs])] at hc
    cases hc
  | releaseCloses r => exact absurd rfl (hr r)
  | _ => simp [isClosed]

theorem StartMove.announces (h : StartMove p q es nx) :
    es.countP (Effect.announces .pumpClosing) + p.isClosed.toNat = q.isClosed.toNat := by
  cases h with
  | ignored => simp
  | opens _ hu => simp [isClosed, hu]; rfl

section Shutdown

variable {now ticket : Nat} {reason : CloseReason}

theorem PassMove.releases {shown : List Effect} (h : PassMove p ticket reason shown q es nx) :
    es.countP (Effect.announces .pumpClosing) = shown.countP (Effect.announces .pumpClosing)
      ∧ (q.isClosed || nx.isReleasing) = true := by
  cases h with
  | hook => exact ⟨by simp, by simp [Next.isReleasing, Call.turn?, ShutdownStage.isReleasing]⟩
  | close => exact ⟨by simp, by simp [isClosed]⟩

theorem announces_pumpClosing_unlinkedEffects :
    (p.unlinkedEffects reason).countP (Effect.announces .pumpClosing) = 1 := by
  unfold unlinkedEffects closingStatusEffects
  split <;> simp

theorem DisconnectMove.releases (h : DisconnectMove p ticket reason q es nx) :
    es.countP (Effect.announces .pumpClosing) = 1 ∧ (q.isClosed || nx.isReleasing) = true := by
  cases h with
  | release =>
    refine ⟨?_, by simp [Next.isReleasing, Call.turn?, ShutdownStage.isReleasing]⟩
    rw [List.countP_append, announces_pumpClosing_unlinkedEffects]
    rfl
  | pass _ hp => exact hp.releases.imp_left fun h => h.trans announces_pumpClosing_unlinkedEffects

/-- The close is announced by the move with which the pump begins to go down. -/
theorem RunMove.announces (h : RunMove p now ticket reason q es nx) :
    es.countP (Effect.announces .pumpClosing) + p.isClosed.toNat
      = (q.isClosed || nx.isReleasing).toNat := by
  cases h with
  | closed hs => simp [isClosed, hs]
  | settle => simp [isClosed, Next.isReleasing, Call.turn?, ShutdownStage.isReleasing]
  | disconnect hs _ hd =>
    obtain ⟨hc, hq⟩ := hd.releases
    rw [hc, hq]
    simp [isClosed, hs]

theorem ShutdownMove.announces {stage : ShutdownStage} {a : Answer}
    (h : ShutdownMove p now ticket reason stage a q es nx) :
    es.countP (Effect.announces .pumpClosing) + (p.isClosed || stage.isReleasing).toNat
      = (q.isClosed || nx.isReleasing).toNat := by
  cases h with
  | queuedDone => simp [Next.isReleasing, ShutdownStage.isReleasing]
  | queuedRun _ hr =>
    rw [← hr.announces]
    simp [ShutdownStage.isReleasing]
  | foundClosed wake _ hs => simp [isClosed, hs]
  | disconnect wake _ hs hd =>
    obtain ⟨hc, hq⟩ := hd.releases
    rw [hc, hq]
    simp [isClosed, hs, ShutdownStage.isReleasing]
  | releaseNext r r' =>
    simp [Next.isReleasing, Call.turn?, ShutdownStage.isReleasing]
  | releaseEnds r outcome _ hp =>
    obtain ⟨hc, hq⟩ := hp.releases
    rw [hc, hq]
    simp [ShutdownStage.isReleasing]
  | close => simp [isClosed, ShutdownStage.isReleasing]

end Shutdown
end Pump

namespace Session

@[simp] theorem announced_lost (k : EventKind) (id : Nat) (errand : Errand) :
    announced k [.lost id errand] = 0 := rfl

/-- The pump goes down: some caller takes it down, or it is closed. -/
def isDown (s : Session) : Bool := s.pump.isClosed || s.runners.any (·.stage.isReleasing)

/-- The close was announced once for each call that was dropped while it took the pump down, and once
more if the pump goes down. -/
def Announced (ws : List Waiting) (s : Session) : Prop :=
  announced .pumpClosing s.history = ws.countP Waiting.isReleasing + s.isDown.toNat

namespace Announced

variable {s b : Session} {id : Nat} {errand : Errand} {q : Pump} {es : List Effect} {nx : Next}
  {ws : List Waiting}

theorem isDown_carry : (b.carry id errand q es nx).isDown
    = (q.isClosed || (nx.isReleasing || b.runners.any (·.stage.isReleasing))) := by
  unfold isDown
  rw [runners_carry, List.any_append, pump_carry, Pump.isClosed_congr (nx.status_leave q)]
  cases hn : nx.turn? <;> simp [Next.isReleasing, hn]

theorem carry (h : s.Announced ws)
    (hb : announced .pumpClosing b.history = announced .pumpClosing s.history)
    (hm : es.countP (Effect.announces .pumpClosing) + s.isDown.toNat
      = (q.isClosed || (nx.isReleasing || b.runners.any (·.stage.isReleasing))).toNat) :
    (b.carry id errand q es nx).Announced ws := by
  unfold Announced at h ⊢
  rw [announced_carry, hb, isDown_carry, h]
  omega

/-- A call goes on that is not the one that takes the pump down. -/
theorem aside (h : s.Announced ws) (hh : s.Halted)
    (hb : announced .pumpClosing b.history = announced .pumpClosing s.history)
    (hr : b.runners = s.runners) (hn : nx.turn? = none)
    (hc : s.pump.status = .closing → q.status = .closing)
    (hm : es.countP (Effect.announces .pumpClosing) + s.pump.isClosed.toNat = q.isClosed.toNat) :
    (b.carry id errand q es nx).Announced ws := by
  refine h.carry hb ?_
  rw [hr, Next.isReleasing, hn, isDown]
  cases ha : s.runners.any (·.stage.isReleasing) with
  | false => simpa using hm
  | true =>
    -- the pump is closing then, and neither closed nor announced to be
    obtain ⟨t, ht, hs⟩ := List.any_eq_true.1 ha
    have hp := hh.releasing t ht hs
    have hq : q.isClosed = false := by simp [Pump.isClosed, hc hp]
    rw [hq] at hm ⊢
    simp only [Bool.toNat_false, Nat.add_eq_zero_iff] at hm
    simp [hm]

/-- A call for shutdown goes on that has its turn. -/
theorem turning (h : s.Announced ws)
    (hb : announced .pumpClosing b.history = announced .pumpClosing s.history)
    (hr : b.runners = []) {x : Bool} (hx : s.isDown = (s.pump.isClosed || x))
    (hm : es.countP (Effect.announces .pumpClosing) + (s.pump.isClosed || x).toNat
      = (q.isClosed || nx.isReleasing).toNat) : (b.carry id errand q es nx).Announced ws := by
  refine h.carry hb ?_
  rw [hr, hx, hm]
  simp

/-- A call asks for its turn. -/
theorem enter {now ticket : Nat} {reason : CloseReason} (h : s.Announced ws)
    (hb : announced .pumpClosing b.history = announced .pumpClosing s.history)
    (hr : b.runners = s.runners)
    (ht : s.pump.once.done = false → (s.pump.once.enter ticket).isTurnOf ticket = true →
      s.runners = [])
    (hm : s.pump.EnterMove now ticket reason q es nx) :
    (b.carry id errand q es nx).Announced ws := by
  cases hm with
  | done => exact h.carry hb (by rw [hr]; simp [Next.isReleasing, isDown])
  | queue =>
    refine h.carry hb ?_
    rw [hr]
    simp [Next.isReleasing, Call.turn?, isDown, Pump.isClosed]
  | run hd hq hrun =>
    have hn := ht hd hq
    refine h.turning (x := false) hb (hr.trans hn) (by simp [isDown, hn]) ?_
    rw [Bool.or_false]
    exact hrun.announces

/-- A call that is dropped leaves the pump as it is, down or not. -/
theorem drop (hi : s.Led) (hh : s.Halted) (h : s.Announced ws) {w : Waiting}
    (hw : s.call? id = some w) :
    ({ s.take id with pump := s.pump.abandon w.call }.note [.lost id w.errand]).Announced
      (ws ++ [w]) := by
  have hp : (s.pump.abandon w.call).isClosed = s.pump.isClosed := by
    cases w.call <;> rfl
  have hd : ({ s.take id with pump := s.pump.abandon w.call }.note [.lost id w.errand]).isDown
      = (s.pump.isClosed || (s.take id).runners.any (·.stage.isReleasing)) :=
    congrArg (· || _) hp
  have hn : announced .pumpClosing ({ s.take id with pump := s.pump.abandon w.call }).history
      = announced .pumpClosing s.history := rfl
  unfold Announced at h ⊢
  rw [history_note, announced_append, List.countP_append, List.countP_singleton, hd, hn, h]
  cases hc : w.turn? with
  | none =>
    have hr : (s.take id).runners = s.runners := waiting_take_of_none hw hc
    rw [hr]
    simp [Waiting.isReleasing, hc, isDown]
  | some turn =>
    obtain ⟨hr, hl, -⟩ := hi.runners_of_turn hw hc
    have hw' : w.isReleasing = turn.stage.isReleasing := by simp [Waiting.isReleasing, hc]
    rw [hl, hw', isDown, hr]
    cases hs : turn.stage.isReleasing with
    | false => simp [hs]
    | true =>
      -- the pump is closing, and nobody takes it down any more
      have hc := hh.releasing turn (by rw [hr]; exact List.mem_cons_self) hs
      have hz : s.pump.isClosed = false := by simp [Pump.isClosed, hc]
      simp [hs, hz]

theorem undropped {t : Session} {c : Cause} (hi : s.Led) (hh : s.Halted) (h : s.Announced ws)
    (hd : c.isDrop = false) (hs : s.Step c t) : t.Announced ws := by
  cases hs with
  | start hm =>
    exact h.aside (b := s.begin _) hh (s.announced_begin ..) rfl (by cases hm <;> rfl)
      (hm.steady hh.linked).closing hm.announces
  | shutdown reason hm =>
    exact h.enter (b := s.begin _) (s.announced_begin ..) rfl
      (fun hd hq => (hi.runners_of_enter hi.next_not_mem_turns hd hq).2) hm
  | deliver report batch hm =>
    refine h.aside (b := s.begin _) hh (s.announced_begin ..) rfl (by cases hm <;> rfl)
      (hm.steady hh.linked).closing ?_
    cases hm <;> simp [Pump.isClosed]
  | fail e hm =>
    refine h.aside (b := s.begin _) hh (s.announced_begin ..) rfl rfl (hm.steady hh.linked).closing ?_
    cases hm with
    | ignored => simp
    | taken hr => simp [Pump.isClosed, hr]; rfl
  | report n e he =>
    exact h.aside (b := (s.forget n).begin _) hh (s.announced_begin ..) rfl rfl (fun h => h) (by simp)
  | discard n hn => exact h
  | tellStart id w a stage ht hw hm =>
    obtain ⟨he, ho, -, hr⟩ := hi.told_start ht hw
    have hrel (r : Release) : stage ≠ .release r true := by
      rintro rfl
      exact hh.release r (by rw [ho]; exact List.mem_cons_self)
    exact h.aside hh (s.announced_told ..) hr ((he ▸ hm.fits id : _).turn? (by simp [he]))
      (hm.steady hh.linked hrel).closing (hm.announces hh.linked hrel)
  | tellShutdown id w a ticket reason stage ht hw hm =>
    obtain ⟨-, rfl, -, ⟨-, rfl, rfl, rfl, hr⟩ | ⟨hq, hl, hr⟩⟩ := hi.told_shutdown ht hw hm
    · exact h.carry (s.announced_told ..) (by rw [hr]; simp [Next.isReleasing, isDown])
    · obtain ⟨hn, hrun⟩ | ⟨-, hn⟩ := hr
      · refine h.turning (x := false) (s.announced_told ..) hl (by simp [isDown, hn]) ?_
        rw [Bool.or_false]
        exact hrun.announces
      · exact h.turning (s.announced_told ..) hl (by simp [isDown, hn]) hm.announces
  | tellDelivery id w a stage ht hw hm =>
    obtain ⟨-, -, hr⟩ := hi.told_delivery ht hw
    refine h.aside hh (s.announced_told ..) hr (by cases hm <;> rfl) (fun h => h) ?_
    cases hm <;> simp
  | tellReport id w outcome ticket ht hw hm =>
    obtain ⟨rfl, hn, -, hr⟩ := hi.told_report ht hw
    exact h.enter (s.announced_told ..) hr (fun hd hq => (hi.runners_of_enter hn hd hq).2) hm
  | drop => cases hd
  | bump => exact h
  | pass ticks =>
    unfold Announced
    rw [history_note, announced_append]
    exact h

theorem step {t : Session} {c : Cause} (hi : s.Led) (hh : s.Halted) (h : s.Announced ws)
    (hs : s.Step c t) : t.Announced (ws ++ s.drops c) :=
  hs.dropping (fun hd => h.undropped hi hh hd hs) fun _ _ hw => h.drop hi hh hw

end Announced
end Session
end PartitionConsumer
