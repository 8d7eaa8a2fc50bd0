import PartitionConsumer.Proofs.GivenUp.Hook
import PartitionConsumer.Proofs.GivenUp.Announcement
import PartitionConsumer.Proofs.GivenUp.Release
import PartitionConsumer.Proofs.GivenUp.Moorings
/-!
# Shutdowns that are given up

A caller may drop its call for shutdown at any time. The next one starts the procedure over, and does not
know how far the one before it has come: the close is announced once more for each call that was dropped
while it took the pump down, the closing hook is called once more for each that was dropped in it, and a
connection that a caller was releasing is not released any further. Nothing else is repeated or left out.
-/
namespace PartitionConsumer
namespace Session

structure Endured (ws : List Waiting) (s : Session) : Prop where
  led : s.Led
  halted : s.Halted
  ended : s.Ended
  moored : s.pump.Moored
  single : s.Single
  announced : s.Announced ws
  attended : s.Attended (lostWith ws)

namespace Endured

variable {s : Session} {ws : List Waiting}

theorem new (context : Context) (lease : Lease) (options : Options) (wire : String) (draw : Nat → Nat) :
    Endured [] (new (.new context lease options wire draw)) where
  led := .new _ rfl rfl rfl
  halted := .new _ rfl nofun
  ended := nofun
  moored := ⟨nofun, nofun⟩
  single := .new _ rfl rfl
  announced := rfl
  attended _ := rfl

theorem step {t : Session} {c : Cause} (h : s.Endured ws) (hs : s.step? c = some t) :
    t.Endured (ws ++ s.drops c) := by
  have ht := step_of_step? h.led.tidy.trace hs
  exact ⟨h.led.step ht, h.halted.step h.led ht, h.ended.step h.led.tidy ht,
    moored_step h.led h.halted h.moored ht, h.single.step h.led ht,
    h.announced.step h.led h.halted ht, h.attended.step_dropping ht⟩

theorem of_run {t : Session} {cs : List Cause} (h : s.Endured ws) (hr : s.run cs = some t) :
    t.Endured (ws ++ s.dropped cs) :=
  run_dropping (P := Endured) h (fun _ _ _ _ h hs => h.step hs) hr

/-- A pump that holds a connection is open, and nobody opens it any more. -/
theorem stored (h : s.Endured ws) {c : Connection} (hc : s.pump.connection = some c) :
    s.Stored s.history c [] where
  openers := by
    have hp := h.moored.settled (by rw [hc]; rfl)
    have ho := h.led.opener
    rw [hp] at ho
    exact List.length_eq_zero_iff.1 ho
  begun hu := by
    obtain hl | hl := h.halted.linked (by rw [hc]; rfl) <;> rw [hu] at hl <;> cases hl
  held := ⟨[], c.owed, (List.append_nil _).symm, rfl, .pump hc⟩

/-- When a shutdown has returned, what is left of the release of a connection was left by a caller that
was dropped. -/
theorem left_of_stored {c : Connection} {hist : List Mark} {vs : List Waiting} (h : s.Endured ws)
    (hd : s.Stored hist c vs) (hr : hasShutDown s.history = true) :
    ∃ ms rest, s.history = hist ++ ms ∧ carriedOut ms ++ rest = c.owed
      ∧ (rest = [] ∨ ∃ w ∈ vs, ∃ ticket reason r,
        w.call = .shutdown ticket reason (.release r) ∧ r.connection = c ∧ rest = r.left) := by
  have hs : s.pump.status = .closed := h.moored.closed (h.ended hr)
  obtain ⟨ms, rest, hm, hc, hold⟩ := hd.held
  refine ⟨ms, rest, hm, hc, ?_⟩
  cases hold with
  | pump hp =>
    rw [h.halted.linked.eq_none (by simp [hs]) (by simp [hs])] at hp
    cases hp
  | caller t r _ ht hr =>
    have hn := h.halted.releasing t ht (by rw [hr]; rfl)
    rw [hs] at hn
    cases hn
  | nobody _ _ _ hw => exact hw

end Endured
end Session

section Main

variable {context : Context} {lease : Lease} {options : Options} {wire : String} {draw : Nat → Nat}

/-- Whatever calls are dropped: the closing hook is asked for once at most, and once more for each call
dropped in it; the close is announced once if the pump goes down, and once more for each call dropped while
it took the pump down; and of every connection the pump has held, all is released by the time a shutdown
has returned but what a caller had left to do that was dropped while it released it. -/
theorem given_up_shutdowns {cs : List Cause} {s : Session}
    (h : (Session.new (.new context lease options wire draw)).run cs = some s) :
    let dropped := (Session.new (.new context lease options wire draw)).dropped cs
    asked Request.isOnClose s.history
        = s.closings + dropped.countP (fun w => w.request.any Request.isOnClose)
      ∧ s.closings ≤ 1
      ∧ announced .pumpClosing s.history = dropped.countP Waiting.isReleasing + s.isDown.toNat
      ∧ ∀ ds es u c, cs = ds ++ es →
        (Session.new (.new context lease options wire draw)).run ds = some u →
        u.pump.connection = some c → hasShutDown s.history = true →
        ∃ ms rest, s.history = u.history ++ ms ∧ carriedOut ms ++ rest = c.owed
          ∧ (rest = [] ∨ ∃ w ∈ u.dropped es, ∃ ticket reason r,
            w.call = .shutdown ticket reason (.release r) ∧ r.connection = c ∧ rest = r.left) := by
  intro dropped
  have he : s.Endured dropped := (Session.Endured.new context lease options wire draw).of_run h
  refine ⟨he.attended _, he.single.once, he.announced, fun ds es u c hc hu hl hr => ?_⟩
  have hrun : u.run es = some s := by
    rw [hc, Session.run_append, hu] at h
    exact h
  have heu := (Session.Endured.new context lease options wire draw).of_run hu
  have hs : s.Led ∧ s.Halted ∧ s.Stored u.history c ([] ++ u.dropped es) :=
    Session.run_dropping (P := fun ws s => s.Led ∧ s.Halted ∧ s.Stored u.history c ws)
      ⟨heu.led, heu.halted, heu.stored hl⟩ (fun ws s k t ⟨hi, hh, hd⟩ ht => by
        have hs := Session.step_of_step? hi.tidy.trace ht
        exact ⟨hi.step hs, hh.step hi hs, hd.step hi hh hs⟩) hrun
  exact he.left_of_stored hs.2.2 hr

/-- Three callers shut a running pump down. The first one is dropped while the handler is cleared, the
second one in the closing hook. The third one returns, and all that the first one had to release is left. -/
theorem given_up_shutdowns_of_three_callers :
    ∃ s u, Session.sample.run Session.opening = some u ∧ u.pump.connection = some ⟨0, 0⟩
      ∧ u.run [.shutdown .shutdown, .drop 1, .shutdown .shutdown, .drop 2, .shutdown .leaseLost,
        .answer 3 (.hook (.ok ()))] = some s
      ∧ hasShutDown s.history = true ∧ asked Request.isOnClose s.history = 2
      ∧ announced .pumpClosing s.history = 3 ∧ carriedOut s.history = []
      ∧ ∃ w ∈ u.dropped [.shutdown .shutdown, .drop 1, .shutdown .shutdown, .drop 2,
          .shutdown .leaseLost, .answer 3 (.hook (.ok ()))],
        ∃ ticket reason r, w.call = .shutdown ticket reason (.release r)
          ∧ r.left = Connection.owed ⟨0, 0⟩ := by
  have hu : (Session.sample.run Session.opening).map (·.pump.connection) = some (some ⟨0, 0⟩) := by rfl
  have hr : (Session.sample.run (Session.opening ++ [.shutdown .shutdown, .drop 1, .shutdown .shutdown,
        .drop 2, .shutdown .leaseLost, .answer 3 (.hook (.ok ()))])).map (fun s =>
      (hasShutDown s.history, s.closings, s.isDown, carriedOut s.history)) = some (true, 1, true, []) := by
    rfl
  obtain ⟨u, hu, hc⟩ := Option.map_eq_some_iff.1 hu
  obtain ⟨s, hs, he⟩ := Option.map_eq_some_iff.1 hr
  simp only [Prod.mk.injEq] at he
  obtain ⟨hd, h1, h2, h3⟩ := he
  obtain ⟨ha, -, hp, hl⟩ := given_up_shutdowns hs
  obtain ⟨ms, rest, hm, hrest, hw⟩ := hl Session.opening _ u ⟨0, 0⟩ rfl hu hc hd
  have hms : carriedOut ms = [] := by
    rw [hm, carriedOut_append, List.append_eq_nil_iff] at h3
    exact h3.2
  rw [hms, List.nil_append] at hrest
  rw [Session.run_append, hu] at hs
  refine ⟨s, u, hu, hc, hs, hd, ha.trans (by rw [h1]; rfl), hp.trans (by rw [h2]; rfl), h3, ?_⟩
  obtain rfl | ⟨w, hw, ticket, reason, r, hcall, -, rfl⟩ := hw
  · cases hrest
  · exact ⟨w, hw, ticket, reason, r, hcall, hrest⟩

end Main
end PartitionConsumer
