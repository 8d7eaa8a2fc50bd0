import PartitionConsumer.Proofs.Session.Halts
/-!
# Where a connection may be

A pump has a connection only when its open has settled, and is closed when its shutdown has been run to
the end. Calls may be dropped at any time.
-/
namespace PartitionConsumer
namespace Pump

variable {p q : Pump} {es : List Effect} {nx : Next}

/-- The open has settled before there is a connection, and nothing is left to do for a shutdown only when
the pump is closed. -/
structure Moored (p : Pump) : Prop where
  settled : p.connection.isSome → p.phase = .settled
  closed : p.once.done = true → p.status = .closed

theorem AttemptMove.connection {cut : Bool} {shown : List Effect}
    (h : AttemptMove p cut shown q es nx) : q.connection = p.connection := by cases h <;> rfl

/-- The opening call makes a connection only with its last move. -/
theorem OpenMove.connection {stage : OpenStage} {a : Answer} (h : OpenMove p stage a q es nx)
    (hc : p.connection = none) (hn : nx.call? ≠ none) : q.connection = none := by
  cases h with
  | connect _ _ h => exact h.connection.trans hc
  | clientFailed _ _ _ h => exact h.connection.trans hc
  | abandoned _ _ _ h => exact h.connection.trans hc
  | pauseOver _ _ h => exact h.connection.trans hc
  | install => exact absurd rfl hn
  | failedReleases => rfl
  | _ => exact hc

theorem OpenMove.moored {stage : OpenStage} {a : Answer} (h : OpenMove p stage a q es nx)
    (hl : p.Linked) (hr : ∀ r, stage ≠ .release r true) (hp : p.phase = .opening) (hm : p.Moored) :
    (nx.leave q).Moored := by
  have hn : p.connection = none := by
    cases hc : p.connection with
    | none => rfl
    | some c =>
      have hs := hm.settled (by rw [hc]; rfl)
      rw [hp] at hs
      cases hs
  refine ⟨fun hc => ?_, fun hd => ?_⟩
  · obtain ⟨-, stage', hw⟩ | ⟨hs, -⟩ := h.opening
    · rw [Next.connection_leave, h.connection hn] at hc
      · cases hc
      · obtain rfl | ⟨r, rfl⟩ := hw <;> simp [Next.call?]
    · exact hs
  · rw [Next.once_leave, h.keeps.once] at hd
    rw [Next.status_leave]
    exact (h.steady hl hr).closed (hm.closed hd)

theorem StartMove.moored (h : StartMove p q es nx) (hl : p.Linked) (hm : p.Moored) :
    (nx.leave q).Moored := by
  cases h with
  | ignored => exact hm
  | opens _ hu =>
    refine ⟨fun hc => ?_, fun hd => ?_⟩
    · have hc : p.connection.isSome := hc
      rw [hl.eq_none (by simp [hu]) (by simp [hu])] at hc
      cases hc
    · have hs := hm.closed hd
      rw [hu] at hs
      cases hs

/-- A call that does not open the pump leaves the connection where it is, or takes it out. -/
theorem Moored.aside (h : p.Moored) (ha : p.Aside q)
    (hd : q.once.done = true → p.once.done = true ∨ q.status = .closed) : q.Moored where
  settled hc := by
    rw [ha.phase]
    refine h.settled ?_
    obtain hq | hq := ha.connection
    · exact hq ▸ hc
    · rw [hq] at hc
      cases hc
  closed hq := (hd hq).elim (fun hp => ha.closed (h.closed hp)) fun hs => hs

section Shutdown

variable {now ticket : Nat} {reason : CloseReason}

theorem PassMove.closed_of_done {shown : List Effect} (h : PassMove p ticket reason shown q es nx)
    (hd : q.once.done = true) : p.once.done = true ∨ q.status = .closed := by
  cases h with
  | hook => exact .inl hd
  | close => exact .inr rfl

theorem DisconnectMove.closed_of_done (h : DisconnectMove p ticket reason q es nx)
    (hd : q.once.done = true) :
    p.once.done = true ∨ q.status = .closed := by
  cases h with
  | release => exact .inl hd
  | pass _ hp => exact hp.closed_of_done hd

theorem RunMove.closed_of_done (h : RunMove p now ticket reason q es nx) (hd : q.once.done = true) :
    p.once.done = true ∨ q.status = .closed := by
  cases h with
  | closed hs => exact .inr hs
  | settle => exact .inl hd
  | disconnect _ _ hm => exact hm.closed_of_done hd

theorem EnterMove.closed_of_done (h : EnterMove p now ticket reason q es nx) (hd : q.once.done = true) :
    p.once.done = true ∨ q.status = .closed := by
  cases h with
  | run _ _ hr => exact hr.closed_of_done hd
  | _ => exact .inl hd

theorem ShutdownMove.closed_of_done {stage : ShutdownStage} {a : Answer}
    (h : ShutdownMove p now ticket reason stage a q es nx) (hd : q.once.done = true) :
    p.once.done = true ∨ q.status = .closed := by
  cases h with
  | queuedRun _ hr => exact hr.closed_of_done hd
  | foundClosed wake _ hs => exact .inr hs
  | disconnect _ _ _ hm => exact hm.closed_of_done hd
  | releaseEnds _ _ _ hp => exact hp.closed_of_done hd
  | close => exact .inr rfl
  | _ => exact .inl hd

end Shutdown
end Pump

namespace Session

theorem moored_step {s t : Session} {c : Cause} (hi : s.Led) (hh : s.Halted) (h : s.pump.Moored)
    (hs : s.Step c t) : t.pump.Moored := by
  cases hs with
  | start hm => exact hm.moored hh.linked h
  | shutdown reason hm =>
    rw [pump_carry, hm.leave]
    exact h.aside hm.aside hm.closed_of_done
  | deliver report batch hm =>
    rw [pump_carry, hm.leave]
    exact h.aside hm.aside fun hd => .inl (hm.once ▸ hd)
  | fail e hm => exact h.aside hm.aside fun hd => .inl (hm.keeps.once ▸ hd)
  | report n e he => exact h
  | discard n hn => exact h
  | tellStart id w a stage ht hw hm =>
    obtain ⟨ho, -, hp⟩ := hi.openers_of_start ht.call? hw
    refine hm.moored hh.linked (fun r hr => ?_) hp h
    exact hh.release r (by rw [ho, hr]; exact List.mem_cons_self)
  | tellShutdown id w a ticket reason stage ht hw hm =>
    rw [pump_carry, hm.leave]
    exact h.aside hm.aside hm.closed_of_done
  | tellDelivery id w a stage ht hw hm =>
    rw [pump_carry, hm.leave]
    exact h
  | tellReport id w outcome ticket ht hw hm =>
    rw [pump_carry, hm.leave]
    exact h.aside hm.aside hm.closed_of_done
  | drop id w hw =>
    -- an opening call that is dropped counts as settled
    have hm : (s.pump.abandon w.call).Moored := by
      cases w.call with
      | start => exact ⟨fun _ => rfl, h.closed⟩
      | shutdown => exact ⟨h.settled, h.closed⟩
      | _ => exact h
    exact hm
  | bump => exact ⟨h.settled, h.closed⟩
  | pass ticks => exact h

end Session
end PartitionConsumer
