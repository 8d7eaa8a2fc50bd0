import PartitionConsumer.Proofs.Statuses
import PartitionConsumer.Proofs.CutShort.Leaving
/-!
# Opens cut short

A shutdown ends the open. Whenever it is called, from then on nothing is created, the pump does not come
to run, and no handler is installed. A call that waits for the transport, or between two attempts, is told
at once that it is cancelled; it closes the client it has got, if any, returns, and blames nobody.
-/
namespace PartitionConsumer

/-! ## The call for shutdown -/

namespace Session

variable {s t : Session} {c : Cause} {id : Nat} {w : Waiting} {stage : OpenStage}

/-- A call for shutdown begins: a caller's own, or that which the deferred part of a failure goes on
with. -/
def ShutsDown (s : Session) (c : Cause) : Prop :=
  (∃ reason, c = .shutdown reason)
    ∨ ∃ id w a ticket, c = .answer id a ∧ s.call? id = some w ∧ w.call = .report ticket

theorem ShutsDown.id?_ne (h : s.ShutsDown c) (hw : s.call? id = some w) (hc : w.call = .start stage) :
    c.id? ≠ some id := by
  obtain ⟨reason, rfl⟩ | ⟨j, v, a, ticket, rfl, hv, hr⟩ := h
  · exact nofun
  · intro he
    obtain rfl := Option.some.inj he
    obtain rfl : v = w := Option.some.inj (hv.symm.trans hw)
    rw [hc] at hr
    cases hr

inductive Enters (s : Session) (c : Cause) (k : Nat) (reason : CloseReason) (b : Session) : Prop where
  | begins (hk : k = s.next) (hb : b = s.begin (.shutdown reason))
  | goesOn {w : Waiting} {a : Answer} {ticket : Nat} (ht : s.Tells k w a c) (hw : w.call = .report ticket)
    (hr : reason = .shutdown) (hb : b = s.told k w a)

/-- The call for shutdown begins, and that is all that happens. -/
theorem ShutsDown.enters (h : s.ShutsDown c) (hi : s.Tidy) (hs : s.Step c t) :
    ∃ k reason b q es nx, s.Enters c k reason b ∧ t = b.carry k (.shutdown reason) q es nx
      ∧ s.pump.EnterMove s.now k reason q es nx := by
  have other {id : Nat} {w : Waiting} {a : Answer} (ht : s.Tells id w a c)
      (hn : ∀ ticket, w.call ≠ .report ticket) : False := by
    obtain ⟨reason, rfl⟩ | ⟨j, v, b, ticket, rfl, hv, hr⟩ := h
    · cases ht
    · cases ht with
      | answer hw ha =>
        obtain rfl : v = w := Option.some.inj (hv.symm.trans hw)
        exact hn ticket hr
  cases hs with
  | shutdown reason hm => exact ⟨_, reason, _, _, _, _, .begins rfl rfl, rfl, hm⟩
  | tellReport id w outcome ticket ht hw hm =>
    obtain ⟨rfl, -⟩ := (hi.fits_call ht.call?).of_report hw
    exact ⟨_, _, _, _, _, _, .goesOn ht hw rfl rfl, rfl, hm⟩
  | tellStart id w a stage ht hw => exact (other ht (by simp [hw])).elim
  | tellShutdown id w a ticket reason stage ht hw => exact (other ht (by simp [hw])).elim
  | tellDelivery id w a stage ht hw => exact (other ht (by simp [hw])).elim
  | _ => obtain ⟨_, h⟩ | ⟨_, _, _, _, h, -⟩ := h <;> cases h

theorem Enters.history {k : Nat} {reason : CloseReason} {b : Session} (h : s.Enters c k reason b) :
    ∃ ms, b.history = s.history ++ ms ++ [.began k (.shutdown reason)] ∧ effects ms = [] := by
  cases h with
  | begins hk hb =>
    exact ⟨[], by rw [hb, hk, List.append_nil]; rfl, rfl⟩
  | @goesOn w a ticket ht hw hr hb =>
    refine ⟨[.told k w a], ?_, rfl⟩
    rw [hb, hr, history_told, Waiting.marks, hw, List.append_assoc]
    rfl

/-- From the call on the pump is stopping. The call itself shows nothing of an open. -/
theorem ShutsDown.stops (h : s.ShutsDown c) (hi : s.Tidy) (hp : s.pump.Braced) (hs : s.Step c t) :
    t.pump.stopping = true
      ∧ ∃ ms, t.history = s.history ++ ms ∧ (effects ms).any Effect.isOfOpen = false := by
  obtain ⟨k, reason, b, q, es, nx, he, rfl, hm⟩ := h.enters hi hs
  obtain ⟨ms, hb, hms⟩ := he.history
  have hb' : b.history = s.history ++ (ms ++ [.began k (.shutdown reason)]) := by rw [hb, List.append_assoc]
  have hms' : effects (ms ++ [.began k (.shutdown reason)]) = [] := by rw [effects_append, hms]; rfl
  obtain ⟨ks, hk, he⟩ := exists_effects_carry k (.shutdown reason) q es nx hb' hms'
  exact ⟨stopping_leave_of (hm.stops hp), ks, hk, he ▸ hm.apart⟩

/-- A pump that is stopping does not come to run. -/
theorem statusAfter_ne_running {st : Status} {es : List Effect}
    (h : es.any Effect.connects = false) (hs : st ≠ .running) : statusAfter st es ≠ .running := by
  induction es generalizing st with
  | nil => exact hs
  | cons e es ih =>
    rw [List.any_cons, Bool.or_eq_false_iff] at h
    refine ih h.2 ?_
    cases e with
    | status s =>
      rintro rfl
      cases h.1
    | _ => exact hs

end Session

section Main

variable {context : Context} {lease : Lease} {options : Options} {wire : String} {draw : Nat → Nat}

/-- From the moment a shutdown is called, `c` in `s`, nothing is created for the pump, it does not come
to run, and no handler is installed. If an open waits then for the transport or for its next attempt,
nobody is blamed for its end: it is told that it is cancelled, closes the client it has, and returns. It
can do so at once, and in a prompt run it has done so before any time passes. -/
theorem shutdown_cuts_open_short {cs ds : List Cause} {c : Cause} {s t u : Session}
    (h : (Session.new (.new context lease options wire draw)).run cs = some s)
    (hc : s.ShutsDown c) (ht : s.step? c = some t) (hu : t.run ds = some u) :
    ∃ ms, u.history = s.history ++ ms
      ∧ (effects ms).any Effect.connects = false
      ∧ (s.pump.status ≠ .running → u.pump.status ≠ .running)
      ∧ ∀ id w stage, s.call? id = some w → w.call = .start stage → stage.isCuttable = true →
        (effects ms).any Effect.blames = false
          ∧ (.drop id ∉ ds → Parting id w (u.call? id) (trail id ms)
            ∧ (t.runsPromptly ds = true → u.now = t.now ∨ u.call? id = none)
            ∧ ∃ es v, (∀ e ∈ es, e.id? = some id ∧ e.isDrop = false) ∧ u.run es = some v
              ∧ v.now = u.now ∧ v.call? id = none) := by
  obtain ⟨hi, hl, hk⟩ := Session.climbed_of_run h
  have hst := Session.step_of_step? hi.tidy.trace ht
  obtain ⟨hts, ns, hn, hq⟩ := hc.stops hi.tidy (Session.braced_of_run h) hst
  have hmute (f : Effect → Bool) (hf : ∀ e, f e = true → e.isOfOpen = true) :
      (effects ns).any f = false :=
    List.any_eq_false.2 fun e hm hfe => List.any_eq_false.1 hq e hm (hf e hfe)
  -- whatever follows, the pump is stopping
  have hquiet : u.Led ∧ u.pump.stopping = true
      ∧ ∃ ms, u.history = s.history ++ ms ∧ (effects ms).any Effect.connects = false := by
    refine Session.run_led (P := fun u => u.pump.stopping = true
        ∧ ∃ ms, u.history = s.history ++ ms ∧ (effects ms).any Effect.connects = false) (hi.step hst)
      ⟨hts, ns, hn, hmute _ fun e he => by simp [Effect.isOfOpen, he]⟩ ?_ hu
    rintro v d x - ⟨hvs, ms, hm, hc⟩ hs
    obtain ⟨ks, hk, hkc⟩ := hs.connects hvs
    refine ⟨hs.stopping hvs, ms ++ ks, ?_, ?_⟩
    · rw [hk, hm, List.append_assoc]
    · rw [effects_append, List.any_append, hc, hkc]
      rfl
  obtain ⟨-, -, ms, hms, hmc⟩ := hquiet
  refine ⟨ms, hms, hmc, fun hr => ?_, fun id w stage hw hcall hcut => ?_⟩
  · rw [← (Session.climbed_of_run (Session.run_through h ht hu)).2.2.shown, hms, statusIn_append, hk.shown]
    exact Session.statusAfter_ne_running hmc hr
  · have ha := hst.aloof (hi.tidy.lt_next hw) (hc.id?_ne hw hcall)
    have hstart : t.Leaving s.history id w (.drop id ∈ ds) := by
      obtain ⟨ks, hk, htr⟩ := ha.marks
      obtain rfl := List.append_cancel_left (hn.symm.trans hk)
      refine ⟨hi.step hst, hts, ha.next, ⟨ns, hn, ?_, .inl ?_⟩, fun hg => ?_⟩
      · exact hmute _ fun e he => by simp [Effect.isOfOpen, he]
      · rw [htr, ha.call, hw]
        exact .waits
      · rw [ha.call, hw] at hg
        cases hg
    have hend : u.Leaving s.history id w (.drop id ∈ ds) :=
      Session.run_induction hstart (fun v d x hd hv hx => hv.step hcall hcut (fun he => he ▸ hd) hx) hu
    obtain ⟨ks, hk, hb, hp⟩ := hend.marks
    obtain rfl := List.append_cancel_left (hms.symm.trans hk)
    refine ⟨hb, fun hd => ⟨?_, fun hr => ?_, hend.returns hcall hcut⟩⟩
    · exact hp.resolve_right fun hn => hd hn.1
    · exact hstart.prompt (.inl rfl) hcall hcut hd hr hu

/-- A shutdown comes while the receiver is created, and then time passes. -/
theorem shutdown_cuts_open_short_in_receiver :
    ∃ s t u ms w, Session.sample.run [.start, .answer 0 (.hook (.ok ())), .answer 0 (.client (.ok 0)),
        .wake 0] = some s
      ∧ s.step? (.shutdown .leaseLost) = some t
      ∧ t.run [.answer 0 .cancelled, .answer 0 (.released (.ok ())), .wake 1, .pass 5] = some u
      ∧ s.call? 0 = some w ∧ u.now ≠ t.now ∧ u.history = s.history ++ ms
      ∧ (effects ms).any Effect.connects = false ∧ Parting 0 w none (trail 0 ms) := by
  have hr : ((Session.sample.run [.start, .answer 0 (.hook (.ok ())), .answer 0 (.client (.ok 0)),
        .wake 0]).bind fun s => (s.step? (.shutdown .leaseLost)).bind fun t =>
      (t.run [.answer 0 .cancelled, .answer 0 (.released (.ok ())), .wake 1, .pass 5]).map fun u =>
        (((s.call? 0).bind Waiting.opening?).any OpenStage.isCuttable,
          t.runsPromptly [.answer 0 .cancelled, .answer 0 (.released (.ok ())), .wake 1, .pass 5],
          t.now, u.now)) = some (true, true, 0, 5) := by rfl
  obtain ⟨s, hs, hr⟩ := Option.bind_eq_some_iff.1 hr
  obtain ⟨t, ht, hr⟩ := Option.bind_eq_some_iff.1 hr
  obtain ⟨u, hu, he⟩ := Option.map_eq_some_iff.1 hr
  simp only [Prod.mk.injEq] at he
  obtain ⟨hw, hp, htn, hun⟩ := he
  obtain ⟨stage, hst, hk⟩ : ∃ stage, (s.call? 0).bind Waiting.opening? = some stage
      ∧ stage.isCuttable = true := by
    cases hst : (s.call? 0).bind Waiting.opening? with
    | none => rw [hst] at hw; cases hw
    | some stage => exact ⟨stage, rfl, by rw [hst] at hw; exact hw⟩
  obtain ⟨w, hw, hst⟩ := Option.bind_eq_some_iff.1 hst
  have hc : w.call = .start stage := by
    unfold Waiting.opening? Call.opening? at hst
    split at hst
    · rename_i hc
      rw [hc, Option.some.inj hst]
    · cases hst
  have hne : u.now ≠ t.now := by omega
  obtain ⟨ms, hms, hcn, -, hcut⟩ := shutdown_cuts_open_short hs (.inl ⟨_, rfl⟩) ht hu
  obtain ⟨hpa, hpr, -⟩ := (hcut 0 w stage hw hc hk).2 (by simp)
  exact ⟨s, t, u, ms, w, hs, ht, hu, hw, hne, hms, hcn, (hpr hp).resolve_left hne ▸ hpa⟩

end Main
end PartitionConsumer
