import PartitionConsumer.Proofs.Session.Stopping
import PartitionConsumer.Proofs.Session.Trails
import PartitionConsumer.Proofs.GivenUp.Moorings
import PartitionConsumer.Proofs.Failures.Tasks
/-!
# What becomes of a pump that has broken down

A pump that is errored is not being shut down: whoever comes to shut it down takes it out of that state
at once. The deferred part of the failure is one of those who do, once the error hook has returned, and
when it has returned itself the pump is closed.
-/
namespace PartitionConsumer
namespace Pump

variable {p q : Pump} {es : List Effect} {nx : Next}

/-- A pump that runs, or has broken down, has been opened and is not stopping. -/
def Afloat (p : Pump) : Prop :=
  p.status = .running ∨ p.status = .errored → p.stopping = false ∧ p.phase ≠ .opening

theorem Afloat.of_down (h : p.status = .closing ∨ p.status = .closed) : p.Afloat := by
  intro hs
  obtain h | h := h <;> rw [h] at hs <;> simp at hs

theorem Afloat.leave (h : q.Afloat) (nx : Next) : (nx.leave q).Afloat := by
  cases nx with
  | crash => exact fun hs => ⟨(h hs).1, nofun⟩
  | _ => exact h

theorem StartMove.afloat (h : StartMove p q es nx) (ha : p.Afloat) : q.Afloat := by
  cases h with
  | ignored => exact ha
  | opens =>
    intro hs
    simp at hs

/-- The call that opens the pump brings it to run, or leaves it neither running nor broken down. -/
theorem OpenMove.afloat {stage : OpenStage} {a : Answer} (h : OpenMove p stage a q es nx)
    (hp : p.phase = .opening) (ha : p.Afloat) : q.Afloat := by
  have same {q : Pump} (hs : q.status = p.status) : q.Afloat := fun hq =>
    absurd hp (ha (hs ▸ hq)).2
  cases h with
  | connect _ _ h => exact same h.status
  | refusedCloses => exact .of_down (.inr rfl)
  | clientFailed _ _ _ h => exact same h.status
  | install a client receiver hs ho => exact fun _ => ⟨hs, nofun⟩
  | abandoned _ _ _ h => exact same h.status
  | pauseOver _ _ h => exact same h.status
  | failedCloses => exact .of_down (.inr rfl)
  | failedReleases => exact .of_down (.inl rfl)
  | releaseCloses => exact .of_down (.inr rfl)
  | _ => exact same rfl

theorem ReceiveMove.afloat {batch : Option Batch} (h : ReceiveMove p batch q es nx) (ha : p.Afloat) :
    q.Afloat := by cases h <;> exact ha

theorem FailureMove.afloat {e : TransportError} (h : FailureMove p e q es) (ha : p.Afloat) :
    q.Afloat := by
  cases h with
  | ignored => exact ha
  | taken hr => exact fun _ => ha (.inl hr)

section Shutdown

variable {now ticket : Nat} {reason : CloseReason}

theorem PassMove.afloat {shown : List Effect} (h : PassMove p ticket reason shown q es nx)
    (ha : p.Afloat) : q.Afloat := by
  cases h with
  | hook => exact ha
  | close => exact .of_down (.inr rfl)

theorem DisconnectMove.afloat (h : DisconnectMove p ticket reason q es nx) (hs : p.status ≠ .closed) :
    q.Afloat := by
  have hu : p.unlinked.Afloat := .of_down (.inl (status_unlinked hs))
  cases h with
  | release => exact hu
  | pass _ hp => exact hp.afloat hu

theorem RunMove.afloat (h : RunMove p now ticket reason q es nx) (ha : p.Afloat) : q.Afloat := by
  cases h with
  | closed hs => exact .of_down (.inr hs)
  | settle _ hp => exact fun hs => absurd hp (ha hs).2
  | disconnect hs _ hd => exact hd.afloat hs

theorem EnterMove.afloat (h : EnterMove p now ticket reason q es nx) (ha : p.Afloat) : q.Afloat := by
  cases h with
  | run _ _ hr => exact hr.afloat ha
  | _ => exact ha

theorem ShutdownMove.afloat {stage : ShutdownStage} {a : Answer}
    (h : ShutdownMove p now ticket reason stage a q es nx) (ha : p.Afloat) : q.Afloat := by
  cases h with
  | queuedRun _ hr => exact hr.afloat ha
  | disconnect _ _ hs hd => exact hd.afloat hs
  | releaseEnds _ _ _ hp => exact hp.afloat ha
  | close => exact .of_down (.inr rfl)
  | _ => exact ha

end Shutdown
end Pump

/-- The deferred part of a failure, or the shutdown it goes on as. -/
def Errand.isOfReport : Errand → Bool
  | .report _ | .shutdown _ => true
  | _ => false

namespace Session

variable {s t : Session} {c : Cause}

theorem Led.afloat_step (hi : s.Led) (ha : s.pump.Afloat) (h : s.Step c t) : t.pump.Afloat := by
  cases h with
  | start hm => exact (hm.afloat ha).leave _
  | shutdown reason hm => exact (hm.afloat ha).leave _
  | deliver report batch hm => exact (hm.afloat ha).leave _
  | fail e hm => exact hm.afloat ha
  | tellStart id w a stage ht hw hm =>
    obtain ⟨-, -, hp⟩ := hi.openers_of_start ht.call? hw
    exact (hm.afloat hp ha).leave _
  | tellShutdown id w a ticket reason stage ht hw hm => exact (hm.afloat ha).leave _
  | tellDelivery => exact ha.leave _
  | tellReport id w outcome ticket ht hw hm => exact (hm.afloat ha).leave _
  | drop id w hw =>
    have hd : (s.pump.abandon w.call).Afloat := by
      cases w.call with
      | start => exact fun hs => ⟨(ha hs).1, nofun⟩
      | _ => exact ha
    exact hd
  | _ => exact ha

/-- A pump is stopping once the deferred part of a failure has gone on from the error hook. -/
def Answered (s : Session) : Prop := reported s.history ≠ [] → s.pump.stopping = true

theorem Answered.step (hb : s.pump.Braced) (hi : s.Tidy) (h : s.Answered) (hs : s.Step c t) :
    t.Answered := by
  have old (he : reported t.history = reported s.history) : t.Answered := fun hr =>
    hs.stopping (h (he ▸ hr))
  have carry {b : Session} {ms : List Mark} (hb : b.history = s.history ++ ms) (hm : reported ms = [])
      {id : Nat} {errand : Errand} {q : Pump} {es : List Effect} {nx : Next} :
      reported (b.carry id errand q es nx).history = reported s.history := by
    rw [b.history_carry_of id errand q es nx hb, reported_append, reported_append, reported_append, hm,
      reported_did, reported_end]
    exact List.append_nil _
  have unanswered {id : Nat} {w : Waiting} (hw : s.call? id = some w)
      (hc : ∀ ticket, w.call ≠ .report ticket) (a : Answer) : reported (w.marks id a) = [] := by
    rw [reported_marks, Waiting.report?, (hi.fits_call hw).report?_eq_none hc]
    rfl
  cases hs with
  | start hm => exact old (carry (b := s.begin _) rfl rfl)
  | shutdown reason hm => exact old (carry (b := s.begin _) rfl rfl)
  | deliver report batch hm => exact old (carry (b := s.begin _) rfl rfl)
  | fail e hm => exact old (carry (b := s.begin _) rfl rfl)
  | report n e he => exact old (carry (b := (s.forget n).begin _) rfl rfl)
  | tellStart id w a stage ht hw hm =>
    exact old (carry (b := s.told id w a) rfl (unanswered ht.call? (by simp [hw]) a))
  | tellShutdown id w a ticket reason stage ht hw hm =>
    exact old (carry (b := s.told id w a) rfl (unanswered ht.call? (by simp [hw]) a))
  | tellDelivery id w a stage ht hw hm =>
    exact old (carry (b := s.told id w a) rfl (unanswered ht.call? (by simp [hw]) a))
  | tellReport id w outcome ticket ht hw hm => exact fun _ => stopping_leave_of (hm.stops hb)
  | drop id w hw => exact old ((reported_append ..).trans (List.append_nil _))
  | pass ticks => exact old ((reported_append ..).trans (List.append_nil _))
  | discard n hn => exact old rfl
  | bump => exact old rfl

/-! ## The deferred part returns as a shutdown -/

/-- Marks are of calls that have begun. The deferred part of a failure goes on as a shutdown, and returns
as one. -/
structure Forwarded (s : Session) : Prop where
  numbered : ∀ m ∈ s.history, ∀ id ∈ m.id?, id < s.next
  waits : ∀ x ∈ s.calls, ∀ e, .began x.1 (.report e) ∈ s.history → x.2.errand.isOfReport = true
  returned : ∀ id e errand, .began id (.report e) ∈ s.history → .returned id errand ∈ s.history →
    ∃ reason, errand = .shutdown reason

namespace Forwarded

variable {b : Session} {id : Nat} {errand : Errand} {q : Pump} {es : List Effect} {nx : Next}

theorem new (p : Pump) : (new p).Forwarded where
  numbered _ hm := absurd hm List.not_mem_nil
  waits _ hx := absurd hx List.not_mem_nil
  returned _ _ _ hm := absurd hm List.not_mem_nil

/-- Marks of calls that have begun, by which none begins a deferred part or returns. -/
theorem note (h : s.Forwarded) {ms : List Mark} (hn : ∀ m ∈ ms, ∀ id ∈ m.id?, id < s.next)
    (hb : ∀ id e, .began id (.report e) ∉ ms) (hr : ∀ id e, .returned id e ∉ ms) :
    (s.note ms).Forwarded where
  numbered m hm := (List.mem_append.1 hm).elim (h.numbered m) (hn m)
  waits x hx e hm := h.waits x hx e ((List.mem_append.1 hm).resolve_right (hb x.1 e))
  returned id e errand hm hr' := h.returned id e errand ((List.mem_append.1 hm).resolve_right (hb id e))
    ((List.mem_append.1 hr').resolve_right (hr id errand))

theorem begin (h : s.Forwarded) (hi : s.Tidy) (e : Errand) : (s.begin e).Forwarded where
  numbered m hm id hid := by
    obtain hm | hm := List.mem_append.1 hm
    · exact Nat.lt_succ_of_lt (h.numbered m hm id hid)
    · obtain rfl := List.mem_singleton.1 hm
      obtain rfl := Option.some.inj hid
      exact Nat.lt_succ_self _
  waits x hx e' hm := by
    obtain hm | hm := List.mem_append.1 hm
    · exact h.waits x hx e' hm
    · -- no call waits under the new number yet
      have hx' := hi.fresh x hx
      rw [(Mark.began.inj (List.mem_singleton.1 hm)).1] at hx'
      exact absurd hx' (Nat.lt_irrefl _)
  returned id e' errand hm hr := by
    have hr : .returned id errand ∈ s.history := (List.mem_append.1 hr).resolve_right (by simp)
    obtain hm | hm := List.mem_append.1 hm
    · exact h.returned id e' errand hm hr
    · have hn := h.numbered _ hr id rfl
      rw [(Mark.began.inj (List.mem_singleton.1 hm)).1] at hn
      exact absurd hn (Nat.lt_irrefl _)

theorem carry (h : b.Forwarded) (hid : id < b.next)
    (hw : ∀ e, .began id (.report e) ∈ b.history → errand.isOfReport = true)
    (hn : nx = .finish → errand.report? = none) : (b.carry id errand q es nx).Forwarded := by
  have began {j : Nat} {e : TransportError}
      (hm : .began j (.report e) ∈ (b.carry id errand q es nx).history) :
      .began j (.report e) ∈ b.history := by
    rw [history_carry, List.mem_append, List.mem_append] at hm
    obtain (hm | hm) | hm := hm
    · exact hm
    · simp at hm
    · obtain ⟨-, hm⟩ | ⟨-, hm⟩ := Next.mem_marks hm <;> cases hm
  refine ⟨fun m hm j hj => ?_, fun x hx e hm => ?_, fun j e f hm hr => ?_⟩
  · rw [history_carry, List.mem_append, List.mem_append] at hm
    obtain (hm | hm) | hm := hm
    · exact h.numbered m hm j hj
    · obtain ⟨e, -, rfl⟩ := List.mem_map.1 hm
      exact Option.some.inj hj ▸ hid
    · obtain ⟨-, rfl⟩ | ⟨-, rfl⟩ := Next.mem_marks hm <;> exact Option.some.inj hj ▸ hid
  · rw [calls_carry, List.mem_append] at hx
    obtain hx | hx := hx
    · obtain ⟨w, hw', rfl⟩ := List.mem_map.1 hx
      rw [Next.errand_waiting? (Option.mem_toList.1 hw')]
      exact hw e (began hm)
    · exact h.waits x hx e (began hm)
  · rw [history_carry, List.mem_append, List.mem_append] at hr
    obtain (hr | hr) | hr := hr
    · exact h.returned j e f (began hm) hr
    · simp at hr
    · obtain ⟨hnx, hr⟩ | ⟨-, hr⟩ := Next.mem_marks hr
      · -- the call itself returns
        obtain ⟨rfl, rfl⟩ := Mark.returned.inj hr
        have hf := hw e (began hm)
        cases f with
        | shutdown reason => exact ⟨reason, rfl⟩
        | report e => cases hn hnx
        | _ => cases hf
      · cases hr

theorem launch (h : s.Forwarded) (hi : s.Tidy) (hn : nx = .finish → errand.report? = none) :
    ((s.begin errand).carry s.next errand q es nx).Forwarded := by
  refine (h.begin hi errand).carry (Nat.lt_succ_self _) (fun e hm => ?_) hn
  obtain hm | hm := List.mem_append.1 hm
  · exact absurd (h.numbered _ hm _ rfl) (Nat.lt_irrefl _)
  · rw [← (Mark.began.inj (List.mem_singleton.1 hm)).2]
    rfl

theorem take (h : s.Forwarded) (id : Nat) (p : Pump) : Forwarded { s.take id with pump := p } where
  numbered := h.numbered
  waits x hx := h.waits x (mem_of_mem_take hx)
  returned := h.returned

theorem not_report_mem_marks (w : Waiting) (id : Nat) (a : Answer) (j : Nat) (e : TransportError) :
    .began j (.report e) ∉ w.marks id a := by
  intro hm
  obtain hm | hm := Waiting.mem_marks hm <;> cases hm

theorem told {w : Waiting} (h : s.Forwarded) (hi : s.Tidy) (hw : s.call? id = some w) (a : Answer) :
    (s.told id w a).Forwarded := by
  refine (h.take id s.pump).note (fun m hm j hj => ?_) (not_report_mem_marks w id a) fun j e hm => ?_
  · have hid := hi.lt_next hw
    obtain rfl | rfl := Waiting.mem_marks hm <;> exact Option.some.inj hj ▸ hid
  · obtain hm | hm := Waiting.mem_marks hm <;> cases hm

/-- A call that is told something goes on as what it is on. -/
theorem tell {w : Waiting} (h : s.Forwarded) (hi : s.Tidy) (hw : s.call? id = some w) {a : Answer}
    (hc : ∀ ticket, w.call ≠ .report ticket) :
    ((s.told id w a).carry id w.errand q es nx).Forwarded := by
  refine (h.told hi hw a).carry (hi.lt_next hw) (fun e hm => ?_) fun _ =>
    (hi.fits_call hw).report?_eq_none hc
  exact h.waits _ (mem_of_call? hw) e
    ((List.mem_append.1 hm).resolve_right (not_report_mem_marks w id a id e))

theorem step (hi : s.Tidy) (h : s.Forwarded) (hs : s.Step c t) : t.Forwarded := by
  cases hs with
  | start hm => exact h.launch hi fun _ => rfl
  | shutdown reason hm => exact h.launch hi fun _ => rfl
  | deliver report batch hm => exact h.launch hi fun _ => rfl
  | fail e hm => exact h.launch hi fun _ => rfl
  | report n e he =>
    have hf : (s.forget n).Forwarded := ⟨h.numbered, h.waits, h.returned⟩
    exact hf.launch (hi.forget n) nofun
  | discard n hn => exact ⟨h.numbered, h.waits, h.returned⟩
  | tellStart id w a stage ht hw hm => exact h.tell hi ht.call? (by simp [hw])
  | tellShutdown id w a ticket reason stage ht hw hm => exact h.tell hi ht.call? (by simp [hw])
  | tellDelivery id w a stage ht hw hm => exact h.tell hi ht.call? (by simp [hw])
  | tellReport id w outcome ticket ht hw hm =>
    exact (h.told hi ht.call? _).carry (hi.lt_next ht.call?) (fun _ _ => rfl) fun _ => rfl
  | drop id w hw =>
    refine (h.take id _).note (fun m hm j hj => ?_) (by simp) (by simp)
    obtain rfl := List.mem_singleton.1 hm
    exact Option.some.inj hj ▸ hi.lt_next hw
  | bump => exact ⟨h.numbered, h.waits, h.returned⟩
  | pass ticks =>
    have hn : Forwarded { s with now := s.now + ticks } := ⟨h.numbered, h.waits, h.returned⟩
    refine hn.note (fun m hm j hj => ?_) (by simp) (by simp)
    obtain rfl := List.mem_singleton.1 hm
    cases hj

end Forwarded
end Session
end PartitionConsumer
