import PartitionConsumer.Proofs.Session.Requested
import PartitionConsumer.Proofs.OpenFailures.Silence
/-!
# Failed opens and who reports them

An open that fails before anybody has asked for a shutdown is reported to the error hook, once, with the
very error it has ended in. When the hook has returned, the call closes the pump if no shutdown has taken
the status over, and does nothing more otherwise. Once a shutdown is requested a failed open is reported to
nobody. Calls may be dropped at any time.
-/
namespace PartitionConsumer

/-- The error hook is told that the opening hook or the sequence of attempts has failed. -/
def Request.reportsOpen : Request → Bool
  | .hook (.onError (.onOpen _)) | .hook (.onError (.opening _)) => true
  | _ => false

/-- At this stage the open is not reported to have failed any more. -/
def OpenStage.isReported : OpenStage → Bool
  | .refused _ | .failed _ | .release .. => true
  | _ => false

theorem Effect.isOfOpen_of_reportsOpen {e : Effect} (h : e.asks Request.reportsOpen = true) :
    e.isOfOpen = true := by
  cases e with
  | ask r =>
    have h : r.reportsOpen = true := h
    unfold Request.reportsOpen at h
    split at h
    · rfl
    · rfl
    · cases h
  | _ => cases h

namespace Pump

variable {p q : Pump} {es : List Effect} {nx : Next}

/-! ## What a move reports -/

structure ReportsOnce (before : Bool) (es : List Effect) (nx : Next) : Prop where
  le : es.countP (Effect.asks Request.reportsOpen) ≤ 1
  first : before = true → es.countP (Effect.asks Request.reportsOpen) = 0
  after : ∀ stage ∈ nx.opening?, stage.isReported = false →
    before = false ∧ es.countP (Effect.asks Request.reportsOpen) = 0

theorem ReportsOnce.none {before : Bool} (h : es.countP (Effect.asks Request.reportsOpen) = 0)
    (hn : ∀ stage ∈ nx.opening?, stage.isReported = false → before = false) :
    ReportsOnce before es nx where
  le := by omega
  first _ := h
  after stage hm hs := ⟨hn stage hm hs, h⟩

theorem AttemptMove.reportsOnce {cut : Bool} {shown : List Effect}
    (h : AttemptMove p cut shown q es nx)
    (hs : shown.countP (Effect.asks Request.reportsOpen) = 0) : ReportsOnce false es nx := by
  cases h with
  | attempt a =>
    refine .none ?_ fun _ _ _ => rfl
    rw [List.countP_append, hs]
    rfl
  | report e =>
    have he : (shown ++ [Effect.ask (.hook (.onError (.opening e)))]).countP
        (Effect.asks Request.reportsOpen) = 1 := by
      rw [List.countP_append, hs]
      rfl
    refine ⟨Nat.le_of_eq he, nofun, fun stage hm hst => ?_⟩
    obtain rfl := Option.some.inj hm
    cases hst
  | _ => exact .none hs fun _ _ _ => rfl

theorem asks_reportsOpen_request (r : Release) : r.request.reportsOpen = false := by
  unfold Release.request
  split <;> rfl

theorem OpenMove.reportsOnce {stage : OpenStage} {a : Answer} (h : OpenMove p stage a q es nx) :
    ReportsOnce stage.isReported es nx := by
  cases h with
  | refuse e =>
    refine ⟨Nat.le_refl 1, nofun, fun stage hm hs => ?_⟩
    obtain rfl := Option.some.inj hm
    cases hs
  | connect _ _ h => exact h.reportsOnce rfl
  | clientFailed b f hs h =>
    have hk : stage.isReported = false := by
      obtain ⟨rfl, -⟩ | ⟨rfl, -⟩ | ⟨e, rfl, -⟩ := hs <;> rfl
    rw [hk]
    exact h.reportsOnce (by simp)
  | receiverFailed b client e hs =>
    have hk : stage.isReported = false := by
      obtain ⟨rfl, -⟩ | ⟨rfl, -⟩ := hs <;> rfl
    rw [hk]
    exact .none rfl fun _ _ _ => rfl
  | abandoned b f outcome h => exact h.reportsOnce (by simp)
  | pauseOver b wake h => exact h.reportsOnce rfl
  | releaseNext r r' closing outcome =>
    refine .none ?_ fun stage hm hs => ?_
    · simp [asks_reportsOpen_request]
    · obtain rfl := Option.some.inj hm
      cases hs
  | failedReleases =>
    refine .none (by simp [Request.reportsOpen]) fun stage hm hs => ?_
    obtain rfl := Option.some.inj hm
    cases hs
  | refusedCloses => exact .none (by simp) (Next.forall_opening? rfl)
  | failedCloses => exact .none (by simp) (Next.forall_opening? rfl)
  | releaseCloses => exact .none (by simp) (Next.forall_opening? rfl)
  | releaseEnds => exact .none (by simp) (Next.forall_opening? rfl)
  | install => exact .none (by simp) (Next.forall_opening? rfl)
  | reject => exact .none rfl fun _ _ _ => rfl
  | _ => first | exact .none rfl fun _ _ _ => rfl | exact .none rfl (Next.forall_opening? rfl)

/-- The sequence of attempts is reported to have failed only while no shutdown was requested, and never to
have been cancelled. -/
theorem AttemptMove.blamed {cut : Bool} {shown : List Effect} {e : OpenError}
    (h : AttemptMove p cut shown q es nx)
    (hs : shown.countP (Effect.asks Request.reportsOpen) = 0)
    (hm : .ask (.hook (.onError (.opening e))) ∈ es) : p.stopping = false ∧ e ≠ .cancelled := by
  have hn : .ask (.hook (.onError (.opening e))) ∉ shown := fun hm =>
    absurd (show (Effect.ask (.hook (.onError (.opening e)))).asks Request.reportsOpen = true from rfl)
      (List.countP_eq_zero.1 hs _ hm)
  cases h with
  | attempt a =>
    obtain hm | hm := List.mem_append.1 hm
    · exact absurd hm hn
    · cases List.mem_singleton.1 hm
  | report f hs hf =>
    obtain hm | hm := List.mem_append.1 hm
    · exact absurd hm hn
    · cases List.mem_singleton.1 hm
      exact ⟨hs, hf⟩
  | _ => exact absurd hm hn

theorem OpenMove.blamed {stage : OpenStage} {a : Answer} {e : OpenError}
    (h : OpenMove p stage a q es nx) (hm : .ask (.hook (.onError (.opening e))) ∈ es) :
    p.stopping = false ∧ e ≠ .cancelled := by
  have hpos : 0 < es.countP (Effect.asks Request.reportsOpen) := List.countP_pos_iff.2 ⟨_, hm, rfl⟩
  have other (hz : es.countP (Effect.asks Request.reportsOpen) = 0) :
      p.stopping = false ∧ e ≠ .cancelled := by omega
  cases h with
  | refuse f => cases List.mem_singleton.1 hm
  | connect _ _ h => exact h.blamed rfl hm
  | clientFailed b f hs h => exact h.blamed (by simp) hm
  | abandoned b f outcome h => exact h.blamed (by simp) hm
  | pauseOver b wake h => exact h.blamed rfl hm
  | releaseNext r r' closing outcome => exact other (by simp [asks_reportsOpen_request])
  | failedReleases => exact other (by simp [Request.reportsOpen])
  | refusedCloses => exact other (by simp)
  | failedCloses => exact other (by simp)
  | releaseCloses => exact other (by simp)
  | releaseEnds => exact other (by simp)
  | install => exact other (by simp)
  | _ => exact other rfl

end Pump

namespace Session

/-! ## A failed open is reported once -/

/-- The open was reported to have failed once at most, not before its call has come so far, and the
sequence of attempts only while no shutdown was requested. -/
structure Reported (s : Session) : Prop where
  le : asked Request.reportsOpen s.history ≤ 1
  opener : ∀ stage ∈ s.openers, stage.isReported = false → asked Request.reportsOpen s.history = 0
  unopened : s.pump.status = .uninitialized → asked Request.reportsOpen s.history = 0
  apart : Always (fun pre m => ∀ id e, m = .did id (.ask (.hook (.onError (.opening e)))) →
    e ≠ .cancelled ∧ firstShutdown? pre = none) s.history

namespace Reported

variable {s b t : Session} {c : Cause} {id : Nat} {errand : Errand} {q : Pump} {es : List Effect}
  {nx : Next}

theorem new {context : Context} {lease : Lease} {options : Options} {wire : String}
    {draw : Nat → Nat} : (Session.new (.new context lease options wire draw)).Reported where
  le := Nat.zero_le _
  opener := nofun
  unopened _ := rfl
  apart := .nil

/-- Marks of no effect do not matter. -/
theorem note (h : s.Reported) {ms : List Mark} (hm : effects ms = []) : (s.note ms).Reported := by
  have ha : asked Request.reportsOpen (s.history ++ ms) = asked Request.reportsOpen s.history := by
    simp [asked, hm]
  refine ⟨ha ▸ h.le, fun stage hs hr => ha.trans (h.opener stage hs hr), fun hu => ha.trans (h.unopened hu),
    ?_⟩
  refine h.apart.append_of_forall fun pre m hk => ?_
  rintro i e rfl
  have hmem : .ask (.hook (.onError (.opening e))) ∈ effects ms := List.mem_filterMap.2 ⟨_, hk, rfl⟩
  rw [hm] at hmem
  cases hmem

theorem begin (h : s.Reported) (e : Errand) : (s.begin e).Reported := by
  have hs : Reported { s with next := s.next + 1 } := ⟨h.le, h.opener, h.unopened, h.apart⟩
  exact hs.note rfl

theorem take (h : s.Reported) (id : Nat) : (s.take id).Reported :=
  ⟨h.le, fun stage hm => h.opener stage (mem_waiting_take hm), h.unopened, h.apart⟩

theorem told (h : s.Reported) (id : Nat) (w : Waiting) (a : Answer) : (s.told id w a).Reported :=
  (h.take id).note (effects_marks w id a)

/-- A call goes on and reports no failed open. -/
theorem silent (h : b.Reported) (hv : es.any Effect.isOfOpen = false)
    (ho : ∀ stage ∈ (b.carry id errand q es nx).openers, stage.isReported = false →
      asked Request.reportsOpen b.history = 0)
    (hu : q.status = .uninitialized → asked Request.reportsOpen b.history = 0) :
    (b.carry id errand q es nx).Reported := by
  have hz : es.countP (Effect.asks Request.reportsOpen) = 0 :=
    List.countP_eq_zero.2 fun e hm hr =>
      absurd (Effect.isOfOpen_of_reportsOpen hr) (List.any_eq_false.1 hv e hm)
  have ha : asked Request.reportsOpen (b.carry id errand q es nx).history
      = asked Request.reportsOpen b.history := by rw [asked_carry, hz, Nat.add_zero]
  refine ⟨ha ▸ h.le, fun stage hm hr => ha.trans (ho stage hm hr), fun hs => ?_, ?_⟩
  · rw [pump_carry, Next.status_leave] at hs
    exact ha.trans (hu hs)
  · refine always_carry _ _ _ _ _ _ h.apart (fun pre e post hs => ?_) fun pre m hm => ?_
    · rintro i f hd
      obtain ⟨-, rfl⟩ := Mark.did.inj hd
      refine absurd rfl (List.any_eq_false.1 hv (.ask (.hook (.onError (.opening f)))) ?_)
      rw [hs]
      exact List.mem_append_right _ List.mem_cons_self
    · rintro i e rfl
      obtain ⟨-, h⟩ | ⟨-, h⟩ := Next.mem_marks hm <;> cases h

/-- A call goes on that does not open the pump. -/
theorem aside (h : b.Reported) (hf : nx.Fits id errand) (he : errand ≠ .start)
    (hu : q.status = .uninitialized → b.pump.status = .uninitialized)
    (hv : es.any Effect.isOfOpen = false) : (b.carry id errand q es nx).Reported := by
  refine h.silent hv (fun stage hm hr => ?_) fun hs => h.unopened (hu hs)
  rw [openers_carry, hf.opening? he] at hm
  exact h.opener stage hm hr

/-- The call that opens the pump goes on. -/
theorem opening (h : s.Reported) (hr : s.Requested) (hi : s.Led) {w : Waiting} {a : Answer}
    {stage : OpenStage} (ht : s.Tells id w a c) (hw : w.call = .start stage)
    (hm : s.pump.OpenMove stage a q es nx) : ((s.told id w a).carry id w.errand q es nx).Reported := by
  obtain ⟨-, ho, hl, -⟩ := hi.told_start ht hw
  obtain ⟨-, -, hp⟩ := hi.openers_of_start ht.call? hw
  have hb := h.told id w a
  have ha : asked Request.reportsOpen ((s.told id w a).carry id w.errand q es nx).history
      = asked Request.reportsOpen s.history + es.countP (Effect.asks Request.reportsOpen) := by
    rw [asked_carry, asked_told]
  have honce := hm.reportsOnce
  have hopen := h.opener stage (by rw [ho]; exact List.mem_cons_self)
  refine ⟨?_, fun stage' hs hk => ?_, fun hs => ?_, ?_⟩
  · rw [ha]
    cases hk : stage.isReported with
    | false =>
      rw [hopen hk, Nat.zero_add]
      exact honce.le
    | true =>
      rw [honce.first hk, Nat.add_zero]
      exact h.le
  · rw [openers_carry, hl, List.append_nil, Option.mem_toList] at hs
    obtain ⟨hf, hz⟩ := honce.after stage' hs hk
    rw [ha, hopen hf, hz]
  · rw [pump_carry, Next.status_leave] at hs
    rw [hi.unopened (hm.uninitialized hs)] at hp
    cases hp
  · refine always_carry _ _ _ _ _ _ hb.apart (fun pre e post hs => ?_) fun pre m hm => ?_
    · rintro i f hd
      obtain ⟨-, rfl⟩ := Mark.did.inj hd
      obtain ⟨hn, hc⟩ := hm.blamed (e := f) (by rw [hs]; exact List.mem_append_right _ List.mem_cons_self)
      refine ⟨hc, ?_⟩
      have hreq : firstShutdown? s.history = none := by
        rw [← Option.isSome_eq_false_iff.trans Option.isNone_iff_eq_none]
        exact hr.symm.trans hn
      rw [firstShutdown?_append, firstShutdown?_did, history_told, firstShutdown?_append,
        firstShutdown?_marks, hw, hreq]
      rfl
    · rintro i e rfl
      obtain ⟨-, h⟩ | ⟨-, h⟩ := Next.mem_marks hm <;> cases h

theorem step (hi : s.Led) (hr : s.Requested) (h : s.Reported) (hs : s.Step c t) : t.Reported := by
  cases hs with
  | start hm =>
    have hb := h.begin .start
    cases hm with
    | ignored =>
      refine hb.silent rfl (fun stage hm hr => ?_) hb.unopened
      rw [openers_carry] at hm
      exact hb.opener stage hm hr
    | opens _ hu => exact hb.silent rfl (fun _ _ _ => hb.unopened hu) nofun
  | shutdown reason hm =>
    exact (h.begin _).aside hm.fits (by simp) hm.aside.uninitialized hm.apart
  | deliver report batch hm =>
    exact (h.begin _).aside hm.fits (by simp) hm.aside.uninitialized hm.apart
  | fail e hm => exact (h.begin _).aside .finish (by simp) hm.aside.uninitialized hm.apart
  | report n e he =>
    have hf : (s.forget n).Reported := ⟨h.le, h.opener, h.unopened, h.apart⟩
    exact (hf.begin (.report e)).aside (.ask (.report e)) (by simp) id rfl
  | discard n hn => exact ⟨h.le, h.opener, h.unopened, h.apart⟩
  | tellStart id w a stage ht hw hm => exact h.opening hr hi ht hw hm
  | tellShutdown id w a ticket reason stage ht hw hm =>
    obtain ⟨he, rfl, -⟩ := (hi.tidy.fits_call ht.call?).of_shutdown hw
    exact (h.told ticket w a).aside (he ▸ hm.fits) (by simp [he]) hm.aside.uninitialized
      hm.apart
  | tellDelivery id w a stage ht hw hm =>
    obtain ⟨⟨batch, he⟩, -⟩ := (hi.tidy.fits_call ht.call?).of_deliver hw
    exact (h.told id w a).aside (he ▸ hm.fits) (by simp [he]) (fun hu => hu) hm.apart
  | tellReport id w outcome ticket ht hw hm =>
    obtain ⟨rfl, -⟩ := (hi.tidy.fits_call ht.call?).of_report hw
    exact (h.told ticket w _).aside hm.fits (by simp) hm.aside.uninitialized hm.apart
  | drop id w hw =>
    have hd : Reported { s.take id with pump := s.pump.abandon w.call } :=
      ⟨h.le, (h.take id).opener, fun hu => h.unopened ((s.pump.status_abandon w.call).symm.trans hu), h.apart⟩
    exact hd.note rfl
  | bump => exact ⟨h.le, h.opener, h.unopened, h.apart⟩
  | pass ticks =>
    have hp : Reported { s with now := s.now + ticks } := ⟨h.le, h.opener, h.unopened, h.apart⟩
    exact hp.note rfl

end Reported

/-! ## The end of an open -/

variable {s t : Session} {c : Cause} {id : Nat} {w : Waiting} {a : Answer} {stage : OpenStage}
  {e : OpenError}

/-- From `s` to `t` the call `id` has told the error hook that the open ended in `e`, perhaps after an
event about its last attempt. It is the one report of a failed open, and the status is as it was. -/
structure Reports (id : Nat) (e : OpenError) (s t : Session) : Prop where
  call : t.call? id = some ⟨.start, .start (.failed e), some (.hook (.onError (.opening e)))⟩
  history : ∃ shown, t.history = s.history ++ shown ++ [.did id (.ask (.hook (.onError (.opening e))))]
    ∧ (effects shown).all Effect.isAttemptFault = true
  once : asked Request.reportsOpen t.history = 1
  status : t.pump.status = s.pump.status

/-- Where the sequence of attempts ends in an error before a shutdown is requested, the call reports it. -/
theorem reports_of_openError (hi : s.Led) (hr : s.Requested) (hh : s.Reported)
    (ht : s.Tells id w a c) (hw : w.call = .start stage) (he : s.pump.openError? stage a = some e)
    (hn : firstShutdown? s.history = none) : ∃ t, s.step? c = some t ∧ Reports id e s t := by
  have hs : s.pump.stopping = false := by rw [hr, hn]; rfl
  obtain ⟨m, hm⟩ := Pump.exists_resumeStart s.now he
  obtain ⟨q, es, nx, hq, hc⟩ :=
    ht.exists_step hi.tidy hw hm (Pump.goes_resumeStart_concludes hm he)
  have hg : (s.told id w a).call? id = none := hi.tidy.call?_take ht.call?
  have hle := (hh.step hi hr (step_of_step? hi.tidy.trace hq)).le
  cases hc with
  | leaves shown hp =>
    rw [hs] at hp
    cases hp
  | told shown _ hst hv =>
    refine ⟨_, hq, call?_carry hg .., ⟨w.marks id a ++ shown.map (.did id), ?_, ?_⟩,
      Nat.le_antisymm hle ?_, ?_⟩
    · rw [history_carry, history_told]
      simp [Next.marks]
    · rw [effects_append, effects_marks, effects_did]
      exact hv
    · rw [asked_carry, List.countP_append]
      exact Nat.le_add_left_of_le (Nat.le_add_left 1 _)
    · rw [pump_carry, Next.status_leave]
      exact hst

/-- When the error hook has been told, the call closes the pump if its status is still that of an open, and
leaves it alone otherwise. Either way it returns. -/
theorem closes_of_failed (hi : s.Led) (hl : s.pump.Linked) (ht : s.Tells id w a c)
    (hw : w.call = .start (.failed e)) :
    ∃ t, s.step? c = some t ∧ t.call? id = none
      ∧ (s.pump.status = .opening → t.pump.status = .closed
        ∧ t.history = s.history ++ ([.told id w a]
          ++ ((s.pump.closingEffects e.message "open_failed" ++ s.pump.closedEffects).map (.did id)
            ++ [.returned id .start])))
      ∧ (s.pump.status ≠ .opening → t.pump.status = s.pump.status
        ∧ t.history = s.history ++ [.told id w a, .returned id .start]) := by
  have hg : (s.told id w a).call? id = none := hi.tidy.call?_take ht.call?
  have ends {q : Pump} {es : List Effect} : ((s.told id w a).carry id .start q es .finish).call? id = none :=
    call?_carry hg ..
  have hs : ∃ t, s.step? c = some t := by
    have hr := ((hi.tidy.fits_call ht.call?).of_start hw).2.of_failed
    obtain ⟨outcome, rfl, -⟩ := ht.of_hook hr
    have hm : s.pump.resumeStart s.now (.failed e) (.hook outcome) = some (s.pump.closeAfterFailure e) := rfl
    obtain ⟨q, es, nx, hs, -⟩ := ht.exists_step hi.tidy hw hm (Pump.goes_resumeStart hm)
    exact ⟨_, hs⟩
  obtain ⟨t, hs⟩ := hs
  obtain ⟨q, es, nx, rfl, hm⟩ := ht.opens hi.tidy hw hs
  refine ⟨_, hs, ?_⟩
  cases hm with
  | clientFailed b f hf => obtain ⟨hf, -⟩ | ⟨hf, -⟩ | ⟨_, hf, -⟩ := hf <;> cases hf
  | receiverFailed b client f hf => obtain ⟨hf, -⟩ | ⟨hf, -⟩ := hf <;> cases hf
  | failedCloses e outcome ho =>
    exact ⟨ends, fun _ => ⟨rfl, history_carry_told .finish id w _ _ s hw _⟩, fun hn => absurd ho hn⟩
  | failedReleases e outcome r ho hc =>
    rw [hl.eq_none (by simp [ho]) (by simp [ho])] at hc
    cases hc
  | failedLeaves e outcome hn =>
    exact ⟨ends, fun ho => absurd ho hn, fun _ => ⟨rfl, history_carry_told .finish id w _ _ s hw _⟩⟩

end Session

section Main

variable {context : Context} {lease : Lease} {options : Options} {wire : String} {draw : Nat → Nat}

/-- What a run has made of the reports of failed opens, whatever was dropped on the way. -/
theorem Session.reported_of_run {cs : List Cause} {s : Session}
    (h : (Session.new (.new context lease options wire draw)).run cs = some s) :
    s.Led ∧ s.pump.Linked ∧ s.Requested ∧ s.Reported := by
  obtain ⟨hi, hl, -, hk⟩ := run_led
    (P := fun s => s.Halted ∧ s.pump.Braced ∧ s.Requested ∧ s.Reported) (.new _ rfl rfl rfl)
    ⟨.fresh, .fresh, .new, .new⟩ (fun _ _ _ hi ⟨hl, hb, hr, hh⟩ hs =>
      ⟨hl.step hi hs, hi.braced_step hb hs, hr.step hi hb hs, hh.step hi hr hs⟩) h
  exact ⟨hi, hl.linked, hk⟩

/-- A failed open is reported to the error hook once at most, never as cancelled, and the sequence of
attempts never once a shutdown was requested. An error in which the sequence ends before that is reported
at once; when the hook has returned, the call closes the pump in one step, publishing that error, or does
nothing if the status is not that of an open any more. A sequence that is under way when a shutdown is
requested ends without a status or an event of its own. -/
theorem failed_open_reported_once {cs : List Cause} {s : Session}
    (h : (Session.new (.new context lease options wire draw)).run cs = some s) :
    asked Request.reportsOpen s.history ≤ 1
      ∧ (∀ pre id e post, s.history = pre ++ .did id (.ask (.hook (.onError (.opening e)))) :: post →
        e ≠ .cancelled ∧ firstShutdown? pre = none)
      ∧ (∀ id w stage a c e, s.Tells id w a c → w.call = .start stage →
        s.pump.openError? stage a = some e → firstShutdown? s.history = none →
        ∃ t, s.step? c = some t ∧ s.Reports id e t)
      ∧ (∀ id w e a c, s.Tells id w a c → w.call = .start (.failed e) →
        ∃ t, s.step? c = some t ∧ t.call? id = none
          ∧ (s.pump.status = .opening → t.pump.status = .closed
            ∧ t.history = s.history ++ ([.told id w a]
              ++ ((s.pump.closingEffects e.message "open_failed" ++ s.pump.closedEffects).map (.did id)
                ++ [.returned id .start])))
          ∧ (s.pump.status ≠ .opening → t.pump.status = s.pump.status
            ∧ t.history = s.history ++ [.told id w a, .returned id .start]))
      ∧ ∀ id w stage ds u, firstShutdown? s.history ≠ none → s.call? id = some w →
        w.call = .start stage → stage.isConnecting = true → s.run ds = some u →
        ∃ ms, u.history = s.history ++ ms ∧ announced .openFailed ms = 0
          ∧ statuses (trail id ms) = [] := by
  obtain ⟨hi, hl, hr, hh⟩ := Session.reported_of_run h
  refine ⟨hh.le, fun pre id e post hs => hh.apart pre _ post hs id e rfl,
    fun id w stage a c e ht hw he hn => Session.reports_of_openError hi hr hh ht hw he hn,
    fun id w e a c ht hw => Session.closes_of_failed hi hl ht hw, ?_⟩
  intro id w stage ds u hn hw hc hk hu
  have hs : s.pump.stopping = true := hr.trans (Option.isSome_iff_ne_none.2 hn)
  have hstart : Session.Withdrawn s.history id s := by
    refine ⟨hi, hs, hi.tidy.lt_next hw, fun v hv => ?_, fun hg => ?_, [], (List.append_nil _).symm, rfl, rfl⟩
    · obtain rfl := Option.some.inj (hw.symm.trans hv)
      exact ⟨stage, hc, OpenStage.mayWithdraw_of_isConnecting hk⟩
    · rw [hw] at hg
      cases hg
  exact (Session.run_induction (P := Session.Withdrawn s.history id) hstart
    (fun _ _ _ _ hv hx => hv.step hx) hu).marks

/-- A higher epoch holds the partition when the first attempt asks for its receiver. -/
theorem failed_open_reported_once_when_fenced :
    ∃ s t u, Session.sample.run [.start, .answer 0 (.hook (.ok ())), .answer 0 (.client (.ok 0)), .wake 0,
        .answer 0 (.receiver (.error default)), .wake 0] = some s
      ∧ s.step? (.answer 0 (.released (.ok ()))) = some t
      ∧ s.Reports 0 (.fenced 1 default) t
      ∧ t.step? (.answer 0 (.hook (.ok ()))) = some u
      ∧ u.pump.status = .closed ∧ asked Request.reportsOpen u.history = 1 := by
  have hr : ((Session.sample.run [.start, .answer 0 (.hook (.ok ())), .answer 0 (.client (.ok 0)), .wake 0,
        .answer 0 (.receiver (.error default)), .wake 0]).bind fun s =>
      (s.call? 0).map fun w => ((s.pump.status, firstShutdown? s.history),
        w.call.opening?.bind fun stage => s.pump.openError? stage (.released (.ok ())),
        w.admits s.pump s.now (.released (.ok ()))))
      = some ((.opening, none), some (.fenced 1 default), true) := by rfl
  obtain ⟨s, hs, hr⟩ := Option.bind_eq_some_iff.1 hr
  obtain ⟨w, hw, he⟩ := Option.map_eq_some_iff.1 hr
  simp only [Prod.mk.injEq] at he
  obtain ⟨⟨hst, hn⟩, he, ha⟩ := he
  obtain ⟨stage, hc, he⟩ := Option.bind_eq_some_iff.1 he
  obtain ⟨t, ht, hrep⟩ := (failed_open_reported_once hs).2.2.1 0 w stage _ _ _ (.answer hw ha)
    (Call.eq_start_of_opening? hc) he hn
  have hrt := Session.run_snoc hs ht
  obtain ⟨u, hu, -, hop, -⟩ := (failed_open_reported_once hrt).2.2.2.1 0 _ _ (.hook (.ok ())) _
    (.answer hrep.call rfl) rfl
  obtain ⟨hcl, hh⟩ := hop (hrep.status.trans hst)
  have hle := (failed_open_reported_once (Session.run_snoc hrt hu)).1
  refine ⟨s, t, u, hs, ht, hrep, hu, hcl, ?_⟩
  rw [hh, asked_append, hrep.once] at hle ⊢
  omega

end Main
end PartitionConsumer
