import PartitionConsumer.Proofs.CutShort.Cutting
import PartitionConsumer.Proofs.Epochs.Ledger
/-!
# The epochs of an open

Each attempt reads the epoch of the lease when it begins, and its receiver is asked for with that epoch.
When the receiver step is over, however it was, the epoch is put down in the lease, over whatever the
store has made of it; an attempt that fails before, or is cancelled, leaves the lease alone. Calls may be
dropped at any time.
-/
namespace PartitionConsumer

namespace Effect

/-- Something is entered into the ledger for this effect. -/
def isEntered : Effect → Bool
  | .ask .createClient | .ask (.createReceiver ..) => true
  | .publish e => e.kind == .pumpRunning
  | _ => false

theorem epochEntries_eq_nil {e : Effect} (h : e.isEntered = false) (begun : List Attempt) :
    e.epochEntries begun = [] := by
  unfold isEntered at h
  split at h
  · cases h
  · cases h
  · simp [epochEntries, h]
  · unfold epochEntries
    split <;> first | rfl | simp_all

theorem isEntered_of_isOfShutdown {e : Effect} (h : e.isOfShutdown = true) : e.isEntered = false := by
  unfold isOfShutdown at h
  split at h
  all_goals first | rfl | skip
  · rename_i e
    simp only [Bool.or_eq_true, beq_iff_eq] at h
    obtain (hk | hk) | hk := h <;> simp [isEntered, hk]
  · cases h

end Effect

theorem flatMap_epochEntries {es : List Effect} (h : es.any Effect.isEntered = false)
    (begun : List Attempt) : es.flatMap (Effect.epochEntries begun) = [] :=
  List.flatMap_eq_nil_iff.2 fun e hm =>
    Effect.epochEntries_eq_nil (Bool.eq_false_iff.2 (List.any_eq_false.1 h e hm)) begun

/-- How the ledger stands while the opening call waits at a stage. -/
def OpenStage.Book (l : List EpochEntry) : OpenStage → Prop
  | .onOpen | .backoff .. => Ripe l
  | .client a | .clientReady a _ => ∃ past j, l = past ++ a.opening j
  | .receiver a _ | .receiverReady a _ _ => ∃ past j r k, l = past ++ a.asking j r k ∧ r.epoch = a.epoch
  | .abandon a (.failed _) => ∃ past j r k n, l = past ++ a.settling j r k n
  | _ => True

theorem Ripe.raised {l : List EpochEntry} (h : Ripe l) : Ripe (l ++ [.raised]) := by
  cases h with
  | first n h => exact .first (n + 1) (by rw [h, raises_succ])
  | settled past b j r k n h =>
    exact .settled past b j r k (n + 1) (by rw [h, b.settling_succ, List.append_assoc])
  | failed past b j n h => exact .failed past b j (n + 1) (by rw [h, b.failing_succ, List.append_assoc])

theorem OpenStage.Book.raised {l : List EpochEntry} {stage : OpenStage} (h : stage.Book l) :
    stage.Book (l ++ [.raised]) := by
  cases stage with
  | onOpen => exact Ripe.raised h
  | backoff => exact Ripe.raised h
  | client a =>
    obtain ⟨past, j, rfl⟩ := h
    exact ⟨past, j + 1, by rw [a.opening_succ, List.append_assoc]⟩
  | clientReady a =>
    obtain ⟨past, j, rfl⟩ := h
    exact ⟨past, j + 1, by rw [a.opening_succ, List.append_assoc]⟩
  | receiver a =>
    obtain ⟨past, j, r, k, rfl, he⟩ := h
    exact ⟨past, j, r, k + 1, by rw [a.asking_succ, List.append_assoc], he⟩
  | receiverReady a =>
    obtain ⟨past, j, r, k, rfl, he⟩ := h
    exact ⟨past, j, r, k + 1, by rw [a.asking_succ, List.append_assoc], he⟩
  | abandon a f =>
    cases f with
    | cancelled => trivial
    | failed e =>
      obtain ⟨past, j, r, k, n, rfl⟩ := h
      exact ⟨past, j, r, k, n + 1, by rw [a.settling_succ, List.append_assoc]⟩
  | _ => trivial

def OpenStage.isCut : OpenStage → Answer → Bool
  | .client _, .cancelled | .abandon _ .cancelled, _ => true
  | _, _ => false

def Next.begun (nx : Next) : List Attempt := nx.opening?.toList.filterMap OpenStage.begun?

structure Books (epoch : Nat) (l m : List EpochEntry) (q : Pump) (nx : Next) : Prop where
  lease : q.lease.epoch = epochAfter epoch (l ++ m)
  ledger : Ledger epoch (l ++ m)
  stage : ∀ stage ∈ nx.opening?, stage.Book (l ++ m)

namespace Books

variable {q : Pump} {nx : Next} {epoch : Nat} {l m n : List EpochEntry} {x : EpochEntry}

/-- Nothing is entered. -/
theorem none (hq : q.lease.epoch = epochAfter epoch l) (hl : Ledger epoch l)
    (hs : ∀ stage ∈ nx.opening?, stage.Book l) : Books epoch l [] q nx := by
  refine ⟨?_, ?_, ?_⟩ <;> rw [List.append_nil]
  · exact hq
  · exact hl
  · exact hs

/-- One entry. -/
theorem one (hl : Ledger epoch l) (hx : x.Follows epoch l)
    (hq : q.lease.epoch = x.after (epochAfter epoch l))
    (hs : ∀ stage ∈ nx.opening?, stage.Book (l ++ [x])) : Books epoch l [x] q nx where
  lease := hq.trans (epochAfter_append epoch l [x]).symm
  ledger := hl.snoc hx
  stage := hs

theorem append (h : Books epoch (l ++ m) n q nx) : Books epoch l (m ++ n) q nx := by
  obtain ⟨hq, hl, hs⟩ := h
  rw [List.append_assoc] at hq hl hs
  exact ⟨hq, hl, hs⟩

end Books

namespace Pump

variable {p q : Pump} {es : List Effect} {nx : Next} {epoch : Nat} {l : List EpochEntry}

/-! ## What a move enters -/

@[simp] theorem isEntered_faults (r : Release) (outcome : Except TransportError Unit) :
    (p.faults r outcome).any Effect.isEntered = false := by
  rcases outcome with e | ⟨⟩ <;> rfl

@[simp] theorem isEntered_failureFault (a : Attempt) (f : AttemptFailure) :
    (p.failureFault a f).any Effect.isEntered = false := by
  obtain h | ⟨e, h⟩ := p.failureFault_eq a f <;> rw [h] <;> rfl

@[simp] theorem isEntered_request (r : Release) : (Effect.ask r.request).isEntered = false := by
  unfold Release.request
  split <;> rfl

theorem AttemptMove.books {cut : Bool} {shown : List Effect} (h : AttemptMove p cut shown q es nx)
    (hp : p.lease.epoch = epochAfter epoch l) (hl : Ledger epoch l) (hr : Ripe l)
    (hs : shown.any Effect.isEntered = false) :
    Books epoch l (es.flatMap (Effect.epochEntries nx.begun)) q nx := by
  cases h with
  | attempt a _ he =>
    have hm : (shown ++ [Effect.ask .createClient]).flatMap (Effect.epochEntries [a]) = [.began a] := by
      rw [List.flatMap_append, flatMap_epochEntries hs]
      rfl
    have hn : (Next.ask .createClient (.start (.client a))).begun = [a] := rfl
    rw [hn, hm]
    refine .one hl (.began a hr (he.trans hp)) hp fun stage hm => ?_
    obtain rfl := Option.some.inj hm
    exact ⟨l, 0, rfl⟩
  | pause a wake =>
    rw [flatMap_epochEntries hs]
    refine .none hp hl fun stage hm => ?_
    obtain rfl := Option.some.inj hm
    exact hr
  | report e =>
    rw [flatMap_epochEntries (by simp [hs, Effect.isEntered])]
    refine .none hp hl fun stage hm => ?_
    obtain rfl := Option.some.inj hm
    trivial
  | _ =>
    rw [flatMap_epochEntries hs]
    exact .none hp hl (Next.forall_opening? rfl)

theorem OpenMove.books {stage : OpenStage} {a : Answer} (h : OpenMove p stage a q es nx)
    (hc : stage.isCut a = false) (hp : p.lease.epoch = epochAfter epoch l) (hl : Ledger epoch l)
    (hb : stage.Book l) :
    Books epoch l (stage.ending a ++ es.flatMap (Effect.epochEntries nx.begun)) q nx := by
  have quiet {q : Pump} {es : List Effect} {nx : Next} (hq : q.lease = p.lease)
      (he : es.any Effect.isEntered = false) (hs : ∀ stage ∈ nx.opening?, stage.Book l) :
      Books epoch l ([] ++ es.flatMap (Effect.epochEntries nx.begun)) q nx := by
    rw [flatMap_epochEntries he]
    exact .none (hq ▸ hp) hl hs
  have next {nx : Next} {stage : OpenStage} (hn : nx.opening? = some stage) (hs : stage.Book l) :
      ∀ stage ∈ nx.opening?, stage.Book l := by
    rw [hn]
    rintro _ ⟨⟩
    exact hs
  cases h with
  | refuse e => exact quiet rfl rfl (next rfl trivial)
  | closeLate => exact quiet rfl rfl (next rfl trivial)
  | connect _ _ h => exact h.books hp hl hb rfl
  | clientAnswered b answer => exact quiet rfl rfl (next rfl hb)
  | clientFailed b f hs h =>
    have ended {e : TransportError} (hb : ∃ past j, l = past ++ b.opening j)
        (h : AttemptMove { p with attempts := p.attempts.clear } false (p.failureFault b (.failed e))
          q es nx) :
        Books epoch l ([.failed b] ++ es.flatMap (Effect.epochEntries nx.begun)) q nx := by
      obtain ⟨past, j, rfl⟩ := hb
      have hx : EpochEntry.Follows epoch (past ++ b.opening j) (.failed b) := .failed past b j rfl
      refine Books.append (h.books ?_ (hl.snoc hx) (.failed past b j 0 ?_) (by simp))
      · exact hp.trans (epochAfter_append epoch _ [.failed b]).symm
      · rw [List.append_assoc]
        rfl
    obtain ⟨rfl, rfl, rfl⟩ | ⟨rfl, rfl, rfl⟩ | ⟨e, rfl, rfl, rfl⟩ := hs
    · cases hc
    · exact ended hb h
    · exact ended hb h
  | clientMade b client =>
    obtain ⟨past, j, rfl⟩ := hb
    refine .one hl (.requested past b j _ rfl rfl) hp fun stage hm => ?_
    obtain rfl := Option.some.inj hm
    exact ⟨past, j, _, 0, List.append_assoc .., rfl⟩
  | clientUnwanted b client => exact quiet rfl rfl (next rfl trivial)
  | receiverAnswered b client answer => exact quiet rfl rfl (next rfl hb)
  | receiverCancelled b client => exact quiet rfl rfl (next rfl trivial)
  | receiverFailed b client e hs =>
    have ended (hb : ∃ past j r k, l = past ++ b.asking j r k ∧ r.epoch = b.epoch) :
        Books epoch l [.settled b] { p with lease := p.lease.stamp b.epoch }
          (.ask (.closeClient client) (.start (.abandon b (.failed e)))) := by
      obtain ⟨past, j, r, k, rfl, he⟩ := hb
      refine .one hl (.settled past b j r k rfl he) rfl fun stage hm => ?_
      obtain rfl := Option.some.inj hm
      exact ⟨past, j, r, k, 0, List.append_assoc ..⟩
    obtain ⟨rfl, rfl, rfl⟩ | ⟨rfl, rfl⟩ := hs <;> exact ended hb
  | install b client receiver =>
    obtain ⟨past, j, r, k, rfl, he⟩ := hb
    have hx : EpochEntry.Follows epoch (past ++ b.asking j r k) (.settled b) := .settled past b j r k rfl he
    exact Books.append (m := [.settled b])
      (.one (hl.snoc hx) (.ran past b j r k (List.append_assoc ..) he)
        (epochAfter_append epoch _ [.settled b]).symm (Next.forall_opening? rfl))
  | reject b client receiver =>
    obtain ⟨past, j, r, k, rfl, he⟩ := hb
    refine .one hl (.settled past b j r k rfl he) rfl fun stage hm => ?_
    obtain rfl := Option.some.inj hm
    trivial
  | abandoned b f outcome h =>
    cases f with
    | cancelled => cases hc
    | failed e =>
      obtain ⟨past, j, r, k, n, hj⟩ := hb
      exact h.books hp hl (.settled past b j r k n hj) (by simp)
  | pauseOver b wake h => exact h.books hp hl hb rfl
  | failedReleases => exact quiet rfl rfl (next rfl trivial)
  | releaseNext => exact quiet rfl (by simp) (next rfl trivial)
  | releaseCloses r outcome =>
    refine quiet rfl ?_ (Next.forall_opening? rfl)
    rw [List.any_append, isEntered_faults]
    rfl
  | releaseEnds => exact quiet rfl (by simp) (Next.forall_opening? rfl)
  | _ => exact quiet rfl rfl (Next.forall_opening? rfl)

/-- A call returns whose attempt was cancelled. -/
theorem goes_cut {now : Nat} {stage : OpenStage} {a : Answer} {m : Move}
    (h : p.resumeStart now stage a = some m) (hc : stage.isCut a = true) :
    p.Goes m fun q es nx => q.lease = p.lease ∧ q.status = p.status ∧ es = [] ∧ nx = .finish := by
  have ends {r : Pump} (b : Attempt) (hl : r.lease = p.lease) (hs : r.status = p.status) :
      r.Goes (r.endAttempt now b .cancelled) fun q es nx =>
        q.lease = p.lease ∧ q.status = p.status ∧ es = [] ∧ nx = .finish := by
    refine goes_quiet (q := { r with attempts := r.attempts.clear }) rfl ?_
    exact goes_log (goes_log (goes_finishStart ⟨hl, hs, rfl, rfl⟩))
  unfold OpenStage.isCut at hc
  split at hc
  · obtain rfl := Option.some.inj h
    exact ends _ rfl rfl
  · cases a with
    | released outcome =>
      obtain rfl := Option.some.inj h
      rcases outcome with e | ⟨⟩
      · exact goes_log (ends _ rfl rfl)
      · exact ends _ rfl rfl
    | _ => cases h
  · cases hc

end Pump

namespace Session

variable {s b t : Session} {c : Cause} {id : Nat} {w : Waiting} {a : Answer} {errand : Errand}
  {q : Pump} {es : List Effect} {nx : Next} {ms : List Mark} {epoch : Nat} {l : List EpochEntry}

/-! ## What a step enters -/

theorem Tells.ending (h : s.Tells id w a c) :
    s.ending c = w.opening?.elim [] fun stage => stage.ending a := by
  cases h with
  | answer hw => simp [Session.ending, hw]
  | wake hw _ ha =>
    simp only [Session.ending, hw, Option.bind_some]
    cases hc : w.opening? with
    | none => rfl
    | some stage =>
      have hc := Call.eq_start_of_opening? hc
      rw [hc] at ha
      -- only an answer of the transport is looked at without being told anything
      cases stage with
      | client => cases ha
      | receiver => cases ha
      | clientReady => cases ha; rfl
      | receiverReady => cases ha; rfl
      | _ => rfl

theorem epochEntries_eq (hs : s.step? c = some t) (ht : t.history = s.history ++ ms) :
    s.epochEntries c = s.ending c
      ++ (effects ms).flatMap (Effect.epochEntries (t.openers.filterMap OpenStage.begun?)) := by
  unfold epochEntries
  rw [hs, Option.elim_some, ht, List.drop_left]

theorem epochEntries_carry (hs : s.step? c = some (b.carry id errand q es nx))
    (hb : b.history = s.history ++ ms) (hm : effects ms = []) :
    s.epochEntries c = s.ending c
      ++ es.flatMap (Effect.epochEntries ((b.carry id errand q es nx).openers.filterMap OpenStage.begun?)) := by
  obtain ⟨ks, hk, he⟩ := exists_effects_carry id errand q es nx hb hm
  rw [epochEntries_eq hs hk, he]

/-- The ledger of a run adds up to the epoch of the lease, and stands as it should for the open to go on. -/
structure Booked (epoch : Nat) (l : List EpochEntry) (s : Session) : Prop where
  lease : s.pump.lease.epoch = epochAfter epoch l
  ledger : Ledger epoch l
  openers : ∀ stage ∈ s.openers, stage.Book l
  unopened : s.pump.status = .uninitialized → Ripe l

namespace Booked

/-- A call goes on that enters nothing. -/
theorem aside (h : Booked epoch l s) (hs : s.step? c = some (b.carry id errand q es nx))
    (hb : b.history = s.history ++ ms) (hm : effects ms = []) (hc : s.ending c = [])
    (hv : es.any Effect.isEntered = false) (hq : q.lease = s.pump.lease)
    (ho : ∀ stage ∈ (b.carry id errand q es nx).openers, stage.Book l)
    (hu : q.status = .uninitialized → s.pump.status = .uninitialized) :
    Booked epoch (l ++ s.epochEntries c) (b.carry id errand q es nx) := by
  rw [epochEntries_carry hs hb hm, hc, flatMap_epochEntries hv, List.append_nil, List.append_nil]
  have hl : (b.carry id errand q es nx).pump.lease = q.lease := by cases nx <;> rfl
  refine ⟨?_, h.ledger, ho, fun hn => ?_⟩
  · rw [hl, hq]
    exact h.lease
  · rw [pump_carry, Next.status_leave] at hn
    exact h.unopened (hu hn)

/-- The call that opens the pump goes on. -/
theorem opening (h : Booked epoch l s) (hi : s.Led) {stage : OpenStage} (ht : s.Tells id w a c)
    (hw : w.call = .start stage) (hs : s.step? c = some t) :
    Booked epoch (l ++ s.epochEntries c) t := by
  have hm : effects (w.marks id a) = [] := effects_marks w id a
  obtain ⟨-, ho, hl, -⟩ := hi.told_start ht hw
  have hb : stage.Book l := h.openers stage (by rw [ho]; exact List.mem_cons_self)
  have hn : w.opening? = some stage := by rw [Waiting.opening?, hw]; rfl
  cases hc : stage.isCut a with
  | true =>
    obtain ⟨m, hr⟩ := ht.exists_resume hw hs
    obtain ⟨q, _, _, hq, hlq, hsq, rfl, rfl⟩ := ht.exists_step hi.tidy hw hr (Pump.goes_cut hr hc)
    obtain rfl := Option.some.inj (hs.symm.trans hq)
    have he : s.ending c = [] := by
      rw [ht.ending, hn]
      unfold OpenStage.isCut at hc
      split at hc <;> first | rfl | cases hc
    refine h.aside hq rfl hm he rfl hlq (fun stage hk => ?_) fun hu => hsq ▸ hu
    rw [openers_carry, hl] at hk
    cases hk
  | false =>
    obtain ⟨q, es, nx, rfl, hmv⟩ := ht.opens hi.tidy hw hs
    have hk := hmv.books hc h.lease h.ledger hb
    have ho' : ((s.told id w a).carry id .start q es nx).openers = nx.opening?.toList := by
      rw [openers_carry, hl, List.append_nil]
    have he : s.epochEntries c = stage.ending a ++ es.flatMap (Effect.epochEntries nx.begun) := by
      rw [epochEntries_carry hs rfl hm, ht.ending, hn, ho']
      rfl
    rw [he]
    have hlq : ((s.told id w a).carry id .start q es nx).pump.lease = q.lease := by cases nx <;> rfl
    refine ⟨hlq ▸ hk.lease, hk.ledger, fun stage hs => ?_, fun hu => ?_⟩
    · rw [ho', Option.mem_toList] at hs
      exact hk.stage stage hs
    · rw [pump_carry, Next.status_leave] at hu
      obtain ⟨-, -, hp⟩ := hi.openers_of_start ht.call? hw
      rw [hi.unopened (hmv.uninitialized hu)] at hp
      cases hp

theorem step (hi : s.Led) (h : Booked epoch l s) (hs : s.step? c = some t) :
    Booked epoch (l ++ s.epochEntries c) t := by
  have shuts {es : List Effect} (he : es.all Effect.isOfShutdown = true) :
      es.any Effect.isEntered = false :=
    Effect.any_eq_false_of_all he fun _ => Effect.isEntered_of_isOfShutdown
  -- a call that does not open the pump leaves the one that does where it is
  have others {b : Session} {id : Nat} {errand : Errand} {q : Pump} {es : List Effect} {nx : Next}
      (hf : nx.Fits id errand) (he : errand ≠ .start) (hb : b.openers = s.openers) :
      ∀ stage ∈ (b.carry id errand q es nx).openers, stage.Book l := by
    intro stage hm
    rw [openers_carry, hf.opening? he, hb] at hm
    exact h.openers stage hm
  have untold {id : Nat} {w : Waiting} {a : Answer} (ht : s.Tells id w a c) (hw : w.opening? = none) :
      s.ending c = [] := by rw [ht.ending, hw]; rfl
  -- a step without effects
  have still {t : Session} {ms : List Mark} (hs : s.step? c = some t) (ht : t.history = s.history ++ ms)
      (hm : effects ms = []) (hl : t.pump.lease = s.pump.lease) (hst : t.pump.status = s.pump.status)
      (ho : ∀ stage ∈ t.openers, stage ∈ s.openers) (hc : s.ending c = []) :
      Booked epoch (l ++ s.epochEntries c) t := by
    rw [epochEntries_eq hs ht, hm, hc, List.flatMap_nil, List.append_nil, List.append_nil]
    exact ⟨hl ▸ h.lease, h.ledger, fun stage hm => h.openers stage (ho stage hm),
      fun hu => h.unopened (hst.symm.trans hu)⟩
  have hst := step_of_step? hi.tidy.trace hs
  cases hst with
  | start hm =>
    cases hm with
    | ignored =>
      refine h.aside hs rfl rfl rfl rfl rfl (fun stage hm => ?_) fun hu => hu
      rw [openers_carry] at hm
      exact h.openers stage hm
    | opens _ hu =>
      refine h.aside hs rfl rfl rfl rfl rfl (fun stage hm => ?_) nofun
      rw [openers_carry] at hm
      obtain rfl | hm := List.mem_cons.1 hm
      · exact h.unopened hu
      · exact h.openers stage hm
  | shutdown reason hm =>
    exact h.aside hs rfl rfl rfl (shuts hm.all_isOfShutdown) hm.keeps.lease (others hm.fits (by simp) rfl)
      hm.aside.uninitialized
  | deliver report batch hm =>
    refine h.aside hs rfl rfl rfl ?_ ?_ (others hm.fits (by simp) rfl) hm.aside.uninitialized
    · cases hm <;> rfl
    · cases hm <;> rfl
  | fail e hm =>
    refine h.aside hs rfl rfl rfl ?_ ?_ (others .finish (by simp) rfl) hm.aside.uninitialized
    · cases hm <;> rfl
    · cases hm <;> rfl
  | report n e he => exact h.aside hs rfl rfl rfl rfl rfl (others (.ask (.report e)) (by simp) rfl) id
  | discard n hn => exact still hs (List.append_nil _).symm rfl rfl rfl (fun _ hm => hm) rfl
  | tellStart id w a stage ht hw hm => exact h.opening hi ht hw hs
  | tellShutdown id w a ticket reason stage ht hw hm =>
    obtain ⟨he, rfl, hl, -⟩ := hi.told_shutdown ht hw hm
    have hn : w.opening? = none := by rw [Waiting.opening?, hw]; rfl
    exact h.aside hs rfl (effects_marks ..) (untold ht hn) (shuts hm.all_isOfShutdown) hm.keeps.lease
      (others (he ▸ hm.fits) (by simp [he]) hl) hm.aside.uninitialized
  | tellDelivery id w a stage ht hw hm =>
    obtain ⟨⟨batch, he⟩, hl, -⟩ := hi.told_delivery ht hw
    have hn : w.opening? = none := by rw [Waiting.opening?, hw]; rfl
    refine h.aside hs rfl (effects_marks ..) (untold ht hn) ?_ rfl
      (others (he ▸ hm.fits) (by simp [he]) hl) fun hu => hu
    cases hm <;> rfl
  | tellReport id w outcome ticket ht hw hm =>
    obtain ⟨rfl, -, hl, -⟩ := hi.told_report ht hw
    have hn : w.opening? = none := by rw [Waiting.opening?, hw]; rfl
    exact h.aside hs rfl (effects_marks ..) (untold ht hn) (shuts hm.all_isOfShutdown) hm.keeps.lease
      (others hm.fits (by simp) hl) hm.aside.uninitialized
  | drop id w hw =>
    exact still hs rfl rfl (s.pump.lease_abandon w.call) (s.pump.status_abandon w.call)
      (fun _ hm => mem_waiting_take hm) rfl
  | bump =>
    rw [epochEntries_eq hs (List.append_nil _).symm]
    refine ⟨?_, h.ledger.snoc .raised, fun stage hm => (h.openers stage hm).raised, fun hu =>
      (h.unopened hu).raised⟩
    rw [epochAfter_append, ← h.lease]
    rfl
  | pass ticks => exact still hs rfl rfl rfl rfl (fun _ hm => hm) rfl

end Booked
end Session

section Main

variable {context : Context} {lease : Lease} {options : Options} {wire : String} {draw : Nat → Nat}

/-- The ledger of a run adds up to the epoch of the lease. An attempt begins with the epoch the lease has:
that of the last attempt and the raises since its receiver step was over, or, if it had failed before, all
since it had begun. A receiver is asked for with the epoch of its attempt, and the pump is announced to run
with that epoch, as soon as it is put down in the lease. -/
theorem epochs_add_up {cs : List Cause} {s : Session} {l : List EpochEntry}
    (h : (Session.new (.new context lease options wire draw)).run cs = some s)
    (hl : (Session.new (.new context lease options wire draw)).epochLedger cs = l) :
    s.pump.lease.epoch = epochAfter lease.epoch l
      ∧ (∀ pre a post, l = pre ++ .began a :: post → a.epoch = epochAfter lease.epoch pre
        ∧ ((∃ n, pre = raises n)
          ∨ (∃ (past : List EpochEntry) (b : Attempt) (j : Nat) (r : ReceiverRequest) (k n : Nat),
            pre = past ++ b.settling j r k n ∧ a.epoch = b.epoch + n)
          ∨ ∃ (past : List EpochEntry) (b : Attempt) (j n : Nat),
            pre = past ++ b.failing j n ∧ a.epoch = b.epoch + (j + n)))
      ∧ (∀ pre r post, l = pre ++ .requested r :: post →
        ∃ (past : List EpochEntry) (a : Attempt) (j : Nat), pre = past ++ a.opening j ∧ r.epoch = a.epoch)
      ∧ (∀ pre a post, l = pre ++ .settled a :: post →
        ∃ (past : List EpochEntry) (j : Nat) (r : ReceiverRequest) (k : Nat),
          pre = past ++ a.asking j r k ∧ r.epoch = a.epoch)
      ∧ (∀ pre a post, l = pre ++ .failed a :: post →
        ∃ (past : List EpochEntry) (j : Nat), pre = past ++ a.opening j)
      ∧ ∀ pre e post, l = pre ++ .ran e :: post →
        ∃ (past : List EpochEntry) (a : Attempt) (j : Nat) (r : ReceiverRequest) (k : Nat),
          pre = past ++ a.settling j r k 0 ∧ r.epoch = a.epoch ∧ e = some a.epoch
            ∧ epochAfter lease.epoch pre = a.epoch := by
  have h0 : (Session.new (.new context lease options wire draw)).Led
      ∧ Session.Booked lease.epoch [] (Session.new (.new context lease options wire draw)) :=
    ⟨.new _ rfl rfl rfl, rfl, .nil, nofun, fun _ => .first 0 rfl⟩
  have hk := Session.run_gathering (f := Session.epochEntries)
    (P := fun l s => s.Led ∧ Session.Booked lease.epoch l s) h0
    (fun l s c t _ hk ht =>
      ⟨hk.1.step (Session.step_of_step? hk.1.tidy.trace ht), hk.2.step hk.1 ht⟩) h
  have hb : Session.Booked lease.epoch l s := by
    rw [← hl]
    exact hk.2
  refine ⟨hb.lease, fun pre a post hs => ?_, fun pre r post hs => ?_, fun pre a post hs => ?_,
    fun pre a post hs => ?_, fun pre e post hs => ?_⟩
  · cases hb.ledger.follows hs with
    | began _ hr he =>
      refine ⟨he, ?_⟩
      cases hr with
      | first n h => exact .inl ⟨n, h⟩
      | settled past b j r k n h =>
        refine .inr (.inl ⟨past, b, j, r, k, n, h, ?_⟩)
        rw [he, h, epochAfter_append, b.epochAfter_settling]
      | failed past b j n h =>
        have hs' : l = past ++ .began b :: (raises j ++ .failed b :: raises n ++ .began a :: post) := by
          rw [hs, h, Attempt.failing, Attempt.opening]
          simp
        have hbe := hb.ledger.epoch_of_began hs'
        refine .inr (.inr ⟨past, b, j, n, h, ?_⟩)
        rw [he, h, epochAfter_append, b.epochAfter_failing, hbe]
  · cases hb.ledger.follows hs with
    | requested past a j _ hp he => exact ⟨past, a, j, hp, he⟩
  · cases hb.ledger.follows hs with
    | settled past _ j r k hp he => exact ⟨past, j, r, k, hp, he⟩
  · cases hb.ledger.follows hs with
    | failed past _ j hp => exact ⟨past, j, hp⟩
  · cases hb.ledger.follows hs with
    | ran past a j r k hp he =>
      refine ⟨past, a, j, r, k, hp, he, rfl, ?_⟩
      rw [hp, epochAfter_append, a.epochAfter_settling]
      rfl

/-- The epoch is raised while the receiver of the first attempt is created, and again while its client is
closed. -/
def Session.raisedTwice : List Cause :=
  [.start, .answer 0 (.hook (.ok ())), .answer 0 (.client (.ok 0)), .wake 0, .bump,
    .answer 0 (.receiver (.error ⟨.connection, "refused"⟩)), .wake 0, .bump,
    .answer 0 (.released (.ok ())), .answer 0 (.client (.ok 1)), .wake 0, .answer 0 (.receiver (.ok 0)),
    .wake 0]

/-- The first raise is overwritten, the second is not. -/
theorem epochs_add_up_when_raised_twice :
    ∃ s l, Session.sample.run Session.raisedTwice = some s
      ∧ Session.sample.epochLedger Session.raisedTwice = l
      ∧ l.filterMap EpochEntry.requested? = [1, 2] ∧ l.count .raised = 2
      ∧ s.pump.lease.epoch = 2 ∧ epochAfter 1 l = 2 := by
  have hr : (Session.sample.run Session.raisedTwice).map (fun s => s.pump.lease.epoch) = some 2 := by rfl
  have hl : ((Session.sample.epochLedger Session.raisedTwice).filterMap EpochEntry.requested?,
      (Session.sample.epochLedger Session.raisedTwice).count .raised) = ([1, 2], 2) := by rfl
  obtain ⟨s, hs, he⟩ := Option.map_eq_some_iff.1 hr
  simp only [Prod.mk.injEq] at hl
  exact ⟨s, _, hs, rfl, hl.1, hl.2, he, (epochs_add_up hs rfl).1.symm.trans he⟩

end Main
end PartitionConsumer
