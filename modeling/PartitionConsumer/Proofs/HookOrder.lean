import PartitionConsumer.Proofs.Bench.Guards
import PartitionConsumer.Proofs.Session.Requests
/-!
# The order of the hooks

The opening hook comes first and comes once. Batches are handed to the batch hook only between its
success and the end of the pump, and the closing hook begins only when none of them is in hand: by then
the handler is cleared, and it was not cleared while a delivery was inside.
-/
namespace PartitionConsumer

namespace Request

def isOnOpen : Request → Bool
  | .hook .onOpen => true
  | _ => false

def isOnEvents : Request → Bool
  | .hook (.onEvents _) => true
  | _ => false

/-- A hook is told of a batch, or that the batch hook has failed. -/
def isDelivery : Request → Bool
  | .hook (.onEvents _) | .hook (.onError (.processor _)) => true
  | _ => false

theorem isDelivery_of_isOnEvents {r : Request} (h : r.isOnEvents = true) : r.isDelivery = true := by
  unfold isOnEvents at h
  split at h
  · rfl
  · cases h

end Request

namespace Release

variable (r : Release)

@[simp] theorem isOnOpen_request : r.request.isOnOpen = false := by
  unfold request
  split <;> rfl

@[simp] theorem isOnEvents_request : r.request.isOnEvents = false := by
  unfold request
  split <;> rfl

@[simp] theorem isDelivery_request : r.request.isDelivery = false := by
  unfold request
  split <;> rfl

end Release

/-! ## The opening hook -/

/-- The call is past the opening hook, which has succeeded. -/
def OpenStage.isPast : OpenStage → Bool
  | .onOpen | .refused _ => false
  | _ => true

/-- Only the stage of the opening hook asks it. -/
theorem Next.Fits.asks_isOnOpen {nx : Next} {id : Nat} {errand : Errand} (h : nx.Fits id errand)
    (hn : .onOpen ∉ nx.opening?) : nx.asks Request.isOnOpen = 0 := by
  cases nx with
  | ask r c =>
    have hf := h _ rfl
    cases hf with
    | start ha =>
      cases ha with
      | onOpen => exact absurd rfl hn
      | release r => simp
      | _ => rfl
    | shutdown ha =>
      cases ha with
      | release r => simp
      | onClose => rfl
    | deliver ha => cases ha <;> rfl
    | report e => rfl
  | _ => rfl

namespace Pump

variable {p q : Pump} {es : List Effect} {nx : Next}

structure Passes (p q : Pump) (nx : Next) : Prop where
  leaves : .onOpen ∉ nx.opening?
  opened : q.opened = true
    ∨ q.opened = p.opened ∧ q.connection = p.connection ∧ ∀ st ∈ nx.opening?, st.isPast = false

theorem AttemptMove.passes {r : Pump} {cut : Bool} {shown : List Effect}
    (h : AttemptMove r cut shown q es nx) (hr : r.opened = true) : Passes p q nx := by
  cases h <;> exact ⟨by simp, .inl hr⟩

theorem OpenMove.passes {stage : OpenStage} {a : Answer} (h : OpenMove p stage a q es nx)
    (hp : stage.isPast = true → p.opened = true) : Passes p q nx := by
  cases h with
  | refuse e => exact ⟨by simp, .inr ⟨rfl, rfl, by simp [OpenStage.isPast]⟩⟩
  | closeLate => exact ⟨by simp, .inl rfl⟩
  | cutShort => exact ⟨by simp, .inl rfl⟩
  | connect _ _ h => exact h.passes rfl
  | refusedCloses => exact ⟨by simp, .inr ⟨rfl, rfl, by simp⟩⟩
  | refusedLeaves => exact ⟨by simp, .inr ⟨rfl, rfl, by simp⟩⟩
  | clientFailed a f hs h =>
    refine h.passes (hp ?_)
    obtain ⟨rfl, -⟩ | ⟨rfl, -⟩ | ⟨e, rfl, -⟩ := hs <;> rfl
  | receiverFailed a client e hs =>
    refine ⟨by simp, .inl (hp ?_)⟩
    obtain ⟨rfl, -⟩ | ⟨rfl, -⟩ := hs <;> rfl
  | abandoned a f outcome h => exact h.passes (hp rfl)
  | pauseOver a wake h => exact h.passes (hp rfl)
  | _ => exact ⟨by simp, .inl (hp rfl)⟩

end Pump

namespace Session

structure Introduced (s : Session) : Prop where
  once : asked Request.isOnOpen s.history ≤ 1
  unasked : s.pump.status = .uninitialized → asked Request.isOnOpen s.history = 0
  past : ∀ st ∈ s.openers, st.isPast = true → s.pump.opened = true
  connected : s.pump.connection.isSome → s.pump.opened = true

namespace Introduced

variable {s b : Session} {id : Nat} {errand : Errand} {q : Pump} {es : List Effect} {nx : Next}

theorem new (p : Pump) (hc : p.connection = none) : (new p).Introduced where
  once := Nat.zero_le _
  unasked _ := rfl
  past := nofun
  connected h := by
    have hp : (Session.new p).pump.connection = none := hc
    rw [hp] at h
    cases h

theorem begin (h : s.Introduced) (e : Errand) : (s.begin e).Introduced where
  once := (asked_begin s _ e).symm ▸ h.once
  unasked hu := (asked_begin s _ e).trans (h.unasked hu)
  past := h.past
  connected := h.connected

theorem told {w : Waiting} {a : Answer} (h : s.Introduced)
    (ho : (s.told id w a).openers = s.openers) : (s.told id w a).Introduced where
  once := (asked_told s _ id w a).symm ▸ h.once
  unasked hu := (asked_told s _ id w a).trans (h.unasked hu)
  past := ho ▸ h.past
  connected := h.connected

/-- A call goes on that does not open the pump. -/
theorem aside (h : b.Introduced) (hq : b.pump.Aside q) (hf : nx.Fits id errand)
    (hn : nx.opening? = none) (ha : Asks es nx) : (b.carry id errand q es nx).Introduced := by
  have hk : asked Request.isOnOpen (b.carry id errand q es nx).history
      = asked Request.isOnOpen b.history := by
    rw [asked_carry, ha, hf.asks_isOnOpen (by simp [hn])]
    rfl
  refine ⟨hk ▸ h.once, fun hu => ?_, fun st hm hp => ?_, fun hc => ?_⟩
  · rw [pump_carry, Next.status_leave] at hu
    exact hk.trans (h.unasked (hq.uninitialized hu))
  · rw [openers_carry, hn] at hm
    rw [pump_carry, Next.opened_leave, hq.opened]
    exact h.past st hm hp
  · rw [pump_carry, Next.connection_leave] at hc
    rw [pump_carry, Next.opened_leave, hq.opened]
    obtain hk | hk := hq.connection
    · exact h.connected (hk ▸ hc)
    · rw [hk] at hc
      cases hc

theorem step {t : Session} {c : Cause} (hd : c.isDrop = false) (hi : s.InTurn) (h : s.Introduced)
    (hs : s.Step c t) : t.Introduced := by
  cases hs with
  | start hm =>
    have hb := h.begin .start
    cases hm with
    | ignored => exact hb.aside (.of_eq rfl rfl rfl rfl rfl) .finish rfl (.none (fun f => rfl) rfl)
    | opens _ hu =>
      have ho := hi.opener
      rw [hi.unopened hu, if_neg (by simp), List.length_eq_zero_iff] at ho
      refine ⟨?_, nofun, fun st hm hp => ?_, h.connected⟩
      · rw [asked_carry, hb.unasked hu]
        simp [Request.isOnOpen]
      · rw [openers_carry, openers_begin, ho] at hm
        obtain rfl : st = .onOpen := by simpa using hm
        cases hp
  | shutdown reason hm =>
    exact (h.begin (.shutdown reason)).aside hm.aside hm.fits (hm.fits.opening? (by simp)) hm.asks
  | deliver report batch hm =>
    exact (h.begin (.delivery batch)).aside hm.aside hm.fits (by cases hm <;> rfl) hm.asks
  | fail e hm => exact (h.begin (.failure e)).aside hm.aside .finish rfl hm.asks
  | report n e he =>
    have hf : (s.forget n).Introduced := ⟨h.1, h.2, h.3, h.4⟩
    exact (hf.begin (.report e)).aside (.of_eq rfl rfl rfl rfl rfl) (.ask (.report e)) rfl .only
  | discard n hn => exact ⟨h.1, h.2, h.3, h.4⟩
  | @tellStart _ q es nx id w a stage ht hw hm =>
    obtain ⟨he, ho, hl, -⟩ := hi.told_start ht hw
    have hp := hm.passes fun hp => h.past stage (by rw [ho]; exact List.mem_cons_self) hp
    have hk : asked Request.isOnOpen ((s.told id w a).carry id w.errand q es nx).history
        = asked Request.isOnOpen s.history := by
      rw [asked_carry, hm.asks, (hm.fits id).asks_isOnOpen hp.leaves, asked_told]
      rfl
    refine ⟨hk ▸ h.once, fun hu => ?_, fun st hm' hp' => ?_, fun hc => ?_⟩
    · rw [pump_carry, Next.status_leave] at hu
      exact hk.trans (h.unasked (hm.uninitialized hu))
    · rw [pump_carry, Next.opened_leave]
      rw [openers_carry, hl, List.append_nil] at hm'
      obtain ho | ⟨-, -, hn⟩ := hp.opened
      · exact ho
      · rw [hn st (Option.mem_toList.1 hm')] at hp'
        cases hp'
    · rw [pump_carry, Next.connection_leave] at hc
      rw [pump_carry, Next.opened_leave]
      obtain ho | ⟨ho, hn, -⟩ := hp.opened
      · exact ho
      · exact ho.trans (h.connected (hn ▸ hc))
  | tellShutdown id w a ticket reason stage ht hw hm =>
    obtain ⟨he, rfl, ho, -⟩ := hi.told_shutdown ht hw hm
    rw [he]
    exact (h.told ho).aside hm.aside hm.fits (hm.fits.opening? (by simp)) hm.asks
  | tellDelivery id w a stage ht hw hm =>
    obtain ⟨⟨batch, he⟩, ho, -⟩ := hi.told_delivery ht hw
    rw [he]
    exact (h.told ho).aside (.of_eq rfl rfl rfl rfl rfl) hm.fits (by cases hm <;> rfl) hm.asks
  | tellReport id w outcome ticket ht hw hm =>
    obtain ⟨rfl, -, ho, -⟩ := hi.told_report ht hw
    exact (h.told ho).aside hm.aside hm.fits (hm.fits.opening? (by simp)) hm.asks
  | drop => cases hd
  | bump => exact ⟨h.1, h.2, h.3, h.4⟩
  | pass ticks =>
    refine ⟨?_, fun hu => ?_, h.past, h.connected⟩
    · rw [history_note, asked_append, asked_passed]
      exact h.once
    · rw [history_note, asked_append, asked_passed]
      exact h.unasked hu

end Introduced

/-! ## Deliveries -/

/-- Only a delivery waits for a hook that is told of one. -/
theorem Tidy.exists_delivers {s : Session} (h : s.Tidy) (ha : 0 < s.awaited Request.isDelivery) :
    ∃ id, s.delivers id := by
  obtain ⟨⟨id, w⟩, hm, hr⟩ := List.countP_pos_iff.1 ha
  have hf : w.Fits id := h.fits _ hm
  cases hf with
  | start ha =>
    cases ha with
    | release r => simp at hr
    | _ => cases hr
  | shutdown ha =>
    cases ha with
    | release r => simp at hr
    | _ => cases hr
  | deliver => exact ⟨id, _, _, hm, rfl⟩
  | report => cases hr

/-- As long as a hook has not answered that is told of a delivery, a receiver is in service. -/
theorem Tended.serves {s : Session} (h : s.Tended) (hi : s.Tidy)
    (ha : 0 < s.awaited Request.isDelivery) : ∃ r, s.serves r := by
  obtain ⟨id, hd⟩ := hi.exists_delivers ha
  exact h id hd

/-- The closing hook and the hooks that are told of a delivery never meet. -/
theorem Tended.apart {s : Session} (h : s.Tended) (hi : s.Tidy) (hl : s.Settled) :
    asked Request.isOnClose s.history = 0 ∨ s.awaited Request.isDelivery = 0 := by
  refine (Nat.eq_zero_or_pos _).symm.imp_left fun ha => ?_
  obtain ⟨r, hr⟩ := h.serves hi ha
  have hn := hl.asks
  rw [(hl.of_serves hr).1] at hn
  simpa using hn

end Session

/-! ## The order -/

structure Permits (h : List Mark) (r : Request) : Prop where
  opened : r.isOnEvents = true → wasOpened h = true ∧ (statusIn h).isClosingOrClosed = false
  before : r.isDelivery = true → asked Request.isOnClose h = 0
  after : r.isOnClose = true → asked Request.isDelivery h = answered Request.isDelivery h

def InOrder : List Mark → Prop := Always fun pre m => ∀ id r, m = .did id (.ask r) → Permits pre r

namespace InOrder

theorem append {h ms : List Mark} (hh : InOrder h) (hm : ∀ i e, .did i e ∉ ms) : InOrder (h ++ ms) := by
  refine hh.append_of_forall fun pre m hk => ?_
  rintro i r rfl
  exact absurd hk (hm i _)

variable {s b : Session} {id : Nat} {errand : Errand} {q : Pump} {es : List Effect} {nx : Next}

/-- A call goes on. Whether its request is in order shows in the state it comes to. -/
theorem carry (hb : InOrder b.history) (h : Asks es nx)
    (hv : ∀ r ∈ nx.request?, r.isOnEvents = true →
      es = [.ask r] ∧ wasOpened b.history = true ∧ (statusIn b.history).isClosingOrClosed = false)
    (ht : (b.carry id errand q es nx).Attended fun _ => 0)
    (ha : asked Request.isOnClose (b.carry id errand q es nx).history = 0
      ∨ (b.carry id errand q es nx).awaited Request.isDelivery = 0) :
    InOrder (b.carry id errand q es nx).history := by
  refine b.always_carry _ _ _ _ _ hb (fun pre e post he => ?_) fun pre m hm => ?_
  · rintro i r hd
    obtain ⟨rfl, rfl⟩ := Mark.did.inj hd
    obtain ⟨hr, hn⟩ := h.split he
    have hk (f : Request → Bool) :
        asked f (b.history ++ pre.map (Mark.did id)) = asked f b.history := by
      rw [asked_append, asked_did, hn, Nat.add_zero]
    have hw (f : Request → Bool) :
        answered f (b.history ++ pre.map (Mark.did id)) = answered f b.history := by
      rw [answered_append, answered_did, Nat.add_zero]
    have hf (f : Request → Bool) := Next.asks_of_request? f hr
    refine ⟨fun hr' => ?_, fun hr' => ?_, fun hr' => ?_⟩
    · obtain ⟨hs, ho⟩ := hv r hr hr'
      obtain rfl : pre = [] := by
        have hl := congrArg List.length (he.symm.trans hs)
        simp only [List.length_append, List.length_cons, List.length_nil] at hl
        exact List.eq_nil_of_length_eq_zero (by omega)
      simpa using ho
    · rw [Session.awaited_carry, hf, if_pos hr', Session.asked_carry] at ha
      rw [hk]
      omega
    · have hd := ht Request.isDelivery
      have hnd : r.isDelivery = false := by
        unfold Request.isOnClose at hr'
        split at hr'
        · rfl
        · cases hr'
      rw [Session.asked_carry, h, hf, if_pos hr'] at ha
      rw [Session.asked_carry, h, hf, Session.answered_carry, hnd] at hd
      rw [hk, hw]
      obtain ha | ha := ha
      · omega
      · simpa [ha] using hd
  · rintro i r rfl
    cases nx <;> simp [Next.marks] at hm

/-- Only the call for a delivery asks the batch hook. -/
theorem not_isOnEvents (h : nx.Fits id errand) (he : ∀ batch, errand ≠ .delivery batch) :
    ∀ r ∈ nx.request?, ¬ r.isOnEvents = true := by
  intro r hr hv
  cases nx with
  | ask q c =>
    obtain rfl := Option.some.inj hr
    have hf := h _ rfl
    cases hf with
    | start ha =>
      cases ha with
      | release r => simp at hv
      | _ => cases hv
    | shutdown ha =>
      cases ha with
      | release r => simp at hv
      | onClose => cases hv
    | deliver => exact he _ rfl
    | report => cases hv
  | _ => cases hr

/-- A batch is handed to the batch hook only when the pump has its connection. -/
theorem opened_of_receive {batch : Option Batch} (hl : s.Settled)
    (hn : s.Introduced) (hm : s.pump.ReceiveMove batch q es nx) {r : Request} (hr : nx.request? = some r)
    (hlt : ((s.begin errand).carry s.next errand q es nx).Settled)
    (ht : ∃ r, ((s.begin errand).carry s.next errand q es nx).serves r) :
    es = [.ask r] ∧ wasOpened s.history = true ∧ s.pump.status.isClosingOrClosed = false := by
  cases hm with
  | unheard => cases hr
  | handle tail h =>
    obtain rfl := Option.some.inj hr
    refine ⟨rfl, ?_, h⟩
    have ho : wasOpened s.history = s.pump.opened := hl.ok
    rw [ho]
    apply hn.connected
    obtain ⟨r, ⟨k, hk⟩ | ⟨u, hm, k, hs⟩⟩ := ht
    · have hk' : s.pump.connection = some ⟨k, r⟩ := hk
      rw [hk']
      rfl
    · have hu := hlt.turns u hm
      unfold Turn.Sound at hu
      rw [hs] at hu
      have hu' : s.pump.status = .closing := hu.2
      rw [hu'] at h
      cases h

theorem step {t : Session} {c : Cause} (hd : c.isDrop = false) (hl : s.Settled) (hn : s.Introduced)
    (hu : s.Shown) (h : InOrder s.history) (hs : s.Step c t) (hlt : t.Settled)
    (ha : t.Attended fun _ => 0)
    (hit : t.Tidy) (hd' : t.Tended) : InOrder t.history := by
  have hp := hd'.apart hit hlt
  cases hs with
  | start hm =>
    have hb : InOrder (s.begin .start).history := h.append (by simp)
    exact hb.carry hm.asks (fun r hr hv => absurd hv (not_isOnEvents (hm.fits 0) (by simp) r hr)) ha hp
  | shutdown reason hm =>
    have hb : InOrder (s.begin (.shutdown reason)).history := h.append (by simp)
    exact hb.carry hm.asks (fun r hr hv => absurd hv (not_isOnEvents hm.fits (by simp) r hr)) ha hp
  | @deliver q es nx report batch hm =>
    have hb : InOrder (s.begin (.delivery batch)).history := h.append (by simp)
    refine hb.carry hm.asks (fun r hr hv => ?_) ha hp
    have hw : 0 < nx.asks Request.isDelivery := by
      rw [Next.asks_of_request? _ hr, if_pos (Request.isDelivery_of_isOnEvents hv)]
      exact Nat.one_pos
    have ho := opened_of_receive hl hn hm hr hlt (hd'.serves hit (by rw [Session.awaited_carry]; omega))
    have hsb := hu.begin (.delivery batch)
    unfold Session.Shown at hsb
    rw [hsb, Session.history_begin, wasOpened_append, wasOpened_began, Bool.or_false]
    exact ho
  | fail e hm =>
    have hb : InOrder (s.begin (.failure e)).history := h.append (by simp)
    exact hb.carry hm.asks nofun ha hp
  | report n e he =>
    have hb : InOrder ((s.forget n).begin (.report e)).history := h.append (by simp)
    exact hb.carry .only (fun r hr hv => by cases hr; cases hv) ha hp
  | discard n hn => exact h
  | tellStart id w a stage ht hw hm =>
    have hb : InOrder (s.told id w a).history := h.append (not_did_mem_marks w id a)
    exact hb.carry hm.asks (fun r hr hv => absurd hv (not_isOnEvents (hm.fits 0) (by simp) r hr)) ha hp
  | tellShutdown id w a ticket reason stage ht hw hm =>
    have hb : InOrder (s.told id w a).history := h.append (not_did_mem_marks w id a)
    exact hb.carry hm.asks (fun r hr hv => absurd hv (not_isOnEvents hm.fits (by simp) r hr)) ha hp
  | tellDelivery id w a stage ht hw hm =>
    have hb : InOrder (s.told id w a).history := h.append (not_did_mem_marks w id a)
    refine hb.carry hm.asks (fun r hr hv => ?_) ha hp
    cases hm <;> cases hr
    cases hv
  | tellReport id w outcome ticket ht hw hm =>
    have hb : InOrder (s.told id w (.hook outcome)).history := h.append (not_did_mem_marks w id _)
    exact hb.carry hm.asks (fun r hr hv => absurd hv (not_isOnEvents hm.fits (by simp) r hr)) ha hp
  | drop => cases hd
  | bump => exact h
  | pass ticks => exact h.append (by simp)

end InOrder

namespace Bench

variable {b b' : Bench} {x : Stimulus}

structure Ordered (b : Bench) : Prop where
  inTurn : b.session.InTurn
  settled : b.session.Settled
  introduced : b.session.Introduced
  shown : b.session.Shown
  attended : b.session.Attended fun _ => 0
  guarded : b.Guarded
  inOrder : InOrder b.session.history

namespace Ordered

theorem new {context : Context} {lease : Lease} {options : Options} {wire : String}
    {draw : Nat → Nat} : (Bench.new (.new context lease options wire draw)).Ordered where
  inTurn := .new _ rfl rfl rfl
  settled := .new
  introduced := .new _ rfl
  shown := rfl
  attended _ := rfl
  guarded := .new _
  inOrder := Always.nil

theorem step (h : b.Ordered) (hs : b.Step x b') : b'.Ordered := by
  obtain ⟨hi, hl, hn, hu, ha⟩ := hs.keeps
    (P := fun s => s.Settled ∧ s.Introduced ∧ s.Shown ∧ s.Attended fun _ => 0)
    (fun s c t hc hi h hs => ⟨h.1.step hc hi hs, h.2.1.step hc hi hs, h.2.2.1.step hs,
      h.2.2.2.step_undropped hc hs⟩)
    h.inTurn ⟨h.settled, h.introduced, h.shown, h.attended⟩
  have hg := hs.guarded h.inTurn h.settled h.guarded
  refine ⟨hi, hl, hn, hu, ha, hg, ?_⟩
  obtain he | ⟨c, hc, hs⟩ := hs.session
  · rw [he]
    exact h.inOrder
  · exact h.inOrder.step hc h.settled h.introduced h.shown
      (Session.step_of_step? h.inTurn.tidy.trace hs) hl ha hi.tidy hg.tended

end Ordered
end Bench

/-! ## The hooks of a run -/

section Main

variable {context : Context} {lease : Lease} {options : Options} {wire : String} {draw : Nat → Nat}

/-- The opening hook is called at most once. The batch hook is called only after it has succeeded, and
only while the pump is neither closing nor closed. When the closing hook is called, the batch hook has
returned from all its calls, and so has the error hook where it was told that the batch hook had failed;
afterwards neither is called again. -/
theorem hooks_in_order {xs : List Stimulus} {b : Bench}
    (h : (Bench.new (.new context lease options wire draw)).run xs = some b) :
    asked Request.isOnOpen b.session.history ≤ 1
      ∧ statusIn b.session.history = b.session.pump.status
      ∧ ∀ pre id r post, b.session.history = pre ++ .did id (.ask r) :: post →
        (r.isOnEvents = true → wasOpened pre = true ∧ (statusIn pre).isClosingOrClosed = false)
          ∧ (r.isOnClose = true →
            asked Request.isDelivery pre = answered Request.isDelivery pre
              ∧ asked Request.isDelivery post = 0) := by
  have hb : b.Ordered := Bench.run_induction .new (fun b x b' h hs => h.step hs) h
  refine ⟨hb.introduced.once, hb.shown, fun pre id r post he => ?_⟩
  have hp := hb.inOrder pre _ post he id r rfl
  refine ⟨hp.opened, fun hr => ⟨hp.after hr, Nat.eq_zero_of_not_pos fun hn => ?_⟩⟩
  -- a delivery after the closing hook would have that hook before it
  obtain ⟨mid, j, q, rest, rfl, hq⟩ := exists_of_asked_pos _ hn
  have ha := (hb.inOrder (pre ++ .did id (.ask r) :: mid) _ rest (by simp [he]) j q rfl).before hq
  rw [asked_append] at ha
  have hc : asked Request.isOnClose (.did id (.ask r) :: mid) = 1 + asked Request.isOnClose mid := by
    have hm := asked_append Request.isOnClose [.did id (.ask r)] mid
    rw [List.singleton_append] at hm
    rw [hm]
    simp [asked, effects, Mark.effect?, hr]
  omega

/-- Shutdown comes while a batch is in hand, and the batch hook fails. -/
theorem hooks_in_order_after_failed_batch :
    ∃ b pre id r post, Bench.sample.run (Bench.opening
        ++ [.arrive 0 (.batch (some [default])), .enter 0 none, .own (.shutdown .leaseLost), .pass 2,
          .own (.answer 1 (.hook (.error default))), .own (.answer 1 (.hook (.ok ()))), .leave 0,
          .drain 2 none, .close 2 none, .close 2 none]) = some b
      ∧ b.session.history = pre ++ .did id (.ask r) :: post ∧ r.isOnClose = true
      ∧ asked Request.isDelivery b.session.history = 2
      ∧ asked Request.isDelivery pre = answered Request.isDelivery pre
      ∧ asked Request.isDelivery post = 0 := by
  have hr : (Bench.sample.run (Bench.opening
        ++ [.arrive 0 (.batch (some [default])), .enter 0 none, .own (.shutdown .leaseLost), .pass 2,
          .own (.answer 1 (.hook (.error default))), .own (.answer 1 (.hook (.ok ()))), .leave 0,
          .drain 2 none, .close 2 none, .close 2 none])).map
      (fun b => (asked Request.isOnClose b.session.history, asked Request.isDelivery b.session.history))
      = some (1, 2) := by rfl
  obtain ⟨b, hb, he⟩ := Option.map_eq_some_iff.1 hr
  simp only [Prod.mk.injEq] at he
  have ha : 0 < asked Request.isOnClose b.session.history := by omega
  obtain ⟨pre, id, r, post, hh, hc⟩ := exists_of_asked_pos _ ha
  exact ⟨b, pre, id, r, post, hb, hh, hc, he.2, ((hooks_in_order hb).2.2 pre id r post hh).2 hc⟩

end Main
end PartitionConsumer
