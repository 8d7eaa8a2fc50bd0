import PartitionConsumer.Proofs.AttemptTokens.Slot
import PartitionConsumer.Proofs.Session.Openers
/-!
# The token of the attempt in progress

The slot holds the token of the attempt that is in progress, unless it was cancelled, and nothing between
attempts and after the last. The attempts are numbered by the clients they have asked for. Their tokens may
be cancelled from outside at any time and any number of times, and calls may be dropped.
-/
namespace PartitionConsumer

inductive Nudge where
  | cause (c : Cause)
  | cancel
  deriving Repr, Inhabited

namespace Session

/-- Cancels the attempt in progress, and tells whether one was registered. -/
def cancel (s : Session) : Bool × Session :=
  (s.pump.attempts.isRegistered, { s with pump := { s.pump with attempts := s.pump.attempts.cancel } })

def nudge? (s : Session) : Nudge → Option Session
  | .cause c => s.step? c
  | .cancel => some s.cancel.2

def nudges (s : Session) : List Nudge → Option Session
  | [] => some s
  | x :: xs => (s.nudge? x).bind fun t => t.nudges xs

/-- The number of the attempt in progress. -/
def underway? (s : Session) : Option Nat := s.openers.head?.bind OpenStage.underway?

/-- How many attempts the sequence has made, as long as it may make another. -/
def tries? (s : Session) : Option Nat := s.openers.head?.bind OpenStage.tries?

/-- How many attempts have asked for a client. -/
def begun (s : Session) : Nat := asked (· == .createClient) s.history

/-- The call that opens the pump was dropped, or has died. -/
def OpenerLost (s : Session) : Prop := ∃ id, .lost id .start ∈ s.history

variable {s t : Session} {c : Cause}

/-- What every cause and every cancellation keeps holds at the end of every run. -/
theorem nudges_induction {P : Session → Prop} {xs : List Nudge} (h0 : P s)
    (hx : ∀ s x t, P s → s.nudge? x = some t → P t) (h : s.nudges xs = some t) : P t := by
  induction xs generalizing s with
  | nil => exact Option.some.inj h ▸ h0
  | cons x xs ih =>
    obtain ⟨u, hu, h⟩ := Option.bind_eq_some_iff.1 h
    exact ih (hx s x u h0 hu) h

theorem Idles.begun (h : s.Idles t) : t.begun = s.begun := by
  obtain ⟨ms, hm, ha, -⟩ := h
  rw [Session.begun, hm, asked_append, ha]
  rfl

theorem Idles.openerLost (h : s.Idles t) : t.OpenerLost ↔ s.OpenerLost := by
  obtain ⟨ms, hm, -, hl⟩ := h
  refine exists_congr fun id => ?_
  rw [hm, List.mem_append, or_iff_left (hl id)]

/-! ## The invariant -/

/-- The slot, and the attempts of the session so far. -/
def tenancy (s : Session) : Tenancy := ⟨s.pump.attempts, s.begun, s.underway?.isSome⟩

/-- The slot is sound as long as the opening call was not lost, the stage of that call counts the attempts,
and the slot never holds an earlier one. -/
structure Tokens (s : Session) : Prop where
  sound : ¬s.OpenerLost → s.tenancy.Sound
  tries : ∀ n, s.tries? = some n → n = s.begun
  current : ∀ n, s.pump.attempts.current = some n → s.begun ≤ n
  unopened : s.pump.status = .uninitialized → s.begun = 0
  lost : s.OpenerLost → s.openers = [] ∧ s.pump.status ≠ .uninitialized

/-- What a step that spares the opening call does to the slot, the slot of `s` may as well have done to it. -/
theorem Spares.leads (h : s.Spares t) : s.tenancy.Leads t.tenancy := by
  unfold tenancy
  rw [h.idles.begun, underway?, underway?, h.openers]
  obtain ha | ⟨ha, -⟩ := h.attempts
  · rw [ha]
    exact .refl _
  · rw [ha]
    exact .of_act (x := .cancel) rfl

namespace Tokens

variable {context : Context} {lease : Lease} {options : Options} {wire : String} {draw : Nat → Nat}

theorem new : (Session.new (.new context lease options wire draw)).Tokens where
  sound _ := .new
  tries := nofun
  current := nofun
  unopened _ := rfl
  lost := by
    rintro ⟨id, h⟩
    cases h

theorem not_lost (h : s.Tokens) {stage : OpenStage} (ho : s.openers.head? = some stage) : ¬s.OpenerLost := by
  intro hl
  rw [(h.lost hl).1] at ho
  cases ho

theorem not_lost_of_underway (h : s.Tokens) {n : Nat} (hn : s.underway? = some n) : ¬s.OpenerLost :=
  have ⟨_, ho, _⟩ := Option.bind_eq_some_iff.1 hn
  h.not_lost ho

theorem underway (h : s.Tokens) {n : Nat} (hn : s.underway? = some n) : n = s.begun := by
  obtain ⟨stage, ho, hs⟩ := Option.bind_eq_some_iff.1 hn
  exact h.tries n (Option.bind_eq_some_iff.2 ⟨stage, ho, OpenStage.tries?_of_underway? hs⟩)

theorem cancel (h : s.Tokens) : s.cancel.2.Tokens where
  sound hl := (h.sound hl).cancel
  tries := h.tries
  current _ hn := absurd ((s.pump.attempts.current_cancel).symm.trans hn) nofun
  unopened := h.unopened
  lost := h.lost

/-! ## Steps -/

theorem begins (h : s.Tokens) (ho : s.openers = []) (hu : s.pump.status = .uninitialized)
    (hto : t.openers = [.onOpen]) (ha : t.pump.attempts = s.pump.attempts) (hi : s.Idles t) :
    t.Tokens ∧ t.tenancy = s.tenancy := by
  have hb : t.begun = s.begun := hi.begun
  have hl : ¬s.OpenerLost := fun hl => (h.lost hl).2 hu
  have ht : t.tenancy = s.tenancy := by
    rw [tenancy, tenancy, ha, hb, underway?, underway?, hto, ho]
    rfl
  refine ⟨⟨fun _ => ht ▸ h.sound hl, fun n hn => ?_, fun n hn => ?_, fun _ => hb.trans (h.unopened hu),
    fun hk => absurd (hi.openerLost.1 hk) hl⟩, ht⟩
  · rw [tries?, hto] at hn
    rw [hb, h.unopened hu]
    exact (Option.some.inj hn).symm
  · rw [hb]
    exact h.current n (ha ▸ hn)

theorem spares (h : s.Tokens) (hp : s.Spares t)
    (hu : t.pump.status = .uninitialized → s.pump.status = .uninitialized) : t.Tokens := by
  refine ⟨fun hl => ?_, fun n hn => ?_, fun n hn => ?_, fun hs => ?_, fun hl => ?_⟩
  · exact (h.sound fun hk => hl (hp.idles.openerLost.2 hk)).leads hp.leads
  · rw [tries?, hp.openers] at hn
    rw [hp.idles.begun]
    exact h.tries n hn
  · rw [hp.idles.begun]
    obtain he | ⟨he, -⟩ := hp.attempts
    · exact h.current n (he ▸ hn)
    · rw [he, AttemptSlot.current_cancel] at hn
      cases hn
  · rw [hp.idles.begun]
    exact h.unopened (hu hs)
  · have hk := h.lost (hp.idles.openerLost.1 hl)
    exact ⟨hp.openers.trans hk.1, fun hs => hk.2 (hu hs)⟩

theorem loses (h : s.Tokens) (hi : s.Led) {id : Nat} {stage : OpenStage} (ho : s.openers = [stage])
    (hto : t.openers = []) (ha : t.pump.attempts = s.pump.attempts)
    (hh : t.history = s.history ++ [.lost id .start])
    (hu : t.pump.status = .uninitialized → s.pump.status = .uninitialized) : t.Tokens ∧ t.OpenerLost := by
  have hb : t.begun = s.begun := by
    rw [begun, hh, asked_append]
    rfl
  have hl : t.OpenerLost := ⟨id, by rw [hh]; exact List.mem_append_right _ (List.mem_singleton_self _)⟩
  refine ⟨⟨fun hn => absurd hl hn, fun n hn => ?_, fun n hn => ?_, fun hs => hb.trans (h.unopened (hu hs)),
    fun _ => ⟨hto, fun hs => ?_⟩⟩, hl⟩
  · rw [tries?, hto] at hn
    cases hn
  · rw [hb]
    exact h.current n (ha ▸ hn)
  · have hk := hi.opener
    rw [hi.unopened (hu hs), ho, if_neg nofun] at hk
    cases hk

section Tells

variable {id : Nat} {w : Waiting} {a : Answer} {stage : OpenStage} {m : Move} {es : List Effect}

theorem tries_stage (h : s.Tokens) (ho : s.openers = [stage]) (n : Nat) (hn : stage.tries? = some n) :
    n = s.begun :=
  h.tries n (by rw [tries?, ho]; exact hn)

theorem tenancy_stage (ho : s.openers = [stage]) :
    s.tenancy = ⟨s.pump.attempts, s.begun, stage.underway?.isSome⟩ := by
  rw [tenancy, underway?, ho]
  rfl

theorem clear_stage (h : s.Tokens) (ho : s.openers = [stage]) (hu : stage.underway? = none) :
    s.pump.attempts.clear = s.pump.attempts := by
  have hs := h.sound (h.not_lost (by rw [ho]; rfl))
  have hc : s.pump.attempts.current = none :=
    hs.current_eq_none (by rw [tenancy_stage ho, hu]; rfl)
  rw [AttemptSlot.clear, ← hc]

theorem slotMove (h : s.Tokens) (ho : s.openers = [stage])
    (hr : s.pump.resumeStart s.now stage a = some m) (hm : s.pump.OpenMove stage a m.1.untraced es m.2) :
    Pump.SlotMove s.pump.attempts stage m.1.attempts m.2 :=
  hm.slotMove hr rfl rfl (h.clear_stage ho)

/-- The opening call is told something and does not die of it. -/
theorem not_lost_carry {q : Pump} {nx : Next} (hl : ¬s.OpenerLost) (hn : nx ≠ .crash) :
    ¬((s.told id w a).carry id .start q es nx).OpenerLost := by
  rintro ⟨j, hj⟩
  rw [history_carry, List.append_assoc, List.mem_append, history_told, List.mem_append] at hj
  obtain (hj | hj) | hj := hj
  · exact hl ⟨j, hj⟩
  · exact (quiet_marks w id a).2 j hj
  · exact hn (lost_marks hj).2

theorem tells (h : s.Tokens) (hi : s.Led) (ht : s.Tells id w a c) (hw : w.call = .start stage)
    (hr : s.pump.resumeStart s.now stage a = some m) (hm : s.pump.OpenMove stage a m.1.untraced es m.2)
    (he : t = (s.told id w a).carry id .start m.1.untraced es m.2) :
    t.Tokens ∧ (¬t.OpenerLost → s.tenancy.Leads t.tenancy) := by
  obtain ⟨ho, hto, hp⟩ := hi.openers_of_start ht.call? hw
  have hl : ¬s.OpenerLost := h.not_lost (by rw [ho]; rfl)
  have hslot := h.slotMove ho hr hm
  have hopen : t.openers = m.2.opening?.toList := by
    rw [he, openers_carry]
    exact (congrArg (_ ++ ·) hto).trans (List.append_nil _)
  have hbegun : t.begun = s.begun + m.2.asks (· == .createClient) := by
    rw [he, begun, asked_carry, asked_told, hm.asks]
    rfl
  have hstat : t.pump.status ≠ .uninitialized := by
    intro hu
    rw [he] at hu
    rw [hi.unopened (hm.uninitialized ((Next.status_leave ..).symm.trans hu))] at hp
    cases hp
  have hatt : t.pump.attempts = m.1.attempts := by
    rw [he]
    exact Next.attempts_leave ..
  have htries (n : Nat) (hn : t.tries? = some n) : n = t.begun := by
    rw [tries?, hopen, Option.head?_toList] at hn
    rw [hbegun]
    exact hslot.tries (h.tries_stage ho) n hn
  by_cases hc : m.2 = .crash
  · have hlost : t.OpenerLost := by
      refine ⟨id, ?_⟩
      rw [he, history_carry, hc]
      exact List.mem_append_right _ (List.mem_singleton_self _)
    refine ⟨⟨fun hk => absurd hlost hk, htries, fun n hn => ?_, fun hu => absurd hu hstat,
      fun _ => ⟨?_, hstat⟩⟩, fun hk => absurd hlost hk⟩
    · rw [hatt] at hn
      rw [hbegun, hc]
      rw [hc] at hslot
      exact hslot.current_of_crash (h.tries_stage ho) hn
    · rw [hopen, hc]
      rfl
  · have hk : ¬t.OpenerLost := he ▸ not_lost_carry hl hc
    have hlead : s.tenancy.Leads t.tenancy := by
      rw [tenancy_stage ho, tenancy, hatt, hbegun, underway?, hopen, Option.head?_toList]
      exact hslot.leads (h.tries_stage ho) (h.clear_stage ho) hc
    have hsound := (h.sound hl).leads hlead
    refine ⟨⟨fun _ => hsound, htries, fun n hn => ?_, fun hu => absurd hu hstat, fun hn => absurd hn hk⟩,
      fun _ => hlead⟩
    exact ((hsound.held n).1 hn).1.2.ge

end Tells

/-- A step keeps the invariant, and what it does to the slot is one operation after another. -/
theorem step (h : s.Tokens) (hi : s.Led) (hb : s.Halted) (hs : s.step? c = some t) :
    t.Tokens ∧ (¬t.OpenerLost → s.tenancy.Leads t.tenancy) := by
  have hst := step_of_step? hi.tidy.trace hs
  cases Affects.of_step hi hb.stopping hst hs with
  | begins ho hu hto ha hid =>
    obtain ⟨hk, ht⟩ := h.begins ho hu hto ha hid
    exact ⟨hk, fun _ => ht ▸ .refl _⟩
  | tells id w a stage m es ht hw hr hm he => exact h.tells hi ht hw hr hm he
  | loses id stage ho hto ha hh =>
    obtain ⟨hk, hl⟩ := h.loses hi ho hto ha hh hst.uninitialized
    exact ⟨hk, fun hn => absurd hl hn⟩
  | spares hp => exact ⟨h.spares hp hst.uninitialized, fun _ => hp.leads⟩

/-- A step cancels no token but that of the attempt in progress, and only when the pump is shut down. -/
theorem revoked_step (h : s.Tokens) (hi : s.Led) (hb : s.Halted) (hs : s.step? c = some t) {n : Nat}
    (hn : t.pump.attempts.isRevoked n = true) :
    s.pump.attempts.isRevoked n = true ∨ s.pump.attempts.current = some n ∧ t.pump.stopping = true := by
  have same {f : AttemptSlot} (hf : f.revoked = s.pump.attempts.revoked) (hr : f.isRevoked n = true) :
      s.pump.attempts.isRevoked n = true := by
    rw [AttemptSlot.isRevoked, hf] at hr
    exact hr
  cases Affects.of_step hi hb.stopping (step_of_step? hi.tidy.trace hs) hs with
  | begins _ _ _ ha => exact .inl (same (congrArg _ ha) hn)
  | tells id w a stage m es ht hw hr hm he =>
    refine .inl (same ?_ hn)
    rw [he, pump_carry, Next.attempts_leave]
    exact (h.slotMove (hi.openers_of_start ht.call? hw).1 hr hm).revoked
  | loses _ _ _ _ ha => exact .inl (same (congrArg _ ha) hn)
  | spares hp =>
    obtain ha | ⟨ha, hst⟩ := hp.attempts
    · exact .inl (same (congrArg _ ha) hn)
    · rw [ha, AttemptSlot.isRevoked_cancel_iff] at hn
      exact hn.symm.imp_right fun hc => ⟨hc, hst⟩

/-! ## Runs -/

theorem led_cancel (hi : s.Led) : s.cancel.2.Led :=
  ⟨⟨hi.tidy.1, hi.tidy.2, hi.tidy.3, hi.tidy.4, hi.tidy.5, hi.tidy.6⟩, hi.opener, hi.unopened, hi.runner⟩

theorem halted_cancel (hb : s.Halted) : s.cancel.2.Halted := ⟨hb.1, hb.2, hb.3, hb.4, hb.5, hb.6⟩

theorem of_nudges {xs : List Nudge}
    (h : (Session.new (.new context lease options wire draw)).nudges xs = some s) :
    s.Led ∧ s.Halted ∧ s.Tokens := by
  refine nudges_induction (P := fun s => s.Led ∧ s.Halted ∧ s.Tokens) ⟨.new _ rfl rfl rfl, .fresh, .new⟩ ?_ h
  rintro s x t ⟨hi, hb, hk⟩ hx
  cases x with
  | cause c =>
    have hs := step_of_step? hi.tidy.trace hx
    exact ⟨hi.step hs, hb.step hi hs, (hk.step hi hb hx).1⟩
  | cancel => exact Option.some.inj hx ▸ ⟨led_cancel hi, halted_cancel hb, hk.cancel⟩

theorem current_iff (h : s.Tokens) (hl : ¬s.OpenerLost) (n : Nat) :
    s.pump.attempts.current = some n ↔ s.underway? = some n ∧ s.pump.attempts.isRevoked n = false := by
  refine ((h.sound hl).held n).trans (and_congr_left fun _ => ⟨fun ⟨hu, hn⟩ => ?_, fun hu => ?_⟩)
  · obtain ⟨m, hm⟩ := Option.isSome_iff_exists.1 hu
    rw [hm, h.underway hm]
    exact congrArg some hn.symm
  · exact ⟨Option.isSome_iff_exists.2 ⟨n, hu⟩, h.underway hu⟩

/-- Where no attempt is under way, none is registered. -/
theorem current_eq_none (h : s.Tokens) (hl : ¬s.OpenerLost)
    (ho : ∀ stage ∈ s.openers, stage.isConnecting = false) : s.pump.attempts.current = none := by
  refine Option.eq_none_iff_forall_ne_some.2 fun n hn => ?_
  obtain ⟨stage, hs, hu⟩ := Option.bind_eq_some_iff.1 ((h.current_iff hl n).1 hn).1
  have hc := ho stage (List.mem_of_head? hs)
  rw [OpenStage.isConnecting_of_underway? hu] at hc
  cases hc

theorem cancel_fst (h : s.Tokens) (hl : ¬s.OpenerLost) :
    s.cancel.1 = true ↔ ∃ n, s.underway? = some n ∧ s.pump.attempts.isRevoked n = false :=
  Option.isSome_iff_exists.trans (exists_congr (h.current_iff hl))

end Tokens
end Session

section Main

variable {context : Context} {lease : Lease} {options : Options} {wire : String} {draw : Nat → Nat}

/-- Whatever happens to a pump and its calls, and however often the attempt in progress is cancelled from
outside, the slot holds the attempt in progress, which is the last that has begun, unless that was
cancelled, and nothing else: so it is empty between the attempts and when the sequence of attempts has come
to its end, however it did. A step does one operation after another to the slot, and the same is true where
a cancellation comes between two of them. It tells whether there was such an attempt; it cancels the token
of that one alone, and the pump is not shut down by it. Only of a call that was dropped or has died an
attempt may be left in the slot, and that is no earlier one than the last. -/
theorem slot_holds_attempt_in_progress {xs : List Nudge} {s : Session}
    (h : (Session.new (.new context lease options wire draw)).nudges xs = some s) :
    (¬s.OpenerLost →
        (∀ n, s.pump.attempts.current = some n
          ↔ s.underway? = some n ∧ s.pump.attempts.isRevoked n = false)
        ∧ (s.cancel.1 = true ↔ ∃ n, s.underway? = some n ∧ s.pump.attempts.isRevoked n = false)
        ∧ ((∀ stage ∈ s.openers, stage.isConnecting = false) → s.pump.attempts.current = none)
        ∧ ∀ u, s.tenancy.Leads u → u.Sound)
      ∧ (∀ n, s.underway? = some n → n = s.begun)
      ∧ (∀ n, s.pump.attempts.current = some n → s.begun ≤ n)
      ∧ (∀ n, s.cancel.2.pump.attempts.isRevoked n = true
          ↔ s.pump.attempts.current = some n ∨ s.pump.attempts.isRevoked n = true)
      ∧ s.cancel.2.pump.attempts.current = none ∧ s.cancel.2.pump.stopping = s.pump.stopping
      ∧ ∀ c t, s.step? c = some t →
          (¬t.OpenerLost → s.tenancy.Leads t.tenancy)
          ∧ ∀ n, t.pump.attempts.isRevoked n = true →
            s.pump.attempts.isRevoked n = true
              ∨ s.pump.attempts.current = some n ∧ t.pump.stopping = true := by
  obtain ⟨hi, hb, hk⟩ := Session.Tokens.of_nudges h
  exact ⟨fun hl => ⟨hk.current_iff hl, hk.cancel_fst hl, hk.current_eq_none hl, fun u => (hk.sound hl).leads⟩,
    fun n => hk.underway, hk.current, s.pump.attempts.isRevoked_cancel_iff, s.pump.attempts.current_cancel, rfl,
    fun c t hs => ⟨(hk.step hi hb hs).2, fun n => hk.revoked_step hi hb hs⟩⟩

/-- The second attempt is cancelled, and a second cancellation finds none. -/
theorem slot_holds_attempt_in_progress_of_retry :
    ∃ s, Session.sample.nudges [.cause .start, .cause (.answer 0 (.hook (.ok ()))),
        .cause (.answer 0 (.client (.error ⟨.connection, "refused"⟩))), .cause (.wake 0)] = some s
      ∧ s.underway? = some 2 ∧ s.begun = 2 ∧ s.pump.attempts.current = some 2 ∧ s.cancel.1 = true
      ∧ s.cancel.2.cancel.1 = false ∧ s.cancel.2.pump.isCancelled 2 = true
      ∧ s.cancel.2.pump.isCancelled 3 = false := by
  have hr : (Session.sample.nudges [.cause .start, .cause (.answer 0 (.hook (.ok ()))),
      .cause (.answer 0 (.client (.error ⟨.connection, "refused"⟩))), .cause (.wake 0)]).map
      (fun s => (s.underway?, s.pump.attempts.isRevoked 2, s.cancel.2.cancel.1, s.cancel.2.pump.isCancelled 2,
        s.cancel.2.pump.isCancelled 3)) = some (some 2, false, false, true, false) := by rfl
  obtain ⟨s, hs, he⟩ := Option.map_eq_some_iff.1 hr
  simp only [Prod.mk.injEq] at he
  obtain ⟨hu, hv, hc, h2, h3⟩ := he
  obtain ⟨hk, hb, -⟩ := slot_holds_attempt_in_progress hs
  obtain ⟨hh, hf, -⟩ := hk ((Session.Tokens.of_nudges hs).2.2.not_lost_of_underway hu)
  exact ⟨s, hs, hu, (hb 2 hu).symm, (hh 2).2 ⟨hu, hv⟩, hf.2 ⟨2, hu, hv⟩, hc, h2, h3⟩

end Main
end PartitionConsumer
