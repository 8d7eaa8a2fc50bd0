import PartitionConsumer.Proofs.Session.Requests
import PartitionConsumer.Proofs.CutShort.Cutting
/-!
# The call that opens a pump

How a step affects the call that opens the pump and the slot of its attempt: the call begins, is told
something, or is lost; any other step spares it, and does nothing to the slot but to cancel the attempt when
the pump is shut down.
-/
namespace PartitionConsumer
namespace Pump

variable {p q : Pump} {es : List Effect} {nx : Next}

theorem StartMove.attempts (h : StartMove p q es nx) : q.attempts = p.attempts := by cases h <;> rfl

theorem ReceiveMove.attempts {batch : Option Batch} (h : ReceiveMove p batch q es nx) :
    q.attempts = p.attempts := by cases h <;> rfl

theorem FailureMove.attempts {e : TransportError} (h : FailureMove p e q es) : q.attempts = p.attempts := by
  cases h <;> rfl

def CutsOff (p q : Pump) : Prop :=
  q.attempts = p.attempts ∨ q.attempts = p.attempts.cancel ∧ q.stopping = true

section Shutdown

variable {now ticket : Nat} {reason : CloseReason}

theorem PassMove.cutsOff {shown : List Effect} {r : Pump} (h : PassMove p ticket reason shown q es nx)
    (hp : CutsOff r p) : CutsOff r q := by cases h <;> exact hp

theorem DisconnectMove.cutsOff (h : DisconnectMove p ticket reason q es nx) (hs : p.stopping = true) :
    CutsOff p q := by
  have hu : CutsOff p p.unlinked := .inr ⟨rfl, hs⟩
  cases h with
  | release => exact hu
  | pass _ hp => exact hp.cutsOff hu

theorem RunMove.cutsOff (h : RunMove p now ticket reason q es nx) : CutsOff p q := by
  cases h with
  | closed => exact .inl rfl
  | settle => exact .inl rfl
  | disconnect _ _ hd => exact hd.cutsOff rfl

theorem EnterMove.cutsOff (h : EnterMove p now ticket reason q es nx) : CutsOff p q := by
  cases h with
  | run _ _ hr => exact hr.cutsOff
  | _ => exact .inl rfl

theorem ShutdownMove.cutsOff {stage : ShutdownStage} {a : Answer}
    (h : ShutdownMove p now ticket reason stage a q es nx) (hs : stage ≠ .queued → p.stopping = true) :
    CutsOff p q := by
  cases h with
  | queuedRun _ hr => exact hr.cutsOff
  | disconnect _ _ _ hd => exact hd.cutsOff (hs nofun)
  | releaseEnds _ _ _ hp => exact hp.cutsOff (.inl rfl)
  | _ => exact .inl rfl

end Shutdown
end Pump

@[simp] theorem Next.attempts_leave (nx : Next) (p : Pump) : (nx.leave p).attempts = p.attempts := by
  cases nx <;> rfl

/-- Only the call that opens the pump asks for a client. -/
theorem Next.Fits.asks_createClient {nx : Next} {id : Nat} {errand : Errand} (h : nx.Fits id errand)
    (he : errand ≠ .start) : nx.asks (· == .createClient) = 0 := by
  cases nx with
  | ask r c =>
    have hf := h _ rfl
    cases hf with
    | start => exact absurd rfl he
    | @shutdown reason stage request ha =>
      cases ha with
      | release r => cases hr : r.step <;> simp [Release.request, hr]
      | onClose => rfl
    | deliver ha => cases ha <;> rfl
    | report e => rfl
  | _ => rfl

namespace Session

variable {s t b : Session} {c : Cause} {id : Nat} {errand : Errand} {q : Pump} {es : List Effect} {nx : Next}

/-- From `s` to `t` no client was asked for, and no call was lost that opens the pump. -/
def Idles (s t : Session) : Prop :=
  ∃ ms, t.history = s.history ++ ms ∧ asked (· == .createClient) ms = 0 ∧ ∀ id, .lost id .start ∉ ms

structure Spares (s t : Session) : Prop where
  openers : t.openers = s.openers
  attempts : t.pump.attempts = s.pump.attempts
    ∨ t.pump.attempts = s.pump.attempts.cancel ∧ t.pump.stopping = true
  idles : s.Idles t

inductive Affects (s : Session) (c : Cause) (t : Session) : Prop where
  | begins (ho : s.openers = []) (hu : s.pump.status = .uninitialized) (ht : t.openers = [.onOpen])
    (ha : t.pump.attempts = s.pump.attempts) (hi : s.Idles t)
  | tells (id : Nat) (w : Waiting) (a : Answer) (stage : OpenStage) (m : Move) (es : List Effect)
    (ht : s.Tells id w a c) (hw : w.call = .start stage) (hr : s.pump.resumeStart s.now stage a = some m)
    (hm : s.pump.OpenMove stage a m.1.untraced es m.2)
    (he : t = (s.told id w a).carry id .start m.1.untraced es m.2)
  | loses (id : Nat) (stage : OpenStage) (ho : s.openers = [stage]) (ht : t.openers = [])
    (ha : t.pump.attempts = s.pump.attempts) (hh : t.history = s.history ++ [.lost id .start])
  | spares (h : s.Spares t)

/-- Only a call that dies on the way is lost by going on. -/
theorem lost_marks {j : Nat} (h : .lost j .start ∈ es.map (.did id) ++ nx.marks id errand) :
    errand = .start ∧ nx = .crash := by
  rw [List.mem_append] at h
  obtain h | h := h
  · simp at h
  · obtain ⟨-, h⟩ | ⟨hc, h⟩ := Next.mem_marks h
    · cases h
    · exact ⟨(Mark.lost.inj h).2.symm, hc⟩

theorem idles_carry {ms : List Mark} (hb : b.history = s.history ++ ms)
    (hms : asked (· == .createClient) ms = 0 ∧ ∀ id, .lost id .start ∉ ms)
    (he : es.countP (Effect.asks (· == .createClient)) = 0) (hn : errand ≠ .start ∨ nx ≠ .crash) :
    s.Idles (b.carry id errand q es nx) := by
  refine ⟨_, history_carry_of id errand q es nx hb, ?_, fun j hj => ?_⟩
  · rw [asked_append, asked_append, asked_did, asked_end, hms.1, he]
  · rw [List.mem_append] at hj
    obtain hj | hj := hj
    · exact hms.2 j hj
    · obtain ⟨hs, hc⟩ := lost_marks hj
      exact hn.elim (absurd hs) (absurd hc)

/-- A call goes on that does not open the pump. -/
theorem Spares.carry {ms : List Mark} (hb : b.history = s.history ++ ms)
    (hms : asked (· == .createClient) ms = 0 ∧ ∀ id, .lost id .start ∉ ms) (ho : b.openers = s.openers)
    (hf : nx.Fits id errand) (he : errand ≠ .start) (ha : Asks es nx) (hq : s.pump.CutsOff q) :
    s.Spares (b.carry id errand q es nx) where
  openers := by
    rw [openers_carry, hf.opening? he, ho]
    rfl
  attempts := by
    rw [pump_carry, Next.stopping_leave, Next.attempts_leave]
    exact hq
  idles := idles_carry hb hms ((ha _).trans (hf.asks_createClient he)) (.inl he)

theorem quiet_began (id : Nat) (e : Errand) :
    asked (· == .createClient) [.began id e] = 0 ∧ ∀ j, .lost j .start ∉ [Mark.began id e] :=
  ⟨rfl, by simp⟩

theorem quiet_marks (w : Waiting) (id : Nat) (a : Answer) :
    asked (· == .createClient) (w.marks id a) = 0 ∧ ∀ j, .lost j .start ∉ w.marks id a := by
  refine ⟨asked_marks .., fun j hj => ?_⟩
  obtain h | h := Waiting.mem_marks hj <;> cases h

theorem Affects.of_step (hi : s.Led) (hb : s.runners ≠ [] → s.pump.stopping = true) (h : s.Step c t)
    (hs : s.step? c = some t) : s.Affects c t := by
  cases h with
  | start hm =>
    cases hm with
    | ignored =>
      exact .spares ⟨rfl, .inl rfl, idles_carry (b := s.begin _) rfl (quiet_began ..) rfl (.inr (by simp))⟩
    | opens _ hu =>
      have ho := hi.opener
      rw [hi.unopened hu, if_neg (by simp), List.length_eq_zero_iff] at ho
      refine .begins ho hu ?_ rfl (idles_carry (b := s.begin _) rfl (quiet_began ..) rfl (.inr (by simp)))
      rw [openers_carry, openers_begin, ho]
      rfl
  | shutdown reason hm =>
    exact .spares (.carry (b := s.begin _) rfl (quiet_began ..) rfl hm.fits (by simp) hm.asks hm.cutsOff)
  | deliver report batch hm =>
    exact .spares (.carry (b := s.begin _) rfl (quiet_began ..) rfl hm.fits (by simp) hm.asks
      (.inl hm.attempts))
  | fail e hm =>
    exact .spares (.carry (b := s.begin _) rfl (quiet_began ..) rfl .finish (by simp) hm.asks
      (.inl hm.attempts))
  | report n e he =>
    exact .spares (.carry (b := (s.forget n).begin _) rfl (quiet_began ..) rfl (.ask (.report e)) (by simp)
      .only (.inl rfl))
  | discard n hn => exact .spares ⟨rfl, .inl rfl, [], (List.append_nil _).symm, rfl, fun _ => List.not_mem_nil⟩
  | tellStart id w a stage ht hw hm =>
    obtain ⟨m, hr⟩ := ht.exists_resume hw hs
    obtain ⟨es, he, hg⟩ := Pump.goes_resumeStart hr
    rw [Pump.untraced_of_trace hi.tidy.trace] at hg
    have hm : s.pump.Goes m fun q es nx => s.pump.OpenMove stage a q es nx ∧ q = m.1.untraced ∧ nx = m.2 :=
      ⟨es, he, hg, rfl, rfl⟩
    obtain ⟨q, es, nx, ht', hm, rfl, rfl⟩ := ht.exists_step hi.tidy hw hr hm
    exact .tells id w a stage m es ht hw hr hm (Option.some.inj (hs.symm.trans ht'))
  | @tellShutdown _ q es nx id w a ticket reason stage ht hw hm =>
    obtain ⟨he, rfl, ho, hr⟩ := hi.told_shutdown ht hw hm
    have hq : s.pump.CutsOff q := by
      obtain ⟨-, rfl, -⟩ | ⟨-, -, ⟨-, hr⟩ | ⟨-, hr⟩⟩ := hr
      · exact .inl rfl
      · exact hr.cutsOff
      · exact hm.cutsOff fun _ => hb (by simp [hr])
    rw [he]
    exact .spares (.carry (b := s.told ticket w a) rfl (quiet_marks ..) ho hm.fits (by simp) hm.asks hq)
  | tellDelivery id w a stage ht hw hm =>
    obtain ⟨⟨batch, he⟩, ho, -⟩ := hi.told_delivery ht hw
    rw [he]
    exact .spares (.carry (b := s.told id w a) rfl (quiet_marks ..) ho hm.fits (by simp) hm.asks
      (.inl rfl))
  | tellReport id w outcome ticket ht hw hm =>
    obtain ⟨rfl, -, ho, -⟩ := hi.told_report ht hw
    exact .spares (.carry (b := s.told ticket w _) rfl (quiet_marks ..) ho hm.fits (by simp) hm.asks hm.cutsOff)
  | drop id w hw =>
    have ha (k : Call) : (s.pump.abandon k).attempts = s.pump.attempts := by cases k <;> rfl
    have hf := hi.tidy.fits_call hw
    cases hc : w.call with
    | start stage =>
      obtain ⟨ho, hl, -⟩ := hi.openers_of_start hw hc
      exact .loses id stage ho hl (ha _) (by rw [history_note, (hf.of_start hc).1]; rfl)
    | _ =>
      have hn : w.opening? = none := by simp [Waiting.opening?, Call.opening?, hc]
      have he : w.errand ≠ .start := by
        cases hf with
        | start => cases hc
        | _ => simp
      exact .spares ⟨waiting_take_of_none hw hn, .inl (ha _), _, rfl, rfl, by simp [Ne.symm he]⟩
  | bump => exact .spares ⟨rfl, .inl rfl, [], (List.append_nil _).symm, rfl, fun _ => List.not_mem_nil⟩
  | pass ticks => exact .spares ⟨rfl, .inl rfl, _, rfl, rfl, by simp⟩

theorem Step.uninitialized (h : s.Step c t) (ht : t.pump.status = .uninitialized) :
    s.pump.status = .uninitialized := by
  cases h with
  | start hm =>
    cases hm with
    | ignored => exact ht
    | opens _ hu => exact hu
  | shutdown reason hm => exact hm.aside.uninitialized ((Next.status_leave ..).symm.trans ht)
  | deliver report batch hm => exact hm.aside.uninitialized ((Next.status_leave ..).symm.trans ht)
  | fail e hm => exact hm.aside.uninitialized ht
  | tellStart id w a stage _ _ hm => exact hm.uninitialized ((Next.status_leave ..).symm.trans ht)
  | tellShutdown id w a ticket reason stage _ _ hm =>
    exact hm.aside.uninitialized ((Next.status_leave ..).symm.trans ht)
  | tellDelivery => exact (Next.status_leave ..).symm.trans ht
  | tellReport id w outcome ticket _ _ hm =>
    exact hm.aside.uninitialized ((Next.status_leave ..).symm.trans ht)
  | drop id w => exact (s.pump.status_abandon w.call).symm.trans ht
  | _ => exact ht

end Session
end PartitionConsumer
