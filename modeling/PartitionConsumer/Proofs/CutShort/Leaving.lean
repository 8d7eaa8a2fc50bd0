import PartitionConsumer.Proofs.CutShort.Cutting
import PartitionConsumer.Proofs.Session.Trails
/-!
# Leaving an open that was cut short

From the cut to the return of the call: what holds after every step, that the call can return without any
time passing, and that it does so where time passes only when nothing else can happen.
-/
namespace PartitionConsumer

/-! ## From the cut to the return -/

section Parting

variable {id : Nat} {w v : Waiting} {stage : OpenStage} {ms : List Mark}

/-- Until it returns the call opens the pump. -/
theorem Parting.opener (h : Parting id w (some v) ms) (hc : w.call = .start stage)
    (hk : stage.isCuttable = true) :
    ∃ stage', v.call = .start stage'
      ∧ (stage'.isCuttable = true ∨ ∃ a, stage' = .abandon a .cancelled) := by
  cases h with
  | waits => exact ⟨stage, hc, .inl hk⟩
  | closes a client => exact ⟨_, rfl, .inr ⟨a, rfl⟩⟩

theorem Parting.next {c : Cause} {a : Answer} {es : List Effect} {nx : Next}
    (h : Parting id w (some v) ms) (hc : w.call = .start stage) (hk : stage.isCuttable = true)
    (hv : Cutting id v c a es nx) :
    Parting id w (nx.waiting? .start)
      (ms ++ ([.told id v a] ++ (es.map (.did id) ++ nx.marks id .start))) := by
  cases h with
  | waits =>
    cases hv with
    | client a hn => exact .ends (by simp [hn])
    | backoff a wake hn => exact .ends (by simp [hn])
    | receiver a client hn => exact .closes a client hn
    | abandon a outcome hn =>
      rw [hn] at hc
      obtain rfl := Call.start.inj hc
      cases hk
  | closes a client hw =>
    cases hv with
    | abandon b outcome hn => exact .closed a client outcome hw
    | client b hn => cases hn
    | backoff b wake hn => cases hn
    | receiver b client hn => cases hn

end Parting

theorem Waiting.marks_of_start {w : Waiting} {stage : OpenStage} (h : w.call = .start stage) (id : Nat)
    (a : Answer) : w.marks id a = [.told id w a] := by
  unfold marks
  rw [h]

/-- What is seen of a call that is told an answer and goes on: the answer, the effects, and the end of the
call if it has come. -/
def Next.marksTold (nx : Next) (id : Nat) (w : Waiting) (a : Answer) (es : List Effect) : List Mark :=
  [.told id w a] ++ (es.map (.did id) ++ nx.marks id .start)

section Told

variable (nx : Next) (id : Nat) (w : Waiting) (a : Answer) (es : List Effect)

@[simp] theorem trail_marksTold : trail id (nx.marksTold id w a es) = nx.marksTold id w a es := by
  unfold Next.marksTold
  rw [trail_append, trail_append, trail_did, trail_end]
  simp [trail, Mark.id?]

@[simp] theorem effects_marksTold : effects (nx.marksTold id w a es) = es := by
  unfold Next.marksTold
  rw [effects_append, effects_append, effects_did, effects_end, List.append_nil]
  rfl

theorem Session.history_carry_told (s : Session) {stage : OpenStage} (h : w.call = .start stage)
    (q : Pump) : ((s.told id w a).carry id .start q es nx).history
      = s.history ++ nx.marksTold id w a es := by
  rw [history_carry, history_told, Waiting.marks_of_start h, Next.marksTold]
  simp only [List.append_assoc]

end Told

namespace Session

/-- Since the history was `h` the call `id` leaves an open that was cut short, or was dropped, which it
only was if `lost`. Nobody was blamed, and no other call opens the pump. -/
structure Leaving (h : List Mark) (id : Nat) (w : Waiting) (lost : Prop) (s : Session) : Prop where
  led : s.Led
  stopping : s.pump.stopping = true
  known : id < s.next
  marks : ∃ ms, s.history = h ++ ms ∧ (effects ms).any Effect.blames = false
    ∧ (Parting id w (s.call? id) (trail id ms) ∨ lost ∧ s.call? id = none)
  alone : s.call? id = none → s.openers = []

theorem call?_carry {b : Session} {id : Nat} (h : b.call? id = none) (e : Errand) (q : Pump)
    (es : List Effect) (nx : Next) : (b.carry id e q es nx).call? id = nx.waiting? e := by
  unfold call? at h ⊢
  rw [calls_carry]
  cases nx with
  | ask r c => exact List.lookup_cons_self ..
  | wait c => exact List.lookup_cons_self ..
  | _ => exact h

/-- A call that opens the pump goes on as one, or is over. -/
theorem call_of_openMove {b : Session} {id : Nat} {p q : Pump} {stage : OpenStage} {a : Answer}
    {es : List Effect} {nx : Next} {v : Waiting} (hn : b.call? id = none)
    (hm : p.OpenMove stage a q es nx) (hv : (b.carry id .start q es nx).call? id = some v) :
    ∃ stage', v.call = .start stage' ∧ stage' ∈ nx.opening? := by
  rw [call?_carry hn] at hv
  have hc : nx.call? = some v.call := by cases nx <;> cases hv <;> rfl
  obtain ⟨-, stage', rfl | ⟨r, rfl⟩⟩ | ⟨-, hc'⟩ := hm.opening
  · exact ⟨stage', (Option.some.inj hc).symm, rfl⟩
  · exact ⟨stage', (Option.some.inj hc).symm, rfl⟩
  · rw [hc'] at hc
    cases hc

theorem openers_of_over {b : Session} {id : Nat} {q : Pump} {es : List Effect} {nx : Next}
    (hn : b.call? id = none) (hb : b.openers = [])
    (hg : (b.carry id .start q es nx).call? id = none) : (b.carry id .start q es nx).openers = [] := by
  rw [call?_carry hn] at hg
  rw [openers_carry, hb]
  cases nx <;> first | rfl | cases hg

namespace Leaving

variable {s t : Session} {c : Cause} {h : List Mark} {id : Nat} {w v : Waiting} {lost : Prop}
  {stage : OpenStage}

theorem parting (hl : Leaving h id w lost s) (hv : s.call? id = some v) :
    ∃ ms, s.history = h ++ ms ∧ (effects ms).any Effect.blames = false
      ∧ Parting id w (some v) (trail id ms) := by
  obtain ⟨ms, hh, hb, hp | ⟨-, hn⟩⟩ := hl.marks
  · exact ⟨ms, hh, hb, hv ▸ hp⟩
  · rw [hv] at hn
    cases hn

/-- Something happens that is not about this call. -/
theorem aloof (hl : Leaving h id w lost s) (hc : w.call = .start stage) (hk : stage.isCuttable = true)
    (hs : s.Step c t) (hi : c.id? ≠ some id) : Leaving h id w lost t := by
  have ha := hs.aloof hl.known hi
  obtain ⟨ms, hh, hb, hp⟩ := hl.marks
  obtain ⟨ns, hn, hq⟩ := ha.marks
  have hmute : ∃ ns, t.history = s.history ++ ns ∧ (effects ns).any Effect.blames = false := by
    refine hs.mute hl.stopping (fun e he => by simp [Effect.isOfOpen, he]) ?_
    -- a call that opens the pump would be this one
    intro j v a stage' q es nx ht hv hm
    refine absurd ?_ hi
    cases hw : s.call? id with
    | none =>
      obtain ⟨-, ho, -⟩ := hl.led.told_start ht hv
      rw [hl.alone hw] at ho
      cases ho
    | some u =>
      obtain ⟨_, _, _, hu⟩ := hl.parting hw
      obtain ⟨stage'', hu, -⟩ := hu.opener hc hk
      exact ht.id?.trans (congrArg some (hl.led.opener_unique hw hu ht.call? hv))
  obtain ⟨ns', hn', hf⟩ := hmute
  obtain rfl := List.append_cancel_left (hn.symm.trans hn')
  refine ⟨hl.led.step hs, hs.stopping hl.stopping, ha.next, ⟨ms ++ ns, ?_, ?_, ?_⟩, fun ht => ?_⟩
  · rw [hn, hh, List.append_assoc]
  · rw [effects_append, List.any_append, hb, hf]
    rfl
  · rw [trail_append, hq, List.append_nil, ha.call]
    exact hp
  · exact hs.openers_nil hl.led (.inl hl.stopping) (hl.alone (ha.call.symm.trans ht))

/-- The call is told that it is cancelled, or that its client is closed. -/
theorem told (hl : Leaving h id w lost s) (hc : w.call = .start stage) (hk : stage.isCuttable = true)
    {a : Answer} (ht : s.Tells id v a c) (hs : s.step? c = some t) : Leaving h id w lost t := by
  have hst := step_of_step? hl.led.tidy.trace hs
  obtain ⟨ms, hh, hb, hp⟩ := hl.parting ht.call?
  obtain ⟨stage', hv, hk'⟩ := hp.opener hc hk
  have hf := hl.led.tidy.fits_call ht.call?
  obtain ⟨es, nx, hcut⟩ := exists_cutting hl.stopping hf hv hk' ht
  obtain ⟨q, hq⟩ := hcut.step? hl.led.tidy.trace hl.stopping ht.call? hf
  obtain rfl := Option.some.inj (hs.symm.trans hq)
  have hn : (s.told id v a).call? id = none := hl.led.tidy.call?_take ht.call?
  refine ⟨hl.led.step hst, hst.stopping hl.stopping, hl.known,
    ⟨ms ++ nx.marksTold id v a es, ?_, ?_, .inl ?_⟩, fun hg => ?_⟩
  · rw [history_carry_told nx id v a es s hv, hh, List.append_assoc]
  · rw [effects_append, List.any_append, hb, effects_marksTold, hcut.blames]
    rfl
  · rw [trail_append, trail_marksTold, call?_carry hn]
    exact hp.next hc hk hcut
  · exact openers_of_over hn (hl.led.told_start ht hv).2.2.1 hg

theorem drop (hl : Leaving h id w lost s) (hc : w.call = .start stage) (hk : stage.isCuttable = true)
    (hd : lost) (hv : s.call? id = some v) (hs : s.step? (.drop id) = some t) :
    Leaving h id w lost t := by
  have hst := step_of_step? hl.led.tidy.trace hs
  obtain ⟨ms, hh, hb, hp⟩ := hl.parting hv
  obtain ⟨stage', hc', -⟩ := hp.opener hc hk
  obtain ⟨u, hu, rfl⟩ := Option.map_eq_some_iff.1 hs
  obtain rfl : v = u := Option.some.inj (hv.symm.trans hu)
  have hn : (s.take id).call? id = none := hl.led.tidy.call?_take hv
  refine ⟨hl.led.step hst, hst.stopping hl.stopping, hl.known,
    ⟨ms ++ [.lost id v.errand], ?_, ?_, .inr ⟨hd, hn⟩⟩, fun _ => ?_⟩
  · rw [history_note, ← List.append_assoc, ← hh]
    rfl
  · rw [effects_append, List.any_append, hb]
    rfl
  · exact (hl.led.openers_of_start hv hc').2.1

theorem step (hl : Leaving h id w lost s) (hc : w.call = .start stage) (hk : stage.isCuttable = true)
    (hd : c = .drop id → lost) (hs : s.step? c = some t) : Leaving h id w lost t := by
  by_cases hi : c.id? = some id
  · obtain ⟨v, hv, rfl | ⟨a, ht⟩⟩ := tells_of_step? hi hs
    · exact hl.drop hc hk (hd rfl) hv hs
    · exact hl.told hc hk ht hs
  · exact hl.aloof hc hk (step_of_step? hl.led.tidy.trace hs) hi

/-- A call whose open is cut short can go on, and it takes no time. -/
theorem advance (hl : Leaving h id w lost s) (hv : s.call? id = some v) {a : Answer}
    {es : List Effect} {nx : Next} (hcut : Cutting id v c a es nx) :
    ∃ t, s.step? c = some t ∧ t.now = s.now ∧ t.call? id = nx.waiting? .start := by
  obtain ⟨q, hq⟩ := hcut.step? hl.led.tidy.trace hl.stopping hv (hl.led.tidy.fits_call hv)
  have hn : (s.told id v a).call? id = none := hl.led.tidy.call?_take hv
  exact ⟨_, hq, rfl, call?_carry hn ..⟩

theorem returns_of_leaving {a : Attempt} {client : Nat} (hl : Leaving h id w lost s)
    (hv : s.call? id = some (.leaving a client)) :
    ∃ t, s.step? (.answer id (.released (.ok ()))) = some t ∧ t.now = s.now ∧ t.call? id = none :=
  hl.advance hv (.abandon a (.ok ()) rfl)

/-- Told nothing but what it waits for, a call whose open is cut short returns, and it takes no time. -/
theorem returns (hl : Leaving h id w lost s) (hc : w.call = .start stage)
    (hk : stage.isCuttable = true) :
    ∃ cs t, (∀ c ∈ cs, c.id? = some id ∧ c.isDrop = false) ∧ s.run cs = some t ∧ t.now = s.now
      ∧ t.call? id = none := by
  have one {c : Cause} {t : Session} (hi : c.id? = some id) (hd : c.isDrop = false)
      (ht : s.step? c = some t) (hn : t.now = s.now) (hg : t.call? id = none) :
      ∃ cs t, (∀ c ∈ cs, c.id? = some id ∧ c.isDrop = false) ∧ s.run cs = some t ∧ t.now = s.now
        ∧ t.call? id = none :=
    ⟨[c], t, by simp [hi, hd], by simp [run, ht], hn, hg⟩
  cases hv : s.call? id with
  | none => exact ⟨[], s, by simp, rfl, rfl, hv⟩
  | some v =>
    obtain ⟨_, _, _, hp⟩ := hl.parting hv
    generalize trail id _ = tr at hp
    cases hp with
    | waits =>
      cases stage with
      | client b =>
        obtain ⟨t, ht, hn, hg⟩ := hl.advance hv (.client b hc)
        exact one rfl rfl ht hn hg
      | backoff b wake =>
        obtain ⟨t, ht, hn, hg⟩ := hl.advance hv (.backoff b wake hc)
        exact one rfl rfl ht hn hg
      | receiver b client =>
        obtain ⟨t, ht, hn, hg⟩ := hl.advance hv (.receiver b client hc)
        have hlt := hl.step (c := .answer id .cancelled) hc hk (by simp) ht
        obtain ⟨u, hu, hm, hr⟩ := hlt.returns_of_leaving hg
        exact ⟨[.answer id .cancelled, .answer id (.released (.ok ()))], u,
          by simp [Cause.id?, Cause.isDrop], by simp [run, ht, hu], hm.trans hn, hr⟩
      | _ => cases hk
    | closes b client =>
      obtain ⟨t, ht, hn, hg⟩ := hl.returns_of_leaving hv
      exact one rfl rfl ht hn hg

end Leaving
end Session

/-! ## Prompt runs -/

/-- The call goes on by itself, by the state of the pump or by the clock. -/
def Waiting.isReady (w : Waiting) (p : Pump) (now : Nat) : Bool :=
  w.admits p now .cancelled || w.admits p now .timedOut
    || w.request.isNone && (w.call.ownAnswer? p now).isSome

def Waiting.closesClient (w : Waiting) : Bool :=
  match w.request with
  | some (.closeClient _) => true
  | _ => false

def Cause.passes : Cause → Bool
  | .pass ticks => ticks != 0
  | _ => false

namespace Session

/-- No call goes on by itself, and none waits for a client to be closed. -/
def rests (s : Session) : Bool :=
  s.calls.all fun x => !x.2.isReady s.pump s.now && !x.2.closesClient

/-- Time passes only while every call rests. So closing a client takes no time. -/
def runsPromptly (s : Session) : List Cause → Bool
  | [] => true
  | c :: cs => (!c.passes || s.rests) && (s.step? c).all fun t => t.runsPromptly cs

variable {s t : Session} {c : Cause} {h : List Mark} {id : Nat} {w v : Waiting} {lost : Prop}
  {stage : OpenStage}

/-- A call whose open is cut short does not rest before it has returned. -/
theorem Leaving.not_rests (hl : Leaving h id w lost s) (hc : w.call = .start stage)
    (hk : stage.isCuttable = true) (hv : s.call? id = some v) : s.rests = false := by
  have hf := hl.led.tidy.fits_call hv
  have hr : v.isReady s.pump s.now = true ∨ v.closesClient = true := by
    obtain ⟨_, _, _, hp⟩ := hl.parting hv
    generalize trail id _ = tr at hp
    cases hp with
    | closes b client => exact .inr rfl
    | waits =>
      left
      cases stage with
      | client b =>
        cases Cutting.tells (.client b hc) hl.stopping hv hf with
        | answer _ ha => simp [Waiting.isReady, ha]
      | receiver b client =>
        cases Cutting.tells (.receiver b client hc) hl.stopping hv hf with
        | answer _ ha => simp [Waiting.isReady, ha]
      | backoff b wake =>
        cases Cutting.tells (.backoff b wake hc) hl.stopping hv hf with
        | wake _ hn ho => simp [Waiting.isReady, hn, ho]
      | _ => cases hk
  refine List.all_eq_false.2 ⟨(id, v), mem_of_call? hv, ?_⟩
  obtain hr | hr := hr <;> simp [hr]

theorem Step.now_eq (hs : s.Step c t) (hc : c.passes = false) : t.now = s.now := by
  cases hs with
  | pass ticks =>
    obtain rfl : ticks = 0 := by simpa [Cause.passes] using hc
    rfl
  | _ => rfl

/-- In a prompt run no time passes before the call has returned. -/
theorem Leaving.prompt {cs : List Cause} {s₀ : Session} (hl : Leaving h id w lost s)
    (hn : s.now = s₀.now ∨ s.call? id = none) (hc : w.call = .start stage)
    (hk : stage.isCuttable = true) (hd : .drop id ∉ cs) (hp : s.runsPromptly cs = true)
    (hr : s.run cs = some t) : t.now = s₀.now ∨ t.call? id = none := by
  induction cs generalizing s with
  | nil => exact Option.some.inj hr ▸ hn
  | cons c cs ih =>
    obtain ⟨u, hu, hr⟩ := Option.bind_eq_some_iff.1 hr
    have hs := step_of_step? hl.led.tidy.trace hu
    obtain ⟨hq, hp⟩ := Bool.and_eq_true_iff.1 hp
    rw [hu] at hp
    have hdc : c ≠ .drop id := fun he => hd (he ▸ List.mem_cons_self)
    refine ih (hl.step hc hk (fun he => absurd he hdc) hu) ?_
      (fun hm => hd (List.mem_cons_of_mem _ hm)) hp hr
    cases hv : s.call? id with
    | some v =>
      obtain hn | hn := hn
      · left
        have hx : c.passes = false := by simpa [hl.not_rests hc hk hv] using hq
        exact (hs.now_eq hx).trans hn
      · rw [hv] at hn
        cases hn
    | none =>
      have hi : c.id? ≠ some id := by
        intro hi
        obtain ⟨v, hw, -⟩ := tells_of_step? hi hu
        rw [hv] at hw
        cases hw
      exact .inr ((hs.aloof hl.known hi).call.trans hv)

end Session
end PartitionConsumer
