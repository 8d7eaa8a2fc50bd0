import PartitionConsumer.Proofs.Session.Requested
import PartitionConsumer.Proofs.Grace.Settling
/-!
# The grace

The first shutdown waits for the open that is under way, but not longer than its grace. Where time passes
only while nobody can go on, and no timer is passed over, it leaves its wait at the very tick at which the
open settles or the grace runs out, whichever comes first, and begins to close the pump there.
-/
namespace PartitionConsumer
namespace Session

variable {s t u : Session} {c d : Cause} {cs ds : List Cause} {id k : Nat} {w : Waiting}
  {reason : CloseReason} {wake : Nat}

/-! ## Virtual time -/

/-- Nobody goes on by itself, and no timer is set for a tick before this one. -/
def idleUntil (s : Session) (tick : Nat) : Bool :=
  s.calls.all fun x => !x.2.isReady s.pump s.now && x.2.call.timer?.all (tick ≤ ·)

/-- Time passes only while nobody can go on by itself, and up to the next timer at most. -/
def runsOnTime (s : Session) : List Cause → Bool
  | [] => true
  | c :: cs =>
    (match c with
      | .pass ticks => ticks == 0 || s.idleUntil (s.now + ticks)
      | _ => true) && (s.step? c).all fun t => t.runsOnTime cs

/-- The time at which the call is over in a run, if it is. -/
def endOf? (s : Session) (id : Nat) : List Cause → Option Nat
  | [] => if (s.call? id).isNone then some s.now else none
  | c :: cs => if (s.call? id).isNone then some s.now else (s.step? c).bind fun t => t.endOf? id cs

theorem endOf?_of_none (h : s.call? id = none) (cs : List Cause) : s.endOf? id cs = some s.now := by
  cases cs <;> simp [endOf?, h]

theorem endOf?_cons (h : s.call? id = some w) (ht : s.step? c = some t) (cs : List Cause) :
    s.endOf? id (c :: cs) = t.endOf? id cs := by
  simp [endOf?, h, ht]

/-- The tick at which the call is over in a run or `wake` has come, whichever is first. -/
def waitEnd (s : Session) (id wake : Nat) (cs : List Cause) : Nat := min wake ((s.endOf? id cs).getD wake)

/-! ## The wait -/

structure WaitOver (s : Session) (k : Nat) (reason : CloseReason) (wake : Nat) (t : Session) : Prop where
  now : t.now = s.now
  /-- It finds the pump closed, and returns. -/
  found : s.pump.status = .closed → t.call? k = none
    ∧ ∃ a, t.history = s.history ++ [.told k (.settling k reason wake) a,
      .returned k (.shutdown reason)]
  /-- Or it says first of all that it closes the pump. -/
  speaks : s.pump.status ≠ .closed → ∃ a ms,
    t.history = s.history ++ [.told k (.settling k reason wake) a,
      .did k (s.pump.event { kind := .pumpClosing, reason := reason.label })] ++ ms
  /-- Without a connection it closes the pump there and then, -/
  closes : s.pump.status ≠ .closed → s.pump.connection = none → s.pump.opened = false →
    t.call? k = none ∧ t.pump.status = .closed
  /-- or calls the closing hook, if that is owed. -/
  hook : s.pump.status ≠ .closed → s.pump.connection = none → s.pump.opened = true →
    t.call? k = some (.closing k reason)

structure Awaits (id k : Nat) (reason : CloseReason) (wake : Nat) (s : Session) : Prop where
  led : s.Led
  stopping : s.pump.stopping = true
  known : id < s.next
  waits : s.call? k = some (.settling k reason wake)
  le : s.now ≤ wake
  opener : ∀ w, s.call? id = some w → ∃ stage, w.call = .start stage
  alone : s.call? id = none → s.openers = []

namespace Awaits

/-- The open has settled when its call is over. -/
theorem phase_iff (h : Awaits id k reason wake s) : s.pump.phase = .opening ↔ s.call? id ≠ none := by
  constructor
  · intro hp hn
    have ho := h.led.opener
    rw [h.alone hn, if_pos hp] at ho
    cases ho
  · intro hn
    obtain ⟨w, hw⟩ := Option.ne_none_iff_exists'.1 hn
    obtain ⟨stage, hc⟩ := h.opener w hw
    exact (h.led.openers_of_start hw hc).2.2

/-- Time passes only while the open goes on, and not beyond the grace. -/
theorem pass (h : Awaits id k reason wake s) {ticks : Nat} (hi : s.idleUntil (s.now + ticks) = true) :
    s.call? id ≠ none ∧ s.now + ticks ≤ wake := by
  have hk := List.all_eq_true.1 hi _ (mem_of_call? h.waits)
  obtain ⟨hr, ht⟩ := Bool.and_eq_true_iff.1 hk
  refine ⟨fun hn => ?_, by simpa [Waiting.settling, Call.timer?] using ht⟩
  have hp : s.pump.phase ≠ .opening := fun hp => h.phase_iff.1 hp hn
  simp [Waiting.isReady, Waiting.settling, Call.ownAnswer?, hp] at hr

/-- Whatever the call for shutdown is told, it goes past its wait. -/
theorem past (h : Awaits id k reason wake s) (hs : s.step? c = some t) (hk : t.call? k ≠ s.call? k) :
    Past k t := by
  have hst := step_of_step? h.led.tidy.trace hs
  have hc : c.id? = some k := by
    refine Decidable.byContradiction fun hc => hk ?_
    exact (hst.aloof (h.led.tidy.lt_next h.waits) hc).call
  obtain ⟨w, hw, rfl | ⟨a, ht⟩⟩ := tells_of_step? hc hs
  · have hn := h.led.tidy.call?_drop hs
    exact ⟨h.led.step hst, Nat.lt_of_lt_of_le (h.led.tidy.lt_next hw) hst.next_le,
      fun v hv => absurd (hn.symm.trans hv) nofun⟩
  · obtain rfl := Option.some.inj (h.waits.symm.trans hw)
    exact .of_told h.led ht rfl nofun hs

/-- The opening call goes on, or is over. -/
theorem opens (h : Awaits id k reason wake s) (hs : s.step? c = some t) (hc : c.id? = some id) :
    id < t.next ∧ (∀ w, t.call? id = some w → ∃ stage, w.call = .start stage)
      ∧ (t.call? id = none → t.openers = []) := by
  obtain ⟨v, hv, hd⟩ := tells_of_step? hc hs
  obtain ⟨stage, hcall⟩ := h.opener v hv
  obtain rfl | ⟨a, ht⟩ := hd
  · obtain ⟨x, -, rfl⟩ := Option.map_eq_some_iff.1 hs
    have hn : (s.take id).call? id = none := h.led.tidy.call?_take hv
    exact ⟨h.known, fun w hw => absurd (hn.symm.trans hw) nofun,
      fun _ => (h.led.openers_of_start hv hcall).2.1⟩
  · obtain ⟨q, es, nx, rfl, hm⟩ := ht.opens h.led.tidy hcall hs
    have hn : (s.told id v a).call? id = none := h.led.tidy.call?_take hv
    refine ⟨h.known, fun w hw => ?_, openers_of_over hn (h.led.told_start ht hcall).2.2.1⟩
    obtain ⟨stage', hc', -⟩ := call_of_openMove hn hm hw
    exact ⟨stage', hc'⟩

/-- As long as the shutdown waits, a step takes time only while the open goes on. -/
theorem step (h : Awaits id k reason wake s) (hs : s.step? c = some t) (hk : t.call? k = s.call? k)
    (ho : ∀ ticks, c = .pass ticks → ticks = 0 ∨ s.idleUntil (s.now + ticks) = true) :
    Awaits id k reason wake t ∧ (s.call? id = none → t.call? id = none ∧ t.now = s.now) := by
  have hst := step_of_step? h.led.tidy.trace hs
  have hw := hk.trans h.waits
  by_cases hc : c.id? = some id
  · have hn : t.now = s.now := hst.now_eq (by cases c <;> first | rfl | cases hc)
    obtain ⟨known, opener, alone⟩ := h.opens hs hc
    refine ⟨⟨h.led.step hst, hst.stopping h.stopping, known, hw, hn ▸ h.le, opener, alone⟩,
      fun hg => ?_⟩
    obtain ⟨v, hv, -⟩ := tells_of_step? hc hs
    rw [hv] at hg
    cases hg
  · have ha := hst.aloof h.known hc
    have keep (hle : t.now ≤ wake) : Awaits id k reason wake t :=
      ⟨h.led.step hst, hst.stopping h.stopping, ha.next, hw, hle,
        fun v hv => h.opener v (ha.call.symm.trans hv),
        fun hg => hst.openers_nil h.led (.inl h.stopping) (h.alone (ha.call.symm.trans hg))⟩
    by_cases hp : c.passes = true
    · cases c with
      | pass ticks =>
        have hi := (ho ticks rfl).resolve_left (by simpa [Cause.passes] using hp)
        obtain ⟨hne, hle⟩ := h.pass hi
        obtain rfl := Option.some.inj hs
        exact ⟨keep hle, fun hg => absurd hg hne⟩
      | _ => cases hp
    · have hn := hst.now_eq (Bool.eq_false_iff.2 hp)
      exact ⟨keep (hn ▸ h.le), fun hg => ⟨ha.call.trans hg, hn⟩⟩

/-- As long as the shutdown waits, the open goes on, or has ended at this very time. -/
theorem run (h : Awaits id k reason wake s) (hr : s.run cs = some u) (ho : s.runsOnTime cs = true)
    (hk : u.call? k = s.call? k) :
    Awaits id k reason wake u
      ∧ s.endOf? id cs = if (u.call? id).isNone then some u.now else none := by
  induction cs generalizing s with
  | nil =>
    obtain rfl := Option.some.inj hr
    exact ⟨h, rfl⟩
  | cons c cs ih =>
    obtain ⟨v, hv, hr⟩ := Option.bind_eq_some_iff.1 hr
    obtain ⟨hq, ho⟩ := Bool.and_eq_true_iff.1 ho
    rw [hv] at ho
    by_cases hvk : v.call? k = s.call? k
    · obtain ⟨hav, hgone⟩ := h.step hv hvk (by
        rintro ticks rfl
        simpa using hq)
      obtain ⟨hu, he⟩ := ih hav hr ho (hk.trans hvk.symm)
      refine ⟨hu, ?_⟩
      cases hw : s.call? id with
      | some w => rw [endOf?_cons hw hv, he]
      | none =>
        obtain ⟨hvn, hn⟩ := hgone hw
        rw [endOf?_of_none hw, ← he, endOf?_of_none hvn, hn]
    · exact absurd (hk.trans h.waits) (((h.past hv hvk).run hr).ne_settling reason wake)

/-! ## The end of the wait -/

/-- The shutdown is told that the open has settled, or that the grace has run out. -/
theorem due (h : Awaits id k reason wake s) {a : Answer} (ht : s.Tells k w a c) :
    c = .wake k ∧ (s.call? id = none ∨ s.now = wake) := by
  obtain rfl := Option.some.inj (h.waits.symm.trans ht.call?)
  cases ht with
  | answer _ ha => cases a <;> simp [Waiting.admits, Waiting.settling] at ha
  | wake _ _ ho =>
    refine ⟨rfl, Decidable.or_iff_not_imp_left.2 fun hn => ?_⟩
    have hp := h.phase_iff.2 hn
    have hle : wake ≤ s.now := by
      refine Decidable.byContradiction fun hle => ?_
      simp [Waiting.settling, Call.ownAnswer?, hp, hle] at ho
    exact Nat.le_antisymm h.le hle

/-- It can leave its wait when the open has settled or the grace has run out, and only then. -/
theorem ready (h : Awaits id k reason wake s) :
    (∃ t, s.step? (.wake k) = some t) ↔ s.call? id = none ∨ s.now = wake := by
  constructor
  · rintro ⟨t, ht⟩
    obtain ⟨w, -, hd | ⟨a, ha⟩⟩ := tells_of_step? rfl ht
    · cases hd
    · exact (h.due ha).2
  · intro hd
    have go {a : Answer} {m : Move}
        (ho : (Waiting.settling k reason wake).call.ownAnswer? s.pump s.now = some a)
        (hm : s.pump.resumeShutdown s.now k reason (.settling wake) a = some m) :
        ∃ t, s.step? (.wake k) = some t := by
      rw [Tells.step?_eq (.wake h.waits rfl ho)]
      exact ⟨_, congrArg (Option.map _) hm⟩
    by_cases hp : s.pump.phase = .opening
    · have hn := hd.resolve_left (h.phase_iff.1 hp)
      exact go (a := .elapsed) (by simp [Waiting.settling, Call.ownAnswer?, hp, hn]) rfl
    · exact go (a := .settled) (by simp [Waiting.settling, Call.ownAnswer?, hp]) rfl

/-- The wait is not over before it can end. -/
theorem now_le (h : Awaits id k reason wake u)
    (he : s.endOf? id cs = if (u.call? id).isNone then some u.now else none) :
    u.now ≤ s.waitEnd id wake cs
      ∧ (u.now = s.waitEnd id wake cs ↔ u.call? id = none ∨ u.now = wake) := by
  unfold waitEnd
  rw [he]
  cases u.call? id with
  | none => simp [h.le]
  | some w => simp [h.le]

/-- Leaving its wait the shutdown finds the pump closed, or says first of all that it closes the pump. -/
theorem leaves (h : Awaits id k reason wake s) (hs : s.step? c = some t) (hd : c ≠ .drop k)
    (hk : t.call? k ≠ s.call? k) :
    (s.call? id = none ∨ s.now = wake) ∧ s.WaitOver k reason wake t := by
  have hst := step_of_step? h.led.tidy.trace hs
  have hc : c.id? = some k :=
    Decidable.byContradiction fun hc => hk (hst.aloof (h.led.tidy.lt_next h.waits) hc).call
  obtain ⟨w, hw, hd' | ⟨a, ht⟩⟩ := tells_of_step? hc hs
  · exact absurd hd' hd
  obtain rfl := Option.some.inj (h.waits.symm.trans hw)
  obtain ⟨q, es, nx, rfl, hm⟩ := ht.shuts h.led.tidy rfl hs
  have hn : (s.told k (.settling k reason wake) a).call? k = none := h.led.tidy.call?_take hw
  have hcall := call?_carry hn (.shutdown reason) q es nx
  refine ⟨(h.due ht).2, ?_⟩
  cases hm with
  | foundClosed _ _ hcl =>
    exact ⟨rfl, fun _ => ⟨hcall, a, by simp [Waiting.marks, Waiting.settling, Next.marks]⟩,
      fun hne => absurd hcl hne, fun hne => absurd hcl hne, fun hne => absurd hcl hne⟩
  | disconnect _ _ hne hx =>
    have speaks {fs : List Effect}
        (he : es = s.pump.event { kind := .pumpClosing, reason := reason.label } :: fs) :
        ∃ b ms, ((s.told k (.settling k reason wake) a).carry k (.shutdown reason) q es nx).history
          = s.history ++ [.told k (.settling k reason wake) b,
            .did k (s.pump.event { kind := .pumpClosing, reason := reason.label })] ++ ms := by
      refine ⟨a, fs.map (.did k) ++ nx.marks k (.shutdown reason), ?_⟩
      rw [history_carry, he]
      simp [Waiting.marks, Waiting.settling]
    cases hx with
    | release c hcon =>
      have hsome {P : Prop} (hno : s.pump.connection = none) : P := by
        rw [hcon] at hno
        cases hno
      exact ⟨rfl, fun hcl => absurd hcl hne, fun _ => speaks rfl, fun _ hno => hsome hno,
        fun _ hno => hsome hno⟩
    | pass _ hp =>
      cases hp with
      | hook ho =>
        exact ⟨rfl, fun hcl => absurd hcl hne, fun _ => speaks rfl,
          fun _ _ hf => absurd (ho.symm.trans hf) Bool.noConfusion, fun _ _ _ => hcall⟩
      | close ho =>
        exact ⟨rfl, fun hcl => absurd hcl hne, fun _ => speaks rfl, fun _ _ _ => ⟨hcall, rfl⟩,
          fun _ _ hf => absurd (hf.symm.trans ho) Bool.noConfusion⟩

end Awaits

/-- A shutdown in the closing hook closes the pump at once when the hook returns. -/
theorem closes_of_hook (hi : s.Led) (hl : s.Halted) (hw : s.call? k = some (.closing k reason)) :
    s.pump.status = .closing ∧ ∀ outcome, ∃ t, s.step? (.answer k (.hook outcome)) = some t
      ∧ t.now = s.now ∧ t.call? k = none ∧ t.pump.status = .closed := by
  refine ⟨hl.releasing_call hw rfl rfl, fun outcome => ?_⟩
  have ht : s.Tells k (.closing k reason) (.hook outcome) (.answer k (.hook outcome)) := .answer hw rfl
  have hn : (s.told k (.closing k reason) (.hook outcome)).call? k = none := hi.tidy.call?_take hw
  have hm : ∃ t, s.step? (.answer k (.hook outcome)) = some t := by
    rw [ht.step?_eq]
    exact ⟨_, rfl⟩
  obtain ⟨t, hs⟩ := hm
  obtain ⟨q, es, nx, rfl, hm⟩ := ht.shuts hi.tidy rfl hs
  cases hm with
  | close => exact ⟨_, hs, rfl, call?_carry hn .., rfl⟩

end Session

section Main

variable {context : Context} {lease : Lease} {options : Options} {wire : String} {draw : Nat → Nat}

/-- The grace bounds the wait for the open. A first shutdown, `c` in `s`, that comes while the call `id`
opens the pump waits for that call, and at most for the grace. Where time passes as it does while nobody
can go on, whatever hooks and transport do and whoever else calls, it leaves its wait at the tick at which
the open ends or the grace runs out, whichever comes first: it can do so at that tick and not before, and
that tick is not over until it has. It then finds the pump closed, or tells first of all that the pump
closes. Without a connection it closes the pump there and then, or as soon as the closing hook returns, if
that is owed. A grace that the clock cannot hold counts as thirty years. -/
theorem grace_bounds_wait {cs : List Cause} {c : Cause} {s t : Session} {id : Nat} {w : Waiting}
    {stage : OpenStage} (h : (Session.new (.new context lease options wire draw)).run cs = some s)
    (hn : firstShutdown? s.history = none) (hc : s.ShutsDown c) (hw : s.call? id = some w)
    (hst : w.call = .start stage) (ht : s.step? c = some t) :
    ∃ k reason wake ms, t.history = s.history ++ ms ++ [.began k (.shutdown reason)]
      ∧ t.now = s.now ∧ t.call? k = some (.settling k reason wake)
      ∧ wake = wakeTime s.now s.pump.options.cancelGrace
      ∧ (∀ n, s.pump.options.cancelGrace = .ofMillis n →
        (deadline? s.now (.ofMillis n)).isSome = true → wake = s.now + n)
      ∧ ∀ ds u, t.run ds = some u → t.runsOnTime ds = true →
        (u.call? k = t.call? k → u.now ≤ t.waitEnd id wake ds
          ∧ ((∃ x, u.step? (.wake k) = some x) ↔ u.now = t.waitEnd id wake ds)
          ∧ ∀ d x, u.step? d = some x → d ≠ .drop k → x.call? k ≠ u.call? k →
            u.now = t.waitEnd id wake ds ∧ u.WaitOver k reason wake x)
        ∧ (u.call? k = some (.closing k reason) → u.pump.status = .closing
          ∧ ∀ outcome, ∃ x, u.step? (.answer k (.hook outcome)) = some x
            ∧ x.now = u.now ∧ x.call? k = none ∧ x.pump.status = .closed) := by
  obtain ⟨hi, hl, -⟩ := Session.climbed_of_run h
  have hb := Session.braced_of_run h
  have hs : s.pump.stopping = false := by rw [Session.requested_of_run h, hn]; rfl
  have hts := Session.step_of_step? hi.tidy.trace ht
  obtain ⟨k, reason, ms, hh, hk⟩ := hc.settles hi hl hb hs hw hst hts
  have hnow : t.now = s.now :=
    hts.now_eq (by obtain ⟨_, rfl⟩ | ⟨_, _, _, _, rfl, -⟩ := hc <;> rfl)
  have ha := hts.aloof (hi.tidy.lt_next hw) (hc.id?_ne hw hst)
  -- from here on the shutdown awaits the end of the open
  have haw : t.Awaits id k reason (wakeTime s.now s.pump.options.cancelGrace) := {
    led := hi.step hts
    stopping := (hc.stops hi.tidy hb hts).1
    known := ha.next
    waits := hk
    le := hnow ▸ le_wakeTime ..
    opener := fun v hv => by
      obtain rfl := Option.some.inj ((ha.call.trans hw).symm.trans hv)
      exact ⟨stage, hst⟩
    alone := fun hg => by
      rw [ha.call, hw] at hg
      cases hg }
  refine ⟨k, reason, _, ms, hh, hnow, hk, rfl, fun n hg hd => hg ▸ wakeTime_ofMillis hd,
    fun ds u hu ho => ⟨fun hku => ?_, fun hku => ?_⟩⟩
  · obtain ⟨hawu, he⟩ := haw.run hu ho hku
    obtain ⟨hle, hdue⟩ := hawu.now_le he
    refine ⟨hle, hawu.ready.trans hdue.symm, fun d x hx hd hkx => ?_⟩
    obtain ⟨hend, hover⟩ := hawu.leaves hx hd hkx
    exact ⟨hdue.2 hend, hover⟩
  · obtain ⟨hiu, hlu, -⟩ := Session.climbed_of_run (Session.run_through h ht hu)
    exact Session.closes_of_hook hiu hlu hku

/-- The opening hook hangs, another call to open the pump comes, and the grace runs out. -/
theorem grace_bounds_wait_when_hook_hangs :
    ∃ s t u x, (Session.new (.new ⟨"h", "g", "0", none, none⟩ ⟨"0", "h", 1⟩
        { cancelGrace := .ofMillis 3 } "mock" fun _ => 0)).run [.start, .pass 1] = some s
      ∧ s.step? (.shutdown .leaseLost) = some t ∧ t.run [.start, .pass 3] = some u
      ∧ u.step? (.wake 1) = some x ∧ u.now = 4 ∧ u.now = t.waitEnd 0 4 [.start, .pass 3]
      ∧ u.WaitOver 1 .leaseLost 4 x := by
  have hr : ((Session.new (.new ⟨"h", "g", "0", none, none⟩ ⟨"0", "h", 1⟩
        { cancelGrace := .ofMillis 3 } "mock" fun _ => 0)).run [.start, .pass 1]).bind (fun s =>
      (s.step? (.shutdown .leaseLost)).bind fun t => (t.run [.start, .pass 3]).bind fun u =>
        (u.step? (.wake 1)).map fun x =>
          (firstShutdown? s.history, s.call? 0, t.history.getLast?, t.runsOnTime [.start, .pass 3], u.now,
            t.call? 1, u.call? 1, x.call? 1))
      = some (none, some ⟨.start, .start .onOpen, some (.hook .onOpen)⟩,
        some (.began 1 (.shutdown .leaseLost)), true, 4,
        some (.settling 1 .leaseLost (wakeTime 1 (.ofMillis 3))),
        some (.settling 1 .leaseLost (wakeTime 1 (.ofMillis 3))), none) := by rfl
  obtain ⟨s, hs, hr⟩ := Option.bind_eq_some_iff.1 hr
  obtain ⟨t, ht, hr⟩ := Option.bind_eq_some_iff.1 hr
  obtain ⟨u, hu, hr⟩ := Option.bind_eq_some_iff.1 hr
  obtain ⟨x, hx, he⟩ := Option.map_eq_some_iff.1 hr
  simp only [Prod.mk.injEq] at he
  obtain ⟨hn, hw, hlast, ho, hnow, htk, huk, hxk⟩ := he
  obtain ⟨k, reason, wake, ms, hh, -, hk, -, -, hall⟩ :=
    grace_bounds_wait hs hn (.inl ⟨_, rfl⟩) hw rfl ht
  obtain ⟨rfl, rfl⟩ : k = 1 ∧ reason = .leaseLost := by
    rw [hh, List.getLast?_concat] at hlast
    simpa using hlast
  have hwake : wakeTime 1 (.ofMillis 3) = 4 := wakeTime_ofMillis rfl
  obtain rfl : wake = 4 := by simpa [Waiting.settling, hwake] using hk.symm.trans htk
  obtain ⟨-, -, hover⟩ := (hall _ u hu ho).1 (huk.trans htk.symm)
  obtain ⟨hend, hx'⟩ := hover _ x hx nofun (by rw [hxk, huk]; nofun)
  exact ⟨s, t, u, x, hs, ht, hu, hx, hnow, hend, hx'⟩

end Main
end PartitionConsumer
