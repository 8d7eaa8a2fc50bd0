import PartitionConsumer.Proofs.Session.Trails
import PartitionConsumer.Proofs.Standstill.Progress
/-!
# Shutdowns that wait for themselves

A hook may call for the shutdown of its own pump and wait for it. The call is then one of the pump's calls
like any other, and the hook returns when it has returned. The shutdown procedure waits for two hooks: the
closing hook, which it calls itself, and the hooks of the deliveries that its teardown lets return. A hook
of a delivery must not wait for a shutdown. Neither must the closing hook: the call it waits for waits for
the procedure, and the procedure for the hook.
-/
namespace PartitionConsumer

/-! ## Hooks that wait for a shutdown -/

/-- A bench whose hooks may wait for shutdowns: each call whose hook has called for one, with the number
of the call for it. -/
structure Scene where
  bench : Bench
  waits : List (Nat × Nat) := []
  deriving Inhabited

inductive Act where
  | plain (x : Stimulus)
  /-- The hook of a call calls for a shutdown, and waits for it. -/
  | await (id : Nat) (reason : CloseReason)
  deriving Repr, Inhabited

def Act.isTask : Act → Bool
  | .plain x => x.isTask
  | .await .. => true

namespace Scene

def isHeld (s : Scene) (id : Nat) : Bool :=
  s.waits.any fun w => w.1 == id && (s.bench.session.call? w.2).isSome

/-- A hook that waits for a shutdown does not return, and waits for no other. -/
def step? (s : Scene) : Act → Option Scene
  | .plain x =>
    if x.hook?.any s.isHeld then none else (s.bench.step? x).map fun b => { s with bench := b }
  | .await id reason =>
    match s.bench.request? id with
    | some (.hook _) =>
      if s.isHeld id then none
      else (s.bench.step? (.own (.shutdown reason))).map fun b =>
        ⟨b, (id, s.bench.session.next) :: s.waits⟩
    | _ => none

def run (s : Scene) : List Act → Option Scene
  | [] => some s
  | a :: as => (s.step? a).bind fun t => t.run as

def new (p : Pump) : Scene := { bench := .new p }

def sample : Scene := { bench := .sample }

/-- No task can go on, and no timer is set. -/
def Stuck (s : Scene) : Prop :=
  (∀ a : Act, a.isTask = true → s.step? a = none)
    ∧ ∀ x ∈ s.bench.session.calls, x.2.call.timer? = none

/-- The shutdown procedure is in the closing hook, and that waits for a shutdown. -/
def Entangled (s : Scene) : Prop :=
  ∃ h k reason, s.bench.session.runners = [⟨h, reason, .onClose⟩] ∧ (h, k) ∈ s.waits
    ∧ (s.bench.session.call? k).isSome = true

inductive Step (s : Scene) : Act → Scene → Prop where
  | plain {b} (x : Stimulus) (hx : ∀ id ∈ x.hook?, s.isHeld id = false) (h : s.bench.Step x b) :
    Step s (.plain x) { s with bench := b }
  | await {b} (id : Nat) (reason : CloseReason) (call : HookCall)
      (hq : s.bench.request? id = some (.hook call)) (hn : s.isHeld id = false)
      (h : s.bench.Step (.own (.shutdown reason)) b) :
    Step s (.await id reason) ⟨b, (id, s.bench.session.next) :: s.waits⟩

variable {s t : Scene} {a : Act}

theorem step_of_step? (h : s.step? a = some t) : s.Step a t := by
  cases a with
  | plain x =>
    obtain ⟨hx, h⟩ := Option.ite_none_left_eq_some.1 h
    obtain ⟨b, hb, rfl⟩ := Option.map_eq_some_iff.1 h
    refine .plain x (fun id hi => ?_) (Bench.step_of_step? hb)
    rw [Option.mem_def] at hi
    simpa [hi] using hx
  | await id reason =>
    dsimp only [step?] at h
    split at h
    · rename_i call hq
      obtain ⟨hn, h⟩ := Option.ite_none_left_eq_some.1 h
      obtain ⟨b, hb, rfl⟩ := Option.map_eq_some_iff.1 h
      exact .await id reason call hq (Bool.not_eq_true _ ▸ hn) (Bench.step_of_step? hb)
    · cases h

/-- What every step keeps, every run keeps. -/
theorem run_induction {P : Scene → Prop} {as : List Act} (h0 : P s)
    (hs : ∀ s a t, P s → s.Step a t → P t) (h : s.run as = some t) : P t := by
  induction as generalizing s with
  | nil => exact Option.some.inj h ▸ h0
  | cons a as ih =>
    obtain ⟨u, hu, hr⟩ := Option.bind_eq_some_iff.1 h
    exact ih (hs s a u h0 (step_of_step? hu)) hr

structure Sound (s : Scene) : Prop where
  orderly : s.bench.Orderly
  later : ∀ w ∈ s.waits, w.1 < w.2
  shutdown : ∀ w ∈ s.waits, s.bench.session.isShutdown w.2

namespace Sound

theorem step (h : s.Sound) (hs : s.Step a t) : t.Sound := by
  have hi := h.orderly.inTurn.tidy
  have kept {x : Stimulus} {b : Bench} (hb : s.bench.Step x b) {id : Nat}
      (hk : s.bench.session.isShutdown id) : b.session.isShutdown id := by
    obtain he | ⟨c, -, hc⟩ := hb.session
    · rw [he]
      exact hk
    · exact hk.step hi (Session.step_of_step? hi.trace hc)
  cases hs with
  | plain x hx hb => exact ⟨h.orderly.step hb, h.later, fun w hw => kept hb (h.shutdown w hw)⟩
  | await id reason call hq hn hb =>
    refine ⟨h.orderly.step hb, fun w hw => ?_, fun w hw => ?_⟩
    · obtain rfl | hw := List.mem_cons.1 hw
      · obtain ⟨v, hv, -⟩ := Bench.call_of_request? hq
        exact hi.lt_next hv
      · exact h.later w hw
    · obtain rfl | hw := List.mem_cons.1 hw
      · cases hb with
        | own c hc hf => exact (Session.step_of_step? hi.trace hf.session).isShutdown_next hi
      · exact kept hb (h.shutdown w hw)

theorem run {as : List Act} (h : s.Sound) (hr : s.run as = some t) : t.Sound :=
  run_induction h (fun _ _ _ h hs => h.step hs) hr

/-- While the closing hook waits for a shutdown, that shutdown waits for its turn, and neither goes
on. -/
theorem entangled_step (h : s.Sound) (he : s.Entangled) (hs : s.Step a t) : t.Entangled := by
  obtain ⟨i, k, reason, hr, hm, hk⟩ := he
  have hi := h.orderly.inTurn
  have hturn : ⟨i, reason, .onClose⟩ ∈ s.bench.session.runners := by rw [hr]; exact List.mem_cons_self
  obtain ⟨-, w, hw, hc⟩ := hi.tidy.call_of_turn hturn
  have hq := ((hi.tidy.fits_call hw).of_shutdown hc).2.2.of_onClose
  have hlt : i < k := h.later _ hm
  obtain ⟨v, hv⟩ := Option.isSome_iff_exists.1 hk
  obtain ⟨reason', hf⟩ := (h.shutdown _ hm).errand v (Session.mem_of_call? hv)
  -- the procedure is run by the call in the closing hook, so the other one is in the queue
  have hcv := hi.queued_of_not_turn hv hf fun u hu => by
    rw [hr, List.mem_singleton] at hu
    rw [hu]
    exact Nat.ne_of_lt hlt
  have hheld : s.isHeld i = true := List.any_eq_true.2 ⟨_, hm, by simp [hv]⟩
  have kept {x : Stimulus} {b : Bench} (hx : ∀ id ∈ x.hook?, s.isHeld id = false)
      (hb : s.bench.Step x b) : b.session.call? i = some w ∧ b.session.call? k = some v := by
    obtain he | ⟨c, hd, hc', hhook⟩ := hb.cause
    · rw [he]
      exact ⟨hw, hv⟩
    · refine ⟨Session.call?_of_untold hi.tidy hc' hd hw fun a ht => ?_,
        Session.call?_of_untold hi.tidy hc' hd hv fun a => ?_⟩
      · obtain ⟨outcome, rfl, rfl⟩ := ht.of_hook hq
        have hn := hx i (hhook i outcome rfl)
        rw [hheld] at hn
        cases hn
      · exact hi.not_tells_queued hv hcv hturn (Nat.ne_of_lt hlt)
  have runners {b : Bench} (hb : b.Orderly) (hw : b.session.call? i = some w) :
      b.session.runners = [⟨i, reason, .onClose⟩] :=
    (hb.inTurn.runners_of_turn hw (by simp [Waiting.turn?, Call.turn?, hc])).1
  cases hs with
  | plain x hx hb =>
    obtain ⟨hw', hv'⟩ := kept hx hb
    exact ⟨i, k, reason, runners (h.orderly.step hb) hw', hm, by rw [hv']; rfl⟩
  | await id reason'' call hq' hn hb =>
    obtain ⟨hw', hv'⟩ := kept (x := .own (.shutdown reason'')) (by simp [Stimulus.hook?]) hb
    exact ⟨i, k, reason, runners (h.orderly.step hb) hw', List.mem_cons_of_mem _ hm, by rw [hv']; rfl⟩

theorem entangled_run {as : List Act} (h : s.Sound) (he : s.Entangled) (hr : s.run as = some t) :
    t.Entangled :=
  (run_induction (P := fun s => s.Sound ∧ s.Entangled) ⟨h, he⟩
    (fun _ _ _ h hs => ⟨h.1.step hs, h.1.entangled_step h.2 hs⟩) hr).2

/-- As long as the procedure is in the closing hook, no shutdown has returned. -/
theorem not_shutDown (h : s.Sound) (he : s.Entangled) :
    hasShutDown s.bench.session.history = false := by
  obtain ⟨i, k, reason, hr, -⟩ := he
  refine Bool.eq_false_iff.2 fun hs => ?_
  have hd := h.orderly.inTurn.runners_of_done (h.orderly.inTurn.ended hs)
  rw [hr] at hd
  cases hd

theorem entangled_of_stuck (h : s.Sound)
    (hg : ∀ receiver ∈ s.bench.transport.receivers, receiver.gateOpen = true) (hs : s.Stuck)
    (hd : ∀ x ∈ s.bench.session.calls, ∀ batch, x.2.errand = .delivery batch → s.isHeld x.1 = false)
    {id : Nat} {w : Waiting} {reason : CloseReason} (hw : s.bench.session.call? id = some w)
    (he : w.errand = .shutdown reason) : s.Entangled := by
  have blocked {x : Stimulus} (hx : x.isTask = true) (hn : ∀ id ∈ x.hook?, s.isHeld id = false) :
      (s.bench.step? x).isSome = false := by
    have hs := hs.1 (.plain x) hx
    have hn : x.hook?.any s.isHeld = false := by
      cases hk : x.hook? with
      | none => rfl
      | some id => exact hn id hk
    simpa [step?, hn] using hs
  obtain ⟨x, hx, hb, hn⟩ | ⟨y, hy, ht⟩ | ⟨ticket, reason', hr, hq⟩ := h.orderly.shutdown_ready hg hw he
  · rw [blocked hx fun id hi => ?_] at hb
    · cases hb
    · obtain ⟨v, batch, hv, hc⟩ := hn id hi
      exact hd _ (Session.mem_of_call? hv) batch hc
  · rw [hs.2 y hy] at ht
    cases ht
  · -- the closing hook could return if it did not wait for a shutdown
    have hheld : s.isHeld ticket = true := by
      by_contra hn
      have hb := Bench.hook_ready h.orderly.inTurn.tidy hq
      rw [blocked rfl fun id hi => ?_] at hb
      · cases hb
      · obtain rfl := Option.some.inj hi
        exact Bool.not_eq_true _ ▸ hn
    obtain ⟨⟨i, k⟩, hm, hk⟩ := List.any_eq_true.1 hheld
    simp only [Bool.and_eq_true, beq_iff_eq] at hk
    obtain ⟨rfl, hk⟩ := hk
    exact ⟨i, k, reason', hr, hm, hk⟩

end Sound

/-- The call waits for a hook that waits for a shutdown, or for its turn, and has no timer. -/
def isIdle (s : Scene) (x : Nat × Waiting) : Bool :=
  x.2.call.timer?.isNone && match x.2.request with
    | none => (x.2.call.ownAnswer? s.bench.session.pump s.bench.session.now).isNone
    | some (.hook _) => s.isHeld x.1
    | some _ => false

section Idle

variable (hc : s.bench.session.calls.all s.isIdle = true)

include hc

theorem idle_call {id : Nat} {w : Waiting} (hw : s.bench.session.call? id = some w) :
    w.request = none ∧ w.call.ownAnswer? s.bench.session.pump s.bench.session.now = none
      ∨ (∃ call, w.request = some (.hook call)) ∧ s.isHeld id = true := by
  have hx := List.all_eq_true.1 hc _ (Session.mem_of_call? hw)
  simp only [isIdle, Bool.and_eq_true] at hx
  cases hr : w.request with
  | none => exact .inl ⟨rfl, by simpa [hr] using hx.2⟩
  | some r =>
    cases r with
    | hook call => exact .inr ⟨⟨call, rfl⟩, by simpa [hr] using hx.2⟩
    | _ => simp [hr] at hx

/-- All that is asked are hooks. -/
theorem idle_request {id : Nat} {r : Request} (hq : s.bench.request? id = some r) :
    (∃ call, r = .hook call) ∧ s.isHeld id = true := by
  obtain ⟨w, hw, hr⟩ := Bench.call_of_request? hq
  obtain ⟨hn, -⟩ | ⟨⟨call, hn⟩, hh⟩ := idle_call hc hw
  · cases hr.symm.trans hn
  · exact ⟨⟨call, Option.some.inj (hr.symm.trans hn)⟩, hh⟩

/-- No call is told anything, unless its hook returns. -/
theorem idle_untold {c : Cause} {id : Nat} {b : Bench} (hf : s.bench.Follows c b) (hd : c.isDrop = false)
    (hi : c.id? = some id) : ∃ j ∈ (Stimulus.own c).hook?, s.isHeld j = true := by
  obtain ⟨w, -, rfl | ⟨a, ht⟩⟩ := Session.tells_of_step? hi hf.session
  · cases hd
  obtain ⟨hn, ho⟩ | ⟨⟨call, hn⟩, hh⟩ := idle_call hc ht.call?
  · cases ht with
    | answer _ ha => simp [Waiting.admits, hn] at ha
    | wake _ _ ha => cases ho.symm.trans ha
  · obtain ⟨outcome, rfl, rfl⟩ := ht.of_hook hn
    exact ⟨id, hi, hh⟩

/-- Where every call is idle and nothing is delivered, nobody can go on. -/
theorem stuck_of_idle (hv : s.bench.visits = []) (hd : s.bench.drains = []) : s.Stuck := by
  refine ⟨fun a ha => Option.eq_none_iff_forall_ne_some.2 fun t ht => ?_, fun x hx => ?_⟩
  · cases step_of_step? ht with
    | plain x hx hb =>
      cases hb with
      | own c ho hf =>
        have untold {id : Nat} (hn : c.isDrop = false) (hi : c.id? = some id) : False := by
          obtain ⟨j, hj, hh⟩ := idle_untold hc hf hn hi
          rw [hx j hj] at hh
          cases hh
        cases c with
        | wake id => exact untold rfl rfl
        | answer id a => exact untold rfl rfl
        | _ => cases ha
      | close id error hr =>
        obtain ⟨r, hr⟩ | ⟨r, hr⟩ := hr <;> obtain ⟨⟨call, he⟩, -⟩ := idle_request hc hr <;> cases he
      | pass id r hr =>
        obtain ⟨⟨call, he⟩, -⟩ := idle_request hc hr
        cases he
      | drain error d hm =>
        rw [hd] at hm
        cases hm
      | depart report v hm =>
        rw [hv] at hm
        cases hm
      | deliver report v messages hm =>
        rw [hv] at hm
        cases hm
      | fail report v e hm =>
        rw [hv] at hm
        cases hm
      | leave v id hm =>
        rw [hv] at hm
        cases hm
      | _ => cases ha
    | await id reason call hq hn =>
      rw [(idle_request hc hq).2] at hn
      cases hn
  · have hx := List.all_eq_true.1 hc x hx
    simp only [isIdle, Bool.and_eq_true] at hx
    exact Option.isNone_iff_eq_none.1 hx.1

end Idle
end Scene

section Main

variable {context : Context} {lease : Lease} {options : Options} {wire : String} {draw : Nat → Nat}

theorem Scene.Sound.new : (Scene.new (.new context lease options wire draw)).Sound where
  orderly := .new
  later := fun _ hw => by cases hw
  shutdown := fun _ hw => by cases hw

/-- Every hook returns unless it waits for a shutdown, the gates are open, and no hook of a delivery waits
for a shutdown. If nobody can go on then, and no timer is set, while a shutdown has not returned, the
shutdown procedure is in the closing hook, and that waits for a shutdown. Once it does, no shutdown of
the pump returns any more, whatever happens. -/
theorem stuck_shutdowns_are_entangled {as : List Act} {s : Scene}
    (h : (Scene.new (.new context lease options wire draw)).run as = some s) :
    ((∀ receiver ∈ s.bench.transport.receivers, receiver.gateOpen = true) →
        (∀ x ∈ s.bench.session.calls, ∀ batch, x.2.errand = .delivery batch → s.isHeld x.1 = false) →
        s.Stuck → (∃ x ∈ s.bench.session.calls, ∃ reason, x.2.errand = .shutdown reason) → s.Entangled)
      ∧ (s.Entangled → ∀ bs t, s.run bs = some t →
        t.Entangled ∧ hasShutDown t.bench.session.history = false) := by
  have hs : s.Sound := Scene.Sound.new.run h
  refine ⟨fun hg hd hst ⟨⟨id, w⟩, hm, reason, he⟩ => ?_, fun he bs t hr => ?_⟩
  · exact hs.entangled_of_stuck hg hst hd (hs.orderly.inTurn.tidy.call?_of_mem hm) he
  · have ht := hs.entangled_run he hr
    exact ⟨ht, (hs.run hr).not_shutDown ht⟩

/-- A running pump is shut down, and its closing hook calls for a shutdown once more. Nobody can go on,
and neither of the two shutdowns ever returns. -/
theorem stuck_shutdowns_are_entangled_in_closing_hook :
    ∃ s, Scene.sample.run (Bench.opening.map .plain ++ [.plain (.own (.shutdown .shutdown)),
          .plain (.pass 1), .plain (.drain 1 none), .plain (.close 1 none), .plain (.close 1 none),
          .await 1 .shutdown]) = some s
      ∧ s.bench.session.calls.map (·.2.errand) = [.shutdown .shutdown, .shutdown .shutdown]
      ∧ s.Stuck ∧ s.Entangled
      ∧ ∀ bs t, s.run bs = some t → hasShutDown t.bench.session.history = false := by
  have hr : (Scene.sample.run (Bench.opening.map .plain ++ [.plain (.own (.shutdown .shutdown)),
          .plain (.pass 1), .plain (.drain 1 none), .plain (.close 1 none), .plain (.close 1 none),
          .await 1 .shutdown])).map (fun s => (s.bench.session.calls.all s.isIdle,
        s.bench.visits, s.bench.drains, s.bench.transport.receivers.toList.all (·.gateOpen),
        s.bench.session.calls.map (·.2.errand)))
      = some (true, [], [], true, [.shutdown .shutdown, .shutdown .shutdown]) := by rfl
  obtain ⟨s, hs, he⟩ := Option.map_eq_some_iff.1 hr
  simp only [Prod.mk.injEq] at he
  obtain ⟨hi, hv, hd, hg, hc⟩ := he
  have hst : s.Stuck := Scene.stuck_of_idle hi hv hd
  have hcalls (x : Nat × Waiting) (hx : x ∈ s.bench.session.calls) :
      x.2.errand = .shutdown .shutdown := by
    have hm := List.mem_map_of_mem (f := fun x : Nat × Waiting => x.2.errand) hx
    rw [hc] at hm
    simpa using hm
  obtain ⟨hstuck, hforever⟩ := stuck_shutdowns_are_entangled hs
  have he : s.Entangled := by
    refine hstuck (fun receiver hm => List.all_eq_true.1 hg receiver hm.val)
      (fun x hx batch he => ?_) hst ?_
    · cases (hcalls x hx).symm.trans he
    · obtain ⟨x, hx⟩ := List.exists_mem_of_ne_nil s.bench.session.calls fun hn => by simp [hn] at hc
      exact ⟨x, hx, .shutdown, hcalls x hx⟩
  exact ⟨s, hs, hc, hst, he, fun bs t ht => (hforever he bs t ht).2⟩

end Main
end PartitionConsumer
