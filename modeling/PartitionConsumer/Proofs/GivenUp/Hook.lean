import PartitionConsumer.Proofs.CloseHook
import PartitionConsumer.Proofs.Session.Drops
/-!
# The closing hook of a shutdown that may be given up

The closing hook is called once, and once more for each call that was dropped while it waited for it.
-/
namespace PartitionConsumer

namespace Next

theorem asks_eq_zero {nx : Next} {f : Request → Bool} (h : ∀ r, nx.request? = some r → f r = false) :
    nx.asks f = 0 := by
  cases nx with
  | ask r c => simp [h r rfl]
  | _ => rfl

end Next

namespace Pump

variable {p q : Pump} {es : List Effect} {nx : Next}

structure Hushed (p q : Pump) (nx : Next) : Prop where
  opened : q.opened = false → p.opened = false
  passed : q.passed.isSome = true → p.passed.isSome = true ∨ q.once.done = true
  done : q.once.done = false → p.once.done = false
  late : nx.opening? ≠ some .lateClose
  shut : nx.opening? = some .onOpen → q.opened = false
  quiet : nx.asks Request.isOnClose = 0

theorem Hushed.same (ho : q.opened = p.opened) (hp : q.passed = p.passed) (hd : q.once = p.once)
    (hn : nx.opening? = none) (hq : nx.asks Request.isOnClose = 0) : Hushed p q nx where
  opened h := ho ▸ h
  passed h := .inl (hp ▸ h)
  done h := hd ▸ h
  late := by simp [hn]
  shut h := by simp [hn] at h
  quiet := hq

/-- An opening call goes on. -/
theorem Hushed.opening (ho : q.opened = false → p.opened = false) (hp : q.passed = p.passed)
    (hd : q.once = p.once) (hl : nx.opening? ≠ some .lateClose) (hs : nx.opening? ≠ some .onOpen)
    (hq : nx.asks Request.isOnClose = 0) : Hushed p q nx where
  opened := ho
  passed h := .inl (hp ▸ h)
  done h := hd ▸ h
  late := hl
  shut h := absurd h hs
  quiet := hq

theorem AttemptMove.hushed {r : Pump} {cut : Bool} {shown : List Effect}
    (h : AttemptMove r cut shown q es nx) (ho : r.opened = false → p.opened = false)
    (hp : r.passed = p.passed) (hd : r.once = p.once) : Hushed p q nx := by
  cases h <;> exact .opening ho hp hd (by simp) (by simp) rfl

/-- The opening call calls the closing hook only where a shutdown has passed it while the opening hook
ran. -/
theorem OpenMove.hushed {stage : OpenStage} {a : Answer} (h : OpenMove p stage a q es nx) :
    Hushed p q nx ∨ stage = .onOpen ∧ p.passed.isSome = true ∧ q = { p with opened := true }
      ∧ ∃ reason, nx = .ask (.hook (.onClose reason)) (.start .lateClose) := by
  cases h with
  | closeLate reason hp => exact .inr ⟨rfl, by simp [hp], rfl, reason, rfl⟩
  | cutShort => exact .inl (.opening nofun rfl rfl (by simp) (by simp) rfl)
  | connect _ _ h => exact .inl (h.hushed nofun rfl rfl)
  | clientFailed a f _ h => exact .inl (h.hushed id rfl rfl)
  | abandoned a f outcome h => exact .inl (h.hushed id rfl rfl)
  | pauseOver a wake h => exact .inl (h.hushed id rfl rfl)
  | releaseNext r r' =>
    exact .inl (.opening id rfl rfl (by simp) (by simp) (Next.asks_eq_zero fun _ hr =>
      Option.some.inj hr ▸ r'.isOnClose_request))
  | _ => exact .inl (.opening id rfl rfl (by simp) (by simp) rfl)

section Shutdown

variable {now ticket : Nat} {reason : CloseReason}

structure Calls (p q : Pump) (nx : Next) : Prop where
  opened : q.opened = true
  kept : p.opened = true
  opening : nx.opening? = none
  asks : nx.asks Request.isOnClose = 1

theorem PassMove.hushed {r : Pump} {shown : List Effect} (h : PassMove r ticket reason shown q es nx)
    (ho : r.opened = p.opened) : Hushed p q nx ∨ Calls p q nx := by
  cases h with
  | hook hr => exact .inr ⟨hr, ho ▸ hr, rfl, rfl⟩
  | close hr => exact .inl ⟨fun _ => ho ▸ hr, fun _ => .inr rfl, nofun, by simp, by simp, rfl⟩

theorem DisconnectMove.hushed {r : Pump} (h : DisconnectMove r ticket reason q es nx)
    (ho : r.opened = p.opened) (hp : r.passed = p.passed) (hd : r.once.done = p.once.done) :
    Hushed p q nx ∨ Calls p q nx := by
  cases h with
  | release =>
    exact .inl ⟨fun h => ho ▸ h, fun h => .inl (hp ▸ h), fun h => hd ▸ h, by simp [Call.opening?],
      by simp [Call.opening?], rfl⟩
  | pass _ hm => exact hm.hushed ho

theorem RunMove.hushed {r : Pump} (h : RunMove r now ticket reason q es nx)
    (ho : r.opened = p.opened) (hp : r.passed = p.passed) (hd : r.once.done = p.once.done) :
    Hushed p q nx ∨ Calls p q nx := by
  cases h with
  | closed => exact .inl ⟨fun h => ho ▸ h, fun h => .inl (hp ▸ h), nofun, by simp, by simp, rfl⟩
  | settle =>
    exact .inl ⟨fun h => ho ▸ h, fun h => .inl (hp ▸ h), fun h => hd ▸ h, by simp [Call.opening?],
      by simp [Call.opening?], rfl⟩
  | disconnect _ _ hm => exact hm.hushed ho hp hd

/-- A call that asks for its turn calls the closing hook only if it gets it. -/
theorem EnterMove.hushed (h : EnterMove p now ticket reason q es nx) : Hushed p q nx
    ∨ Calls p q nx ∧ p.once.done = false ∧ (p.once.enter ticket).isTurnOf ticket = true := by
  cases h with
  | done => exact .inl (.same rfl rfl rfl rfl rfl)
  | queue => exact .inl ⟨id, .inl, id, by simp [Call.opening?], by simp [Call.opening?], rfl⟩
  | run hd hq hr => exact (hr.hushed (p := p) rfl rfl rfl).imp_right (⟨·, hd, hq⟩)

theorem ShutdownMove.hushed {stage : ShutdownStage} {a : Answer}
    (h : ShutdownMove p now ticket reason stage a q es nx) :
    Hushed p q nx ∧ (stage = .onClose → q.once.done = true) ∨ Calls p q nx ∧ stage ≠ .onClose := by
  cases h with
  | queuedDone => exact .inl ⟨.same rfl rfl rfl rfl rfl, nofun⟩
  | queuedRun _ hr => exact (hr.hushed rfl rfl rfl).imp (⟨·, nofun⟩) (⟨·, nofun⟩)
  | foundClosed => exact .inl ⟨⟨id, .inl, nofun, by simp, by simp, rfl⟩, nofun⟩
  | disconnect _ _ _ hd => exact (hd.hushed rfl rfl rfl).imp (⟨·, nofun⟩) (⟨·, nofun⟩)
  | releaseNext r r' =>
    exact .inl ⟨.same rfl rfl rfl rfl (Next.asks_eq_zero fun _ hr =>
      Option.some.inj hr ▸ r'.isOnClose_request), nofun⟩
  | releaseEnds r outcome _ hp => exact (hp.hushed rfl).imp (⟨·, nofun⟩) (⟨·, nofun⟩)
  | close => exact .inl ⟨⟨id, .inl, nofun, by simp, by simp, rfl⟩, fun _ => rfl⟩

end Shutdown

theorem ReceiveMove.hushed {batch : Option Batch} (h : ReceiveMove p batch q es nx) :
    Hushed p q nx := by
  cases h <;> exact .same rfl rfl rfl rfl rfl

theorem DeliveryMove.hushed {stage : DeliveryStage} {a : Answer} (h : DeliveryMove p stage a es nx) :
    Hushed p p nx := by
  cases h <;> exact .same rfl rfl rfl rfl rfl

theorem FailureMove.hushed {e : TransportError} (h : FailureMove p e q es) : Hushed p q .finish := by
  cases h <;> exact .same rfl rfl rfl rfl rfl

/-- What has nothing to do with the open leaves the pump idle only if it was. -/
theorem Aside.idle (h : Aside p q) (hl : nx.leave q = q) :
    (nx.leave q).phase = .idle → p.phase = .idle ∧ q.opened = p.opened := by
  rw [hl]
  exact fun hn => ⟨h.phase.symm.trans hn, h.opened⟩

end Pump

/-- Only a call that runs the procedure waits for the closing hook, or one that calls it late. -/
theorem Waiting.Fits.isOnClose {id : Nat} {w : Waiting} (h : w.Fits id)
    (hs : ∀ ticket reason, w.call ≠ .shutdown ticket reason .onClose)
    (ho : w.call ≠ .start .lateClose) : w.request.any Request.isOnClose = false := by
  cases h with
  | @start stage _ ha =>
    cases ha with
    | lateClose => exact absurd rfl ho
    | release r closing => exact r.isOnClose_request
    | _ => rfl
  | @shutdown reason stage _ ha =>
    cases ha with
    | onClose => exact absurd rfl (hs _ _)
    | release r => exact r.isOnClose_request
    | _ => rfl
  | deliver ha => cases ha <;> rfl
  | report => rfl

namespace Session

/-- The calls of the closing hook that were answered, and those that are waited for. -/
def closings (s : Session) : Nat := answered Request.isOnClose s.history + s.awaited Request.isOnClose

section Closings

variable (s : Session)

theorem answered_told (f : Request → Bool) (id : Nat) (w : Waiting) (a : Answer) :
    answered f (s.told id w a).history = answered f s.history + if w.request.any f then 1 else 0 := by
  rw [history_told, answered_append, answered_marks]

theorem answered_begin (f : Request → Bool) (e : Errand) :
    answered f (s.begin e).history = answered f s.history := by
  rw [history_begin, answered_append]
  rfl

theorem closings_begin (e : Errand) : (s.begin e).closings = s.closings :=
  congrArg (· + _) (s.answered_begin _ e)

theorem closings_told {s : Session} {id : Nat} {w : Waiting} (hw : s.call? id = some w) (a : Answer) :
    (s.told id w a).closings = s.closings := by
  have hc : s.awaited Request.isOnClose
      = (s.told id w a).awaited Request.isOnClose + if w.request.any Request.isOnClose then 1 else 0 :=
    awaited_take hw _
  unfold closings
  rw [answered_told]
  omega

theorem closings_carry (id : Nat) (errand : Errand) (q : Pump) (es : List Effect) (nx : Next) :
    (s.carry id errand q es nx).closings = nx.asks Request.isOnClose + s.closings := by
  unfold closings
  rw [answered_carry, awaited_carry]
  omega

end Closings

theorem answered_told_aside {s : Session} {id : Nat} {w : Waiting} (hf : w.Fits id)
    (hs : ∀ ticket reason, w.call ≠ .shutdown ticket reason .onClose)
    (ho : w.call ≠ .start .lateClose) (a : Answer) :
    answered Request.isOnClose (s.told id w a).history = answered Request.isOnClose s.history := by
  rw [answered_told, hf.isOnClose hs ho]
  rfl

theorem Tidy.awaited_isOnClose {s : Session} (h : s.Tidy) (hr : s.runners = [])
    (ho : .lateClose ∉ s.openers) : s.awaited Request.isOnClose = 0 := by
  refine List.countP_eq_zero.2 fun x hx hc => ?_
  rw [(h.fits x hx).isOnClose (fun ticket reason he => ?_) fun he => ?_] at hc
  · cases hc
  · have hm : (⟨ticket, reason, .onClose⟩ : Turn) ∈ s.runners :=
      List.mem_filterMap.2 ⟨x, hx, by simp [Waiting.turn?, Call.turn?, he]⟩
    rw [hr] at hm
    cases hm
  · exact ho (List.mem_filterMap.2 ⟨x, hx, by simp [Waiting.opening?, he]⟩)

structure Single (s : Session) : Prop where
  fresh : s.pump.phase = .idle → s.pump.opened = false
  shut : .onOpen ∈ s.openers → s.pump.opened = false
  passed : s.pump.passed.isSome = true → s.pump.opened = true ∨ s.pump.once.done = true
  unopened : s.pump.opened = false → s.closings = 0
  undone : s.pump.once.done = false →
    answered Request.isOnClose s.history = 0 ∧ .lateClose ∉ s.openers
  once : s.closings ≤ 1

namespace Single

variable {s b : Session} {id : Nat} {errand : Errand} {q : Pump} {es : List Effect} {nx : Next}

theorem new (p : Pump) (ho : p.opened = false) (hp : p.passed = none) : (new p).Single where
  fresh _ := ho
  shut := nofun
  passed h := by
    have hs : p.passed.isSome = true := h
    rw [hp] at hs
    cases hs
  unopened _ := rfl
  undone _ := ⟨rfl, nofun⟩
  once := Nat.zero_le 1

/-- A call goes on without calling the closing hook. If it was told that the hook has returned, the
procedure is at its end. -/
theorem hushed (h : s.Single) (ho : ∀ stage ∈ b.openers, stage ∈ s.openers ∧ q.opened = s.pump.opened)
    (hc : b.closings = s.closings)
    (ha : q.once.done = false →
      answered Request.isOnClose b.history = answered Request.isOnClose s.history)
    (hp : (nx.leave q).phase = .idle → s.pump.phase = .idle ∧ q.opened = s.pump.opened)
    (hm : s.pump.Hushed q nx) : (b.carry id errand q es nx).Single := by
  have hcl : (b.carry id errand q es nx).closings = s.closings := by
    rw [closings_carry, hm.quiet, hc, Nat.zero_add]
  refine ⟨fun hi => ?_, fun hi => ?_, fun hi => ?_, fun hi => ?_, fun hi => ?_, hcl ▸ h.once⟩
  · obtain ⟨hi, hq⟩ := hp hi
    rw [pump_carry, Next.opened_leave, hq]
    exact h.fresh hi
  · rw [openers_carry, List.mem_append, Option.mem_toList] at hi
    rw [pump_carry, Next.opened_leave]
    obtain hi | hi := hi
    · exact hm.shut hi
    · obtain ⟨hi, hq⟩ := ho _ hi
      exact hq.trans (h.shut hi)
  · rw [pump_carry, Next.passed_leave] at hi
    rw [pump_carry, Next.opened_leave, Next.once_leave]
    refine (hm.passed hi).elim (fun hi => (h.passed hi).imp (fun ht => ?_) fun ht => ?_) .inr
    · exact Bool.of_not_eq_false fun hf => by simp [hm.opened hf] at ht
    · exact Bool.of_not_eq_false fun hf => by simp [hm.done hf] at ht
  · rw [pump_carry, Next.opened_leave] at hi
    rw [hcl]
    exact h.unopened (hm.opened hi)
  · rw [pump_carry, Next.once_leave] at hi
    obtain ⟨hn, hl⟩ := h.undone (hm.done hi)
    refine ⟨by rw [answered_carry, ha hi, hn], ?_⟩
    rw [openers_carry, List.mem_append, Option.mem_toList]
    rintro (hx | hx)
    · exact hm.late hx
    · exact hl (ho _ hx).1

/-- Nothing goes on, and calls may be gone. -/
theorem fewer {t : Session} (h : s.Single) (hi : t.pump.phase = .idle → s.pump.phase = .idle)
    (ho : t.pump.opened = s.pump.opened) (hp : t.pump.passed = s.pump.passed)
    (hd : t.pump.once.done = s.pump.once.done) (ht : ∀ stage ∈ t.openers, stage ∈ s.openers)
    (ha : answered Request.isOnClose t.history = answered Request.isOnClose s.history)
    (hw : t.awaited Request.isOnClose ≤ s.awaited Request.isOnClose) : t.Single := by
  have hc : t.closings ≤ s.closings := by
    unfold closings
    omega
  refine ⟨fun hn => ho.trans (h.fresh (hi hn)), fun hn => ho.trans (h.shut (ht _ hn)), fun hn => ?_,
    fun hn => ?_, fun hn => ?_, Nat.le_trans hc h.once⟩
  · rw [ho, hd]
    exact h.passed (hp ▸ hn)
  · have hz := h.unopened (ho.symm.trans hn)
    omega
  · obtain ⟨hz, hl⟩ := h.undone (hd.symm.trans hn)
    exact ⟨ha.trans hz, fun hx => hl (ht _ hx)⟩

/-- A call for shutdown calls the closing hook. -/
theorem calls (h : s.Single) (ho : ∀ stage ∈ b.openers, stage ∈ s.openers) (hc : b.closings = 0)
    (hd : s.pump.once.done = false) (hp : (nx.leave q).phase = .idle → s.pump.phase = .idle)
    (hm : s.pump.Calls q nx) : (b.carry id errand q es nx).Single := by
  have hq : (b.carry id errand q es nx).pump.opened = true := (nx.opened_leave q).trans hm.opened
  have hcl : (b.carry id errand q es nx).closings = 1 := by
    rw [closings_carry, hm.asks, hc]
  have hl : (b.carry id errand q es nx).openers = b.openers := by
    rw [openers_carry, hm.opening]
    rfl
  obtain ⟨-, hn⟩ := h.undone hd
  refine ⟨fun hi => ?_, fun hi => ?_, fun _ => .inl hq, fun hi => ?_, fun _ => ⟨?_, ?_⟩, by omega⟩
  · have hn := h.fresh (hp hi)
    rw [hm.kept] at hn
    cases hn
  · rw [hl] at hi
    have hs := h.shut (ho _ hi)
    rw [hm.kept] at hs
    cases hs
  · rw [hq] at hi
    cases hi
  · rw [answered_carry]
    exact (Nat.add_eq_zero_iff.1 hc).1
  · rw [hl]
    exact fun hi => hn (ho _ hi)

/-- A shutdown had passed the closing hook while the opening hook ran, and it is called late. -/
theorem late (h : s.Single) (hw : .onOpen ∈ s.openers) (hb : b.openers = [])
    (hc : b.closings = s.closings) (hp : s.pump.passed.isSome = true)
    (hi : s.pump.phase = .opening) (reason : CloseReason) :
    (b.carry id errand { s.pump with opened := true } es
      (.ask (.hook (.onClose reason)) (.start .lateClose))).Single := by
  have ho := h.shut hw
  have hd : s.pump.once.done = true := (h.passed hp).resolve_left (by simp [ho])
  have hcl := closings_carry b id errand { s.pump with opened := true } es
    (.ask (.hook (.onClose reason)) (.start .lateClose))
  rw [hc, h.unopened ho] at hcl
  refine ⟨fun hn => ?_, fun hn => ?_, fun _ => .inl rfl, nofun, fun hn => ?_,
    Nat.le_of_eq hcl⟩
  · have hn : s.pump.phase = .idle := hn
    rw [hi] at hn
    cases hn
  · rw [openers_carry, hb] at hn
    simp at hn
  · have hn : s.pump.once.done = false := hn
    rw [hd] at hn
    cases hn

/-- A call asks for its turn. -/
theorem enter {now ticket : Nat} {reason : CloseReason} (h : s.Single) (hb : b.Tidy)
    (ho : b.openers = s.openers) (hc : b.closings = s.closings)
    (ha : answered Request.isOnClose b.history = answered Request.isOnClose s.history)
    (hr : s.pump.once.done = false → (s.pump.once.enter ticket).isTurnOf ticket = true →
      b.runners = [])
    (hm : s.pump.EnterMove now ticket reason q es nx) : (b.carry id errand q es nx).Single := by
  obtain hq | ⟨hq, hd, ht⟩ := hm.hushed
  · refine h.hushed (fun stage hx => ⟨ho ▸ hx, hm.aside.opened⟩) hc (fun _ => ha) ?_ hq
    rw [hm.leave]
    exact fun hi => ⟨hm.aside.phase.symm.trans hi, hm.aside.opened⟩
  · obtain ⟨hn, hl⟩ := h.undone hd
    refine h.calls (fun stage hx => ho ▸ hx) ?_ hd ?_ hq
    · unfold closings
      rw [ha, hn, hb.awaited_isOnClose (hr hd ht) (ho ▸ hl)]
    · rw [hm.leave]
      exact hm.aside.phase.symm.trans

/-- The call that opens the pump is told something. -/
theorem toldStart {w : Waiting} {a : Answer} {c : Cause} {stage : OpenStage} (hi : s.Led) (h : s.Single)
    (ht : s.Tells id w a c) (hw : w.call = .start stage) (hm : s.pump.OpenMove stage a q es nx) :
    ((s.told id w a).carry id w.errand q es nx).Single := by
  obtain ⟨-, ho, hl, -⟩ := hi.told_start ht hw
  obtain ⟨-, -, hp⟩ := hi.openers_of_start ht.call? hw
  have hc := closings_told ht.call? a
  obtain hq | ⟨rfl, hps, rfl, reason, rfl⟩ := hm.hushed
  · refine h.hushed (fun stage hx => ?_) hc (fun hd => ?_) (fun hn => ?_) hq
    · rw [hl] at hx
      cases hx
    · -- a late call of the closing hook is answered after the end of the procedure only
      refine answered_told_aside (hi.tidy.fits_call ht.call?) (by simp [hw]) (fun he => ?_) a
      obtain rfl := Call.start.inj (hw.symm.trans he)
      exact (h.undone (hq.done hd)).2 (by rw [ho]; exact List.mem_cons_self)
    · obtain ⟨hq', stage', rfl | ⟨r, rfl⟩⟩ | ⟨hq', -⟩ := hm.opening
      · exact absurd (hq'.symm.trans hn) (by simp [hp])
      · exact absurd (hq'.symm.trans hn) (by simp [hp])
      · exact absurd (hq'.symm.trans hn) (by simp)
  · exact h.late (by rw [ho]; exact List.mem_cons_self) hl hc hps hp reason

/-- A call for shutdown is told something. -/
theorem toldShutdown {w : Waiting} {a : Answer} {c : Cause} {ticket : Nat} {reason : CloseReason}
    {stage : ShutdownStage} (hi : s.Led) (h : s.Single) (ht : s.Tells ticket w a c)
    (hw : w.call = .shutdown ticket reason stage)
    (hm : s.pump.ShutdownMove s.now ticket reason stage a q es nx) :
    ((s.told ticket w a).carry ticket w.errand q es nx).Single := by
  obtain ⟨-, -, ho, hr⟩ := hi.told_shutdown ht hw hm
  have hc := closings_told ht.call? a
  have hs : ∀ stage ∈ (s.told ticket w a).openers, stage ∈ s.openers ∧ q.opened = s.pump.opened :=
    fun stage hx => ⟨ho ▸ hx, hm.aside.opened⟩
  have ha (hn : stage ≠ .onClose) : answered Request.isOnClose (s.told ticket w a).history
      = answered Request.isOnClose s.history := by
    refine answered_told_aside (hi.tidy.fits_call ht.call?) (fun _ _ he => ?_) (by simp [hw]) a
    rw [hw] at he
    cases he
    exact hn rfl
  obtain ⟨hd, rfl, rfl, rfl, -⟩ | ⟨hq, hl, -⟩ := hr
  · exact h.hushed hs hc (fun hn => by rw [hd] at hn; cases hn) (hm.aside.idle rfl)
      (.same rfl rfl rfl rfl rfl)
  · have hd : s.pump.once.done = false := by
      simp only [Once.isTurnOf, Bool.and_eq_true] at hq
      simpa using hq.1
    obtain ⟨hm', hf⟩ | ⟨hm', hn⟩ := hm.hushed
    · refine h.hushed hs hc (fun hn => ha ?_) (hm.aside.idle hm.leave) hm'
      rintro rfl
      rw [hf rfl] at hn
      cases hn
    · obtain ⟨hz, hlate⟩ := h.undone hd
      refine h.calls (fun stage hx => (hs stage hx).1) ?_ hd (fun hn => (hm.aside.idle hm.leave hn).1) hm'
      unfold closings
      rw [ha hn, hz, (hi.tidy.told ticket w a).awaited_isOnClose hl (ho ▸ hlate)]

/-- A call that is dropped is not answered any more. -/
theorem drop {w : Waiting} (h : s.Single) :
    ({ s.take id with pump := s.pump.abandon w.call }.note [.lost id w.errand]).Single := by
  have hc : (s.take id).awaited Request.isOnClose ≤ s.awaited Request.isOnClose :=
    List.Sublist.countP_le List.eraseP_sublist
  obtain ⟨hd, hf⟩ : (s.pump.abandon w.call).once.done = s.pump.once.done
      ∧ ((s.pump.abandon w.call).phase = .idle → s.pump.phase = .idle) := by
    cases w.call <;> simp [Pump.abandon, Pump.settle]
  exact h.fewer hf (s.pump.opened_abandon w.call) (s.pump.passed_abandon w.call) hd
    (fun _ => mem_waiting_take) (answered_append ..) hc

theorem step {t : Session} {c : Cause} (hi : s.Led) (h : s.Single) (hs : s.Step c t) : t.Single := by
  cases hs with
  | start hm =>
    cases hm with
    | ignored =>
      exact h.hushed (b := s.begin _) (fun _ hx => ⟨hx, rfl⟩) (s.closings_begin _)
        (fun _ => s.answered_begin ..) (fun hn => ⟨hn, rfl⟩) (.same rfl rfl rfl rfl rfl)
    | opens hn hu =>
      have ho := h.fresh (hi.unopened hu)
      exact h.hushed (b := s.begin _) (fun _ hx => ⟨hx, rfl⟩) (s.closings_begin _)
        (fun _ => s.answered_begin ..) nofun ⟨id, .inl, id, by simp, fun _ => ho, rfl⟩
  | shutdown reason hm =>
    exact h.enter (hi.tidy.begin _) rfl (s.closings_begin _) (s.answered_begin ..)
      (fun hd hq => (hi.runners_of_enter hi.next_not_mem_turns hd hq).2) hm
  | deliver report batch hm =>
    exact h.hushed (b := s.begin _) (fun _ hx => ⟨hx, hm.aside.opened⟩) (s.closings_begin _)
      (fun _ => s.answered_begin ..) (hm.aside.idle hm.leave) hm.hushed
  | fail e hm =>
    exact h.hushed (b := s.begin _) (fun _ hx => ⟨hx, hm.aside.opened⟩) (s.closings_begin _)
      (fun _ => s.answered_begin ..) (hm.aside.idle rfl) hm.hushed
  | report n e he =>
    exact h.hushed (b := (s.forget n).begin _) (fun _ hx => ⟨hx, rfl⟩) (s.closings_begin _)
      (fun _ => s.answered_begin ..) (fun hn => ⟨hn, rfl⟩) (.same rfl rfl rfl rfl rfl)
  | discard n hn => exact ⟨h.1, h.2, h.3, h.4, h.5, h.6⟩
  | tellStart id w a stage ht hw hm => exact h.toldStart hi ht hw hm
  | tellShutdown id w a ticket reason stage ht hw hm =>
    obtain ⟨-, rfl, -⟩ := hi.told_shutdown ht hw hm
    exact h.toldShutdown hi ht hw hm
  | tellDelivery id w a stage ht hw hm =>
    obtain ⟨-, ho, -⟩ := hi.told_delivery ht hw
    exact h.hushed (fun stage hx => ⟨ho ▸ hx, rfl⟩) (closings_told ht.call? a)
      (fun _ => answered_told_aside (hi.tidy.fits_call ht.call?) (by simp [hw]) (by simp [hw]) a)
      (fun hn => ⟨by rwa [hm.leave] at hn, rfl⟩) hm.hushed
  | tellReport id w outcome ticket ht hw hm =>
    obtain ⟨rfl, hn, ho, hr⟩ := hi.told_report ht hw
    refine h.enter (hi.tidy.told ticket w _) ho (closings_told ht.call? _) ?_ (fun hd hq => ?_) hm
    · exact answered_told_aside (hi.tidy.fits_call ht.call?) (by simp [hw]) (by simp [hw]) _
    · rw [hr]
      exact (hi.runners_of_enter hn hd hq).2
  | drop => exact h.drop
  | bump => exact ⟨h.1, h.2, h.3, h.4, h.5, h.6⟩
  | pass ticks =>
    exact h.fewer (fun hn => hn) rfl rfl rfl (fun _ hx => hx) (answered_append ..) (Nat.le_refl _)

end Single
end Session
end PartitionConsumer
