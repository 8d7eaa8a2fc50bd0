import PartitionConsumer.Proofs.Session.Turns
/-!
# Requests and their answers

A call that makes a request waits for its answer, and makes no other before. So what was asked is what
was answered and what is waited for, and what was lost with the calls that were dropped.
-/
namespace PartitionConsumer

namespace Next

def request? : Next → Option Request
  | .ask r _ => some r
  | _ => none

def asks (f : Request → Bool) : Next → Nat
  | .ask r _ => if f r then 1 else 0
  | _ => 0

variable (f : Request → Bool)

@[simp] theorem asks_ask (r : Request) (c : Call) : (ask r c).asks f = if f r then 1 else 0 := rfl
@[simp] theorem asks_wait (c : Call) : (wait c).asks f = 0 := rfl
@[simp] theorem asks_finish : finish.asks f = 0 := rfl
@[simp] theorem asks_crash : crash.asks f = 0 := rfl

theorem asks_of_request? {nx : Next} {r : Request} (h : nx.request? = some r) :
    nx.asks f = if f r then 1 else 0 := by
  cases nx with
  | ask q c => rw [← Option.some.inj h, asks_ask]
  | _ => cases h

end Next

/-- Of all requests only the one that is waited for is among the effects, and it is made once. -/
def Asks (es : List Effect) (nx : Next) : Prop := ∀ f, es.countP (Effect.asks f) = nx.asks f

namespace Asks

variable {es : List Effect} {nx : Next} {r : Request} {c : Call}

theorem after (h : ∀ f, es.countP (Effect.asks f) = 0) : Asks (es ++ [.ask r]) (.ask r c) := by
  intro f
  rw [List.countP_append, h]
  cases hf : f r <;> simp [hf]

theorem only : Asks [.ask r] (.ask r c) := @after [] r c fun _ => rfl

theorem none (h : ∀ f, es.countP (Effect.asks f) = 0) (hn : nx.request? = none) : Asks es nx := by
  intro f
  rw [h]
  cases nx with
  | ask r c => cases hn
  | _ => rfl

end Asks

def Effect.request? : Effect → Option Request
  | .ask r => some r
  | _ => none

theorem Effect.countP_request? (f : Request → Bool) (es : List Effect) :
    (es.filterMap Effect.request?).countP f = es.countP (Effect.asks f) := by
  rw [List.countP_filterMap]
  refine List.countP_congr fun e _ => ?_
  cases e <;> simp [Effect.request?, Effect.asks]

/-- Among the effects no request is made but the one that is waited for. -/
theorem Asks.requests {es : List Effect} {nx : Next} (h : Asks es nx) :
    es.filterMap Effect.request? = nx.request?.toList := by
  have hc (f : Request → Bool) : (es.filterMap Effect.request?).countP f = nx.asks f :=
    (Effect.countP_request? f es).trans (h f)
  cases hr : nx.request? with
  | none =>
    have hn : nx.asks (fun _ => true) = 0 := by
      cases nx with
      | ask r c => cases hr
      | _ => rfl
    refine List.eq_nil_iff_forall_not_mem.2 fun r hm => ?_
    exact List.countP_eq_zero.1 ((hc _).trans hn) r hm rfl
  | some r =>
    refine List.perm_singleton.1 (List.perm_iff_count.2 fun q => ?_)
    have hq := hc (· == q)
    rw [Next.asks_of_request? _ hr] at hq
    rw [List.count_singleton]
    exact hq

/-- No other request was made before it. -/
theorem Asks.split {es pre post : List Effect} {nx : Next} {r : Request} (h : Asks es nx)
    (he : es = pre ++ .ask r :: post) :
    nx.request? = some r ∧ ∀ f, pre.countP (Effect.asks f) = 0 := by
  have hr : pre.filterMap Effect.request? ++ r :: post.filterMap Effect.request? = nx.request?.toList := by
    rw [← h.requests, he, List.filterMap_append]
    rfl
  cases hn : nx.request? with
  | none =>
    rw [hn] at hr
    exact absurd hr (List.append_ne_nil_of_right_ne_nil _ (List.cons_ne_nil _ _))
  | some q =>
    rw [hn] at hr
    obtain ⟨hp, hq⟩ :=
      (List.append_eq_singleton_iff.1 hr).resolve_right fun hx => List.cons_ne_nil _ _ hx.2
    refine ⟨congrArg some (List.cons.inj hq).1.symm, fun f => ?_⟩
    rw [← Effect.countP_request?, hp]
    rfl

namespace Pump

variable {p q : Pump} {es : List Effect} {nx : Next}

theorem AttemptMove.asks {cut : Bool} {shown : List Effect} (h : AttemptMove p cut shown q es nx)
    (hs : ∀ f, shown.countP (Effect.asks f) = 0) : Asks es nx := by
  cases h with
  | attempt => exact .after hs
  | report => exact .after hs
  | _ => exact .none hs rfl

theorem OpenMove.asks {stage : OpenStage} {a : Answer} (h : OpenMove p stage a q es nx) :
    Asks es nx := by
  cases h with
  | refuse => exact .only
  | closeLate => exact .only
  | connect _ _ h => exact h.asks fun f => rfl
  | clientFailed a f _ h => exact h.asks fun f => by simp
  | clientMade => exact .only
  | clientUnwanted => exact .only
  | receiverCancelled => exact .only
  | receiverFailed => exact .only
  | reject a client receiver => exact @Asks.after [_] _ _ fun f => by simp
  | abandoned a f outcome h => exact h.asks fun f => by simp
  | pauseOver a wake h => exact h.asks fun f => rfl
  | failedReleases => exact .after fun f => by simp
  | releaseNext => exact .after fun f => by simp
  | _ => exact .none (fun f => by simp) rfl

theorem StartMove.asks (h : StartMove p q es nx) : Asks es nx := by
  cases h with
  | ignored => exact .none (fun f => rfl) rfl
  | opens => exact @Asks.after [_, _] _ _ fun f => by simp

section Shutdown

variable {now ticket : Nat} {reason : CloseReason}

theorem PassMove.asks {shown : List Effect} (h : PassMove p ticket reason shown q es nx)
    (hs : ∀ f, shown.countP (Effect.asks f) = 0) : Asks es nx := by
  cases h with
  | hook => exact .after hs
  | close => exact .none (fun f => by simp [hs]) rfl

theorem DisconnectMove.asks (h : DisconnectMove p ticket reason q es nx) : Asks es nx := by
  cases h with
  | release => exact .after fun f => by simp
  | pass _ hp => exact hp.asks fun f => by simp

theorem RunMove.asks (h : RunMove p now ticket reason q es nx) : Asks es nx := by
  cases h with
  | disconnect _ _ hd => exact hd.asks
  | _ => exact .none (fun f => rfl) rfl

theorem EnterMove.asks (h : EnterMove p now ticket reason q es nx) : Asks es nx := by
  cases h with
  | run _ _ hr => exact hr.asks
  | _ => exact .none (fun f => rfl) rfl

theorem ShutdownMove.asks {stage : ShutdownStage} {a : Answer}
    (h : ShutdownMove p now ticket reason stage a q es nx) : Asks es nx := by
  cases h with
  | queuedRun _ hr => exact hr.asks
  | disconnect _ _ _ hd => exact hd.asks
  | releaseNext => exact .after fun f => by simp
  | releaseEnds r outcome _ hp => exact hp.asks fun f => by simp
  | _ => exact .none (fun f => by simp) rfl

end Shutdown

theorem ReceiveMove.asks {batch : Option Batch} (h : ReceiveMove p batch q es nx) : Asks es nx := by
  cases h with
  | unheard => exact .none (fun f => rfl) rfl
  | handle => exact .only

theorem FailureMove.asks {e : TransportError} (h : FailureMove p e q es) : Asks es .finish := by
  cases h <;> exact .none (fun f => by simp) rfl

theorem DeliveryMove.asks {stage : DeliveryStage} {a : Answer} (h : DeliveryMove p stage a es nx) :
    Asks es nx := by
  cases h with
  | failed => exact .only
  | _ => exact .none (fun f => by simp) rfl

end Pump

/-! ## Answers -/

def Mark.answers (f : Request → Bool) : Mark → Bool
  | .told _ w _ => w.request.any f
  | _ => false

def answered (f : Request → Bool) (h : List Mark) : Nat := h.countP (Mark.answers f)

section Histories

variable (f : Request → Bool)

@[simp] theorem answered_append (h k : List Mark) : answered f (h ++ k) = answered f h + answered f k :=
  List.countP_append

@[simp] theorem answered_did (id : Nat) (es : List Effect) : answered f (es.map (.did id)) = 0 := by
  simp [answered, Mark.answers]

@[simp] theorem answered_end (nx : Next) (id : Nat) (errand : Errand) :
    answered f (nx.marks id errand) = 0 := by cases nx <;> rfl

theorem answered_marks (w : Waiting) (id : Nat) (a : Answer) :
    answered f (w.marks id a) = if w.request.any f then 1 else 0 := by
  unfold Waiting.marks
  cases h : w.request.any f <;> cases w.call <;> simp [answered, Mark.answers, h]

end Histories

namespace Session

def awaited (s : Session) (f : Request → Bool) : Nat := s.calls.countP fun x => x.2.request.any f

/-- What was asked is what was answered, what is waited for, and what was lost with dropped calls. -/
def Attended (s : Session) (lost : (Request → Bool) → Nat) : Prop :=
  ∀ f, asked f s.history = answered f s.history + s.awaited f + lost f

theorem awaited_take {s : Session} {id : Nat} {w : Waiting} (hw : s.call? id = some w)
    (f : Request → Bool) :
    s.awaited f = (s.take id).awaited f + if w.request.any f then 1 else 0 := by
  unfold awaited
  rw [(perm_take hw).countP_eq, List.countP_cons]

section Carry

variable (f : Request → Bool) (b : Session) (id : Nat) (errand : Errand) (q : Pump) (es : List Effect)
  (nx : Next)

theorem awaited_carry : (b.carry id errand q es nx).awaited f = nx.asks f + b.awaited f := by
  unfold awaited
  rw [calls_carry, List.countP_append]
  cases nx with
  | ask r c => cases hf : f r <;> simp [Next.waiting?, hf]
  | _ => simp [Next.waiting?]

theorem answered_carry : answered f (b.carry id errand q es nx).history = answered f b.history := by
  rw [history_carry, answered_append, answered_append, answered_did, answered_end]
  rfl

end Carry

namespace Attended

variable {s b : Session} {id : Nat} {errand : Errand} {q : Pump} {es : List Effect} {nx : Next}
  {lost : (Request → Bool) → Nat}

theorem carry (hb : b.Attended lost) (h : Asks es nx) : (b.carry id errand q es nx).Attended lost := by
  intro f
  rw [asked_carry, h f, hb f, awaited_carry, answered_carry]
  omega

/-- Marks that neither ask nor answer anything do not matter. -/
theorem note (h : s.Attended lost) {ms : List Mark} (ha : ∀ f, asked f ms = 0)
    (hn : ∀ f, answered f ms = 0) : (s.note ms).Attended lost := by
  intro f
  rw [history_note, asked_append, answered_append, ha, hn]
  exact h f

theorem begin (h : s.Attended lost) (e : Errand) : (s.begin e).Attended lost := by
  have hs : Attended { s with next := s.next + 1 } lost := h
  exact hs.note (fun f => rfl) fun f => rfl

theorem told {w : Waiting} {a : Answer} (h : s.Attended lost) (hw : s.call? id = some w) :
    (s.told id w a).Attended lost := by
  intro f
  have hc : s.awaited f = (s.told id w a).awaited f + if w.request.any f then 1 else 0 :=
    awaited_take hw f
  have hs := h f
  rw [asked_told, hs, hc, history_told, answered_append, answered_marks]
  omega

/-- A call that is dropped loses the answer it waits for. -/
theorem drop {w : Waiting} (h : s.Attended lost) (hw : s.call? id = some w) :
    ({ s.take id with pump := s.pump.abandon w.call }.note [.lost id w.errand]).Attended
      fun f => lost f + if w.request.any f then 1 else 0 := by
  refine note (fun f => ?_) (fun f => rfl) fun f => rfl
  have hs := h f
  rw [awaited_take hw] at hs
  have hn : asked f s.history = answered f s.history + (s.take id).awaited f
      + (lost f + if w.request.any f then 1 else 0) := by omega
  exact hn

/-- As long as no call is dropped, nothing is lost. -/
theorem step {t : Session} {c : Cause} (h : s.Attended lost) (hs : s.Step c t) :
    ∃ more, t.Attended more ∧ (c.isDrop = false → more = lost) := by
  cases hs with
  | start hm => exact ⟨lost, (h.begin .start).carry hm.asks, fun _ => rfl⟩
  | shutdown reason hm => exact ⟨lost, (h.begin (.shutdown reason)).carry hm.asks, fun _ => rfl⟩
  | deliver report batch hm => exact ⟨lost, (h.begin (.delivery batch)).carry hm.asks, fun _ => rfl⟩
  | fail e hm => exact ⟨lost, (h.begin (.failure e)).carry hm.asks, fun _ => rfl⟩
  | report n e he =>
    have hf : (s.forget n).Attended lost := h
    exact ⟨lost, (hf.begin (.report e)).carry .only, fun _ => rfl⟩
  | discard n hn => exact ⟨lost, h, fun _ => rfl⟩
  | tellStart id w a stage ht hw hm => exact ⟨lost, (h.told ht.call?).carry hm.asks, fun _ => rfl⟩
  | tellShutdown id w a ticket reason stage ht hw hm =>
    exact ⟨lost, (h.told ht.call?).carry hm.asks, fun _ => rfl⟩
  | tellDelivery id w a stage ht hw hm => exact ⟨lost, (h.told ht.call?).carry hm.asks, fun _ => rfl⟩
  | tellReport id w outcome ticket ht hw hm =>
    exact ⟨lost, (h.told ht.call?).carry hm.asks, fun _ => rfl⟩
  | drop id w hw => exact ⟨_, h.drop hw, nofun⟩
  | bump => exact ⟨lost, h, fun _ => rfl⟩
  | pass ticks =>
    have hn : Attended { s with now := s.now + ticks } lost := h
    exact ⟨lost, hn.note (fun f => rfl) fun f => rfl, fun _ => rfl⟩

theorem step_undropped {t : Session} {c : Cause} (h : s.Attended lost) (hd : c.isDrop = false)
    (hs : s.Step c t) : t.Attended lost := by
  obtain ⟨more, ht, he⟩ := h.step hs
  exact he hd ▸ ht

end Attended
end Session

/-! ## The status that was shown -/

def Effect.after (s : Status) : Effect → Status
  | .status t => t
  | _ => s

/-- The status that the effects show, from `s` on. -/
def statusAfter (s : Status) (es : List Effect) : Status := es.foldl Effect.after s

def statusIn (h : List Mark) : Status := statusAfter .uninitialized (effects h)

@[simp] theorem statusAfter_append (s : Status) (es fs : List Effect) :
    statusAfter s (es ++ fs) = statusAfter (statusAfter s es) fs := List.foldl_append

theorem statusIn_append (h k : List Mark) : statusIn (h ++ k) = statusAfter (statusIn h) (effects k) := by
  rw [statusIn, effects_append, statusAfter_append]
  rfl

@[simp] theorem statusAfter_faults (s : Status) (p : Pump) (r : Release) (outcome) :
    statusAfter s (p.faults r outcome) = s := by rcases outcome with e | ⟨⟩ <;> rfl

@[simp] theorem statusAfter_failureFault (s : Status) (p : Pump) (a : Attempt) (f : AttemptFailure) :
    statusAfter s (p.failureFault a f) = s := by
  obtain h | ⟨e, h⟩ := p.failureFault_eq a f <;> rw [h] <;> rfl

theorem statusAfter_unlinkedEffects (p : Pump) (reason : CloseReason) :
    statusAfter p.status (p.unlinkedEffects reason) = p.unlinked.status := by
  unfold Pump.unlinkedEffects Pump.closingStatusEffects Pump.unlinked Pump.closingStatus
  dsimp only
  split <;> rfl

namespace Pump

variable {p q : Pump} {es : List Effect} {nx : Next}

def Shows (p q : Pump) (es : List Effect) : Prop := statusAfter p.status es = q.status

theorem AttemptMove.shows {cut : Bool} {shown : List Effect} (h : AttemptMove p cut shown q es nx)
    (hs : statusAfter p.status shown = p.status) : Shows p q es := by
  unfold Shows
  cases h with
  | attempt => rw [statusAfter_append, hs]; rfl
  | report => rw [statusAfter_append, hs]; rfl
  | _ => exact hs

theorem OpenMove.shows {stage : OpenStage} {a : Answer} (h : OpenMove p stage a q es nx) :
    Shows p q es := by
  cases h with
  | connect _ _ h => exact h.shows rfl
  | clientFailed a f _ h => exact h.shows (by simp)
  | abandoned a f outcome h => exact h.shows (by simp)
  | pauseOver a wake h => exact h.shows rfl
  | releaseNext r r' closing outcome =>
    unfold Shows
    rw [statusAfter_append, statusAfter_faults]
    rfl
  | releaseCloses r outcome =>
    unfold Shows
    rw [statusAfter_append, statusAfter_faults]
    rfl
  | releaseEnds r outcome => exact statusAfter_faults ..
  | _ => rfl

theorem StartMove.shows (h : StartMove p q es nx) : Shows p q es := by cases h <;> rfl

section Shutdown

variable {now ticket : Nat} {reason : CloseReason}

theorem PassMove.shows {s : Status} {shown : List Effect} (h : PassMove p ticket reason shown q es nx)
    (hs : statusAfter s shown = p.status) : statusAfter s es = q.status := by
  cases h with
  | hook => rw [statusAfter_append, hs]; rfl
  | close => rw [statusAfter_append, hs]; rfl

theorem DisconnectMove.shows (h : DisconnectMove p ticket reason q es nx) : Shows p q es := by
  have hu := statusAfter_unlinkedEffects p reason
  cases h with
  | release =>
    unfold Shows
    rw [statusAfter_append, hu]
    rfl
  | pass _ hp => exact hp.shows hu

theorem RunMove.shows (h : RunMove p now ticket reason q es nx) : Shows p q es := by
  cases h with
  | disconnect _ _ hd => exact hd.shows
  | _ => rfl

theorem EnterMove.shows (h : EnterMove p now ticket reason q es nx) : Shows p q es := by
  cases h with
  | run _ _ hr => exact hr.shows
  | _ => rfl

theorem ShutdownMove.shows {stage : ShutdownStage} {a : Answer}
    (h : ShutdownMove p now ticket reason stage a q es nx) : Shows p q es := by
  cases h with
  | queuedRun _ hr => exact hr.shows
  | disconnect _ _ _ hd => exact hd.shows
  | releaseNext r r' outcome =>
    unfold Shows
    rw [statusAfter_append, statusAfter_faults]
    rfl
  | releaseEnds r outcome _ hp => exact hp.shows (statusAfter_faults ..)
  | _ => rfl

end Shutdown

theorem ReceiveMove.shows {batch : Option Batch} (h : ReceiveMove p batch q es nx) : Shows p q es := by
  cases h <;> rfl

theorem FailureMove.shows {e : TransportError} (h : FailureMove p e q es) : Shows p q es := by
  cases h <;> rfl

theorem DeliveryMove.shows {stage : DeliveryStage} {a : Answer} (h : DeliveryMove p stage a es nx) :
    Shows p p es := by
  cases h <;> rfl

end Pump

namespace Session

def Shown (s : Session) : Prop := statusIn s.history = s.pump.status

namespace Shown

variable {s b : Session} {id : Nat} {errand : Errand} {q : Pump} {es : List Effect} {nx : Next}

theorem carry (hb : statusIn b.history = b.pump.status) (h : b.pump.Shows q es) :
    (b.carry id errand q es nx).Shown := by
  unfold Shown
  rw [pump_carry, Next.status_leave, history_carry, statusIn_append, statusIn_append, effects_did,
    effects_end, hb]
  exact h

theorem begin (h : s.Shown) (e : Errand) : (s.begin e).Shown := by
  unfold Shown
  rw [history_begin, statusIn_append]
  exact h

theorem told (h : s.Shown) (id : Nat) (w : Waiting) (a : Answer) : (s.told id w a).Shown := by
  unfold Shown
  rw [history_told, statusIn_append, effects_marks]
  exact h

theorem step {t : Session} {c : Cause} (h : s.Shown) (hs : s.Step c t) : t.Shown := by
  cases hs with
  | start hm => exact carry (h.begin .start) hm.shows
  | shutdown reason hm => exact carry (h.begin (.shutdown reason)) hm.shows
  | deliver report batch hm => exact carry (h.begin (.delivery batch)) hm.shows
  | fail e hm => exact carry (h.begin (.failure e)) hm.shows
  | report n e he =>
    have hf : (s.forget n).Shown := h
    exact carry (hf.begin (.report e)) rfl
  | discard n hn => exact h
  | tellStart id w a stage ht hw hm => exact carry (h.told id w a) hm.shows
  | tellShutdown id w a ticket reason stage ht hw hm => exact carry (h.told id w a) hm.shows
  | tellDelivery id w a stage ht hw hm => exact carry (h.told id w a) hm.shows
  | tellReport id w outcome ticket ht hw hm => exact carry (h.told id w _) hm.shows
  | drop id w hw =>
    unfold Shown
    rw [history_note, statusIn_append]
    refine Eq.trans h ?_
    cases w.call <;> rfl
  | bump => exact h
  | pass ticks =>
    unfold Shown
    rw [history_note, statusIn_append]
    exact h

end Shown
end Session
end PartitionConsumer
