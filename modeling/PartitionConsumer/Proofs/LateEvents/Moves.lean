import PartitionConsumer.Proofs.AfterClose
import PartitionConsumer.Proofs.Session.Stopping
/-!
# What calls publish late

In a pump that is closed a call publishes what it is told of, and nothing else. The move that closes the
pump shows nothing after the close.
-/
namespace PartitionConsumer

/-! ## What calls publish -/

def Effect.event? : Effect → Option Event
  | .publish e => some e
  | _ => none

def published (h : List Mark) : List Event := (effects h).filterMap Effect.event?

/-- The event about a failed attempt. None is published if a higher epoch holds the partition. -/
def Attempt.fault? (a : Attempt) (e : TransportError) : Option Event :=
  if e.isFenced then none else some (Pump.attemptEvent a e)

def Release.fault? (r : Release) : Except TransportError Unit → Option Event
  | .ok () => none
  | .error e => some { kind := .teardownFault, reason := Release.stepText r.step ++ ": " ++ e.message }

/-- The event that a call publishes because it is told this answer, even if the pump is closed. -/
def Call.late? : Call → Answer → Option Event
  | .start (.client a), .timedOut => a.fault? .attemptTimedOut
  | .start (.clientReady a (.error e)), .resume => a.fault? e
  | .start (.abandon a (.failed e)), .released _ => a.fault? e
  | .start (.release r _), .released outcome => r.fault? outcome
  | .deliver (.onEvents count), .hook (.ok ()) => some { kind := .batchDelivered, count }
  | _, _ => none

/-- The event about its partition that a pump publishes because of this entry. -/
def Mark.late? (partition : String) : Mark → Option Event
  | .told _ w a => (w.call.late? a).map fun e => { e with partition }
  | _ => none

/-- The events that the entries of a history bring about in a pump that is closed, in order. -/
def lateEvents (partition : String) (h : List Mark) : List Event := h.filterMap (Mark.late? partition)

/-- A shutdown has waited for the open to settle as long as it may. -/
def Mark.isGraceOver : Mark → Bool
  | .told _ { call := .shutdown _ _ (.settling _), .. } .elapsed => true
  | _ => false

def graceRanOut (h : List Mark) : Bool := h.any Mark.isGraceOver

section Histories

variable (partition : String)

@[simp] theorem published_append (h k : List Mark) : published (h ++ k) = published h ++ published k := by
  simp [published]

@[simp] theorem published_did (id : Nat) (es : List Effect) :
    published (es.map (.did id)) = es.filterMap Effect.event? := by simp [published]

@[simp] theorem published_end (nx : Next) (id : Nat) (errand : Errand) :
    published (nx.marks id errand) = [] := by simp [published]

@[simp] theorem published_marks (w : Waiting) (id : Nat) (a : Answer) : published (w.marks id a) = [] := by
  simp [published]

@[simp] theorem lateEvents_append (h k : List Mark) :
    lateEvents partition (h ++ k) = lateEvents partition h ++ lateEvents partition k := by simp [lateEvents]

@[simp] theorem lateEvents_did (id : Nat) (es : List Effect) :
    lateEvents partition (es.map (.did id)) = [] := by simp [lateEvents, Mark.late?]

@[simp] theorem lateEvents_end (nx : Next) (id : Nat) (errand : Errand) :
    lateEvents partition (nx.marks id errand) = [] := by cases nx <;> rfl

theorem lateEvents_marks (w : Waiting) (id : Nat) (a : Answer) :
    lateEvents partition (w.marks id a)
      = ((w.call.late? a).map fun e => { e with partition := partition }).toList := by
  unfold Waiting.marks
  split <;> cases h : w.call.late? a <;> simp [lateEvents, Mark.late?, h]

@[simp] theorem graceRanOut_append (h k : List Mark) :
    graceRanOut (h ++ k) = (graceRanOut h || graceRanOut k) := List.any_append

@[simp] theorem graceRanOut_end (nx : Next) (id : Nat) (errand : Errand) :
    graceRanOut (nx.marks id errand) = false := by cases nx <;> rfl

theorem mem_lateEvents {e : Event} {h : List Mark} (he : e ∈ lateEvents partition h) :
    ∃ id w a f, .told id w a ∈ h ∧ w.call.late? a = some f ∧ e = { f with partition := partition } := by
  obtain ⟨m, hm, hl⟩ := List.mem_filterMap.1 he
  cases m with
  | told id w a =>
    obtain ⟨f, hf, rfl⟩ := Option.map_eq_some_iff.1 hl
    exact ⟨id, w, a, f, hm, hf, rfl⟩
  | _ => cases hl

/-- What an opening call publishes late is about a failed attempt or about a step of a release. -/
theorem Call.kind_of_late? {c : Call} {a : Answer} {e : Event} (h : c.late? a = some e)
    (hd : ∀ stage, c ≠ .deliver stage) : e.kind = .openAttemptFailed ∨ e.kind = .teardownFault := by
  have attempt {a : Attempt} {f : TransportError} (h : a.fault? f = some e) :
      e.kind = .openAttemptFailed := by
    rw [← Option.some.inj (Option.ite_none_left_eq_some.1 h).2]
    rfl
  unfold late? at h
  split at h
  · exact .inl (attempt h)
  · exact .inl (attempt h)
  · exact .inl (attempt h)
  · rename_i r closing outcome
    refine .inr ?_
    rcases outcome with f | ⟨⟩
    · obtain rfl := Option.some.inj h
      rfl
    · cases h
  · exact absurd rfl (hd _)
  · cases h

/-- Where neither an opening call nor a delivery is told anything, there is nothing late. -/
theorem lateEvents_eq_nil {h : List Mark} (ho : ∀ id w a, .told id w a ∈ h → w.opening? = none)
    (hd : ∀ id w a, .told id w a ∈ h → ∀ stage, w.call ≠ .deliver stage) :
    lateEvents partition h = [] := by
  refine List.eq_nil_iff_forall_not_mem.2 fun e he => ?_
  obtain ⟨id, w, a, f, hm, hf, -⟩ := mem_lateEvents partition he
  have hs := ho id w a hm
  have hw := hd id w a hm
  obtain ⟨errand, call, request⟩ := w
  cases call with
  | start stage => cases hs
  | deliver stage => exact absurd rfl (hw stage)
  | _ => cases hf

end Histories

namespace Pump

variable {p q : Pump} {es : List Effect} {nx : Next}

def signed (p : Pump) (e : Event) : Event := { e with partition := p.partition }

@[simp] theorem event?_event (e : Event) : (p.event e).event? = some (p.signed e) := rfl

theorem events_faults (r : Release) (outcome : Except TransportError Unit) :
    (p.faults r outcome).filterMap Effect.event? = ((r.fault? outcome).map p.signed).toList := by
  rcases outcome with e | ⟨⟩ <;> rfl

theorem events_attemptFault (a : Attempt) (e : TransportError) :
    (p.attemptFault a e).filterMap Effect.event? = ((a.fault? e).map p.signed).toList := by
  unfold attemptFault Attempt.fault?
  split <;> rfl

/-! ## The moves of a pump that is closed -/

theorem AttemptMove.late {cut : Bool} {shown : List Effect} (h : AttemptMove p cut shown q es nx)
    (ht : p.stopping = true) : es.filterMap Effect.event? = shown.filterMap Effect.event? := by
  rw [h.of_stopping ht]

/-- An opening call that has outlived the pump publishes what it is told of. -/
theorem OpenMove.late {stage : OpenStage} {a : Answer} (h : OpenMove p stage a q es nx)
    (hc : p.status = .closed) (ht : p.stopping = true) (hr : ∀ r, stage ≠ .release r true) :
    es.filterMap Effect.event? = (((Call.start stage).late? a).map p.signed).toList := by
  have opening (ho : p.status = .opening) : False := by
    rw [hc] at ho
    cases ho
  cases h with
  | connect _ hn =>
    rw [ht] at hn
    cases hn
  | refusedCloses _ _ ho => exact (opening ho).elim
  | clientFailed a f hs h =>
    rw [h.late ht]
    obtain ⟨rfl, rfl, rfl⟩ | ⟨rfl, rfl, rfl⟩ | ⟨e, rfl, rfl, rfl⟩ := hs
    · rfl
    · exact events_attemptFault a _
    · exact events_attemptFault a e
  | receiverFailed a client e hs => obtain ⟨rfl, rfl, -⟩ | ⟨rfl, rfl⟩ := hs <;> rfl
  | install _ _ _ hn =>
    rw [ht] at hn
    cases hn
  | abandoned a f outcome h =>
    rw [h.late ht]
    cases f with
    | cancelled => rfl
    | failed e => exact events_attemptFault a e
  | pauseOver a wake h => exact h.late ht
  | failedCloses _ _ ho => exact (opening ho).elim
  | failedReleases _ _ _ ho => exact (opening ho).elim
  | releaseNext r r' closing outcome =>
    rw [List.filterMap_append, events_faults]
    exact List.append_nil _
  | releaseCloses r => exact absurd rfl (hr r)
  | releaseEnds r outcome => exact events_faults r outcome
  | _ => rfl

theorem FailureMove.of_closed {e : TransportError} (h : FailureMove p e q es) (hc : p.status = .closed) :
    es = [] := by
  cases h with
  | ignored => rfl
  | taken hr =>
    rw [hc] at hr
    cases hr

theorem DeliveryMove.late {stage : DeliveryStage} {a : Answer} (h : DeliveryMove p stage a es nx) :
    es.filterMap Effect.event? = (((Call.deliver stage).late? a).map p.signed).toList := by
  cases h <;> rfl

/-! ## Nothing follows the close in the move that closes the pump -/

/-- If the effects close the pump, that is the last of them. -/
def Seals (p : Pump) (es : List Effect) : Prop :=
  es.countP (Effect.announces .pumpClosed) = 0
    ∨ ∃ fs, es = fs ++ p.closedEffects ∧ fs.countP (Effect.announces .pumpClosed) = 0

theorem Seals.eq_nil (h : p.Seals es) {pre post : List Effect} {e : Event}
    (he : es = pre ++ .publish e :: post) (hk : e.kind = .pumpClosed) : post = [] := by
  have seen {fs gs : List Effect} : (fs ++ .publish e :: gs).countP (Effect.announces .pumpClosed) ≠ 0 := by
    simp [List.countP_append, Effect.announces, hk]
  obtain hn | ⟨fs, hf, hn⟩ := h
  · rw [he] at hn
    exact absurd hn seen
  · obtain rfl | ⟨post, l, rfl⟩ := List.eq_nil_or_concat post
    · rfl
    · have hs : (fs ++ [.status .closed]) ++ [p.event { kind := .pumpClosed }]
          = (pre ++ .publish e :: post) ++ [l] := by simpa [closedEffects] using hf.symm.trans he
      have hc := congrArg (List.countP (Effect.announces .pumpClosed)) (List.append_inj' hs rfl).1
      rw [List.countP_append, hn] at hc
      exact absurd hc.symm seen

theorem AttemptMove.seals {r : Pump} {cut : Bool} {shown : List Effect}
    (h : AttemptMove r cut shown q es nx) (hs : shown.countP (Effect.announces .pumpClosed) = 0) :
    p.Seals es :=
  .inl ((announced_attempt _ _ h).trans hs)

theorem OpenMove.seals {stage : OpenStage} {a : Answer} (h : OpenMove p stage a q es nx) : p.Seals es := by
  cases h with
  | connect _ _ h => exact h.seals rfl
  | refusedCloses e => exact .inr ⟨_, rfl, rfl⟩
  | clientFailed a f _ h => exact h.seals (by simp)
  | abandoned a f outcome h => exact h.seals (by simp)
  | pauseOver a wake h => exact h.seals rfl
  | failedCloses e => exact .inr ⟨_, rfl, rfl⟩
  | releaseNext r r' closing outcome => exact .inl (by simp)
  | releaseCloses r outcome => exact .inr ⟨_, rfl, by simp⟩
  | releaseEnds r outcome => exact .inl (by simp)
  | _ => exact .inl rfl

section Shutdown

variable {now ticket : Nat} {reason : CloseReason}

theorem PassMove.seals {shown : List Effect} (h : PassMove p ticket reason shown q es nx)
    (hs : shown.countP (Effect.announces .pumpClosed) = 0) : p.Seals es := by
  cases h with
  | hook => exact .inl (by simp [hs])
  | close => exact .inr ⟨_, rfl, hs⟩

theorem DisconnectMove.seals (h : DisconnectMove p ticket reason q es nx) : p.Seals es := by
  cases h with
  | release => exact .inl (by simp)
  | pass _ hp => exact hp.seals (p := p.unlinked) (by simp)

theorem RunMove.seals (h : RunMove p now ticket reason q es nx) : p.Seals es := by
  cases h with
  | disconnect _ _ hd => exact hd.seals
  | _ => exact .inl rfl

theorem EnterMove.seals (h : EnterMove p now ticket reason q es nx) : p.Seals es := by
  cases h with
  | run _ _ hr => exact hr.seals
  | _ => exact .inl rfl

theorem ShutdownMove.seals {stage : ShutdownStage} {a : Answer}
    (h : ShutdownMove p now ticket reason stage a q es nx) : p.Seals es := by
  cases h with
  | queuedRun _ hr => exact hr.seals
  | disconnect _ _ _ hd => exact hd.seals
  | releaseNext r r' outcome => exact .inl (by simp)
  | releaseEnds r outcome _ hp => exact hp.seals (by simp)
  | close => exact .inr ⟨[], rfl, rfl⟩
  | _ => exact .inl rfl

end Shutdown

theorem StartMove.seals (h : StartMove p q es nx) : p.Seals es := by cases h <;> exact .inl rfl

theorem ReceiveMove.seals {batch : Option Batch} (h : ReceiveMove p batch q es nx) : p.Seals es := by
  cases h <;> exact .inl rfl

theorem FailureMove.seals {e : TransportError} (h : FailureMove p e q es) : p.Seals es := by
  cases h <;> exact .inl rfl

theorem DeliveryMove.seals {stage : DeliveryStage} {a : Answer} (h : DeliveryMove p stage a es nx) :
    p.Seals es := by cases h <;> exact .inl rfl

end Pump
end PartitionConsumer
