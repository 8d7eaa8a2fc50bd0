import Mathlib.Data.List.Chain
import Mathlib.Data.List.Nodup
import PartitionConsumer.Proofs.Session.Halts
import PartitionConsumer.Proofs.Session.Requests
/-!
# The states of a pump

The status is set by calls that open the pump, by those that shut it down and by failures of the
receiver, and some of them do not look at it before. Still it only ever moves along the edges below, and
it is never the same twice. Calls may be dropped at any time.
-/
namespace PartitionConsumer

namespace Status

inductive Edge : Status → Status → Prop where
  | opens : Edge .uninitialized .opening
  | neverOpens : Edge .uninitialized .closing
  | runs : Edge .opening .running
  | fails : Edge .opening .openFailed
  | isCutShort : Edge .opening .closing
  | givesUp : Edge .openFailed .closing
  | breaks : Edge .running .errored
  | stops : Edge .running .closing
  | stopsBroken : Edge .errored .closing
  | ends : Edge .closing .closed

/-- How far a pump is in its life. -/
def rank : Status → Nat
  | .uninitialized => 0
  | .opening => 1
  | .openFailed | .running => 2
  | .errored => 3
  | .closing => 4
  | .closed => 5

theorem Edge.rank_lt {s t : Status} (h : Edge s t) : s.rank < t.rank := by cases h <;> decide

theorem Edge.eq_closing {s : Status} (h : Edge s .closed) : s = .closing := by cases h; rfl

theorem Edge.ne_closed {s t : Status} (h : Edge s t) : s ≠ .closed := by cases h <;> decide

/-- From every state but the last two a pump can go over to closing. -/
theorem Edge.closing {s : Status} (h : s.isClosingOrClosed = false) : Edge s .closing := by
  cases s with
  | uninitialized => exact .neverOpens
  | opening => exact .isCutShort
  | openFailed => exact .givesUp
  | running => exact .stops
  | errored => exact .stopsBroken
  | closing => cases h
  | closed => cases h

end Status

/-! ## The states that are shown -/

def Effect.status? : Effect → Option Status
  | .status s => some s
  | _ => none

def statusesOf (es : List Effect) : List Status := es.filterMap Effect.status?

def statuses (h : List Mark) : List Status := statusesOf (effects h)

def Climbs (s : Status) (es : List Effect) : Prop := (s :: statusesOf es).IsChain Status.Edge

namespace Climbs

variable {s t : Status} {e : Effect} {es fs : List Effect}

@[simp] theorem nil : Climbs s [] := List.isChain_singleton s

theorem of_nil (h : statusesOf es = []) : Climbs s es := by
  unfold Climbs
  rw [h]
  exact List.isChain_singleton s

theorem status_iff : Climbs s (.status t :: es) ↔ Status.Edge s t ∧ Climbs t es :=
  List.isChain_cons_cons

theorem other_iff (h : e.status? = none) : Climbs s (e :: es) ↔ Climbs s es := by
  simp [Climbs, statusesOf, h]

theorem append_iff : Climbs s (es ++ fs) ↔ Climbs s es ∧ Climbs (statusAfter s es) fs := by
  induction es generalizing s with
  | nil => simp [statusAfter]
  | cons e es ih =>
    cases he : e.status? with
    | none =>
      have ha : s = e.after s := by cases e <;> first | rfl | cases he
      rw [List.cons_append, other_iff he, other_iff he, ih]
      simp [statusAfter, ← ha]
    | some t =>
      cases e with
      | status t => rw [List.cons_append, status_iff, status_iff, ih, and_assoc]; rfl
      | _ => cases he

theorem append (h : Climbs s es) (hs : statusAfter s es = t) (hf : Climbs t fs) : Climbs s (es ++ fs) :=
  append_iff.2 ⟨h, hs ▸ hf⟩

/-- No edge leads on from the last state. -/
theorem of_closed (h : Climbs .closed es) : statusesOf es = [] := by
  unfold Climbs at h
  cases he : statusesOf es with
  | nil => rfl
  | cons t ts =>
    rw [he] at h
    exact absurd rfl (List.isChain_cons_cons.1 h).1.ne_closed

/-- Along edges no state comes twice. -/
theorem nodup (h : Climbs s es) : (s :: statusesOf es).Nodup := by
  have hr : ((s :: statusesOf es).map Status.rank).IsChain (· < ·) :=
    (List.isChain_map _).2 (h.imp fun _ _ => Status.Edge.rank_lt)
  exact List.Nodup.of_map _ (hr.pairwise.imp Nat.ne_of_lt)

end Climbs

namespace Pump

variable {p q : Pump} {es : List Effect} {nx : Next}

/-! ## What a move does to the status -/

@[simp] theorem climbs_faults (s : Status) (r : Release) (outcome : Except TransportError Unit) :
    Climbs s (p.faults r outcome) := by
  rcases outcome with e | ⟨⟩ <;> exact .of_nil rfl

@[simp] theorem climbs_failureFault (s : Status) (a : Attempt) (f : AttemptFailure) :
    Climbs s (p.failureFault a f) := by
  refine .of_nil ?_
  obtain h | ⟨e, h⟩ := p.failureFault_eq a f <;> rw [h] <;> rfl

theorem climbs_closedEffects : Climbs .closing p.closedEffects :=
  Climbs.status_iff.2 ⟨.ends, .of_nil rfl⟩

/-- A pump whose open fails goes through two states at once. -/
theorem climbs_closingEffects (r r' : String) : Climbs .opening (p.closingEffects r r') :=
  Climbs.status_iff.2 ⟨.fails, (Climbs.other_iff rfl).2 (Climbs.status_iff.2 ⟨.givesUp, .of_nil rfl⟩)⟩

theorem climbs_unlinkedEffects (reason : CloseReason) : Climbs p.status (p.unlinkedEffects reason) := by
  unfold unlinkedEffects closingStatusEffects
  refine (Climbs.other_iff rfl).2 ?_
  split
  · exact .nil
  · rename_i h
    exact Climbs.status_iff.2 ⟨.closing (Bool.eq_false_iff.2 h), .nil⟩

theorem AttemptMove.climbs {s : Status} {cut : Bool} {shown : List Effect}
    (h : AttemptMove p cut shown q es nx) (hs : Climbs s shown) : Climbs s es := by
  cases h with
  | attempt => exact hs.append rfl (.of_nil rfl)
  | report => exact hs.append rfl (.of_nil rfl)
  | _ => exact hs

/-- The opening call closes the pump after a failed open only, and nothing is left to be released
then. -/
theorem OpenMove.climbs {stage : OpenStage} {a : Answer} (h : OpenMove p stage a q es nx)
    (hr : ∀ r, stage ≠ .release r true) : Climbs p.status es := by
  cases h with
  | connect _ _ h => exact h.climbs .nil
  | refusedCloses e outcome hs =>
    rw [hs]
    exact (climbs_closingEffects ..).append rfl climbs_closedEffects
  | clientFailed a f _ h => exact h.climbs (climbs_failureFault ..)
  | install a client receiver _ hs =>
    rw [hs]
    exact (Climbs.other_iff rfl).2 (Climbs.status_iff.2 ⟨.runs, .of_nil rfl⟩)
  | abandoned a f outcome h => exact h.climbs (climbs_failureFault ..)
  | pauseOver a wake h => exact h.climbs .nil
  | failedCloses e outcome hs =>
    rw [hs]
    exact (climbs_closingEffects ..).append rfl climbs_closedEffects
  | failedReleases e outcome c hs =>
    rw [hs]
    exact (climbs_closingEffects ..).append rfl (.of_nil rfl)
  | releaseNext r r' closing outcome => exact (climbs_faults ..).append rfl (.of_nil rfl)
  | releaseCloses r => exact absurd rfl (hr r)
  | releaseEnds r outcome => exact climbs_faults ..
  | _ => exact .of_nil rfl

theorem StartMove.climbs (h : StartMove p q es nx) : Climbs p.status es := by
  cases h with
  | ignored => exact .nil
  | opens _ hu =>
    rw [hu]
    exact Climbs.status_iff.2 ⟨.opens, .of_nil rfl⟩

section Shutdown

variable {now ticket : Nat} {reason : CloseReason}

theorem PassMove.climbs {s : Status} {shown : List Effect} (h : PassMove p ticket reason shown q es nx)
    (hs : Climbs s shown) (hc : statusAfter s shown = .closing) : Climbs s es := by
  cases h with
  | hook => exact hs.append rfl (.of_nil rfl)
  | close => exact hs.append hc climbs_closedEffects

theorem DisconnectMove.climbs (h : DisconnectMove p ticket reason q es nx) (hs : p.status ≠ .closed) :
    Climbs p.status es := by
  have hu := climbs_unlinkedEffects (p := p) reason
  cases h with
  | release => exact hu.append rfl (.of_nil rfl)
  | pass _ hp =>
    exact hp.climbs hu ((statusAfter_unlinkedEffects p reason).trans (status_unlinked hs))

theorem RunMove.climbs (h : RunMove p now ticket reason q es nx) : Climbs p.status es := by
  cases h with
  | closed => exact .nil
  | settle => exact .nil
  | disconnect hs _ hd => exact hd.climbs hs

theorem EnterMove.climbs (h : EnterMove p now ticket reason q es nx) : Climbs p.status es := by
  cases h with
  | run _ _ hr => exact hr.climbs
  | _ => exact .nil

/-- From the release of the connection on, the pump is closing until it is closed. -/
theorem ShutdownMove.climbs {stage : ShutdownStage} {a : Answer}
    (h : ShutdownMove p now ticket reason stage a q es nx)
    (hs : stage.isReleasing = true → p.status = .closing) : Climbs p.status es := by
  cases h with
  | queuedRun _ hr => exact hr.climbs
  | disconnect wake _ hn hd => exact hd.climbs hn
  | releaseNext r r' outcome => exact (climbs_faults ..).append rfl (.of_nil rfl)
  | releaseEnds r outcome _ hp =>
    exact hp.climbs (climbs_faults ..) ((statusAfter_faults ..).trans (hs rfl))
  | close outcome =>
    rw [hs rfl]
    exact climbs_closedEffects
  | _ => exact .nil

end Shutdown

theorem ReceiveMove.climbs {batch : Option Batch} (h : ReceiveMove p batch q es nx) :
    Climbs p.status es := by
  cases h <;> exact .of_nil rfl

theorem DeliveryMove.climbs {stage : DeliveryStage} {a : Answer} (h : DeliveryMove p stage a es nx) :
    Climbs p.status es := by
  cases h <;> exact .of_nil rfl

theorem FailureMove.climbs {e : TransportError} (h : FailureMove p e q es) : Climbs p.status es := by
  cases h with
  | ignored => exact .nil
  | taken hr =>
    rw [hr]
    exact Climbs.status_iff.2 ⟨.breaks, .of_nil rfl⟩

end Pump

/-! ## Every run climbs -/

namespace Session

structure Climbed (s : Session) : Prop where
  climbs : Climbs .uninitialized (effects s.history)
  shown : s.Shown

namespace Climbed

variable {s b : Session} {id : Nat} {errand : Errand} {q : Pump} {es : List Effect} {nx : Next}

theorem new (p : Pump) (h : p.status = .uninitialized) : (new p).Climbed := ⟨.nil, h.symm⟩

/-- Marks without effects do not matter. -/
theorem note (h : s.Climbed) {ms : List Mark} (hm : effects ms = []) : (s.note ms).Climbed := by
  refine ⟨?_, ?_⟩
  · rw [history_note, effects_append, hm, List.append_nil]
    exact h.climbs
  · unfold Shown
    rw [history_note, statusIn_append, hm]
    exact h.shown

theorem climbs_carry (h : b.Climbed) (hm : Climbs b.pump.status es) :
    Climbs .uninitialized (effects (b.carry id errand q es nx).history) := by
  rw [history_carry, effects_append, effects_append, effects_did, effects_end, List.append_nil]
  exact h.climbs.append h.shown hm

theorem told (h : s.Climbed) (id : Nat) (w : Waiting) (a : Answer) : (s.told id w a).Climbed :=
  note (s := s.take id) ⟨h.climbs, h.shown⟩ (effects_marks w id a)

theorem begin (h : s.Climbed) (e : Errand) : (s.begin e).Climbed :=
  note (s := { s with next := s.next + 1 }) ⟨h.climbs, h.shown⟩ rfl

theorem step {t : Session} {c : Cause} (hl : s.Halted) (h : s.Climbed) (hs : s.Step c t) :
    t.Climbed := by
  refine ⟨?_, h.shown.step hs⟩
  cases hs with
  | start hm => exact (h.begin .start).climbs_carry hm.climbs
  | shutdown reason hm => exact (h.begin (.shutdown reason)).climbs_carry hm.climbs
  | deliver report batch hm => exact (h.begin (.delivery batch)).climbs_carry hm.climbs
  | fail e hm => exact (h.begin (.failure e)).climbs_carry hm.climbs
  | report n e he =>
    have hf : (s.forget n).Climbed := ⟨h.climbs, h.shown⟩
    exact (hf.begin (.report e)).climbs_carry (.of_nil rfl)
  | discard n hn => exact h.climbs
  | tellStart id w a stage ht hw hm =>
    refine (h.told id w a).climbs_carry (hm.climbs fun r hr => ?_)
    refine hl.release r (List.mem_filterMap.2 ⟨_, mem_of_call? ht.call?, ?_⟩)
    simp [Waiting.opening?, hw, hr]
  | tellShutdown id w a ticket reason stage ht hw hm =>
    exact (h.told id w a).climbs_carry (hm.climbs (hl.releasing_call ht.call? hw))
  | tellDelivery id w a stage ht hw hm => exact (h.told id w a).climbs_carry hm.climbs
  | tellReport id w outcome ticket ht hw hm => exact (h.told id w _).climbs_carry hm.climbs
  | drop id w hw =>
    rw [history_note, effects_append]
    exact (List.append_nil _).symm ▸ h.climbs
  | bump => exact h.climbs
  | pass ticks =>
    rw [history_note, effects_append]
    exact (List.append_nil _).symm ▸ h.climbs

end Climbed
end Session

section Main

variable {context : Context} {lease : Lease} {options : Options} {wire : String} {draw : Nat → Nat}

theorem Session.Halted.fresh : (Session.new (.new context lease options wire draw)).Halted :=
  .new _ rfl nofun

/-- What a run has made of a pump, whatever was dropped on the way. -/
theorem Session.climbed_of_run {cs : List Cause} {s : Session}
    (h : (Session.new (.new context lease options wire draw)).run cs = some s) :
    s.Led ∧ s.Halted ∧ s.Climbed :=
  run_led (P := fun s => s.Halted ∧ s.Climbed) (.new _ rfl rfl rfl) ⟨.fresh, .new _ rfl⟩
    (fun _ _ _ hi ⟨hl, hc⟩ hs => ⟨hl.step hi hs, hc.step hl hs⟩) h

/-- Whatever happens to a pump and its calls, each change of its status follows an edge, and none leads
to where the pump has been before. So it is closed only when it was closing, and stays closed. -/
theorem statuses_follow_edges {cs : List Cause} {s : Session}
    (h : (Session.new (.new context lease options wire draw)).run cs = some s) :
    statusIn s.history = s.pump.status
      ∧ (Status.uninitialized :: statuses s.history).Nodup
      ∧ ∀ pre id st post, s.history = pre ++ .did id (.status st) :: post →
        Status.Edge (statusIn pre) st ∧ (st = .closed → statusIn pre = .closing)
          ∧ (st = .closed → statuses post = []) := by
  obtain ⟨-, -, hc⟩ := Session.climbed_of_run h
  refine ⟨hc.shown, hc.climbs.nodup, fun pre id st post he => ?_⟩
  have hu := hc.climbs
  rw [he, effects_append] at hu
  obtain ⟨hst, hp⟩ := Climbs.status_iff.1 (Climbs.append_iff.1 hu).2
  exact ⟨hst, fun hcl => (hcl ▸ hst).eq_closing, fun hcl => Climbs.of_closed (hcl ▸ hp)⟩

/-- A pump that runs loses its receiver, and is then shut down. -/
theorem statuses_follow_edges_to_the_end :
    ∃ s, Session.sample.run (Session.opening ++ [.fail default, .shutdown .leaseLost,
        .answer 2 (.released (.ok ())), .answer 2 (.released (.ok ())), .answer 2 (.released (.ok ())),
        .answer 2 (.hook (.ok ()))]) = some s
      ∧ statuses s.history = [.opening, .running, .errored, .closing, .closed]
      ∧ statusIn s.history = s.pump.status ∧ s.pump.status = .closed := by
  have hr : (Session.sample.run (Session.opening ++ [.fail default, .shutdown .leaseLost,
        .answer 2 (.released (.ok ())), .answer 2 (.released (.ok ())), .answer 2 (.released (.ok ())),
        .answer 2 (.hook (.ok ()))])).map (fun s => (statuses s.history, s.pump.status))
      = some ([.opening, .running, .errored, .closing, .closed], .closed) := by rfl
  obtain ⟨s, hs, he⟩ := Option.map_eq_some_iff.1 hr
  simp only [Prod.mk.injEq] at he
  exact ⟨s, hs, he.1, (statuses_follow_edges hs).1, he.2⟩

end Main
end PartitionConsumer
