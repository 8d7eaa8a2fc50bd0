import PartitionConsumer.Proofs.Statuses
import PartitionConsumer.Proofs.Session.Stopping
/-!
# The breakdown of a pump

A failure of the receiver breaks a running pump down: the pump is set to errored, publishes the failure
and hands it to the executor, all before the callback returns. A pump breaks down once at most, and a
callback that does not break it down does nothing.
-/
namespace PartitionConsumer

/-- What is shown of the breakdown of a pump, and on no other occasion. -/
def Effect.isOfFailure : Effect → Bool
  | .status .errored | .defer _ => true
  | .publish e => e.kind == .pumpErrored
  | _ => false

def Mark.isOfFailure : Mark → Bool
  | .did _ e => e.isOfFailure
  | _ => false

/-- What a history shows of breakdowns, in order. -/
def failures (h : List Mark) : List Mark := h.filter Mark.isOfFailure

def handed (h : List Mark) : List TransportError := (effects h).filterMap Effect.deferred?

section Histories

@[simp] theorem failures_append (h k : List Mark) : failures (h ++ k) = failures h ++ failures k :=
  List.filter_append ..

theorem failures_did {es : List Effect} (h : es.any Effect.isOfFailure = false) (id : Nat) :
    failures (es.map (.did id)) = [] := by
  refine List.filter_eq_nil_iff.2 fun m hm => ?_
  obtain ⟨e, he, rfl⟩ := List.mem_map.1 hm
  exact List.any_eq_false.1 h e he

@[simp] theorem failures_end (nx : Next) (id : Nat) (errand : Errand) :
    failures (nx.marks id errand) = [] := by cases nx <;> rfl

@[simp] theorem failures_marks (w : Waiting) (id : Nat) (a : Answer) : failures (w.marks id a) = [] := by
  unfold Waiting.marks
  split <;> rfl

@[simp] theorem statuses_append (h k : List Mark) : statuses (h ++ k) = statuses h ++ statuses k := by
  simp [statuses, statusesOf]

@[simp] theorem handed_append (h k : List Mark) : handed (h ++ k) = handed h ++ handed k := by
  simp [handed]

@[simp] theorem handed_did (id : Nat) (es : List Effect) :
    handed (es.map (.did id)) = es.filterMap Effect.deferred? := by simp [handed]

@[simp] theorem handed_end (nx : Next) (id : Nat) (errand : Errand) : handed (nx.marks id errand) = [] := by
  simp [handed]

@[simp] theorem handed_marks (w : Waiting) (id : Nat) (a : Answer) : handed (w.marks id a) = [] := by
  simp [handed]

theorem isOfFailure_of_mem_effects {h : List Mark} {e : Effect} (he : e ∈ effects h)
    (hf : e.isOfFailure = true) : failures h ≠ [] := by
  obtain ⟨m, hm, hme⟩ := List.mem_filterMap.1 he
  cases m with
  | did id f =>
    obtain rfl := Option.some.inj hme
    exact List.ne_nil_of_mem (List.mem_filter.2 ⟨hm, hf⟩)
  | _ => cases hme

/-- Nothing is handed to the executor on another occasion. -/
theorem handed_eq_nil {h : List Mark} (hf : failures h = []) : handed h = [] := by
  refine List.filterMap_eq_nil_iff.2 fun e he => ?_
  cases e with
  | defer e => exact absurd hf (isOfFailure_of_mem_effects he rfl)
  | _ => rfl

/-- A status that a history shows last was set in it, unless it is the one before. -/
theorem mem_statusesOf {s t : Status} {es : List Effect} (h : statusAfter s es = t) (hs : s ≠ t) :
    t ∈ statusesOf es := by
  induction es generalizing s with
  | nil => exact absurd h hs
  | cons e es ih =>
    cases e with
    | status u =>
      have ht : statusAfter u es = t := h
      by_cases hu : u = t
      · exact hu ▸ List.mem_cons_self
      · exact List.mem_cons_of_mem _ (ih ht hu)
    | _ => exact ih h hs

/-- A pump that has come to be errored has broken down. -/
theorem failures_ne_nil {h : List Mark} (hs : .errored ∈ statuses h) : failures h ≠ [] := by
  obtain ⟨e, he, hse⟩ := List.mem_filterMap.1 hs
  cases e with
  | status s =>
    obtain rfl := Option.some.inj hse
    exact isOfFailure_of_mem_effects he rfl
  | _ => cases hse

end Histories

namespace Pump

variable {p q : Pump} {es : List Effect} {nx : Next}

def breakdown (p : Pump) (id : Nat) (e : TransportError) : List Mark :=
  [.began id (.failure e), .did id (.status .errored),
    .did id (p.event { kind := .pumpErrored, reason := e.message }), .did id (.defer e),
    .returned id (.failure e)]

@[simp] theorem failures_breakdown (p : Pump) (id : Nat) (e : TransportError) :
    failures (p.breakdown id e) = [.did id (.status .errored),
      .did id (p.event { kind := .pumpErrored, reason := e.message }), .did id (.defer e)] := rfl

@[simp] theorem handed_breakdown (p : Pump) (id : Nat) (e : TransportError) :
    handed (p.breakdown id e) = [e] := rfl

@[simp] theorem statuses_breakdown (p : Pump) (id : Nat) (e : TransportError) :
    statuses (p.breakdown id e) = [.errored] := rfl

/-! ## Moves on which the pump does not break down -/

@[simp] theorem isOfFailure_faults (r : Release) (outcome : Except TransportError Unit) :
    (p.faults r outcome).any Effect.isOfFailure = false := by
  rcases outcome with e | ⟨⟩ <;> rfl

@[simp] theorem isOfFailure_failureFault (a : Attempt) (f : AttemptFailure) :
    (p.failureFault a f).any Effect.isOfFailure = false := by
  obtain h | ⟨e, h⟩ := p.failureFault_eq a f <;> rw [h] <;> rfl

theorem AttemptMove.unbroken {cut : Bool} {shown : List Effect} (h : AttemptMove p cut shown q es nx)
    (hs : shown.any Effect.isOfFailure = false) : es.any Effect.isOfFailure = false := by
  cases h with
  | attempt =>
    rw [List.any_append, hs]
    rfl
  | report =>
    rw [List.any_append, hs]
    rfl
  | _ => exact hs

theorem OpenMove.unbroken {stage : OpenStage} {a : Answer} (h : OpenMove p stage a q es nx) :
    es.any Effect.isOfFailure = false := by
  cases h with
  | connect _ _ h => exact h.unbroken rfl
  | clientFailed a f _ h => exact h.unbroken (by simp)
  | abandoned a f outcome h => exact h.unbroken (by simp)
  | pauseOver a wake h => exact h.unbroken rfl
  | releaseNext r r' closing outcome =>
    rw [List.any_append, isOfFailure_faults]
    rfl
  | releaseCloses r outcome =>
    rw [List.any_append, isOfFailure_faults]
    rfl
  | releaseEnds r outcome => exact isOfFailure_faults r outcome
  | _ => rfl

theorem StartMove.unbroken (h : StartMove p q es nx) : es.any Effect.isOfFailure = false := by
  cases h <;> rfl

theorem ReceiveMove.unbroken {batch : Option Batch} (h : ReceiveMove p batch q es nx) :
    es.any Effect.isOfFailure = false := by cases h <;> rfl

theorem DeliveryMove.unbroken {stage : DeliveryStage} {a : Answer} (h : DeliveryMove p stage a es nx) :
    es.any Effect.isOfFailure = false := by cases h <;> rfl

end Pump

theorem Effect.isOfFailure_of_isOfShutdown {e : Effect} (h : e.isOfShutdown = true) :
    e.isOfFailure = false := by
  unfold isOfShutdown at h
  split at h
  all_goals first | rfl | skip
  · rename_i e
    simp only [Bool.or_eq_true, beq_iff_eq] at h
    obtain (hk | hk) | hk := h <;> simp [isOfFailure, hk]
  · cases h

namespace Session

variable {s t : Session} {c : Cause}

/-- The session after a callback that has broken its pump down. -/
def breakDown (s : Session) (e : TransportError) : Session :=
  { s with
    pump := { s.pump with status := .errored }
    deferred := s.deferred ++ [e]
    next := s.next + 1
    history := s.history ++ s.pump.breakdown s.next e }

/-- The session after a callback that was ignored. -/
def ignore (s : Session) (e : TransportError) : Session :=
  { s with
    next := s.next + 1
    history := s.history ++ [.began s.next (.failure e), .returned s.next (.failure e)] }

/-- A callback returns at once, whatever the pump and its calls are at. -/
theorem step?_fail (hp : s.pump.trace = []) (e : TransportError) :
    s.step? (.fail e) = some (if s.pump.status = .running then s.breakDown e else s.ignore e) := by
  obtain ⟨q, es, nx, he, hm, rfl⟩ := (s.begin (.failure e)).move_eq_carry hp
    (Pump.goes_receiverFailed s.pump e) s.next (.failure e)
  rw [Pump.untraced_of_trace hp] at hm
  rw [step?, he]
  cases hm with
  | ignored hr =>
    rw [if_neg hr]
    simp [carry, begin, note, ignore, Next.leave, Next.waiting?, Next.marks]
  | taken hr =>
    rw [if_pos hr]
    simp [carry, begin, note, breakDown, Pump.breakdown, Next.leave, Next.waiting?, Next.marks]
    rfl

/-- A step shows a breakdown only if the receiver of a running pump fails. -/
theorem Step.breakdown (h : s.Step c t) :
    (∃ ms, t.history = s.history ++ ms ∧ failures ms = [])
      ∨ ∃ e, c = .fail e ∧ s.pump.status = .running
        ∧ t.history = s.history ++ s.pump.breakdown s.next e := by
  have carry {b : Session} {id : Nat} {e : Errand} {q : Pump} {es : List Effect} {nx : Next}
      {ms : List Mark} (hb : b.history = s.history ++ ms) (hms : failures ms = [])
      (hm : es.any Effect.isOfFailure = false) :
      ∃ ks, (b.carry id e q es nx).history = s.history ++ ks ∧ failures ks = [] :=
    ⟨_, history_carry_of id e q es nx hb, by simp [hms, failures_did hm]⟩
  have shuts {es : List Effect} (he : es.all Effect.isOfShutdown = true) :
      es.any Effect.isOfFailure = false :=
    Effect.any_eq_false_of_all he fun _ => Effect.isOfFailure_of_isOfShutdown
  cases h with
  | start hm => exact .inl (carry (b := s.begin _) rfl rfl hm.unbroken)
  | shutdown reason hm => exact .inl (carry (b := s.begin _) rfl rfl (shuts hm.all_isOfShutdown))
  | deliver report batch hm => exact .inl (carry (b := s.begin _) rfl rfl hm.unbroken)
  | fail e hm =>
    cases hm with
    | ignored => exact .inl (carry (b := s.begin _) rfl rfl rfl)
    | taken hr => exact .inr ⟨e, rfl, hr, (s.begin _).history_carry_of _ _ _ _ _ rfl⟩
  | report n e he => exact .inl (carry (b := (s.forget n).begin _) rfl rfl rfl)
  | discard => exact .inl ⟨[], (List.append_nil _).symm, rfl⟩
  | tellStart id w a stage ht hw hm => exact .inl (carry rfl (failures_marks w id a) hm.unbroken)
  | tellShutdown id w a ticket reason stage ht hw hm =>
    exact .inl (carry rfl (failures_marks w id a) (shuts hm.all_isOfShutdown))
  | tellDelivery id w a stage ht hw hm => exact .inl (carry rfl (failures_marks w id a) hm.unbroken)
  | tellReport id w outcome ticket ht hw hm =>
    exact .inl (carry rfl (failures_marks w id _) (shuts hm.all_isOfShutdown))
  | drop => exact .inl ⟨_, rfl, rfl⟩
  | bump => exact .inl ⟨[], (List.append_nil _).symm, rfl⟩
  | pass => exact .inl ⟨_, rfl, rfl⟩

/-- In the run `cs` from `b` on the pump has broken down once, or not at all. -/
def BrokeOnce (b : Session) (cs : List Cause) (s : Session) : Prop :=
  failures s.history = []
    ∨ ∃ ds e es u post, cs = ds ++ .fail e :: es ∧ b.run ds = some u ∧ u.pump.status = .running
      ∧ failures u.history = [] ∧ s.history = u.history ++ (u.pump.breakdown u.next e ++ post)
      ∧ failures post = []

namespace BrokeOnce

variable {b : Session} {cs : List Cause}

theorem errored_mem (h : b.BrokeOnce cs s) (hf : failures s.history ≠ []) :
    .errored ∈ statuses s.history := by
  obtain hn | ⟨ds, e, es, u, post, -, -, -, -, he, -⟩ := h
  · exact absurd hn hf
  · rw [he]
    simp

theorem handed_eq (h : b.BrokeOnce cs s) (hf : failures s.history ≠ []) : ∃ e, handed s.history = [e] := by
  obtain hn | ⟨ds, e, es, u, post, -, -, -, hu, he, hp⟩ := h
  · exact absurd hn hf
  · refine ⟨e, ?_⟩
    rw [he, handed_append, handed_append, handed_eq_nil hu, handed_eq_nil hp, Pump.handed_breakdown]
    rfl

theorem step (hr : b.run cs = some s) (ht : t.Climbed) (h : b.BrokeOnce cs s)
    (hs : s.Step c t) : b.BrokeOnce (cs ++ [c]) t := by
  obtain ⟨ms, hm, hf⟩ | ⟨e, rfl, hrun, hm⟩ := hs.breakdown
  · obtain hn | ⟨ds, e, es, u, post, rfl, hu, hru, hfu, he, hpost⟩ := h
    · refine .inl ?_
      rw [hm, failures_append, hn, hf]
      rfl
    · refine .inr ⟨ds, e, es ++ [c], u, post ++ ms, by simp, hu, hru, hfu, ?_, ?_⟩
      · rw [hm, he]
        simp only [List.append_assoc]
      · rw [failures_append, hpost, hf]
        rfl
  · -- a pump that has broken down before cannot be running
    by_cases hn : failures s.history = []
    · exact .inr ⟨cs, e, [], s, [], rfl, hr, hrun, hn, by rw [hm, List.append_nil], rfl⟩
    · have hc : statuses t.history = statuses s.history ++ [.errored] := by
        rw [hm, statuses_append, Pump.statuses_breakdown]
      have hd := (List.nodup_cons.1 ht.climbs.nodup).2
      have hd : (statuses s.history ++ [Status.errored]).Nodup := hc ▸ hd
      exact absurd rfl ((List.nodup_append.1 hd).2.2 _ (h.errored_mem hn) _ List.mem_cons_self)

end BrokeOnce
end Session
end PartitionConsumer
