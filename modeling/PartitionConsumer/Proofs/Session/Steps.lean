import PartitionConsumer.Proofs.Session.Moves
/-!
# Steps of a session

The outcomes of one step of a session, by the relations of the moves, and what holds of a whole run
because every step keeps it.
-/
namespace PartitionConsumer

/-! ## What a history tells -/

namespace Effect

def asks (f : Request → Bool) : Effect → Bool
  | .ask r => f r
  | _ => false

def announces (k : EventKind) : Effect → Bool
  | .publish e => e.kind == k
  | _ => false

end Effect

def Mark.effect? : Mark → Option Effect
  | .did _ e => some e
  | _ => none

def effects (h : List Mark) : List Effect := h.filterMap Mark.effect?

def asked (f : Request → Bool) (h : List Mark) : Nat := (effects h).countP (Effect.asks f)

def announced (k : EventKind) (h : List Mark) : Nat := (effects h).countP (Effect.announces k)

theorem Waiting.mem_marks {w : Waiting} {id : Nat} {a : Answer} {m : Mark} (h : m ∈ w.marks id a) :
    m = .told id w a ∨ m = .began id (.shutdown .shutdown) := by
  unfold marks at h
  split at h
  · simpa using h
  · exact .inl (List.mem_singleton.1 h)

theorem Next.mem_marks {nx : Next} {id : Nat} {errand : Errand} {m : Mark}
    (h : m ∈ nx.marks id errand) :
    nx = .finish ∧ m = .returned id errand ∨ nx = .crash ∧ m = .lost id errand := by
  cases nx with
  | finish => exact .inl ⟨rfl, List.mem_singleton.1 h⟩
  | crash => exact .inr ⟨rfl, List.mem_singleton.1 h⟩
  | _ => cases h

@[simp] theorem effects_append (h k : List Mark) : effects (h ++ k) = effects h ++ effects k := by
  simp [effects]

@[simp] theorem effects_did (id : Nat) (es : List Effect) : effects (es.map (.did id)) = es := by
  induction es with
  | nil => rfl
  | cons e es ih => exact congrArg (e :: ·) ih

@[simp] theorem effects_end (nx : Next) (id : Nat) (errand : Errand) :
    effects (nx.marks id errand) = [] := by cases nx <;> rfl

@[simp] theorem effects_marks (w : Waiting) (id : Nat) (a : Answer) : effects (w.marks id a) = [] := by
  unfold Waiting.marks
  split <;> rfl

section Histories

variable (f : Request → Bool) (k : EventKind)

@[simp] theorem asked_append (h h' : List Mark) : asked f (h ++ h') = asked f h + asked f h' := by
  simp [asked]

@[simp] theorem asked_did (id : Nat) (es : List Effect) :
    asked f (es.map (.did id)) = es.countP (Effect.asks f) := by simp [asked]

@[simp] theorem asked_end (nx : Next) (id : Nat) (errand : Errand) :
    asked f (nx.marks id errand) = 0 := by simp [asked]

@[simp] theorem asked_marks (w : Waiting) (id : Nat) (a : Answer) : asked f (w.marks id a) = 0 := by
  simp [asked]

@[simp] theorem asked_began (id : Nat) (errand : Errand) : asked f [.began id errand] = 0 := rfl

@[simp] theorem asked_passed (ticks : Nat) : asked f [.passed ticks] = 0 := rfl

theorem exists_of_asked_pos {h : List Mark} (ha : 0 < asked f h) :
    ∃ pre id r post, h = pre ++ .did id (.ask r) :: post ∧ f r = true := by
  obtain ⟨e, hm, hf⟩ := List.countP_pos_iff.1 ha
  obtain ⟨m, hm, he⟩ := List.mem_filterMap.1 hm
  obtain ⟨pre, post, rfl⟩ := List.append_of_mem hm
  cases e with
  | ask r =>
    cases m with
    | did id e => exact ⟨pre, id, r, post, by rw [← Option.some.inj he], hf⟩
    | _ => cases he
  | _ => cases hf

theorem exists_of_announced_pos {h : List Mark} (ha : 0 < announced k h) :
    ∃ pre id e post, h = pre ++ .did id (.publish e) :: post ∧ e.kind = k := by
  obtain ⟨f, hm, hf⟩ := List.countP_pos_iff.1 ha
  obtain ⟨m, hm, he⟩ := List.mem_filterMap.1 hm
  obtain ⟨pre, post, rfl⟩ := List.append_of_mem hm
  cases f with
  | publish e =>
    cases m with
    | did id f => exact ⟨pre, id, e, post, by rw [← Option.some.inj he], eq_of_beq hf⟩
    | _ => cases he
  | _ => cases hf

theorem announced_pos_of_split {h pre post : List Mark} {id : Nat} {e : Event}
    (hs : h = pre ++ .did id (.publish e) :: post) (he : e.kind = k) : 0 < announced k h := by
  have hm : .publish e ∈ effects h := by
    rw [hs]
    exact List.mem_filterMap.2 ⟨_, List.mem_append_right _ List.mem_cons_self, rfl⟩
  exact List.countP_pos_iff.2 ⟨_, hm, beq_iff_eq.2 he⟩

@[simp] theorem announced_append (h h' : List Mark) :
    announced k (h ++ h') = announced k h + announced k h' := by
  simp [announced]

@[simp] theorem announced_did (id : Nat) (es : List Effect) :
    announced k (es.map (.did id)) = es.countP (Effect.announces k) := by simp [announced]

@[simp] theorem announced_end (nx : Next) (id : Nat) (errand : Errand) :
    announced k (nx.marks id errand) = 0 := by simp [announced]

@[simp] theorem announced_marks (w : Waiting) (id : Nat) (a : Answer) :
    announced k (w.marks id a) = 0 := by
  simp [announced]

@[simp] theorem announced_began (id : Nat) (errand : Errand) : announced k [.began id errand] = 0 := rfl

@[simp] theorem announced_passed (ticks : Nat) : announced k [.passed ticks] = 0 := rfl

end Histories

/-! ## What the parts of a move show -/

section Counts

variable (f : Request → Bool) (k : EventKind) (p : Pump)

@[simp] theorem asks_event (e : Event) : (p.event e).asks f = false := rfl
@[simp] theorem asks_ask (r : Request) : (Effect.ask r).asks f = f r := rfl
@[simp] theorem asks_status (s : Status) : (Effect.status s).asks f = false := rfl
@[simp] theorem asks_tune (r n : Nat) (t : Span) : (Effect.tune r n t).asks f = false := rfl
@[simp] theorem asks_install (r : Nat) : (Effect.install r).asks f = false := rfl
@[simp] theorem asks_defer (e : TransportError) : (Effect.defer e).asks f = false := rfl
@[simp] theorem announces_event (e : Event) : (p.event e).announces k = (e.kind == k) := rfl
@[simp] theorem announces_ask (r : Request) : (Effect.ask r).announces k = false := rfl
@[simp] theorem announces_status (s : Status) : (Effect.status s).announces k = false := rfl

@[simp] theorem announces_tune (r n : Nat) (t : Span) : (Effect.tune r n t).announces k = false := rfl
@[simp] theorem announces_install (r : Nat) : (Effect.install r).announces k = false := rfl
@[simp] theorem announces_defer (e : TransportError) : (Effect.defer e).announces k = false := rfl

@[simp] theorem asks_faults (r : Release) (outcome : Except TransportError Unit) :
    (p.faults r outcome).countP (Effect.asks f) = 0 := by
  rcases outcome with e | ⟨⟩ <;> simp [Pump.faults]

@[simp] theorem announces_faults (r : Release) (outcome : Except TransportError Unit)
    (hk : k ≠ .teardownFault) : (p.faults r outcome).countP (Effect.announces k) = 0 := by
  rcases outcome with e | ⟨⟩ <;> simp [Pump.faults, hk.symm]

@[simp] theorem asks_failureFault (a : Attempt) (e : AttemptFailure) :
    (p.failureFault a e).countP (Effect.asks f) = 0 := by
  obtain h | ⟨e, h⟩ := p.failureFault_eq a e <;> rw [h] <;> rfl

@[simp] theorem announces_failureFault (a : Attempt) (e : AttemptFailure) (hk : k ≠ .openAttemptFailed) :
    (p.failureFault a e).countP (Effect.announces k) = 0 := by
  obtain h | ⟨e, h⟩ := p.failureFault_eq a e <;> rw [h]
  · rfl
  · simp [Pump.attemptEvent, hk.symm]

@[simp] theorem asks_closingEffects (r r' : String) :
    (p.closingEffects r r').countP (Effect.asks f) = 0 := by simp [Pump.closingEffects]

@[simp] theorem asks_closedEffects : p.closedEffects.countP (Effect.asks f) = 0 := by
  simp [Pump.closedEffects]

@[simp] theorem announces_closedEffects (hk : k ≠ .pumpClosed) :
    p.closedEffects.countP (Effect.announces k) = 0 := by
  simp [Pump.closedEffects, hk.symm]

@[simp] theorem asks_unlinkedEffects (reason : CloseReason) :
    (p.unlinkedEffects reason).countP (Effect.asks f) = 0 := by
  unfold Pump.unlinkedEffects Pump.closingStatusEffects
  split <;> simp

@[simp] theorem announces_unlinkedEffects (reason : CloseReason) (hk : k ≠ .pumpClosing) :
    (p.unlinkedEffects reason).countP (Effect.announces k) = 0 := by
  unfold Pump.unlinkedEffects Pump.closingStatusEffects
  split <;> simp [hk.symm]

/-- A sequence of attempts asks for a client or tells the error hook, and publishes nothing more. -/
theorem asked_attempt {q : Pump} {cut : Bool} {shown es : List Effect} {nx : Next}
    (h : p.AttemptMove cut shown q es nx) (hc : f .createClient = false)
    (he : ∀ e, f (.hook (.onError (.opening e))) = false) :
    es.countP (Effect.asks f) = shown.countP (Effect.asks f) := by
  cases h with
  | attempt => simp [hc]
  | report e => simp [he e]
  | _ => rfl

theorem announced_attempt {q : Pump} {cut : Bool} {shown es : List Effect} {nx : Next}
    (h : p.AttemptMove cut shown q es nx) :
    es.countP (Effect.announces k) = shown.countP (Effect.announces k) := by
  cases h with
  | attempt => simp
  | report e => simp
  | _ => rfl

end Counts

/-- An entry of a history that has grown is among what was added, or what was added follows it. -/
theorem split_append {h ms pre post : List Mark} {m : Mark} (he : h ++ ms = pre ++ m :: post) :
    (∃ mid, ms = mid ++ m :: post ∧ pre = h ++ mid)
      ∨ ∃ mid, h = pre ++ m :: mid ∧ post = mid ++ ms := by
  obtain ⟨mid, hp, hm⟩ | ⟨mid, hp, hm⟩ := List.append_eq_append_iff.1 he
  · exact .inl ⟨mid, hm, hp⟩
  · cases mid with
    | nil => exact .inl ⟨[], hm.symm, by simpa using hp.symm⟩
    | cons n mid =>
      rw [List.cons_append] at hm
      obtain ⟨rfl, ht⟩ := List.cons.inj hm
      exact .inr ⟨mid, hp, ht⟩

/-! ## Whatever is true at every point of a history -/

/-- Every entry of the history stands in `P` to what comes before it. -/
def Always (P : List Mark → Mark → Prop) (h : List Mark) : Prop :=
  ∀ pre m post, h = pre ++ m :: post → P pre m

namespace Always

variable {P Q : List Mark → Mark → Prop} {h : List Mark}

theorem nil : Always P [] := by
  intro pre m post h
  simp at h

theorem snoc {m : Mark} (hh : Always P h) (hm : P h m) : Always P (h ++ [m]) := by
  intro pre n post he
  rcases List.eq_nil_or_concat post with rfl | ⟨post, l, rfl⟩
  · obtain ⟨rfl, hn⟩ := List.append_inj' he rfl
    obtain rfl := List.cons.inj hn |>.1
    exact hm
  · have he' : h ++ [m] = (pre ++ n :: post) ++ [l] := by simpa using he
    exact hh pre n post (List.append_inj' he' rfl).1

theorem append {k : List Mark} (hh : Always P h)
    (hk : ∀ pre m post, k = pre ++ m :: post → P (h ++ pre) m) : Always P (h ++ k) := by
  induction k generalizing h with
  | nil => simpa using hh
  | cons m k ih =>
    rw [List.append_cons]
    have hm : P h m := by simpa using hk [] m k rfl
    refine ih (hh.snoc hm) fun pre n post he => ?_
    have hn := hk (m :: pre) n post (by rw [he]; rfl)
    simpa using hn

/-- Entries that stand in `P` to everything. -/
theorem append_of_forall {k : List Mark} (hh : Always P h) (hk : ∀ pre, ∀ m ∈ k, P pre m) :
    Always P (h ++ k) :=
  hh.append fun pre m post he => hk _ m (by rw [he]; exact List.mem_append_right _ List.mem_cons_self)

end Always

/-! ## The parts of a session after its operations -/

namespace Session

variable (s : Session)

@[simp] theorem pump_note (ms : List Mark) : (s.note ms).pump = s.pump := rfl
@[simp] theorem history_note (ms : List Mark) : (s.note ms).history = s.history ++ ms := rfl

@[simp] theorem pump_begin (e : Errand) : (s.begin e).pump = s.pump := rfl
@[simp] theorem history_begin (e : Errand) :
    (s.begin e).history = s.history ++ [.began s.next e] := rfl

@[simp] theorem history_take (id : Nat) : (s.take id).history = s.history := rfl

@[simp] theorem pump_forget (n : Nat) : (s.forget n).pump = s.pump := rfl
@[simp] theorem now_forget (n : Nat) : (s.forget n).now = s.now := rfl
@[simp] theorem calls_forget (n : Nat) : (s.forget n).calls = s.calls := rfl
@[simp] theorem deferred_forget (n : Nat) : (s.forget n).deferred = s.deferred.eraseIdx n := rfl
@[simp] theorem next_forget (n : Nat) : (s.forget n).next = s.next := rfl
@[simp] theorem history_forget (n : Nat) : (s.forget n).history = s.history := rfl

section Carry

variable (id : Nat) (errand : Errand) (p : Pump) (es : List Effect) (nx : Next)

@[simp] theorem pump_carry : (s.carry id errand p es nx).pump = nx.leave p := rfl
@[simp] theorem now_carry : (s.carry id errand p es nx).now = s.now := rfl
@[simp] theorem calls_carry :
    (s.carry id errand p es nx).calls = (nx.waiting? errand).toList.map (id, ·) ++ s.calls := rfl
@[simp] theorem deferred_carry :
    (s.carry id errand p es nx).deferred = s.deferred ++ es.filterMap Effect.deferred? := rfl
@[simp] theorem next_carry : (s.carry id errand p es nx).next = s.next := rfl
@[simp] theorem history_carry :
    (s.carry id errand p es nx).history = s.history ++ es.map (.did id) ++ nx.marks id errand := rfl

theorem history_carry_of {b : Session} {h ms : List Mark} (hb : b.history = h ++ ms) :
    (b.carry id errand p es nx).history = h ++ (ms ++ (es.map (.did id) ++ nx.marks id errand)) := by
  rw [history_carry, hb]
  simp only [List.append_assoc]

/-- A call that goes on shows the effects of its move, and nothing else. -/
theorem exists_effects_carry {b : Session} {h ms : List Mark} (hb : b.history = h ++ ms)
    (hms : effects ms = []) :
    ∃ ks, (b.carry id errand p es nx).history = h ++ ks ∧ effects ks = es := by
  refine ⟨_, history_carry_of id errand p es nx hb, ?_⟩
  rw [effects_append, effects_append, hms, effects_did, effects_end, List.append_nil]
  rfl

theorem always_carry {P : List Mark → Mark → Prop} (h : Always P s.history)
    (he : ∀ pre e post, es = pre ++ e :: post → P (s.history ++ pre.map (.did id)) (.did id e))
    (hm : ∀ pre, ∀ m ∈ nx.marks id errand, P pre m) :
    Always P (s.carry id errand p es nx).history := by
  rw [history_carry]
  refine (h.append fun pre m post hs => ?_).append_of_forall hm
  obtain ⟨fs, gs, rfl, rfl, hg⟩ := List.map_eq_append_iff.1 hs
  obtain ⟨e, gs, rfl, rfl, rfl⟩ := List.map_eq_cons_iff.1 hg
  exact he fs e gs rfl

end Carry

/-! ## One step -/

inductive Tells (s : Session) (id : Nat) (w : Waiting) (a : Answer) : Cause → Prop where
  | answer (hw : s.call? id = some w) (ha : w.admits s.pump s.now a = true) : Tells s id w a (.answer id a)
  | wake (hw : s.call? id = some w) (hr : w.request = none)
    (ha : w.call.ownAnswer? s.pump s.now = some a) : Tells s id w a (.wake id)

theorem Tells.call? {s : Session} {id : Nat} {w : Waiting} {a : Answer} {c : Cause}
    (h : s.Tells id w a c) : s.call? id = some w := by
  cases h with
  | answer hw _ => exact hw
  | wake hw _ _ => exact hw

/-- The session in which the call `id` was told an answer, and goes on. -/
def told (s : Session) (id : Nat) (w : Waiting) (a : Answer) : Session :=
  (s.take id).note (w.marks id a)

@[simp] theorem history_told (s : Session) (id : Nat) (w : Waiting) (a : Answer) :
    (s.told id w a).history = s.history ++ w.marks id a := rfl

@[simp] theorem pump_told (s : Session) (id : Nat) (w : Waiting) (a : Answer) :
    (s.told id w a).pump = s.pump := rfl

inductive Step (s : Session) : Cause → Session → Prop where
  | start {q es nx} (h : s.pump.StartMove q es nx) :
    Step s .start ((s.begin .start).carry s.next .start q es nx)
  | shutdown {q es nx} (reason : CloseReason) (h : s.pump.EnterMove s.now s.next reason q es nx) :
    Step s (.shutdown reason)
      ((s.begin (.shutdown reason)).carry s.next (.shutdown reason) q es nx)
  | deliver {q es nx} (report : Option TailReport) (batch : Option Batch)
      (h : s.pump.ReceiveMove batch q es nx) :
    Step s (.deliver report batch)
      ((s.begin (.delivery batch)).carry s.next (.delivery batch) q es nx)
  | fail {q es} (e : TransportError) (h : s.pump.FailureMove e q es) :
    Step s (.fail e) ((s.begin (.failure e)).carry s.next (.failure e) q es .finish)
  | report (n : Nat) (e : TransportError) (h : s.deferred[n]? = some e) :
    Step s (.report n)
      (((s.forget n).begin (.report e)).carry s.next (.report e) s.pump
        [.ask (.hook (.onError (.delivery e)))]
        (.ask (.hook (.onError (.delivery e))) (.report s.next)))
  | discard (n : Nat) (h : n < s.deferred.length) : Step s (.discard n) (s.forget n)
  | tellStart {c q es nx} (id : Nat) (w : Waiting) (a : Answer) (stage : OpenStage)
      (ht : s.Tells id w a c) (hw : w.call = .start stage) (h : s.pump.OpenMove stage a q es nx) :
    Step s c ((s.told id w a).carry id w.errand q es nx)
  | tellShutdown {c q es nx} (id : Nat) (w : Waiting) (a : Answer) (ticket : Nat)
      (reason : CloseReason) (stage : ShutdownStage) (ht : s.Tells id w a c)
      (hw : w.call = .shutdown ticket reason stage)
      (h : s.pump.ShutdownMove s.now ticket reason stage a q es nx) :
    Step s c ((s.told id w a).carry id w.errand q es nx)
  | tellDelivery {c es nx} (id : Nat) (w : Waiting) (a : Answer) (stage : DeliveryStage)
      (ht : s.Tells id w a c) (hw : w.call = .deliver stage)
      (h : s.pump.DeliveryMove stage a es nx) :
    Step s c ((s.told id w a).carry id w.errand s.pump es nx)
  | tellReport {c q es nx} (id : Nat) (w : Waiting) (outcome : Except ProcessorError Unit)
      (ticket : Nat) (ht : s.Tells id w (.hook outcome) c) (hw : w.call = .report ticket)
      (h : s.pump.EnterMove s.now ticket .shutdown q es nx) :
    Step s c ((s.told id w (.hook outcome)).carry id (.shutdown .shutdown) q es nx)
  | drop (id : Nat) (w : Waiting) (h : s.call? id = some w) :
    Step s (.drop id) ({ s.take id with pump := s.pump.abandon w.call }.note [.lost id w.errand])
  | bump : Step s .bump { s with pump := { s.pump with lease := s.pump.lease.bump } }
  | pass (ticks : Nat) : Step s (.pass ticks) ({ s with now := s.now + ticks }.note [.passed ticks])

theorem move_eq_carry {p : Pump} {m : Move} {R : Pump → List Effect → Next → Prop} (hp : p.trace = [])
    (h : p.Goes m R) (id : Nat) (errand : Errand) :
    ∃ q es nx, s.move id errand m = s.carry id errand q es nx ∧ R q es nx := by
  obtain ⟨es, he, h⟩ := h
  refine ⟨m.1.untraced, es, m.2, ?_, h⟩
  have hs : m.1.shown = es := by
    rw [he, Pump.shown_of_trace hp]
    rfl
  unfold move
  rw [hs]

section Counts

variable (f : Request → Bool) (k : EventKind)

theorem asked_carry (id : Nat) (errand : Errand) (p : Pump) (es : List Effect) (nx : Next) :
    asked f (s.carry id errand p es nx).history = asked f s.history + es.countP (Effect.asks f) := by
  rw [history_carry, asked_append, asked_append, asked_did, asked_end, Nat.add_zero]

theorem announced_carry (id : Nat) (errand : Errand) (p : Pump) (es : List Effect) (nx : Next) :
    announced k (s.carry id errand p es nx).history
      = announced k s.history + es.countP (Effect.announces k) := by
  rw [history_carry, announced_append, announced_append, announced_did, announced_end, Nat.add_zero]

@[simp] theorem asked_begin (e : Errand) : asked f (s.begin e).history = asked f s.history := by
  rw [history_begin, asked_append, asked_began, Nat.add_zero]

@[simp] theorem announced_begin (e : Errand) :
    announced k (s.begin e).history = announced k s.history := by
  rw [history_begin, announced_append, announced_began, Nat.add_zero]

@[simp] theorem asked_told (id : Nat) (w : Waiting) (a : Answer) :
    asked f (s.told id w a).history = asked f s.history := by
  rw [history_told, asked_append, asked_marks, Nat.add_zero]

@[simp] theorem announced_told (id : Nat) (w : Waiting) (a : Answer) :
    announced k (s.told id w a).history = announced k s.history := by
  rw [history_told, announced_append, announced_marks, Nat.add_zero]

end Counts

variable {s} {c : Cause} {t : Session}

theorem step_of_tell? {id : Nat} {w : Waiting} {a : Answer} (hp : s.pump.trace = [])
    (ht : s.Tells id w a c) (h : s.tell? id w a = some t) : s.Step c t := by
  unfold tell? at h
  obtain ⟨m, hm, rfl⟩ := Option.map_eq_some_iff.1 h
  have hu := Pump.untraced_of_trace hp
  cases hw : w.call with
  | start stage =>
    have hg : w.goesOn = w.errand := by simp [Waiting.goesOn, hw]
    rw [hw] at hm
    obtain ⟨q, es, nx, he, h⟩ :=
      (s.told id w a).move_eq_carry hp (Pump.goes_resumeStart hm) id w.errand
    rw [hu] at h
    rw [hg]
    exact he ▸ .tellStart id w a stage ht hw h
  | shutdown ticket reason stage =>
    have hg : w.goesOn = w.errand := by simp [Waiting.goesOn, hw]
    rw [hw] at hm
    obtain ⟨q, es, nx, he, h⟩ :=
      (s.told id w a).move_eq_carry hp (Pump.goes_resumeShutdown hm) id w.errand
    rw [hu] at h
    rw [hg]
    exact he ▸ .tellShutdown id w a ticket reason stage ht hw h
  | deliver stage =>
    have hg : w.goesOn = w.errand := by simp [Waiting.goesOn, hw]
    rw [hw] at hm
    obtain ⟨q, es, nx, he, hq, h⟩ :=
      (s.told id w a).move_eq_carry hp (Pump.goes_resumeDelivery hm) id w.errand
    rw [hu] at h hq
    rw [hg]
    exact he ▸ hq ▸ .tellDelivery id w a stage ht hw h
  | report ticket =>
    have hg : w.goesOn = .shutdown .shutdown := by simp [Waiting.goesOn, hw]
    rw [hw] at hm
    unfold Pump.resume at hm
    split at hm
    all_goals first | contradiction | cases hm
    rename_i hc
    cases hc
    obtain ⟨q, es, nx, he, h⟩ := (s.told id w _).move_eq_carry hp
      (Pump.goes_beginShutdown s.pump s.now ticket .shutdown) id (.shutdown .shutdown)
    rw [hu] at h
    rw [hg]
    exact he ▸ .tellReport id w _ ticket ht hw h

/-- Every step of a session is one of the outcomes. -/
theorem step_of_step? (hp : s.pump.trace = []) (h : s.step? c = some t) : s.Step c t := by
  have hu := Pump.untraced_of_trace hp
  cases c with
  | start =>
    obtain ⟨q, es, nx, he, hm⟩ :=
      (s.begin .start).move_eq_carry hp (Pump.goes_beginStart s.pump) s.next .start
    rw [hu] at hm
    exact Option.some.inj h ▸ he ▸ .start hm
  | shutdown reason =>
    obtain ⟨q, es, nx, he, hm⟩ := (s.begin (.shutdown reason)).move_eq_carry hp
      (Pump.goes_beginShutdown s.pump s.now s.next reason) s.next (.shutdown reason)
    rw [hu] at hm
    exact Option.some.inj h ▸ he ▸ .shutdown reason hm
  | deliver report batch =>
    obtain ⟨q, es, nx, he, hm⟩ := (s.begin (.delivery batch)).move_eq_carry hp
      (Pump.goes_receive s.pump report batch) s.next (.delivery batch)
    rw [hu] at hm
    exact Option.some.inj h ▸ he ▸ .deliver report batch hm
  | fail e =>
    obtain ⟨q, es, nx, he, hm, rfl⟩ := (s.begin (.failure e)).move_eq_carry hp
      (Pump.goes_receiverFailed s.pump e) s.next (.failure e)
    rw [hu] at hm
    exact Option.some.inj h ▸ he ▸ .fail e hm
  | report n =>
    obtain ⟨e, hd, rfl⟩ := Option.map_eq_some_iff.1 h
    obtain ⟨q, es, nx, he, rfl, rfl, rfl⟩ := ((s.forget n).begin (.report e)).move_eq_carry hp
      (Pump.goes_beginReport s.pump s.next e) s.next (.report e)
    rw [hu] at he
    exact he ▸ .report n e hd
  | discard n =>
    obtain ⟨hn, h⟩ := Option.ite_none_right_eq_some.1 h
    exact Option.some.inj h ▸ .discard n hn
  | answer id a =>
    obtain ⟨w, hw, h⟩ := Option.bind_eq_some_iff.1 h
    obtain ⟨ha, h⟩ := Option.ite_none_right_eq_some.1 h
    exact step_of_tell? hp (.answer hw ha) h
  | wake id =>
    obtain ⟨w, hw, h⟩ := Option.bind_eq_some_iff.1 h
    obtain ⟨hr, h⟩ := Option.ite_none_right_eq_some.1 h
    obtain ⟨a, ha, h⟩ := Option.bind_eq_some_iff.1 h
    exact step_of_tell? hp (.wake hw (Option.isNone_iff_eq_none.1 hr) ha) h
  | drop id =>
    obtain ⟨w, hw, rfl⟩ := Option.map_eq_some_iff.1 h
    exact .drop id w hw
  | bump => exact Option.some.inj h ▸ .bump
  | pass ticks => exact Option.some.inj h ▸ .pass ticks

/-- Numbers are given out in order. -/
theorem Step.next_le (h : s.Step c t) : s.next ≤ t.next := by
  cases h <;> first | exact Nat.le_refl _ | exact Nat.le_succ _

/-- A delivery that arrives tells no call anything. -/
theorem Step.of_deliver {report : Option TailReport} {batch : Option Batch}
    (h : s.Step (.deliver report batch) t) : ∃ q es nx, s.pump.ReceiveMove batch q es nx
      ∧ t = (s.begin (.delivery batch)).carry s.next (.delivery batch) q es nx := by
  cases h with
  | deliver _ _ hm => exact ⟨_, _, _, hm, rfl⟩
  | tellStart _ _ _ _ ht => cases ht
  | tellShutdown _ _ _ _ _ _ ht => cases ht
  | tellDelivery _ _ _ _ ht => cases ht
  | tellReport _ _ _ _ ht => cases ht

/-! ## Runs -/

theorem run_append (s : Session) (cs ds : List Cause) :
    s.run (cs ++ ds) = (s.run cs).bind fun t => t.run ds := by
  induction cs generalizing s with
  | nil => rfl
  | cons c cs ih =>
    simp only [List.cons_append, run]
    cases s.step? c with
    | none => rfl
    | some t => exact ih t

/-- What every step keeps holds at the end of every run. -/
theorem run_induction {P : Session → Prop} {cs : List Cause} (h0 : P s)
    (hs : ∀ s c t, c ∈ cs → P s → s.step? c = some t → P t) (h : s.run cs = some t) : P t := by
  induction cs generalizing s with
  | nil => exact Option.some.inj h ▸ h0
  | cons c cs ih =>
    obtain ⟨u, hu, h⟩ := Option.bind_eq_some_iff.1 h
    exact ih (hs s c u List.mem_cons_self h0 hu)
      (fun s c t hc => hs s c t (List.mem_cons_of_mem _ hc)) h

theorem run_snoc {cs : List Cause} {u : Session} (h : s.run cs = some u) (hu : u.step? c = some t) :
    s.run (cs ++ [c]) = some t := by
  rw [run_append, h, Option.bind_some, run, hu]
  rfl

/-- A run goes on through a step. -/
theorem run_through {cs ds : List Cause} {u v : Session} (h : s.run cs = some t) (ht : t.step? c = some u)
    (hu : u.run ds = some v) : s.run (cs ++ c :: ds) = some v := by
  rw [run_append, h, Option.bind_some, run, ht, Option.bind_some, hu]

/-- What every step keeps, together with the run that has led to it, holds of every run. -/
theorem run_history {P : List Cause → Session → Prop} {ds cs : List Cause} {u : Session}
    (hu : s.run ds = some u) (h0 : P ds u)
    (hs : ∀ ds u c v, s.run ds = some u → P ds u → u.step? c = some v → P (ds ++ [c]) v)
    (h : u.run cs = some t) : P (ds ++ cs) t := by
  induction cs generalizing ds u with
  | nil =>
    obtain rfl := Option.some.inj h
    rw [List.append_nil]
    exact h0
  | cons c cs ih =>
    obtain ⟨v, hv, h⟩ := Option.bind_eq_some_iff.1 h
    rw [List.append_cons]
    exact ih (run_snoc hu hv) (hs ds u c v hu h0 hv) h

/-- What `f` finds in the steps of a run, in order. -/
def gathered {α : Type} (f : Session → Cause → List α) (s : Session) : List Cause → List α
  | [] => []
  | c :: cs => f s c ++ (s.step? c).elim [] fun t => gathered f t cs

/-- What every step keeps, together with what `f` has found in the steps before, holds at the end of
every run. -/
theorem run_gathering {α : Type} {f : Session → Cause → List α} {P : List α → Session → Prop}
    {as : List α} {cs : List Cause} (h0 : P as s)
    (hs : ∀ as s c t, c ∈ cs → P as s → s.step? c = some t → P (as ++ f s c) t)
    (h : s.run cs = some t) : P (as ++ gathered f s cs) t := by
  induction cs generalizing s as with
  | nil =>
    obtain rfl := Option.some.inj h
    rw [gathered, List.append_nil]
    exact h0
  | cons c cs ih =>
    obtain ⟨u, hu, h⟩ := Option.bind_eq_some_iff.1 h
    rw [gathered, hu, Option.elim_some, ← List.append_assoc]
    exact ih (hs as s c u List.mem_cons_self h0 hu)
      (fun as s c t hc => hs as s c t (List.mem_cons_of_mem _ hc)) h

end Session
end PartitionConsumer
