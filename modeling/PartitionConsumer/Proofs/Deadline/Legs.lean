import PartitionConsumer.Proofs.Deadline.Pace
/-!
# The legs of an attempt

An attempt at a pace asks for its client, then for its receiver, and each leg of it takes the time that the
transport takes or ends at the deadline, which is the same for both. So it is known at each point what time it
is, and a step that ends the attempt ends it as the pace and the limit say.
-/
namespace PartitionConsumer

/-- The deadline of an attempt that begins at `start`. A limit of no ticks is none. -/
def deadlineFrom (start limit : Nat) : Option Nat := if limit = 0 then none else some (start + limit)

theorem deadlineFrom_eq_some {start limit tick : Nat} :
    deadlineFrom start limit = some tick ↔ 0 < limit ∧ tick = start + limit := by
  simp [deadlineFrom, Nat.pos_iff_ne_zero, eq_comm]

theorem Options.attemptDeadline?_ofMillis {o : Options} {limit now : Nat} {deadline : Option Nat}
    (ho : o.attemptTimeout = .ofMillis limit) (h : o.attemptDeadline? now = some deadline) :
    deadline = deadlineFrom now limit := by
  obtain rfl | hl := Nat.eq_zero_or_pos limit
  · have hz : o.attemptLimit = none := by simp [attemptLimit, ho, Span.ofMillis, Span.isZero]
    rw [attemptDeadline?, hz] at h
    exact (Option.some.inj h).symm
  · have hs : o.attemptLimit = some (.ofMillis limit) := by
      have hz : ¬ limit * nanosPerTick = 0 := by
        unfold nanosPerTick
        omega
      simp [attemptLimit, ho, Span.ofMillis, Span.isZero, hz]
    rw [attemptDeadline?, hs] at h
    obtain ⟨tick, ht, rfl⟩ := Option.map_eq_some_iff.1 h
    unfold deadline? at ht
    obtain ⟨-, ht⟩ := Option.ite_none_right_eq_some.1 ht
    rw [← ht, Span.ticks_ofMillis, deadlineFrom, if_neg hl.ne']

theorem Call.timer?_of_attempt? {c : Call} {a : Attempt} (h : c.attempt? = some a) :
    c.timer? = a.deadline := by
  unfold attempt? at h
  split at h
  · exact congrArg Attempt.deadline (Option.some.inj h)
  · exact congrArg Attempt.deadline (Option.some.inj h)
  · cases h

theorem Call.timer?_of_isExpired {c : Call} {now : Nat} (h : c.isExpired now = true) :
    ∃ tick, c.timer? = some tick ∧ tick ≤ now := by
  unfold isExpired at h
  split at h
  · rename_i hc
    exact ⟨_, timer?_of_attempt? hc, of_decide_eq_true h⟩
  · cases h

namespace Point

section Defs

/-- The releases that are owed for what the attempt has made. -/
def made : Point → List Request
  | clientReady _ _ (.ok c) | receiver _ _ c | receiverReady _ _ c (.error _) | abandon _ _ c _ => [.closeClient c]
  | receiverReady _ _ c (.ok r) => [.closeClient c, .clearHandler r, .closeReceiver r]
  | _ => []

/-- What the attempt has asked for since it asked for a client. -/
def asked (terms : Terms) : Point → List Effect
  | receiver _ a c | receiverReady _ a c _ => [.ask (.createReceiver c (terms.request a.epoch))]
  | abandon _ a c _ => [.ask (.createReceiver c (terms.request a.epoch)), .ask (.closeClient c)]
  | _ => []

/-- The client of the attempt, until it is closed. -/
def live : Point → List Nat
  | clientReady _ _ (.ok c) | receiver _ _ c | receiverReady _ _ c _ => [c]
  | _ => []

/-- The points of an attempt that are still ahead. -/
def rank : Point → Nat
  | client .. => 4
  | clientReady .. => 3
  | receiver .. => 2
  | receiverReady .. => 1
  | _ => 0

end Defs

variable {terms : Terms} {now epoch : Nat} {p q : Point} {es : List Effect} {a : Answer} {b : Attempt}
  {w : Waiting}

/-- What follows a failed attempt is not the same attempt. -/
theorem Sequel.attempt?_ne {past : List Nat} {e : TransportError} (h : Sequel terms now epoch past b e q es) :
    q.attempt? ≠ some b := by
  cases h with
  | again =>
    intro hb
    have hn := congrArg Attempt.number (Option.some.inj hb)
    exact absurd hn (Nat.succ_ne_self b.number)
  | _ => nofun

/-- A failure that is no fence is published. -/
theorem Sequel.exists_fault {past : List Nat} {e : TransportError} (h : Sequel terms now epoch past b e q es)
    (he : e.isFenced = false) : ∃ fs, es = terms.fault b.number b.epoch e :: fs := by
  cases h with
  | fenced hf => exact absurd (hf.symm.trans he) nofun
  | exhausted | again | pause | late => exact ⟨_, rfl⟩

/-- As long as the attempt goes on, what was made, asked for and closed is known from where it stands. -/
theorem Moves.within (h : Moves terms now epoch p a q es) (hp : p.attempt? = some b)
    (hq : q.attempt? = some b) (hw : p.waiting? terms = some w) :
    q.made = p.made ++ w.call.made a ∧ q.asked terms = p.asked terms ++ es
      ∧ q.live = (p.live ++ (w.call.client? a).toList).diff (clientClosings es) := by
  cases h with
  | clientLate h | clientFailed h | abandoned _ h => exact absurd (hq.trans hp.symm) h.attempt?_ne
  | clientAnswered past b answer =>
    obtain rfl := Option.some.inj hw
    cases answer <;> exact ⟨rfl, rfl, rfl⟩
  | receiverAnswered past b c answer =>
    obtain rfl := Option.some.inj hw
    cases answer <;> exact ⟨rfl, rfl, rfl⟩
  | clientMade | receiverLate | receiverFailed =>
    obtain rfl := Option.some.inj hw
    refine ⟨rfl, rfl, ?_⟩
    simp [live, clientClosings, releases, Effect.release?, Request.isRelease, Request.closes?, Call.client?]
  | receiverMade => cases hq
  | _ => cases hp

/-- The attempt goes on to wait for an answer when it has just asked for it. -/
theorem Moves.exists_ask (h : Moves terms now epoch p a q es) (hp : p.attempt? = some b)
    (hq : q.attempt? = some b) (hr : ((q.waiting? terms).bind (·.request)).isSome = true) :
    ∃ r, es = [.ask r] := by
  cases h with
  | clientLate h | clientFailed h | abandoned _ h => exact absurd (hq.trans hp.symm) h.attempt?_ne
  | clientMade | receiverLate | receiverFailed => exact ⟨_, rfl⟩
  | clientAnswered | receiverAnswered => cases hr
  | receiverMade => cases hq
  | _ => cases hp

end Point

namespace Pace

/-- Where an attempt that began at `start` stands at the time `now`, `since` its last request: how long it took
until then, and that it is not late yet. -/
inductive Leg (p : Pace) (a : Attempt) (start now since : Nat) : Point → Prop where
  | client (past : List Nat) (hn : now = start + since) (hw : ∀ c, p.client = some c → since ≤ c)
    (hd : ∀ tick, a.deadline = some tick → now ≤ tick) : Leg p a start now since (.client past a)
  | clientReady {c : Nat} (past : List Nat) (k : Nat) (hc : p.client = some c) (hn : now = start + c)
    (hd : ∀ tick, a.deadline = some tick → now ≤ tick) : Leg p a start now since (.clientReady past a (.ok k))
  | receiver {c : Nat} (past : List Nat) (k : Nat) (hc : p.client = some c) (hn : now = start + c + since)
    (hw : ∀ r, p.receiver = some r → since ≤ r) (hd : ∀ tick, a.deadline = some tick → now ≤ tick) :
    Leg p a start now since (.receiver past a k)
  | receiverReady {c r : Nat} (past : List Nat) (k j : Nat) (hc : p.client = some c) (hr : p.receiver = some r)
    (hn : now = start + c + r) (hd : ∀ tick, a.deadline = some tick → now ≤ tick) :
    Leg p a start now since (.receiverReady past a k (.ok j))
  | abandon {c : Nat} (past : List Nat) (k : Nat) (hc : p.client = some c) (hz : since = 0)
    (hd : a.deadline = some now) (hle : start + c ≤ now) (hr : ∀ r, p.receiver = some r → now < start + c + r) :
    Leg p a start now since (.abandon past a k .attemptTimedOut)

variable {p : Pace} {a : Attempt} {start limit now since epoch : Nat} {pt q : Point} {terms : Terms}
  {ans : Answer} {es : List Effect} {w : Waiting}

theorem Leg.attempt? (h : p.Leg a start now since pt) : pt.attempt? = some a := by
  cases h <;> rfl

/-- The step from a point of the attempt `a` to one beyond it: what the call is told, and what is seen. -/
inductive Closes (terms : Terms) (now : Nat) (a : Attempt) :
    Fate → Point → Answer → List Effect → Point → Prop where
  | opened (past : List Nat) (k j : Nat) :
    Closes terms now a .opened (.receiverReady past a k (.ok j)) .resume
      (Finale.effects terms (.opened a.number a.epoch ⟨k, j⟩))
      (.ended (past ++ [a.epoch]) (.opened a.number a.epoch ⟨k, j⟩))
  | noClient {past : List Nat} {epoch : Nat} {es : List Effect} {q : Point}
    (h : Point.Sequel terms now epoch past a .attemptTimedOut q es) :
    Closes terms now a .noClient (.client past a) .timedOut es q
  | noReceiver {past : List Nat} {epoch : Nat} {es : List Effect} {q : Point} (k : Nat)
    (outcome : Except TransportError Unit) (h : Point.Sequel terms now epoch past a .attemptTimedOut q es) :
    Closes terms now a .noReceiver (.abandon past a k .attemptTimedOut) (.released outcome) es q

theorem Closes.attempt?_ne {f : Fate} (h : Closes terms now a f pt ans es q) : q.attempt? ≠ some a := by
  cases h with
  | opened => nofun
  | noClient h | noReceiver _ _ h => exact h.attempt?_ne

/-- What the attempt comes to when its call is told something: its next leg, or its fate. -/
theorem Leg.moves (hl : p.Leg a start now since pt) (hd : a.deadline = deadlineFrom start limit)
    (hm : pt.Moves terms now epoch ans q es) (hw : pt.waiting? terms = some w)
    (hr : w.request.all (p.mayAnswer since · ans) = true)
    (hx : ans = .timedOut → w.call.isExpired now = true) :
    ((∀ later, (((q.waiting? terms).bind (·.request)).isSome = true → later = 0) → p.Leg a start now later q)
        ∧ q.rank < pt.rank)
      ∨ ∃ f n, p.fate limit = some (f, n) ∧ now = start + n ∧ Closes terms now a f pt ans es q := by
  -- it is late only at the very tick of the deadline, since nothing passes that over
  have late (ha : ans = .timedOut) (hc : w.call.attempt? = some a)
      (hle : ∀ tick, a.deadline = some tick → now ≤ tick) :
      a.deadline = some now ∧ 0 < limit ∧ now = start + limit := by
    obtain ⟨tick, ht, htn⟩ := Call.timer?_of_isExpired (hx ha)
    rw [Call.timer?_of_attempt? hc] at ht
    obtain rfl := Nat.le_antisymm htn (hle tick ht)
    exact ⟨ht, deadlineFrom_eq_some.1 (hd.symm.trans ht)⟩
  cases hl with
  | client past hn hc hle =>
    obtain rfl := Option.some.inj hw
    cases hm with
    | clientAnswered _ _ answer =>
      cases answer with
      | error e => cases hr
      | ok k =>
        have hs : p.client = some since := by simpa [mayAnswer, ticks?] using hr
        exact .inl ⟨fun _ _ => .clientReady past k hs hn hle, Nat.lt_succ_self _⟩
    | clientLate h =>
      have hs : p.client ≠ some since := by simpa [mayAnswer, ticks?] using hr
      obtain ⟨-, hpos, hnow⟩ := late rfl rfl hle
      refine .inr ⟨.noClient, limit, fate_noClient hpos fun c hk => ?_, hnow, .noClient h⟩
      have hle := hc c hk
      have hne : since ≠ c := fun h => hs (h ▸ hk)
      omega
  | clientReady past k hc hn hle =>
    obtain rfl := Option.some.inj hw
    cases hm with
    | clientMade =>
      refine .inl ⟨fun later hz => ?_, Nat.lt_succ_self _⟩
      obtain rfl := hz rfl
      exact .receiver past k hc hn (fun _ _ => Nat.zero_le _) hle
  | receiver past k hc hn hw' hle =>
    obtain rfl := Option.some.inj hw
    cases hm with
    | receiverAnswered _ _ _ answer =>
      cases answer with
      | error e => cases hr
      | ok j =>
        have hs : p.receiver = some since := by simpa [mayAnswer, ticks?] using hr
        exact .inl ⟨fun _ _ => .receiverReady past k j hc hs hn hle, Nat.lt_succ_self _⟩
    | receiverLate =>
      have hs : p.receiver ≠ some since := by simpa [mayAnswer, ticks?] using hr
      obtain ⟨hdn, -⟩ := late rfl rfl hle
      refine .inl ⟨fun _ hz => .abandon past k hc (hz rfl) hdn (by omega) fun r hk => ?_, Nat.zero_lt_two⟩
      have hle := hw' r hk
      have hne : since ≠ r := fun h => hs (h ▸ hk)
      omega
  | receiverReady past k j hc hk hn hle =>
    cases hm with
    | receiverMade =>
      refine .inr ⟨.opened, _, fate_opened hc hk ?_, by rw [hn, Nat.add_assoc], .opened past k j⟩
      obtain hz | hpos := Nat.eq_zero_or_pos limit
      · exact .inl hz
      · have := hle _ (hd.trans (deadlineFrom_eq_some.2 ⟨hpos, rfl⟩))
        exact .inr (by omega)
  | abandon past k hc _ hdn hle hk =>
    cases hm with
    | abandoned outcome h =>
      obtain ⟨hpos, hnow⟩ := deadlineFrom_eq_some.1 (hd.symm.trans hdn)
      refine .inr ⟨.noReceiver, limit, fate_noReceiver hpos hc (by omega) fun r hr => ?_, hnow,
        .noReceiver k outcome h⟩
      have := hk r hr
      omega

/-- Time passes while the call cannot go on by itself and its request may still be open. -/
theorem Leg.pass {pump : Pump} {ticks : Nat} (hl : p.Leg a start now since pt)
    (hw : pt.waiting? terms = some w) (hi : w.isReady pump now = false)
    (ht : w.call.timer?.all (now + ticks ≤ ·) = true) (hr : w.request.all (p.mayWait (since + ticks)) = true) :
    p.Leg a start (now + ticks) (since + ticks) pt := by
  cases hl with
  | client past hn hc hle =>
    obtain rfl := Option.some.inj hw
    refine .client past (by omega) (fun c hk => ?_) fun tick hd => ?_
    · simpa [mayWait, ticks?, hk] using hr
    · simpa [Call.timer?, hd] using ht
  | receiver past k hc hn hw' hle =>
    obtain rfl := Option.some.inj hw
    refine .receiver past k hc (by omega) (fun r hk => ?_) fun tick hd => ?_
    · simpa [mayWait, ticks?, hk] using hr
    · simpa [Call.timer?, hd] using ht
  | clientReady | receiverReady =>
    obtain rfl := Option.some.inj hw
    simp [Waiting.isReady, Call.ownAnswer?] at hi
  | abandon past k hc hz hd hle hk =>
    obtain rfl := Option.some.inj hw
    obtain ⟨-, rfl⟩ : since = 0 ∧ ticks = 0 := by simpa [mayWait, ticks?] using hr
    exact .abandon past k hc hz hd hle hk

end Pace

theorem liveClients_goes (h : List Mark) (w : Waiting) (id : Nat) (a : Answer) (es : List Effect) (nx : Next)
    (errand : Errand) : liveClients (h ++ w.marks id a ++ es.map (.did id) ++ nx.marks id errand)
      = (liveClients h ++ (w.call.client? a).toList).diff (clientClosings es) := by
  rw [liveClients, List.foldl_append, liveClients_end, ← liveClients, liveClients_append_did,
    liveClients_append_marks]

theorem sinceAsked_append (id : Nat) (h ms : List Mark) :
    sinceAsked id (h ++ ms) = ms.foldl (Mark.sinceAsked id) (sinceAsked id h) := List.foldl_append

/-- A request has just been made. -/
theorem sinceAsked_of_ask (id : Nat) (h : List Mark) (r : Request) (nx : Next) (errand : Errand) :
    sinceAsked id (h ++ [.did id (.ask r)] ++ nx.marks id errand) = 0 := by
  rw [sinceAsked_append, sinceAsked_append]
  cases nx <;> exact if_pos rfl

namespace Session

variable {p : Pace} {terms : Terms} {id start limit : Nat} {a : Attempt} {h : List Mark} {pt : Point}
  {s t : Session} {c : Cause} {w : Waiting} {ans : Answer}

/-- An idle step leaves the call where it is, and shows nothing but time. -/
theorem Stands.idle (hv : s.Stands terms id pt) (hc : c.isIdle = true) (hs : s.step? c = some t) :
    t.Stands terms id pt ∧ ∃ ms, t.history = s.history ++ ms ∧ PartitionConsumer.made ms = [] ∧ effects ms = []
      ∧ liveClients t.history = liveClients s.history
      ∧ ∃ ticks, t.now = s.now + ticks ∧ sinceAsked id t.history = sinceAsked id s.history + ticks
        ∧ (ticks = 0 ∨ c = .pass ticks) := by
  have hstep := step_of_step? hv.tidy.trace hs
  obtain ⟨⟨lease, hp⟩, hcalls, -, -⟩ := hv.tidy.step_idle hs hc hv.started
  refine ⟨⟨hv.tidy.step hstep, hp ▸ hv.pump.with_lease lease, hcalls.trans hv.calls⟩, ?_⟩
  cases hstep with
  | start hm =>
    cases hm with
    | ignored =>
      refine ⟨_, history_carry_of _ _ _ _ _ rfl, rfl, rfl, ?_, 0, rfl, ?_, .inl rfl⟩
      · exact (Sole.liveClients_carry ..).trans (congrArg (List.diff · []) (List.foldl_append ..))
      · rw [history_carry_of _ _ _ _ _ rfl, sinceAsked_append]
        rfl
    | opens _ hu => exact absurd hu hv.started
  | bump => exact ⟨[], (List.append_nil _).symm, rfl, rfl, rfl, 0, rfl, rfl, .inl rfl⟩
  | pass ticks =>
    exact ⟨_, rfl, rfl, rfl, List.foldl_append .., ticks, rfl, sinceAsked_append .., .inr rfl⟩
  | tellStart _ _ _ _ ht | tellShutdown _ _ _ _ _ _ ht | tellDelivery _ _ _ _ ht | tellReport _ _ _ _ ht =>
    cases ht <;> cases hc
  | _ => cases hc

theorem Stands.idleUntil_eq (hv : s.Stands terms id pt) (hw : pt.waiting? terms = some w) (tick : Nat) :
    s.idleUntil tick = (!w.isReady s.pump s.now && w.call.timer?.all (tick ≤ ·)) := by
  simp [idleUntil, hv.calls, hw]

theorem Stands.attempt? (hv : s.Stands terms id pt) : s.attempt? id = pt.attempt? := by
  rw [Session.attempt?, hv.call?]
  cases pt with
  | ended epochs f => cases f <;> rfl
  | _ => rfl

/-- Nobody cuts the open short. -/
theorem Stands.ne_cancelled (hv : s.Stands terms id pt) (ht : s.Tells id w ans c) : ans ≠ .cancelled := by
  have hs := hv.pump.sails (hv.call?.symm.trans ht.call?)
  rintro rfl
  cases ht with
  | answer _ ha =>
    unfold Waiting.admits at ha
    rw [hs.not_interrupted w.call] at ha
    split at ha <;> simp_all
  | wake _ _ ho => exact w.call.ownAnswer?_ne_cancelled hs.stopping ho

/-- The attempt ends as it is known to from where it stood. -/
theorem Stands.ends {f : Fate} {q : Point} {es : List Effect} {ms : List Mark} (hv : s.Stands terms id q)
    (hc : Pace.Closes terms s.now a f pt ans es q) (hw : pt.waiting? terms = some w)
    (hm : PartitionConsumer.made ms = pt.made ++ w.call.made ans) (he : effects ms = pt.asked terms ++ es)
    (hl : liveClients s.history = (pt.live ++ (w.call.client? ans).toList).diff (clientClosings es)) :
    s.Ends terms id a f ms := by
  cases hc with
  | opened past k j =>
    obtain rfl := Option.some.inj hw
    exact .opened k j hm he hl hv.pump hv.call?
  | noClient h =>
    obtain rfl := Option.some.inj hw
    obtain ⟨fs, rfl⟩ := h.exists_fault rfl
    exact .noClient hm he (hl.trans (List.nil_diff _)) h hv.call?
  | noReceiver k outcome h =>
    obtain rfl := Option.some.inj hw
    obtain ⟨fs, rfl⟩ := h.exists_fault rfl
    exact .noReceiver k hm he (hl.trans (List.nil_diff _)) h hv.call?

structure Paced (p : Pace) (terms : Terms) (id : Nat) (a : Attempt) (start : Nat) (h : List Mark) (pt : Point)
    (s : Session) : Prop where
  stands : s.Stands terms id pt
  leg : p.Leg a start s.now (sinceAsked id s.history) pt
  marks : ∃ ms, s.history = h ++ ms ∧ PartitionConsumer.made ms = pt.made ∧ effects ms = pt.asked terms
  live : liveClients s.history = pt.live

namespace Paced

theorem exists_waiting (hp : s.Paced p terms id a start h pt) : ∃ w, pt.waiting? terms = some w := by
  have hl := hp.leg
  cases hl <;> exact ⟨_, rfl⟩

theorem attempt? (hp : s.Paced p terms id a start h pt) : s.attempt? id = some a :=
  hp.stands.attempt?.trans hp.leg.attempt?

theorem sails (hp : s.Paced p terms id a start h pt) : s.pump.Sails terms := by
  obtain ⟨w, hw⟩ := hp.exists_waiting
  exact hp.stands.pump.sails hw

/-- An idle step leaves the attempt where it is. -/
theorem idle (hp : s.Paced p terms id a start h pt) (ha : p.admits id s c = true) (hc : c.isIdle = true)
    (hs : s.step? c = some t) : t.Paced p terms id a start h pt := by
  obtain ⟨hst, ms, hms, hm, he, hl, ticks, hn, hsince, ht⟩ := hp.stands.idle hc hs
  obtain ⟨before, hb, hmb, heb⟩ := hp.marks
  refine ⟨hst, ?_, ⟨before ++ ms, by rw [hms, hb, List.append_assoc], ?_, ?_⟩, hl.trans hp.live⟩
  · rw [hn, hsince]
    obtain rfl | rfl := ht
    · exact hp.leg
    · obtain ⟨w, hw⟩ := hp.exists_waiting
      obtain hz | ha := (Bool.or_eq_true_iff).1 ha
      · obtain rfl : ticks = 0 := by simpa using hz
        exact hp.leg
      · rw [hp.stands.idleUntil_eq hw, hp.stands.call?, hw] at ha
        simp only [Bool.and_eq_true, Bool.not_eq_true'] at ha
        exact hp.leg.pass hw ha.1.1 ha.1.2 ha.2
  · rw [made_append, hmb, hm, List.append_nil]
  · rw [effects_append, heb, he, List.append_nil]

/-- The call is told of the deadline only when that has come. -/
theorem isExpired (hp : s.Paced p terms id a start h pt) (ht : s.Tells id w .timedOut c) :
    w.call.isExpired s.now = true := by
  cases ht with
  | answer _ ha =>
    unfold Waiting.admits at ha
    rw [hp.sails.not_interrupted w.call] at ha
    split at ha <;> simp_all
  | wake _ _ ho =>
    unfold Call.ownAnswer? at ho
    split at ho <;> (try split at ho) <;> simp_all

/-- The call is told something, and the attempt goes on or ends with its fate. -/
theorem tell (hp : s.Paced p terms id a start h pt) (hc : a.cursor = terms.cursor)
    (hd : a.deadline = deadlineFrom start limit) (ht : s.Tells id w ans c) (hs : s.step? c = some t)
    (hr : w.request.all (p.mayAnswer (sinceAsked id s.history) · ans) = true) :
    t.now = s.now ∧ ((∃ q, t.Paced p terms id a start h q ∧ q.rank < pt.rank)
      ∨ t.Over p terms id a start limit h) := by
  have hw := hp.stands.call?.symm.trans ht.call?
  obtain ⟨hnow, q, es, nx, hm, hst, hms⟩ := hp.stands.lands ht hs
    fun _ _ _ hw' hm =>
      Pump.goes_attempt_lands hp.stands.pump hp.leg.attempt? hc hw' (hp.stands.ne_cancelled ht) hm
  obtain ⟨before, hb, hmb, heb⟩ := hp.marks
  have hlive := liveClients_goes s.history w id ans es nx .start
  rw [← hms, hp.live] at hlive
  have hmade : PartitionConsumer.made (before ++ w.marks id ans ++ es.map (.did id) ++ nx.marks id .start)
      = pt.made ++ w.call.made ans := by
    simp [hmb, made_marks]
  have hseen : effects (before ++ w.marks id ans ++ es.map (.did id) ++ nx.marks id .start)
      = pt.asked terms ++ es := by
    simp [heb]
  have hhist : t.history
      = h ++ (before ++ w.marks id ans ++ es.map (.did id) ++ nx.marks id .start) := by
    rw [hms, hb]
    simp only [List.append_assoc]
  refine ⟨hnow, (hp.leg.moves hd hm hw hr (by rintro rfl; exact hp.isExpired ht)).imp ?_ ?_⟩
  · rintro ⟨hl, hrank⟩
    have hq := (hl 0 fun _ => rfl).attempt?
    obtain ⟨hqm, hqa, hql⟩ := hm.within hp.leg.attempt? hq hw
    refine ⟨q, ⟨hst, hnow.symm ▸ hl _ fun hr => ?_, ⟨_, hhist, hmade.trans hqm.symm,
      hseen.trans hqa.symm⟩, hlive.trans hql.symm⟩, hrank⟩
    obtain ⟨r, rfl⟩ := hm.exists_ask hp.leg.attempt? hq hr
    rw [hms]
    exact sinceAsked_of_ask ..
  · rintro ⟨f, n, hf, hn', hcl⟩
    have hends := hst.ends (hnow.symm ▸ hcl) hw hmade hseen hlive
    exact ⟨hst.attempt? ▸ hcl.attempt?_ne, f, n, hf, hnow.trans hn', _, hhist, hends⟩

end Paced
end Session
end PartitionConsumer
