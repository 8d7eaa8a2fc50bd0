import PartitionConsumer.Proofs.Deadline.Approach
/-!
# One deadline for an attempt

Both steps of an attempt have the same deadline, which is set once when the attempt begins. So at a pace at which
the client takes `c` and the receiver `r` the attempt succeeds if `c + r` is within the limit, and otherwise fails
when the limit is over, with or without a client; without a limit it takes `c + r`.
-/
namespace PartitionConsumer

/-- Of `k` ticks so many can pass as there is room for. -/
theorem exists_room {o : Option Nat} {b k : Nat} (h : ∀ n, o = some n → b ≤ n) :
    ∃ j, j ≤ k ∧ (∀ n, o = some n → b + j ≤ n) ∧ (j = k ∨ o = some (b + j)) := by
  cases o with
  | none => exact ⟨k, Nat.le_refl k, nofun, .inl rfl⟩
  | some n =>
    have hb := h n rfl
    obtain hk | hk := Nat.le_total (b + k) n
    · exact ⟨k, Nat.le_refl k, fun _ hn => Option.some.inj hn ▸ hk, .inl rfl⟩
    · refine ⟨n - b, by omega, fun _ hn => ?_, .inr (congrArg some (by omega))⟩
      obtain rfl := Option.some.inj hn
      omega

/-- A delay and a timer, both to come: time can pass up to the first of them, or up to `m`. -/
theorem first_due {delay timer : Option Nat} {since now m : Nat} (hw : ∀ n, delay = some n → since ≤ n)
    (hd : ∀ tick, timer = some tick → now ≤ tick) (hm : now ≤ m) :
    ∃ ticks, now + ticks ≤ m ∧ (∀ n, delay = some n → since + ticks ≤ n)
      ∧ (∀ tick, timer = some tick → now + ticks ≤ tick)
      ∧ (now + ticks = m ∨ delay = some (since + ticks) ∨ timer = some (now + ticks)) := by
  obtain ⟨i, hi, hwi, hdi⟩ := exists_room (k := m - now) hw
  obtain ⟨j, hj, htj, hdj⟩ := exists_room (k := i) hd
  refine ⟨j, by omega, fun n hn => Nat.le_trans (Nat.add_le_add_left hj since) (hwi n hn), htj, ?_⟩
  obtain rfl | hdj := hdj
  · exact hdi.imp (by omega) .inl
  · exact .inr (.inr hdj)

def Point.reply : Point → Answer
  | client .. => .client (.ok 0)
  | receiver .. => .receiver (.ok 0)
  | abandon .. => .released (.ok ())
  | _ => .resume

namespace Pace

variable {p : Pace} {a : Attempt} {start limit now since : Nat} {pt : Point} {terms : Terms} {w : Waiting}

theorem Leg.since_le (hl : p.Leg a start now since pt) (hw : pt.waiting? terms = some w) :
    ∀ n, w.request.bind p.ticks? = some n → since ≤ n := by
  cases hl with
  | client past hn hc hle =>
    obtain rfl := Option.some.inj hw
    exact hc
  | receiver past k hc hn hk hle =>
    obtain rfl := Option.some.inj hw
    exact hk
  | abandon past k hc hz =>
    intro n _
    exact hz ▸ Nat.zero_le n
  | clientReady | receiverReady =>
    obtain rfl := Option.some.inj hw
    nofun

theorem Leg.now_le (hl : p.Leg a start now since pt) (hw : pt.waiting? terms = some w) :
    ∀ tick, w.call.timer? = some tick → now ≤ tick := by
  cases hl with
  | client past hn hc hle | receiver past k hc hn hk hle =>
    obtain rfl := Option.some.inj hw
    exact hle
  | abandon | clientReady | receiverReady =>
    obtain rfl := Option.some.inj hw
    nofun

/-- The fate is met when both steps have been answered, or at the limit. -/
theorem time_of_fate {f : Fate} {n : Nat} (hf : p.fate limit = some (f, n)) :
    (∃ c r, p.client = some c ∧ p.receiver = some r ∧ n = c + r) ∨ 0 < limit ∧ n = limit := by
  unfold fate at hf
  split at hf
  · split at hf
    · obtain rfl := (Prod.mk.inj (Option.some.inj hf)).2
      exact .inl ⟨_, _, ‹_›, ‹_›, rfl⟩
    · cases hf
  · have hpos := Nat.pos_of_ne_zero ‹_›
    repeat' split at hf
    all_goals obtain rfl := (Prod.mk.inj (Option.some.inj hf)).2
    · exact .inl ⟨_, _, ‹_›, ‹_›, rfl⟩
    all_goals exact .inr ⟨hpos, rfl⟩

/-- An attempt that goes on is not beyond its fate. -/
theorem Leg.le_fate (hl : p.Leg a start now since pt) (hd : a.deadline = deadlineFrom start limit) {f : Fate}
    {n : Nat} (hf : p.fate limit = some (f, n)) : now ≤ start + n := by
  obtain ⟨c, r, hc, hr, rfl⟩ | ⟨hpos, rfl⟩ := time_of_fate hf
  · cases hl with
    | client past hn hw hle =>
      have := hw c hc
      omega
    | clientReady past k hc' hn hle =>
      obtain rfl := Option.some.inj (hc.symm.trans hc')
      omega
    | receiver past k hc' hn hw hle =>
      obtain rfl := Option.some.inj (hc.symm.trans hc')
      have := hw r hr
      omega
    | receiverReady past k j hc' hr' hn hle =>
      obtain rfl := Option.some.inj (hc.symm.trans hc')
      obtain rfl := Option.some.inj (hr.symm.trans hr')
      omega
    | abandon past k hc' hz hdn hle hk =>
      obtain rfl := Option.some.inj (hc.symm.trans hc')
      have := hk r hr
      omega
  · have hdl := hd.trans (deadlineFrom_eq_some.2 ⟨hpos, rfl⟩)
    cases hl with
    | client past hn hw hle | clientReady past k hc hn hle | receiver past k hc hn hw hle
    | receiverReady past k j hc hr hn hle => exact hle _ hdl
    | abandon past k hc hz hdn hle hk => exact (Option.some.inj (hdn.symm.trans hdl)).le

end Pace

namespace Session

variable {p : Pace} {terms : Terms} {id start limit m : Nat} {a : Attempt} {h : List Mark} {pt : Point}
  {s t u : Session} {c : Cause} {cs : List Cause} {w : Waiting} {ans : Answer}

/-- A run at the pace leads to the time `m` with the attempt still under way, or to its end. -/
def Extends (p : Pace) (terms : Terms) (id : Nat) (a : Attempt) (start limit : Nat) (h : List Mark) (m : Nat)
    (s : Session) : Prop :=
  ∃ cs t, p.Leads id a s cs t
    ∧ ((∃ q, t.Paced p terms id a start h q) ∧ t.now = m ∨ t.Over p terms id a start limit h)

theorem Extends.cons (ht : t.Extends p terms id a start limit h m) (ha : s.attempt? id = some a)
    (hc : p.admits id s c = true) (hs : s.step? c = some t) : s.Extends p terms id a start limit h m := by
  obtain ⟨cs, u, hl, hend⟩ := ht
  exact ⟨c :: cs, u, hl.cons ha hc hs, hend⟩

namespace Paced

/-! ## Runs at the pace -/

/-- An attempt that has just begun is on its first leg. -/
theorem of_begun {past : List Nat} (hs : s.Stands terms id (.client past a))
    (hn : sinceAsked id s.history = 0) (hd : a.deadline = deadlineFrom s.now limit)
    (hl : liveClients s.history = []) : s.Paced p terms id a s.now s.history (.client past a) := by
  refine ⟨hs, ?_, ⟨[], (List.append_nil _).symm, rfl, rfl⟩, hl⟩
  rw [hn]
  refine .client past rfl (fun _ _ => Nat.zero_le _) fun tick htick => ?_
  obtain ⟨-, rfl⟩ := deadlineFrom_eq_some.1 (hd.symm.trans htick)
  exact Nat.le_add_right ..

/-- A step at the pace leaves the attempt where it is, or takes it on, or to its fate. -/
theorem step (hp : s.Paced p terms id a start h pt) (hc : a.cursor = terms.cursor)
    (hd : a.deadline = deadlineFrom start limit) (ha : p.admits id s c = true) (hs : s.step? c = some t) :
    (∃ q, t.Paced p terms id a start h q) ∨ t.Over p terms id a start limit h := by
  have told (hid : c.id? = some id) (hr : ∀ w ans, s.Tells id w ans c →
      w.request.all (p.mayAnswer (sinceAsked id s.history) · ans) = true) (hdrop : c ≠ .drop id) :
      (∃ q, t.Paced p terms id a start h q) ∨ t.Over p terms id a start limit h := by
    obtain ⟨w, hw, hdr | ⟨ans, ht⟩⟩ := tells_of_step? hid hs
    · exact absurd hdr hdrop
    · exact (hp.tell hc hd ht hs (hr w ans ht)).2.imp_left fun ⟨q, hq, _⟩ => ⟨q, hq⟩
  cases c with
  | start | bump | pass => exact .inl ⟨pt, hp.idle ha rfl hs⟩
  | answer j b =>
    obtain ⟨hj, hb⟩ := Bool.and_eq_true_iff.1 ha
    obtain rfl := eq_of_beq hj
    refine told rfl (fun w ans ht => ?_) nofun
    rw [ht.call?] at hb
    cases ht with
    | answer => exact hb
  | wake j =>
    obtain rfl := eq_of_beq ha
    refine told rfl (fun w ans ht => ?_) nofun
    cases ht with
    | wake _ hr => rw [hr]; rfl
  | _ => cases ha

/-- In a run at the pace it is known where the attempt stands, or it has come to its fate. -/
theorem course (hp : s.Paced p terms id a start h pt) (hc : a.cursor = terms.cursor)
    (hd : a.deadline = deadlineFrom start limit) (hl : p.Leads id a s cs t) :
    (∃ q, t.Paced p terms id a start h q) ∨ t.Over p terms id a start limit h := by
  induction cs generalizing s pt with
  | nil =>
    obtain rfl := Option.some.inj hl.run
    exact .inl ⟨pt, hp⟩
  | cons c cs ih =>
    obtain ⟨v, -, ha, hs, hl⟩ := hl.exists_step
    obtain ⟨q, hq⟩ | ho := hp.step hc hd ha hs
    · exact ih hq hl
    · cases cs with
      | nil =>
        obtain rfl := Option.some.inj hl.run
        exact .inr ho
      | cons c' cs =>
        obtain ⟨-, hv, -⟩ := hl.exists_step
        exact absurd hv ho.attempt

/-! ## Going on -/

/-- A call does not go on by itself while its request is open and its timer has not fired. -/
theorem not_isReady (hp : s.Paced p terms id a start h pt) (hw : pt.waiting? terms = some w)
    (hr : w.request.isSome = true) (ht : ∀ tick, w.call.timer? = some tick → s.now < tick) :
    w.isReady s.pump s.now = false := by
  have hcall := hp.stands.call?.trans hw
  have hc : w.admits s.pump s.now .cancelled = false :=
    Bool.eq_false_iff.2 fun ha => hp.stands.ne_cancelled (.answer hcall ha) rfl
  have hd : w.admits s.pump s.now .timedOut = false := by
    refine Bool.eq_false_iff.2 fun ha => ?_
    obtain ⟨tick, htick, hle⟩ := Call.timer?_of_isExpired (hp.isExpired (.answer hcall ha))
    exact Nat.not_lt.2 hle (ht tick htick)
  simp [Waiting.isReady, hc, hd, Option.isSome_iff_ne_none.1 hr]

/-- Time can pass as long as the request may be open and the timer has not fired. -/
theorem passes (hp : s.Paced p terms id a start h pt) (hw : pt.waiting? terms = some w) {ticks : Nat}
    (hr : w.request.isSome = true)
    (hn : ∀ n, w.request.bind p.ticks? = some n → sinceAsked id s.history + ticks ≤ n)
    (ht : ∀ tick, w.call.timer? = some tick → s.now + ticks ≤ tick) :
    ∃ t, s.step? (.pass ticks) = some t ∧ p.admits id s (.pass ticks) = true ∧ t.now = s.now + ticks
      ∧ sinceAsked id t.history = sinceAsked id s.history + ticks ∧ t.Paced p terms id a start h pt := by
  have ha : p.admits id s (.pass ticks) = true := by
    obtain rfl | hpos := Nat.eq_zero_or_pos ticks
    · rfl
    · have hready := hp.not_isReady hw hr fun tick h => by
        have := ht tick h
        omega
      have htimer : w.call.timer?.all (s.now + ticks ≤ ·) = true :=
        (Option.all_eq_true ..).2 fun tick h => decide_eq_true (ht tick h)
      obtain ⟨r, hr⟩ := Option.isSome_iff_exists.1 hr
      have hwait : p.mayWait (sinceAsked id s.history + ticks) r = true :=
        (Option.all_eq_true ..).2 fun n h => decide_eq_true (hn n (by rw [hr]; exact h))
      simp [Pace.admits, hp.stands.idleUntil_eq hw, hp.stands.call?, hw, hready, htimer, hr, hwait]
  exact ⟨_, rfl, ha, rfl, sinceAsked_append .., hp.idle ha rfl rfl⟩

/-- The call can be told what it may be told. -/
theorem told (hp : s.Paced p terms id a start h pt) (hc : a.cursor = terms.cursor)
    (hd : a.deadline = deadlineFrom start limit) (ht : s.Tells id w ans c)
    (hm : (s.pump.resume s.now w.call ans).isSome = true)
    (hr : w.request.all (p.mayAnswer (sinceAsked id s.history) · ans) = true) :
    ∃ t, s.step? c = some t ∧ p.admits id s c = true ∧ t.now = s.now
      ∧ ((∃ q, t.Paced p terms id a start h q ∧ q.rank < pt.rank) ∨ t.Over p terms id a start limit h) := by
  have hs : (s.step? c).isSome = true := by
    rw [ht.step?_eq, tell?, Option.isSome_map]
    exact hm
  obtain ⟨t, hs⟩ := Option.isSome_iff_exists.1 hs
  refine ⟨t, hs, ?_, hp.tell hc hd ht hs hr⟩
  cases ht with
  | answer hw => simp [Pace.admits, hw, hr]
  | wake => simp [Pace.admits]

/-- The call can be told what it waits for when the time for that has come. -/
theorem replied (hp : s.Paced p terms id a start h pt) (hw : pt.waiting? terms = some w)
    (hn : ∀ r, w.request = some r → p.ticks? r = some (sinceAsked id s.history)) :
    ∃ c, s.Tells id w pt.reply c ∧ (s.pump.resume s.now w.call pt.reply).isSome = true
      ∧ w.request.all (p.mayAnswer (sinceAsked id s.history) · pt.reply) = true := by
  have hcall := hp.stands.call?.trans hw
  have hi := hp.sails.not_interrupted w.call
  have hl := hp.leg
  cases hl with
  | client | receiver | abandon =>
    obtain rfl := Option.some.inj hw
    refine ⟨_, .answer hcall (by simp [Waiting.admits, Point.reply, hi]), rfl, ?_⟩
    simp [Pace.mayAnswer, Point.reply, hn _ rfl]
  | clientReady | receiverReady =>
    obtain rfl := Option.some.inj hw
    exact ⟨_, .wake hcall rfl rfl, rfl, rfl⟩

/-- The call can be told that its deadline has come, if there is no answer then. -/
theorem expired (hp : s.Paced p terms id a start h pt) (hw : pt.waiting? terms = some w)
    (ht : w.call.timer? = some s.now)
    (hn : ∀ r, w.request = some r → p.ticks? r ≠ some (sinceAsked id s.history)) :
    ∃ c, s.Tells id w .timedOut c ∧ (s.pump.resume s.now w.call .timedOut).isSome = true
      ∧ w.request.all (p.mayAnswer (sinceAsked id s.history) · .timedOut) = true := by
  have hcall := hp.stands.call?.trans hw
  have hi := hp.sails.not_interrupted w.call
  have hl := hp.leg
  cases hl with
  | client =>
    obtain rfl := Option.some.inj hw
    have hx : (Call.start (.client a)).isExpired s.now = true :=
      Call.isExpired_of_deadline rfl ht (Nat.le_refl _)
    exact ⟨_, .answer hcall (by simp [Waiting.admits, hi, hx]), rfl, by simp [Pace.mayAnswer, hn _ rfl]⟩
  | receiver past k =>
    obtain rfl := Option.some.inj hw
    have hx : (Call.start (.receiver a k)).isExpired s.now = true :=
      Call.isExpired_of_deadline rfl ht (Nat.le_refl _)
    exact ⟨_, .answer hcall (by simp [Waiting.admits, hi, hx]), rfl, by simp [Pace.mayAnswer, hn _ rfl]⟩
  | abandon | clientReady | receiverReady =>
    obtain rfl := Option.some.inj hw
    cases ht

/-- The attempt can go on up to any time, unless it comes to its fate before. -/
theorem goes_on {s : Session} {pt : Point} (hp : s.Paced p terms id a start h pt) (hc : a.cursor = terms.cursor)
    (hd : a.deadline = deadlineFrom start limit) (hm : s.now ≤ m) :
    s.Extends p terms id a start limit h m := by
  obtain ⟨w, hw⟩ := hp.exists_waiting
  -- from a call that can be told something the attempt goes on to a later point, or ends
  have on {u : Session} {ans : Answer} (hu : u.Paced p terms id a start h pt) (hle : u.now ≤ m)
      (ht : ∃ c, u.Tells id w ans c ∧ (u.pump.resume u.now w.call ans).isSome = true
        ∧ w.request.all (p.mayAnswer (sinceAsked id u.history) · ans) = true) :
      u.Extends p terms id a start limit h m := by
    obtain ⟨c, ht, hmv, hr⟩ := ht
    obtain ⟨v, hs, hadm, hnow, ⟨q, hq, hrank⟩ | ho⟩ := hu.told hc hd ht hmv hr
    · exact (goes_on hq hc hd (hnow.symm ▸ hle)).cons hu.attempt? hadm hs
    · exact ⟨[c], v, (Pace.Leads.refl v).cons hu.attempt? hadm hs, .inr ho⟩
  cases hreq : w.request with
  | none => exact on hp hm (hp.replied hw fun r hr => absurd (hreq.symm.trans hr) nofun)
  | some r =>
    obtain ⟨ticks, hle, hn, ht, hdue⟩ := first_due (hp.leg.since_le hw) (hp.leg.now_le hw) hm
    obtain ⟨u, hs, hadm, hnow, hsince, hu⟩ := hp.passes hw (by rw [hreq]; rfl) hn ht
    refine Extends.cons ?_ hp.attempt? hadm hs
    rw [hreq, ← hnow, ← hsince] at hdue
    rw [← hnow] at hle
    have only {P : Request → Prop} (hP : P r) (r' : Request) (hr : w.request = some r') : P r' :=
      Option.some.inj (hreq.symm.trans hr) ▸ hP
    by_cases hrep : p.ticks? r = some (sinceAsked id u.history)
    · exact on hu hle (hu.replied hw (only hrep))
    · obtain hnow | hdue | hdue := hdue
      · exact ⟨[], u, .refl u, .inl ⟨⟨pt, hu⟩, hnow⟩⟩
      · exact absurd hdue hrep
      · exact on hu hle (hu.expired hw hdue (only hrep))
termination_by pt.rank

/-- What is known of an attempt that goes on. -/
theorem underWay (hp : s.Paced p terms id a start h pt) (hc : a.cursor = terms.cursor)
    (hd : a.deadline = deadlineFrom start limit) : s.UnderWay p terms id a start limit h where
  attempt := hp.attempt?
  ends f n hf := by
    have hle := hp.leg.le_fate hd hf
    obtain ⟨cs, t, hl, ⟨⟨q, hq⟩, hnow⟩ | ho⟩ :=
      hp.goes_on hc hd (Nat.le_trans hle (Nat.le_add_right (start + n) 1))
    · exact absurd (hnow ▸ hq.leg.le_fate hd hf) (Nat.not_succ_le_self _)
    · exact ⟨hle, cs, t, hl, ho⟩
  waits hf m hm := by
    obtain ⟨cs, t, hl, ⟨⟨q, hq⟩, hnow⟩ | ho⟩ := hp.goes_on hc hd hm
    · exact ⟨cs, t, hl, hq.attempt?, hnow⟩
    · obtain ⟨f, n, hf', -⟩ := ho.fate
      cases hf.symm.trans hf'

end Paced

end Session

section Main

variable {terms : Terms} {lease : Lease} {wire : String}

/-- One deadline covers an attempt. Whenever an attempt begins in an open that nobody cuts short, in `u` with the
cause `x`, and the transport then serves it at the pace `p`, the attempt is under way until the time of its fate
has come, it can come to its end at that time, and that is when and how it ends. The fate is reckoned from the
whole time of both steps: within a limit of `d` the attempt succeeds after `c + r` if that is not beyond the limit,
and otherwise fails at the limit itself with a timeout, which is published as one of the failures that another
attempt may follow. If the client was late then nothing was made and no receiver asked for, and else the client was
made and closed after one request for a receiver. Without a limit it takes `c + r`, or goes on for ever. -/
theorem deadline_covers_attempt {cs : List Cause} {x : Cause} {v u : Session} {id d : Nat} {a : Attempt}
    (h : (Session.new (.new terms.context lease terms.options wire terms.draw)).run cs = some v)
    (hu : v.step? x = some u) (hc : cs.all Cause.isUnhindered = true) (hx : x.isUnhindered = true)
    (hb : v.attempt? id ≠ some a) (ha : u.attempt? id = some a)
    (hd : terms.options.attemptTimeout = .ofMillis d) (p : Pace) :
    ∀ es y, p.Leads id a u es y →
      y.UnderWay p terms id a u.now d u.history ∨ y.Over p terms id a u.now d u.history := by
  obtain ⟨past, hst, hcur, hdl, hn⟩ := (Session.Unhindered.of_run h hc).begins hx hu hb ha
  have hdl := Options.attemptDeadline?_ofMillis hd hdl
  have hlive : liveClients u.history = [] :=
    (Session.Sole.of_run (Session.run_snoc h hu)).opener_of_call hst.call? rfl
  have hp : u.Paced p terms id a u.now u.history (.client past a) := .of_begun hst hn hdl hlive
  intro es y hl
  obtain ⟨q, hq⟩ | ho := hp.course hcur hdl hl
  · exact .inl (hq.underWay hcur hdl)
  · exact .inr ho

/-- A transport that takes longer for a receiver than is left of a second when the client is there. -/
def Pace.slow : Pace := ⟨some 400, some 700⟩

/-- An attempt of a second at this pace. -/
def Pace.slowRun : List Cause :=
  [.pass 400, .answer 0 (.client (.ok 7)), .wake 0, .pass 600, .answer 0 .timedOut, .answer 0 (.released (.ok ()))]

/-- The first attempt has its client after 400 ticks, and no receiver 600 ticks later. -/
theorem deadline_covers_attempt_without_receiver :
    ∃ v u y ms, (Session.new (.new Terms.sample.context ⟨"0", "h", 1⟩ Terms.sample.options "mock"
        Terms.sample.draw)).run [.start, .pass 3] = some v
      ∧ v.step? (.answer 0 (.hook (.ok ()))) = some u ∧ u.run Pace.slowRun = some y
      ∧ y.now = u.now + 1000 ∧ y.history = u.history ++ ms
      ∧ y.Ends .sample 0 ⟨1, .timestamp ⟨0⟩, 1, some 1003⟩ .noReceiver ms := by
  have hr : ((Session.new (.new Terms.sample.context ⟨"0", "h", 1⟩ Terms.sample.options "mock"
        Terms.sample.draw)).run [.start, .pass 3]).bind (fun v =>
      (v.step? (.answer 0 (.hook (.ok ())))).bind fun u => (u.run Pace.slowRun).map fun y =>
        (v.attempt? 0, u.attempt? 0, y.attempt? 0,
          Pace.slow.keeps 0 ⟨1, .timestamp ⟨0⟩, 1, some 1003⟩ u Pace.slowRun))
      = some (none, some ⟨1, .timestamp ⟨0⟩, 1, some 1003⟩, none, true) := by decide +kernel
  obtain ⟨v, hv, hr⟩ := Option.bind_eq_some_iff.1 hr
  obtain ⟨u, hu, hr⟩ := Option.bind_eq_some_iff.1 hr
  obtain ⟨y, hy, hr⟩ := Option.map_eq_some_iff.1 hr
  simp only [Prod.mk.injEq] at hr
  obtain ⟨hb, ha, hover, hk⟩ := hr
  obtain hway | hend := deadline_covers_attempt hv hu rfl rfl (by simp [hb]) ha
    (by decide : Terms.sample.options.attemptTimeout = .ofMillis 1000) .slow _ y ⟨hy, hk⟩
  · exact absurd (hover.symm.trans hway.attempt) nofun
  · obtain ⟨f, n, hf, hn, ms, hms, hends⟩ := hend.fate
    obtain ⟨rfl, rfl⟩ := Prod.mk.inj (Option.some.inj hf)
    exact ⟨v, u, y, ms, hv, hu, hy, hn, hms, hends⟩

end Main
end PartitionConsumer
