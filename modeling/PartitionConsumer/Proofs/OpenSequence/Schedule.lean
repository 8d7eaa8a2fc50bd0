import PartitionConsumer.Proofs.OpenSequence.Conduct
/-!
# The schedule of an open

When the transport takes the time that the script says, and every timer is heeded on the tick, it is fixed from
any point of the sequence at which tick each attempt begins that is to come. If each of them comes to an end,
because it has a deadline where a step hangs, then so does the open.
-/
namespace PartitionConsumer

/-- The ticks since the call `id` has made its last request, after a mark. -/
def Mark.sinceAsked (id n : Nat) : Mark → Nat
  | .did j (.ask _) => if j = id then 0 else n
  | .passed ticks => n + ticks
  | _ => n

def sinceAsked (id : Nat) (h : List Mark) : Nat := h.foldl (Mark.sinceAsked id) 0

/-- The tick at which the attempt begins that follows `number` of them, the last of which was over at
`now`. -/
def Terms.resumesAt? (terms : Terms) (number now : Nat) : Option Nat :=
  match terms.options.retry.delay number (terms.draw number) with
  | .ok wait => some (if wait.isZero then now else wakeTime now wait)
  | .error _ => none

theorem Terms.resumesAt?_of_delay {terms : Terms} {number now : Nat} {wait : Span}
    (h : terms.options.retry.delay number (terms.draw number) = .ok wait) :
    terms.resumesAt? number now = some (if wait.isZero then now else wakeTime now wait) := by
  rw [resumesAt?, h]

/-- The tick at which a step is over that was asked for `since` ticks before `now`: when the answer is due, or
the deadline has come if there is none, and now if that is past. An answer counts whenever it is told; the
deadline ends only a step that has none. -/
def Turnout.overAt? (t : Turnout) (now since : Nat) (deadline : Option Nat) : Option Nat :=
  match t with
  | makes _ n | fails _ n => some (now + (n - since))
  | hangs => deadline.map (max now)

namespace Script

variable (k : Script) (terms : Terms)

/-- The tick at which an attempt is over that asked for its client `since` ticks before `now`. -/
def overAt? (now since : Nat) (deadline : Option Nat) : Option Nat :=
  ((k.client terms).overAt? now since deadline).bind fun later =>
    match (k.client terms).outcome with
    | .ok _ => (k.receiver terms).overAt? later 0 deadline
    | .error _ => some later

/-- The tick at which the next attempt begins after `begun` of them, the last of which was over at `now`. If
there is none then the sequence has ended. -/
def goesOnAt? (begun now : Nat) : Option Nat :=
  if begun < k.attempts terms then terms.resumesAt? begun now else some now

/-- The tick at which the sequence ends when there are `n` attempts to come after `begun` of them, and the
first of these begins at `start`. -/
def endsAt? (begun start : Nat) : Nat → Option Nat
  | 0 => some start
  | n + 1 =>
    (terms.options.attemptDeadline? start).bind fun deadline =>
      ((k.after terms begun).overAt? terms start 0 deadline).bind fun finish =>
        (k.goesOnAt? terms (begun + 1) finish).bind fun next => endsAt? (begun + 1) next n

end Script

namespace OpenStage

variable (terms : Terms) (rest : Script) (now since : Nat)

def overAt? : OpenStage → Option Nat
  | client a => rest.overAt? terms now since a.deadline
  | clientReady a (.ok _) => (rest.receivers 0).overAt? now 0 a.deadline
  | receiver a _ => (rest.receivers 0).overAt? now since a.deadline
  | _ => some now

def goesOnAt? (k : Script) (begun : Nat) : OpenStage → Option Nat
  | onOpen => some now
  | backoff _ wake => some (max now wake)
  | stage => (stage.overAt? terms rest now since).bind (k.goesOnAt? terms begun)

end OpenStage

/-- The tick at which the sequence ends of which `begun` attempts have begun, where `rest` is left of its
script. -/
def Session.endsAt? (k : Script) (terms : Terms) (id : Nat) (rest : Script) (begun : Nat) (s : Session) :
    Option Nat :=
  ((s.call? id).bind Waiting.opening?).bind fun stage =>
    (stage.goesOnAt? terms rest s.now (sinceAsked id s.history) k begun).bind fun start =>
      k.endsAt? terms begun start (k.attempts terms - begun)

theorem Pump.Sails.not_interrupted {terms : Terms} {p : Pump} (h : p.Sails terms) (c : Call) :
    c.isInterrupted p = false := by
  unfold Call.isInterrupted
  split
  · exact h.not_cancelled _
  · rfl

theorem Call.isExpired_of_deadline {c : Call} {a : Attempt} {tick now : Nat} (hc : c.attempt? = some a)
    (hd : a.deadline = some tick) (hn : tick ≤ now) : c.isExpired now = true := by
  obtain ⟨number, cursor, epoch, deadline⟩ := a
  obtain rfl : deadline = some tick := hd
  simp [isExpired, hc, hn]

namespace Session

structure Leads (k : Script) (terms : Terms) (id : Nat) (h : List Mark) (s : Session) (p : Point)
    (t : Session) (q : Point) : Prop where
  voyages : t.Voyages k terms id h q
  play : ∃ cs, (p.script k terms).play? terms id s cs = some (q.script k terms, t)
    ∧ q.epochs = p.epochs ++ gathered readings s cs

variable {k k' : Script} {terms : Terms} {id : Nat} {h : List Mark} {p q r : Point} {s t u : Session}
  {c : Cause}

theorem Leads.refl (hv : s.Voyages k terms id h p) : s.Leads k terms id h p s p :=
  ⟨hv, [], rfl, (List.append_nil _).symm⟩

theorem Leads.trans (h₁ : s.Leads k terms id h p t q) (h₂ : t.Leads k terms id h q u r) :
    s.Leads k terms id h p u r := by
  obtain ⟨cs, hcs, hp⟩ := h₁.play
  obtain ⟨ds, hds, hq⟩ := h₂.play
  refine ⟨h₂.voyages, cs ++ ds, (Script.play?_append hcs).trans hds, ?_⟩
  rw [hq, hp, gathered_append (Script.run_of_play? hcs), List.append_assoc]

namespace Voyages

theorem leads (hv : t.Voyages k terms id h q)
    (hn : (p.script k terms).next? terms id s c = some (q.script k terms)) (hs : s.step? c = some t)
    (he : q.epochs = p.epochs ++ s.readings c) : s.Leads k terms id h p t q := by
  refine ⟨hv, [c], Script.play?_cons hn hs, he.trans ?_⟩
  rw [gathered, hs]
  exact congrArg (_ ++ ·) (List.append_nil _).symm

/-- Time can pass. -/
theorem passes (hv : s.Voyages k terms id h p) {later : Nat} (hl : s.now ≤ later) :
    ∃ t, s.Leads k terms id h p t p ∧ t.now = later ∧ t.pump = s.pump := by
  have hs : s.step? (.pass (later - s.now))
      = some ({ s with now := s.now + (later - s.now) }.note [.passed _]) := rfl
  obtain ⟨hv', hr⟩ := hv.idle rfl hs
  exact ⟨_, hv'.leads rfl hs (by rw [hr, List.append_nil]), Nat.add_sub_cancel' hl, rfl⟩

/-- The answer in the script can be given at any time. -/
theorem answered {later : Nat} (hv : s.Voyages k terms id h p) (hl : s.now ≤ later) {stage : OpenStage}
    {request : Request} (a : Answer) (hw : p.waiting? terms = some ⟨.start, .start stage, some request⟩)
    (ha : Waiting.admits ⟨.start, .start stage, some request⟩ s.pump later a = true) (hn : a ≠ .cancelled)
    (hk : ((p.script k terms).heed? terms a request).isSome = true)
    (hr : (s.pump.resumeStart later stage a).isSome = true) :
    ∃ t q es, s.Leads k terms id h p t q ∧ t.now = later
      ∧ p.Moves terms later s.pump.lease.epoch a q es := by
  obtain ⟨u, hu, rfl, hp⟩ := hv.passes hl
  rw [← hp] at ha hr ⊢
  obtain ⟨k', hk⟩ := Option.isSome_iff_exists.1 hk
  have hcall := hu.voyages.call?.trans hw
  have hs : (u.step? (.answer id a)).isSome = true := by
    rw [(Tells.answer hcall ha).step?_eq, tell?, Option.isSome_map]
    exact hr
  obtain ⟨t, ht⟩ := Option.isSome_iff_exists.1 hs
  have hh : p.Hears k terms a k' := by
    rw [Point.Hears, hw]
    exact hk
  obtain ⟨hnow, q, es, hm, hv', rfl, he⟩ := hu.voyages.tell (.answer hcall ha) hn hh ht
  refine ⟨t, q, es, hu.trans (hv'.leads ?_ ht he), hnow, hm⟩
  rw [Script.next?, if_pos rfl, hcall]
  exact hk

/-- A call that waits for no request can go on at any time from its own on. -/
theorem woken {later : Nat} (hv : s.Voyages k terms id h p) (hl : s.now ≤ later) {stage : OpenStage}
    (a : Answer) (hw : p.waiting? terms = some ⟨.start, .start stage, none⟩)
    (ha : (Call.start stage).ownAnswer? s.pump later = some a) (hn : a ≠ .cancelled)
    (hr : (s.pump.resumeStart later stage a).isSome = true) :
    ∃ t q es, s.Leads k terms id h p t q ∧ t.now = later
      ∧ p.Moves terms later s.pump.lease.epoch a q es := by
  obtain ⟨u, hu, rfl, hp⟩ := hv.passes hl
  rw [← hp] at ha hr ⊢
  have hcall := hu.voyages.call?.trans hw
  have hs : (u.step? (.wake id)).isSome = true := by
    rw [(Tells.wake hcall rfl ha).step?_eq, tell?, Option.isSome_map]
    exact hr
  obtain ⟨t, ht⟩ := Option.isSome_iff_exists.1 hs
  have hh : p.Hears k terms a (p.script k terms) := by
    rw [Point.Hears, hw]
    rfl
  obtain ⟨hnow, q, es, hm, hv', hq, he⟩ := hu.voyages.tell (.wake hcall rfl ha) hn hh ht
  refine ⟨t, q, es, hu.trans (hv'.leads ?_ ht he), hnow, hm⟩
  rw [Script.next?, if_pos rfl, hq]

/-! ## The steps of an attempt -/

section Steps

variable {past : List Nat} {b : Attempt} {answer : Except TransportError Nat}
  {c n since later finish start tick : Nat} {e : TransportError} {es : List Effect}

/-- The client step can be answered at any time. -/
theorem client_answered (hv : s.Voyages k terms id h (.client past b)) (hl : s.now ≤ later)
    (ht : (k.after terms past.length).client terms ≠ .hangs) :
    ∃ t, s.Leads k terms id h (.client past b) t
        (.clientReady past b ((k.after terms past.length).client terms).outcome)
      ∧ t.now = later := by
  obtain ⟨t, q, es, hl, hn, hm⟩ := hv.answered hl (.client _) rfl
    (by simp [Waiting.admits, hv.pump.not_interrupted]) (by simp)
    (by rw [Script.heed?, Point.script, if_pos (Turnout.tells_client ht)]; rfl) rfl
  cases hm with
  | clientAnswered => exact ⟨t, hl, hn⟩

/-- One that is not answered ends at the deadline, or at once if that is past. -/
theorem client_late (hv : s.Voyages k terms id h (.client past b))
    (ht : (k.after terms past.length).client terms = .hangs) (hd : b.deadline = some tick) :
    ∃ t q es epoch, s.Leads k terms id h (.client past b) t q ∧ t.now = max s.now tick
      ∧ Point.Sequel terms (max s.now tick) epoch past b .attemptTimedOut q es := by
  have hx : (Call.start (.client b)).isExpired (max s.now tick) = true :=
    Call.isExpired_of_deadline rfl hd (Nat.le_max_right s.now tick)
  obtain ⟨t, q, es, hl, hn, hm⟩ := hv.answered (Nat.le_max_left s.now tick) .timedOut rfl
    (by simp [Waiting.admits, hv.pump.not_interrupted, hx]) (by simp)
    (by simp [Script.heed?, Point.script, ht, Turnout.tells]) rfl
  cases hm with
  | clientLate hm => exact ⟨t, q, es, _, hl, hn, hm⟩

/-- The client of a failed attempt can be closed. -/
theorem abandoned (hv : s.Voyages k terms id h (.abandon past b c e)) :
    ∃ t q es epoch, s.Leads k terms id h (.abandon past b c e) t q ∧ t.now = s.now
      ∧ Point.Sequel terms s.now epoch past b e q es := by
  obtain ⟨t, q, es, hl, hn, hm⟩ := hv.answered (Nat.le_refl _) (.released (.ok ())) rfl rfl (by simp) rfl rfl
  cases hm with
  | abandoned _ hm => exact ⟨t, q, es, _, hl, hn, hm⟩

/-- The receiver step can be answered at any time. -/
theorem receiver_answered (hv : s.Voyages k terms id h (.receiver past b c)) (hl : s.now ≤ later)
    (ht : (k.after terms past.length).receiver terms ≠ .hangs) :
    ∃ t, s.Leads k terms id h (.receiver past b c) t
        (.receiverReady past b c ((k.after terms past.length).receiver terms).outcome)
      ∧ t.now = later := by
  obtain ⟨t, q, es, hl, hn, hm⟩ := hv.answered hl (.receiver _) rfl
    (by simp [Waiting.admits, hv.pump.not_interrupted]) (by simp)
    (by rw [Script.heed?, Point.script, Script.receivers_dropClient hv.sound.2,
      if_pos (Turnout.tells_receiver ht)]; rfl) rfl
  cases hm with
  | receiverAnswered => exact ⟨t, hl, hn⟩

theorem receiver_late (hv : s.Voyages k terms id h (.receiver past b c))
    (ht : (k.after terms past.length).receiver terms = .hangs) (hd : b.deadline = some tick) :
    ∃ t, s.Leads k terms id h (.receiver past b c) t (.abandon past b c .attemptTimedOut)
      ∧ t.now = max s.now tick := by
  have hx : (Call.start (.receiver b c)).isExpired (max s.now tick) = true :=
    Call.isExpired_of_deadline rfl hd (Nat.le_max_right s.now tick)
  obtain ⟨t, q, es, hl, hn, hm⟩ := hv.answered (Nat.le_max_left s.now tick) .timedOut rfl
    (by simp [Waiting.admits, hv.pump.not_interrupted, hx]) (by simp)
    (by simp [Script.heed?, Point.script, Script.receivers_dropClient hv.sound.2, ht, Turnout.tells]) rfl
  cases hm with
  | receiverLate => exact ⟨t, hl, hn⟩

/-- The wait between two attempts can end at any time from its own on, and the next attempt begins. -/
theorem pause_over {epochs : List Nat} {wake : Nat} {deadline : Option Nat}
    (hv : s.Voyages k terms id h (.pause epochs b wake)) (hs : s.now ≤ later) (hw : wake ≤ later)
    (hd : terms.options.attemptDeadline? later = some deadline) :
    ∃ t b', s.Leads k terms id h (.pause epochs b wake) t (.client epochs b') ∧ t.now = later
      ∧ b'.deadline = deadline := by
  obtain ⟨t, q, es, hl, hn, hm⟩ := hv.woken hs .elapsed rfl
    (by simp [Call.ownAnswer?, hv.pump.stopping rfl, hw]) (by simp) rfl
  cases hm with
  | woken hd' => exact ⟨t, _, hl, hn, Option.some.inj (hd'.symm.trans hd)⟩
  | wokenLate hd' =>
    rw [hd] at hd'
    cases hd'

/-! ## How an attempt ends -/

/-- From `p` the attempt ends at this tick, with a connection or with an error that decides what follows. -/
inductive Ending (k : Script) (terms : Terms) (id : Nat) (h : List Mark) (past : List Nat) (b : Attempt)
    (s : Session) (p : Point) (tick : Nat) : Prop where
  | made {t : Session} {f : Finale} (hl : s.Leads k terms id h p t (.ended (past ++ [b.epoch]) f))
    (hn : t.now = tick) : Ending k terms id h past b s p tick
  | failed {t : Session} {q : Point} {es : List Effect} {e : TransportError} {epoch : Nat}
    (hl : s.Leads k terms id h p t q) (hn : t.now = tick)
    (ho : (k.after terms past.length).outcome terms = .error e)
    (hm : Point.Sequel terms tick epoch past b e q es) : Ending k terms id h past b s p tick

theorem Ending.after (hl : s.Leads k terms id h p t q) (he : Ending k terms id h past b t q tick) :
    Ending k terms id h past b s p tick := by
  cases he with
  | made hl' hn => exact .made (hl.trans hl') hn
  | failed hl' hn ho hm => exact .failed (hl.trans hl') hn ho hm

/-- When its client is closed, an attempt without a receiver has ended. -/
theorem abandon_ends (hv : s.Voyages k terms id h (.abandon past b c e)) :
    Ending k terms id h past b s (.abandon past b c e) s.now := by
  obtain ⟨-, hc, hr⟩ := hv.sound
  obtain ⟨t, q, es, epoch, hl, hn, hm⟩ := hv.abandoned
  exact .failed hl hn (Script.outcome_of_receiver hc hr) hm

theorem receiverReady_ends (hv : s.Voyages k terms id h (.receiverReady past b c answer)) :
    Ending k terms id h past b s (.receiverReady past b c answer) s.now := by
  obtain ⟨t, q, es, hl, hn, hm⟩ := hv.woken (Nat.le_refl _) .resume rfl rfl (by simp) rfl
  cases hm with
  | receiverMade => exact .made hl hn
  | receiverFailed => exact .after hl (hn ▸ hl.voyages.abandon_ends)

theorem receiver_ends (hv : s.Voyages k terms id h (.receiver past b c))
    (ho : ((k.after terms past.length).receiver terms).overAt? s.now since b.deadline = some tick) :
    Ending k terms id h past b s (.receiver past b c) tick := by
  cases hr : (k.after terms past.length).receiver terms with
  | makes r n | fails e n =>
    rw [hr] at ho
    obtain rfl := Option.some.inj ho
    obtain ⟨t, hl, hn⟩ := hv.receiver_answered (Nat.le_add_right s.now (n - since)) (by rw [hr]; nofun)
    exact .after hl (hn ▸ hl.voyages.receiverReady_ends)
  | hangs =>
    rw [hr] at ho
    obtain ⟨dl, hd, rfl⟩ := Option.map_eq_some_iff.1 ho
    obtain ⟨t, hl, hn⟩ := hv.receiver_late hr hd
    exact .after hl (hn ▸ hl.voyages.abandon_ends)

theorem clientReady_ends (hv : s.Voyages k terms id h (.clientReady past b answer))
    (ho : (match answer with
      | .ok _ => ((k.after terms past.length).receiver terms).overAt? s.now 0 b.deadline
      | .error _ => some s.now) = some tick) :
    Ending k terms id h past b s (.clientReady past b answer) tick := by
  obtain ⟨t, q, es, hl, hn, hm⟩ := hv.woken (Nat.le_refl _) .resume rfl rfl (by simp) rfl
  cases hm with
  | clientMade => exact .after hl (hl.voyages.receiver_ends (hn.symm ▸ ho))
  | clientFailed hm =>
    obtain rfl := Option.some.inj ho
    exact .failed hl hn (Script.outcome_of_client hv.sound.2) hm

/-- An attempt ends when its steps are answered, or at the deadline. -/
theorem client_ends (hv : s.Voyages k terms id h (.client past b))
    (ho : (k.after terms past.length).overAt? terms s.now since b.deadline = some tick) :
    Ending k terms id h past b s (.client past b) tick := by
  obtain ⟨later, hl, ho⟩ := Option.bind_eq_some_iff.1 ho
  cases hc : (k.after terms past.length).client terms with
  | makes c n | fails e n =>
    rw [hc] at hl ho
    obtain rfl := Option.some.inj hl
    obtain ⟨t, hl, hn⟩ := hv.client_answered (Nat.le_add_right s.now (n - since)) (by rw [hc]; nofun)
    rw [hc] at hl
    exact .after hl (hl.voyages.clientReady_ends (hn.symm ▸ ho))
  | hangs =>
    rw [hc] at hl ho
    obtain rfl := Option.some.inj ho
    obtain ⟨dl, hd, rfl⟩ := Option.map_eq_some_iff.1 hl
    obtain ⟨t, q, es, epoch, hl, hn, hm⟩ := hv.client_late hc hd
    exact .failed hl hn (Script.outcome_of_client (by rw [hc]; rfl)) hm

/-! ## How the sequence goes on -/

/-- From `p`, when `begun` attempts have begun, the sequence ends at the tick `start`, or else the next attempt
begins then if its deadline can be set. -/
inductive Onward (k : Script) (terms : Terms) (id : Nat) (h : List Mark) (begun : Nat) (s : Session) (p : Point)
    (start : Nat) : Prop where
  | ends {t : Session} {epochs : List Nat} {f : Finale} (hb : k.attempts terms = begun)
    (hl : s.Leads k terms id h p t (.ended epochs f)) (hn : t.now = start) : Onward k terms id h begun s p start
  | begins (hb : begun < k.attempts terms)
    (hl : ∀ deadline, terms.options.attemptDeadline? start = some deadline →
      ∃ t past b, s.Leads k terms id h p t (.client past b) ∧ t.now = start ∧ past.length = begun
        ∧ b.deadline = deadline) : Onward k terms id h begun s p start

/-- An attempt that ends is the last one, or leads to the next when the wait is over. -/
theorem Ending.onward (he : Ending k terms id h past b s p finish) (hk : k.Tries terms past b)
    (hg : k.goesOnAt? terms (past.length + 1) finish = some start) :
    Onward k terms id h (past.length + 1) s p start := by
  have hlen : (past ++ [b.epoch]).length = past.length + 1 := List.length_append
  -- the last attempt
  have last {t : Session} {f : Finale} (hl : s.Leads k terms id h p t (.ended (past ++ [b.epoch]) f))
      (hn : t.now = finish) : Onward k terms id h (past.length + 1) s p start := by
    have hall := hl.voyages.sound.1
    rw [hlen] at hall
    rw [Script.goesOnAt?, if_neg (by omega)] at hg
    obtain rfl := Option.some.inj hg
    exact .ends hall.symm hl hn
  cases he with
  | made hl hn => exact last hl hn
  | failed hl hn ho hm =>
    rename_i t q es e epoch
    -- if there is another then it begins when the wait is over
    have more (hf : e.isFenced = false) (hlim : b.number < terms.limit) :
        past.length + 1 < k.attempts terms ∧ terms.resumesAt? b.number finish = some start := by
      have hmore := (hk.snoc (c := { b with number := b.number + 1 }) ho hf hlim rfl rfl).lt_attempts
      rw [hlen] at hmore
      rw [Script.goesOnAt?, if_pos hmore, ← hk.number] at hg
      exact ⟨hmore, hg⟩
    cases hm with
    | fenced | exhausted => exact last hl hn
    | again hf hlim hw hz hd =>
      obtain ⟨hmore, hg⟩ := more hf hlim
      rw [Terms.resumesAt?_of_delay hw, if_pos hz] at hg
      obtain rfl := Option.some.inj hg
      exact .begins hmore fun deadline hdl =>
        ⟨t, _, _, hl, hn, hlen, Option.some.inj (hd.symm.trans hdl)⟩
    | pause hf hlim hw hz =>
      obtain ⟨hmore, hg⟩ := more hf hlim
      rw [Terms.resumesAt?_of_delay hw, if_neg (by rw [hz]; exact Bool.false_ne_true)] at hg
      obtain rfl := Option.some.inj hg
      refine .begins hmore fun deadline hdl => ?_
      obtain ⟨u, b', hu, hnow, hd⟩ := hl.voyages.pause_over (hn ▸ le_wakeTime ..) (Nat.le_refl _) hdl
      exact ⟨u, _, b', hl.trans hu, hnow, hlen, hd⟩
    | late hf hlim hd =>
      obtain ⟨hmore, hg⟩ := more hf hlim
      obtain ⟨e', hw⟩ | ⟨wait, hw, hz, hd⟩ := hd
      · rw [Terms.resumesAt?, hw] at hg
        cases hg
      · rw [Terms.resumesAt?_of_delay hw, if_pos hz] at hg
        obtain rfl := Option.some.inj hg
        exact .begins hmore fun deadline hdl => absurd (hd.symm.trans hdl) nofun

/-- Wherever the sequence stands, it goes on to its end or to the next attempt. -/
theorem onward {stage : OpenStage} {request : Option Request} (hv : s.Voyages k terms id h p)
    (hw : p.waiting? terms = some ⟨.start, .start stage, request⟩) (hp : ∀ epochs f, p ≠ .ended epochs f)
    (hg : stage.goesOnAt? terms (p.script k terms) s.now since k p.epochs.length = some start) :
    Onward k terms id h p.epochs.length s p start := by
  have hsound := hv.sound
  have hlen {past : List Nat} {b : Attempt} : (past ++ [b.epoch]).length = past.length + 1 := List.length_append
  cases p with
  | ended epochs f => exact absurd rfl (hp epochs f)
  | dead => cases hw
  | hook =>
    cases hw
    obtain rfl := Option.some.inj hg
    obtain ⟨t, q, es, hl, hnow, hm⟩ := hv.answered (Nat.le_refl _) (.hook (.ok ())) rfl rfl (by simp) rfl rfl
    cases hm with
    | refused hc => exact .ends hl.voyages.sound.1.symm hl hnow
    | begin hc hd =>
      refine .begins hl.voyages.sound.lt_attempts fun deadline hdl => ?_
      exact ⟨t, _, _, hl, hnow, rfl, Option.some.inj (hd.symm.trans hdl)⟩
    | beginLate hc hd =>
      refine .begins ?_ fun deadline hdl => absurd (hd.symm.trans hdl) nofun
      rw [Script.attempts, hc]
      exact Nat.succ_pos _
  | pause epochs b wake =>
    cases hw
    obtain rfl := Option.some.inj hg
    refine .begins hsound.lt_attempts fun deadline hdl => ?_
    obtain ⟨t, b', hl, hnow, hd⟩ := hv.pause_over (Nat.le_max_left ..) (Nat.le_max_right ..) hdl
    exact ⟨t, _, b', hl, hnow, rfl, hd⟩
  | client past b =>
    cases hw
    obtain ⟨finish, ho, hg⟩ := Option.bind_eq_some_iff.1 hg
    rw [Point.epochs, hlen] at hg ⊢
    exact (hv.client_ends ho).onward hsound hg
  | clientReady past b answer =>
    cases hw
    obtain ⟨finish, ho, hg⟩ := Option.bind_eq_some_iff.1 hg
    rw [Point.epochs, hlen] at hg ⊢
    refine (hv.clientReady_ends ?_).onward hsound.1 hg
    cases answer with
    | error e => exact ho
    | ok c => rwa [OpenStage.overAt?, Point.script, Script.receivers_dropClient hsound.2] at ho
  | receiver past b c =>
    cases hw
    obtain ⟨finish, ho, hg⟩ := Option.bind_eq_some_iff.1 hg
    rw [Point.epochs, hlen] at hg ⊢
    rw [OpenStage.overAt?, Point.script, Script.receivers_dropClient hsound.2] at ho
    exact (hv.receiver_ends ho).onward hsound.1 hg
  | receiverReady past b c answer =>
    cases hw
    rw [Point.epochs, hlen] at hg ⊢
    exact hv.receiverReady_ends.onward hsound.1 hg
  | abandon past b c e =>
    cases hw
    rw [Point.epochs, hlen] at hg ⊢
    exact hv.abandon_ends.onward hsound.1 hg

/-- The sequence comes to its end, on schedule. -/
theorem Onward.comes_to_end {begun n : Nat} (ho : Onward k terms id h begun s p start)
    (hn : k.attempts terms - begun = n) (he : k.endsAt? terms begun start n = some tick) :
    ∃ t epochs f, s.Leads k terms id h p t (.ended epochs f) ∧ t.now = tick := by
  induction n generalizing begun s p start with
  | zero =>
    obtain rfl := Option.some.inj he
    cases ho with
    | ends hb hl hnow => exact ⟨_, _, _, hl, hnow⟩
    | begins hb => omega
  | succ n ih =>
    cases ho with
    | ends hb => omega
    | begins hb hbegins =>
      obtain ⟨deadline, hd, hrest⟩ := Option.bind_eq_some_iff.1 he
      obtain ⟨finish, ho, hrest⟩ := Option.bind_eq_some_iff.1 hrest
      obtain ⟨next, hg, hnext⟩ := Option.bind_eq_some_iff.1 hrest
      obtain ⟨t, past, b, hl, rfl, rfl, rfl⟩ := hbegins deadline hd
      have hon := (hl.voyages.client_ends ho).onward hl.voyages.sound hg
      obtain ⟨u, epochs, f, hl', hnow⟩ := ih hon (by omega) hnext
      exact ⟨u, epochs, f, hl.trans hl', hnow⟩

/-- From wherever it stands the sequence comes to its end, on schedule. -/
theorem comes_to_end (hv : s.Voyages k terms id h p) (hp : ∀ epochs f, p ≠ .ended epochs f)
    (he : s.endsAt? k terms id (p.script k terms) p.epochs.length = some tick) :
    ∃ t epochs f, s.Leads k terms id h p t (.ended epochs f) ∧ t.now = tick := by
  obtain ⟨stage, hs, he⟩ := Option.bind_eq_some_iff.1 he
  obtain ⟨start, hg, he⟩ := Option.bind_eq_some_iff.1 he
  obtain ⟨w, hw, hs⟩ := Option.bind_eq_some_iff.1 hs
  obtain ⟨errand, call, request⟩ := w
  obtain rfl := Call.eq_start_of_opening? hs
  have hw := hv.call?.symm.trans hw
  obtain ⟨rfl, -⟩ := Point.exists_stage hw
  exact (hv.onward hw hp hg).comes_to_end rfl he

end Steps
end Voyages
end Session
end PartitionConsumer
