import PartitionConsumer.Proofs.OpenSequence.Route
/-!
# The moves of an open that nobody cuts short

While no shutdown is requested, each stage of the opening call leads to the next point of its route, unless
the call dies because a time cannot be computed.
-/
namespace PartitionConsumer

namespace Pump

/-- The pump opens on these terms, and nobody has asked for a shutdown. -/
structure Sails (terms : Terms) (p : Pump) : Prop where
  status : p.status = .opening
  stopping : p.stopping = false
  passed : p.passed = none
  revoked : p.attempts.revoked = []
  context : p.context = terms.context
  options : p.options = terms.options
  draw : p.draw = terms.draw

variable {terms : Terms} {p q : Pump}

theorem Sails.same (h : p.Sails terms)
    (hq : (q.status, q.stopping, q.passed, q.attempts.revoked, q.context, q.options, q.draw)
      = (p.status, p.stopping, p.passed, p.attempts.revoked, p.context, p.options, p.draw)) :
    q.Sails terms := by
  simp only [Prod.mk.injEq] at hq
  obtain ⟨h1, h2, h3, h4, h5, h6, h7⟩ := hq
  exact ⟨h1.trans h.1, h2.trans h.2, h3.trans h.3, h4.trans h.4, h5.trans h.5, h6.trans h.6, h7.trans h.7⟩

theorem Sails.not_cancelled (h : p.Sails terms) (n : Nat) : p.isCancelled n = false := by
  simp [isCancelled, h.stopping, AttemptSlot.isRevoked, h.revoked]

end Pump

def Point.Holds (terms : Terms) (p : Pump) : Point → Prop
  | ended _ (.opened _ _ c) => p.status = .running ∧ p.connection = some c
  | dead _ => p.status = .opening
  | _ => p.Sails terms

theorem Point.Holds.with_lease {terms : Terms} {p : Pump} {pt : Point} (h : pt.Holds terms p)
    (lease : Lease) : pt.Holds terms { p with lease } := by
  cases pt with
  | ended epochs f =>
    cases f with
    | opened => exact h
    | failed => exact Pump.Sails.same h rfl
  | dead => exact h
  | _ => exact Pump.Sails.same h rfl

theorem Point.Holds.sails {terms : Terms} {p : Pump} {pt : Point} {w : Waiting} (h : pt.Holds terms p)
    (hw : pt.waiting? terms = some w) : p.Sails terms := by
  cases pt with
  | ended epochs f =>
    cases f with
    | opened => cases hw
    | failed => exact h
  | dead => cases hw
  | _ => exact h

/-- Nobody has asked for a shutdown while the call waits. -/
theorem Point.Holds.stopping {terms : Terms} {p : Pump} {pt : Point} {w : Waiting} (h : pt.Holds terms p)
    (hw : pt.waiting? terms = some w) : p.stopping = false :=
  (h.sails hw).stopping

/-- Only a shutdown cancels the wait between two attempts. -/
theorem Call.ownAnswer?_ne_cancelled {p : Pump} {now : Nat} (h : p.stopping = false) (c : Call) :
    c.ownAnswer? p now ≠ some .cancelled := by
  intro hc
  unfold ownAnswer? at hc
  split at hc <;> simp [h] at hc
  -- the wait of a shutdown is not cancelled either
  split at hc <;> simp at hc

def Point.attempt? : Point → Option Attempt
  | client _ a | clientReady _ a _ | receiver _ a _ | receiverReady _ a _ _ | abandon _ a _ _ => some a
  | _ => none

namespace Pump

structure Lands (terms : Terms) (P : Point → List Effect → Prop) (q : Pump) (es : List Effect) (nx : Next) :
    Prop where
  arrives : ∃ pt, P pt es ∧ pt.Holds terms (nx.leave q) ∧ nx.waiting? .start = pt.waiting? terms

variable {terms : Terms} {now : Nat} {P Q : Point → List Effect → Prop} {p : Pump}

theorem Lands.here {q : Pump} {es : List Effect} {nx : Next} {pt : Point} (hp : P pt es)
    (hq : pt.Holds terms (nx.leave q)) (hn : nx.waiting? .start = pt.waiting? terms) :
    Lands terms P q es nx :=
  ⟨pt, hp, hq, hn⟩

theorem Lands.mono {q : Pump} {es : List Effect} {nx : Next} (h : Lands terms P q es nx)
    (hi : ∀ pt, P pt es → Q pt es) : Lands terms Q q es nx := by
  obtain ⟨pt, hp, hq, hn⟩ := h.arrives
  exact .here (hi pt hp) hq hn

/-- What was seen before comes first. -/
theorem Lands.after {shown : List Effect} {q : Pump} {es : List Effect} {nx : Next}
    (h : Lands terms (fun pt es => P pt (shown ++ es)) q es nx) : Lands terms P q (shown ++ es) nx := by
  obtain ⟨pt, hp, hq, hn⟩ := h.arrives
  exact .here hp hq hn

theorem goes_failOpen_lands (h : p.Sails terms) {e : OpenError} {epochs : List Nat}
    (hp : P (.ended epochs (.failed e)) (Finale.effects terms (.failed e))) :
    p.Goes (p.failOpen e) (Lands terms P) := by
  unfold failOpen
  dsimp only
  rw [if_neg (by rw [stopping_log, h.stopping]; exact Bool.false_ne_true)]
  exact goes_log (goes_ask _ _ _ (.here hp (h.same rfl) rfl))

theorem goes_beginAttempt_lands (h : p.Sails terms) {number : Nat} {cursor : Cursor} {past : List Nat}
    (hp : ∀ deadline, terms.options.attemptDeadline? now = some deadline →
      P (.client past ⟨number, cursor, p.lease.epoch, deadline⟩) [.ask .createClient])
    (hl : terms.options.attemptDeadline? now = none → P (.dead past) []) :
    p.Goes (p.beginAttempt now number cursor) (Lands terms P) := by
  unfold beginAttempt
  rw [if_neg (by rw [h.stopping]; exact Bool.false_ne_true)]
  cases hd : p.options.attemptDeadline? now with
  | none => exact ⟨[], (List.append_nil _).symm, .here (hl (h.options ▸ hd)) h.status rfl⟩
  | some deadline =>
    dsimp only
    unfold askForClient
    exact goes_quiet (q := { p with attempts := p.attempts.register number }) rfl
      (goes_log (goes_ask _ _ _ (.here (hp deadline (h.options ▸ hd)) (h.same rfl) rfl)))

/-- Another attempt follows, at once or after a wait. -/
theorem goes_pauseAfter_lands (h : p.Sails terms) {a : Attempt} {e : TransportError}
    (hl : a.number < terms.limit) (hf : e.isFenced = false) (past : List Nat) :
    p.Goes (p.pauseAfter now a (p.options.retry.delay a.number (p.draw a.number)))
      (Lands terms fun pt es =>
        Point.Sequel terms now p.lease.epoch past a e pt ([terms.fault a.number a.epoch e] ++ es)) := by
  rw [h.options, h.draw]
  cases hw : terms.options.retry.delay a.number (terms.draw a.number) with
  | error e' => exact ⟨[], (List.append_nil _).symm, .here (.late hf hl (.inl ⟨e', hw⟩)) h.status rfl⟩
  | ok wait =>
    unfold pauseAfter
    dsimp only
    cases hz : wait.isZero with
    | true =>
      rw [if_pos rfl]
      exact goes_beginAttempt_lands h (fun deadline hd => .again hf hl hw hz hd)
        fun hd => .late hf hl (.inr ⟨wait, hw, hz, hd⟩)
    | false =>
      rw [if_neg Bool.false_ne_true]
      exact ⟨[], by simp, .here (.pause hf hl hw hz) (h.same rfl) rfl⟩

/-- An attempt is over without a connection. -/
theorem goes_endAttempt_lands (h : p.Sails terms) {a : Attempt} (e : TransportError)
    (past : List Nat) :
    p.Goes (p.endAttempt now a (.failed e))
      (Lands terms (Point.Sequel terms now p.lease.epoch past a e)) := by
  unfold endAttempt
  dsimp only
  have hc : Sails terms { p with attempts := p.attempts.clear } := h.same rfl
  refine goes_quiet (q := { p with attempts := p.attempts.clear }) rfl ?_
  cases hf : e.isFenced with
  | true =>
    rw [if_pos rfl]
    generalize hr : log _ _ _ _ = r
    have hs : r.Sails terms := hr ▸ hc.same rfl
    exact goes_quiet (by rw [← hr, shown_log]) (goes_failOpen_lands hs (.fenced hf))
  | false =>
    rw [if_neg Bool.false_ne_true]
    unfold retryAfter
    dsimp only
    generalize hr : (log _ _ _ _).publish _ = r
    have hs : r.Sails terms := hr ▸ hc.same rfl
    have hshown : r.shown = p.shown ++ [terms.fault a.number a.epoch e] := by
      rw [← hr, shown_publish, shown_log, Terms.fault, ← h.context]
      rfl
    have hlease : r.lease = p.lease := hr ▸ rfl
    have hlimit : r.options.retry.allows a.number = decide (a.number < terms.limit) := by
      rw [hs.options]
      rfl
    rw [hlimit, ← hlease]
    refine goes_shown hshown (Goes.mono ?_ fun _ _ _ => Lands.after)
    by_cases hl : a.number < terms.limit
    · rw [if_pos (decide_eq_true hl)]
      exact goes_pauseAfter_lands hs hl hf past
    · rw [if_neg (by simpa using hl)]
      exact goes_failOpen_lands hs (.exhausted hf (Nat.le_of_not_lt hl))

/-- An attempt has its client, and asks for its receiver. -/
theorem goes_afterClient_lands (h : p.Sails terms) {a : Attempt} (ha : a.cursor = terms.cursor)
    (past : List Nat) (c epoch : Nat) :
    p.Goes (p.afterClient now a (.ok c))
      (Lands terms (Point.Moves terms now epoch (.clientReady past a (.ok c)) .resume)) := by
  unfold afterClient
  dsimp only
  generalize hr : log _ _ _ _ = r
  have hs : r.Sails terms := hr ▸ h.same rfl
  have hrequest : r.receiverRequest a = terms.request a.epoch := by
    rw [receiverRequest, partition, hs.context, hs.options, ha]
    rfl
  rw [if_neg (by rw [hs.not_cancelled]; exact Bool.false_ne_true), hrequest]
  exact goes_quiet (by rw [← hr, shown_log])
    (goes_ask _ _ _ (.here (.clientMade past a c) (hs.same rfl) rfl))

/-- An attempt has its receiver, and the pump runs. -/
theorem goes_afterReceiver_lands (h : p.Sails terms) (a : Attempt) (past : List Nat) (c r epoch : Nat) :
    p.Goes (p.afterReceiver a c (.ok r))
      (Lands terms (Point.Moves terms now epoch (.receiverReady past a c (.ok r)) .resume)) := by
  have ht := shown_tell { p with lease := p.lease.stamp a.epoch }
    (.tune r p.options.prefetchCount p.options.receiveTimeout) rfl
  refine goes_shown ht (goes_install _ a ⟨c, r⟩ (fun hn => ?_) fun _ _ => ?_)
  · obtain hn | hn := hn
    · exact absurd (h.stopping.symm.trans hn) nofun
    · exact absurd h.status hn
  · have he : Point.Moves terms now epoch (.receiverReady past a c (.ok r)) .resume
        (.ended (past ++ [a.epoch]) (.opened a.number a.epoch ⟨c, r⟩))
        (Finale.effects terms (.opened a.number a.epoch ⟨c, r⟩)) := .receiverMade past a c r
    rw [Finale.effects, ← h.context, ← h.options] at he
    exact .here he ⟨rfl, rfl⟩ rfl

theorem startingCursor_eq (terms : Terms) : startingCursor terms.context.cursor
    = match terms.refusal? with
      | some e => .error e
      | none => .ok terms.cursor := by
  unfold startingCursor Terms.refusal? Terms.cursor
  cases terms.context.cursor with
  | none => rfl
  | some cursor =>
    cases cursor with
    | timestamp => rfl
    | token t =>
      by_cases ht : t = ""
      · subst ht
        rfl
      · simp [ht]

/-- The opening hook has succeeded: the first attempt begins, if there is anything to start from. -/
theorem goes_connect_lands (h : p.Sails terms) :
    p.Goes (p.connect now) (Lands terms (Point.Moves terms now p.lease.epoch .hook (.hook (.ok ())))) := by
  have hcursor := startingCursor_eq terms
  rw [← h.context] at hcursor
  unfold connect
  rw [hcursor]
  cases hc : terms.refusal? with
  | some e =>
    dsimp only
    generalize hr : log _ _ _ _ = r
    have hs : r.Sails terms := hr ▸ h.same rfl
    exact goes_quiet (by rw [← hr, shown_log]) (goes_failOpen_lands hs (.refused hc))
  | none => exact goes_beginAttempt_lands h (fun deadline hd => .begin hc hd) (.beginLate hc)

theorem goes_afterOnOpen_lands (h : p.Sails terms) :
    p.Goes (p.afterOnOpen now (.ok ()))
      (Lands terms (Point.Moves terms now p.lease.epoch .hook (.hook (.ok ())))) := by
  have ho : Sails terms { p with opened := true } := h.same rfl
  have hm : p.afterOnOpen now (.ok ()) = { p with opened := true }.connect now := by
    simp [afterOnOpen, h.stopping, h.passed]
  rw [hm]
  exact goes_quiet (q := { p with opened := true }) rfl (goes_connect_lands ho)

/-- The receiver step has failed, and the client is closed. -/
theorem goes_afterReceiver_error_lands (h : p.Sails terms) {pt : Point} {w : Answer} (a : Attempt)
    (past : List Nat) (c epoch : Nat) {e : TransportError}
    (hm : Point.Moves terms now epoch pt w (.abandon past a c e) [.ask (.closeClient c)]) :
    p.Goes (p.afterReceiver a c (.error (.failed e))) (Lands terms (Point.Moves terms now epoch pt w)) :=
  goes_quiet (q := { p with lease := p.lease.stamp a.epoch }) rfl
    (goes_ask _ _ _ (.here hm (h.same rfl) rfl))

/-- The client of a failed attempt is closed, and what became of that does not matter. -/
theorem goes_afterAbandon_lands (h : p.Sails terms) (a : Attempt) (past : List Nat) (c : Nat)
    (e : TransportError) (outcome : Except TransportError Unit) :
    p.Goes (p.afterAbandon now a (.failed e) outcome)
      (Lands terms (Point.Moves terms now p.lease.epoch (.abandon past a c e) (.released outcome))) := by
  have ends {r : Pump} (hr : r.Sails terms) (hl : r.lease = p.lease) :
      r.Goes (r.endAttempt now a (.failed e))
        (Lands terms (Point.Moves terms now p.lease.epoch (.abandon past a c e) (.released outcome))) :=
    hl ▸ (goes_endAttempt_lands hr e past).mono fun _ _ _ hl => hl.mono fun _ => .abandoned outcome
  rcases outcome with e' | ⟨⟩
  · unfold afterAbandon
    dsimp only
    generalize hr : log _ _ _ _ = r
    exact goes_quiet (by rw [← hr, shown_log]) (ends (hr ▸ h.same rfl) (hr ▸ rfl))
  · exact ends h rfl

/-- Nobody cuts the attempt short: its call goes on to the next point. -/
theorem goes_attempt_lands {pt : Point} {b : Attempt} {request : Option Request} {stage : OpenStage}
    {a : Answer} {m : Move} (h : pt.Holds terms p) (hb : pt.attempt? = some b) (hc : b.cursor = terms.cursor)
    (hw : pt.waiting? terms = some ⟨.start, .start stage, request⟩) (hn : a ≠ .cancelled)
    (hm : p.resumeStart now stage a = some m) :
    p.Goes m (Lands terms (Point.Moves terms now p.lease.epoch pt a)) := by
  -- what a point does not wait for the call does not go on from
  cases pt with
  | client past b =>
    cases hw
    cases a with
    | client answer =>
      obtain rfl := Option.some.inj hm
      exact ⟨[], by simp, .here (.clientAnswered past b answer) (h.same rfl) rfl⟩
    | timedOut =>
      obtain rfl := Option.some.inj hm
      exact (goes_endAttempt_lands h .attemptTimedOut past).mono
        fun _ _ _ hl => hl.mono fun _ => .clientLate
    | cancelled => exact absurd rfl hn
    | _ => cases hm
  | clientReady past b answer =>
    cases hw
    cases a with
    | resume =>
      obtain rfl := Option.some.inj hm
      cases answer with
      | error e =>
        exact (goes_endAttempt_lands h e past).mono
          fun _ _ _ hl => hl.mono fun _ => .clientFailed
      | ok c =>
        obtain rfl := Option.some.inj hb
        exact goes_afterClient_lands h hc past c _
    | _ => cases hm
  | receiver past b c =>
    cases hw
    cases a with
    | receiver answer =>
      obtain rfl := Option.some.inj hm
      exact ⟨[], by simp, .here (.receiverAnswered past b c answer) (h.same rfl) rfl⟩
    | timedOut =>
      obtain rfl := Option.some.inj hm
      exact goes_afterReceiver_error_lands h b past c _ (.receiverLate past b c)
    | cancelled => exact absurd rfl hn
    | _ => cases hm
  | receiverReady past b c answer =>
    cases hw
    cases a with
    | resume =>
      obtain rfl := Option.some.inj hm
      cases answer with
      | error e => exact goes_afterReceiver_error_lands h b past c _ (.receiverFailed past b c e)
      | ok r => exact goes_afterReceiver_lands h b past c r _
    | _ => cases hm
  | abandon past b c e =>
    cases hw
    cases a with
    | released outcome =>
      obtain rfl := Option.some.inj hm
      exact goes_afterAbandon_lands h b past c e outcome
    | _ => cases hm
  | _ => cases hb

/-- Nobody cuts the open short, and its opening hook does not fail: its call goes on to the next point. -/
theorem goes_route_lands {pt : Point} {request : Option Request} {stage : OpenStage} {a : Answer} {m : Move}
    (h : pt.Holds terms p) (hc : ∀ b, pt.attempt? = some b → b.cursor = terms.cursor)
    (he : ∀ epochs f, pt ≠ .ended epochs f) (hh : pt = .hook → ∀ e, a ≠ .hook (.error e))
    (hw : pt.waiting? terms = some ⟨.start, .start stage, request⟩) (hn : a ≠ .cancelled)
    (hm : p.resumeStart now stage a = some m) :
    p.Goes m (Lands terms (Point.Moves terms now p.lease.epoch pt a)) := by
  cases pt with
  | ended epochs f => exact absurd rfl (he epochs f)
  | dead => cases hw
  | hook =>
    cases hw
    cases a with
    | hook outcome =>
      rcases outcome with e | ⟨⟩
      · exact absurd rfl (hh rfl e)
      · obtain rfl := Option.some.inj hm
        exact goes_afterOnOpen_lands h
    | _ => cases hm
  | pause epochs b wake =>
    cases hw
    cases a with
    | elapsed =>
      obtain rfl := Option.some.inj hm
      exact goes_beginAttempt_lands h (fun deadline hd => .woken hd) .wokenLate
    | cancelled => exact absurd rfl hn
    | _ => cases hm
  | client past b | clientReady past b answer | receiver past b c | receiverReady past b c answer
  | abandon past b c e => exact goes_attempt_lands h rfl (hc b rfl) hw hn hm

/-- The call goes on by the script. -/
theorem goes_resumeStart_lands {k k' : Script} {pt : Point} {request : Option Request} {stage : OpenStage}
    {a : Answer} {m : Move} (h : pt.Holds terms p) (hs : pt.Sound k terms) (hk : pt.Hears k terms a k')
    (hw : pt.waiting? terms = some ⟨.start, .start stage, request⟩) (hn : a ≠ .cancelled)
    (hm : p.resumeStart now stage a = some m) :
    p.Goes m (Lands terms (Point.Moves terms now p.lease.epoch pt a)) := by
  refine goes_route_lands h (fun b hb => ?_) ?_ ?_ hw hn hm
  · cases pt with
    | client past b' =>
      obtain rfl := Option.some.inj hb
      exact Script.Tries.cursor hs
    | clientReady past b' answer | receiver past b' c | receiverReady past b' c answer | abandon past b' c e =>
      obtain rfl := Option.some.inj hb
      exact hs.1.cursor
    | _ => cases hb
  · rintro epochs f rfl
    cases f with
    | opened => cases hw
    | failed e => cases hk
  · rintro rfl e rfl
    cases hk

end Pump
end PartitionConsumer
