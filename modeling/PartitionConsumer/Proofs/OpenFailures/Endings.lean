import PartitionConsumer.Proofs.Session.Stopping
/-!
# How the sequence of attempts ends

The error that ends an open is decided by the answer its call is told and the options, before it is known
whether anybody has asked for a shutdown. Only then is the error hook told, or the call returns.
-/
namespace PartitionConsumer

def Effect.isAttemptFault : Effect → Bool
  | .publish e => e.kind == .openAttemptFailed
  | _ => false

namespace Pump

variable {p q : Pump} {es : List Effect} {nx : Next}

/-! ## The error of an open -/

/-- What the failure of an attempt means to the whole open: its end, or nothing if another attempt
follows. -/
def verdict? (p : Pump) (a : Attempt) (e : TransportError) : Option OpenError :=
  if e.isFenced then some (.fenced a.epoch e)
  else if p.options.retry.allows a.number then none
  else some (.retriesExhausted a.number e)

/-- The error in which the sequence of attempts ends when its call is told this answer, if it does. -/
def openError? (p : Pump) : OpenStage → Answer → Option OpenError
  | .onOpen, .hook (.ok ()) =>
    if p.passed.isSome || p.stopping then none
    else match startingCursor p.context.cursor with
      | .error e => some e
      | .ok _ => none
  | .client a, .timedOut => p.verdict? a .attemptTimedOut
  | .clientReady a (.error e), .resume => p.verdict? a e
  | .abandon a (.failed e), .released _ => p.verdict? a e
  | _, _ => none

/-- Where the sequence of attempts ends the call goes on. -/
theorem exists_resumeStart (now : Nat) {stage : OpenStage} {a : Answer} {e : OpenError}
    (h : p.openError? stage a = some e) : ∃ m, p.resumeStart now stage a = some m := by
  unfold openError? at h
  split at h
  all_goals first | exact ⟨_, rfl⟩ | cases h

/-- The open has ended in `e`, perhaps after an event about its last attempt: the error hook is told, or
the call returns because a shutdown was requested. The status stays as it is. -/
inductive Concludes (p : Pump) (e : OpenError) (q : Pump) : List Effect → Next → Prop where
  | told (shown : List Effect) (hs : p.stopping = false) (hq : q.status = p.status)
    (hv : shown.all Effect.isAttemptFault = true) :
    Concludes p e q (shown ++ [.ask (.hook (.onError (.opening e)))])
      (.ask (.hook (.onError (.opening e))) (.start (.failed e)))
  | leaves (shown : List Effect) (hs : p.stopping = true) (hq : q.status = p.status)
    (hv : shown.all Effect.isAttemptFault = true) : Concludes p e q shown .finish

/-- What was shown before the open has ended. -/
theorem Concludes.after {r : Pump} {e : OpenError} {shown : List Effect} (h : Concludes r e q es nx)
    (ht : r.stopping = p.stopping) (hs : r.status = p.status)
    (hv : shown.all Effect.isAttemptFault = true) : Concludes p e q (shown ++ es) nx := by
  have all {fs : List Effect} (hf : fs.all Effect.isAttemptFault = true) :
      (shown ++ fs).all Effect.isAttemptFault = true := by rw [List.all_append, hv, hf]; rfl
  cases h with
  | told fs hr hq hf =>
    rw [← List.append_assoc]
    exact .told _ (ht.symm.trans hr) (hq.trans hs) (all hf)
  | leaves fs hr hq hf => exact .leaves _ (ht.symm.trans hr) (hq.trans hs) (all hf)

theorem goes_failOpen_concludes {r : Pump} (e : OpenError) (ht : r.stopping = p.stopping)
    (hs : r.status = p.status) : r.Goes (r.failOpen e) (Concludes p e) := by
  unfold failOpen
  dsimp only
  split
  · rename_i hr
    exact goes_log (goes_finishStart (.leaves [] (ht.symm.trans hr) hs rfl))
  · rename_i hr
    exact goes_log (goes_ask _ _ _ (.told [] (ht.symm.trans (Bool.eq_false_iff.2 hr)) hs rfl))

theorem goes_endAttempt_concludes {r : Pump} {a : Attempt} {f : TransportError} {e : OpenError}
    (now : Nat) (h : r.verdict? a f = some e) (ht : r.stopping = p.stopping)
    (hs : r.status = p.status) : r.Goes (r.endAttempt now a (.failed f)) (Concludes p e) := by
  unfold verdict? at h
  unfold endAttempt
  dsimp only
  by_cases hf : f.isFenced = true
  · rw [if_pos hf] at h ⊢
    obtain rfl := Option.some.inj h
    have hn {x : Pump} (hx : x.stopping = r.stopping) (hy : x.status = r.status) :
        x.Goes (x.failOpen (.fenced a.epoch f)) (Concludes p (.fenced a.epoch f)) :=
      goes_failOpen_concludes _ (hx.trans ht) (hy.trans hs)
    exact goes_quiet (q := { r with attempts := r.attempts.clear }) rfl (goes_log (hn rfl rfl))
  · rw [if_neg hf] at h ⊢
    have ha : r.options.retry.allows a.number = false := by
      cases ha : r.options.retry.allows a.number with
      | false => rfl
      | true =>
        rw [ha] at h
        cases h
    rw [ha] at h
    obtain rfl := Option.some.inj h
    -- the event about the last attempt comes first
    have hn {x : Pump} (hx : x.stopping = r.stopping) (hy : x.status = r.status)
        (hk : x.shown = r.shown ++ [r.event (attemptEvent a f)]) :
        r.Goes (x.failOpen (.retriesExhausted a.number f))
          (Concludes p (.retriesExhausted a.number f)) :=
      goes_shown hk ((goes_failOpen_concludes _ (hx.trans ht) (hy.trans hs)).mono fun _ _ _ hn =>
        hn.after rfl rfl rfl)
    unfold retryAfter
    dsimp only
    split
    · rename_i hr
      have hr : r.options.retry.allows a.number = true := hr
      rw [ha] at hr
      cases hr
    · refine hn rfl rfl ?_
      rw [shown_publish, shown_log]
      rfl

/-- Where the sequence of attempts ends in an error, this is what the call does. -/
theorem goes_resumeStart_concludes {now : Nat} {stage : OpenStage} {a : Answer} {m : Move}
    {e : OpenError} (h : p.resumeStart now stage a = some m) (he : p.openError? stage a = some e) :
    p.Goes m (Concludes p e) := by
  unfold openError? at he
  split at he
  · -- the opening hook has succeeded, and there is no position to start from
    obtain rfl := Option.some.inj h
    split at he
    · cases he
    · rename_i hps
      have hps' : p.passed = none ∧ p.stopping = false := by simpa using hps
      split at he
      · rename_i f hcur
        obtain rfl := Option.some.inj he
        have hm : p.afterOnOpen now (.ok ()) = { p with opened := true }.connect now := by
          simp [afterOnOpen, hps'.1, hps'.2]
        rw [hm, connect]
        dsimp only
        rw [hcur]
        exact goes_quiet (q := { p with opened := true }) rfl (goes_log (goes_failOpen_concludes f rfl rfl))
      · cases he
  · obtain rfl := Option.some.inj h
    exact goes_endAttempt_concludes now he rfl rfl
  · obtain rfl := Option.some.inj h
    exact goes_endAttempt_concludes now he rfl rfl
  · rename_i b f outcome
    obtain rfl := Option.some.inj h
    rcases outcome with g | ⟨⟩
    · have hr : (p.log .info "closing partially opened client failed"
          [("error", .text g.message)]).verdict? b f = some e := he
      exact goes_log (goes_endAttempt_concludes now hr rfl rfl)
    · exact goes_endAttempt_concludes now he rfl rfl
  · cases he

end Pump
end PartitionConsumer
