import PartitionConsumer.Proofs.OpenFailures.Silence
import PartitionConsumer.Proofs.AttemptTokens.Tenancy
/-!
# The slot of the attempt in progress

What the call that opens a pump does to the slot at each of its stages: it registers each attempt under
the number after those it has made, leaves it registered as long as the attempt goes on, and clears the
slot when the attempt is over.
-/
namespace PartitionConsumer

namespace OpenStage

def underway? : OpenStage → Option Nat
  | .client a | .clientReady a _ | .receiver a _ | .receiverReady a _ _ | .abandon a _ => some a.number
  | _ => none

def tries? : OpenStage → Option Nat
  | .onOpen => some 0
  | .backoff a _ => some a.number
  | stage => stage.underway?

theorem tries?_of_underway? {stage : OpenStage} {n : Nat} (h : stage.underway? = some n) :
    stage.tries? = some n := by
  cases stage with
  | onOpen | backoff => cases h
  | _ => exact h

theorem isConnecting_of_underway? {stage : OpenStage} {n : Nat} (h : stage.underway? = some n) :
    stage.isConnecting = true := by
  cases stage with
  | client | clientReady | receiver | receiverReady | abandon => rfl
  | _ => cases h

end OpenStage

namespace Next

def underway? (nx : Next) : Option Nat := nx.opening?.bind OpenStage.underway?

def tries? (nx : Next) : Option Nat := nx.opening?.bind OpenStage.tries?

theorem tries?_of_underway? {nx : Next} {n : Nat} (h : nx.underway? = some n) : nx.tries? = some n := by
  obtain ⟨stage, ho, hs⟩ := Option.bind_eq_some_iff.1 h
  exact Option.bind_eq_some_iff.2 ⟨stage, ho, OpenStage.tries?_of_underway? hs⟩

theorem underway?_of_tries? {nx : Next} (h : nx.tries? = none) : nx.underway? = none := by
  cases hu : nx.underway? with
  | none => rfl
  | some n => exact absurd (h.symm.trans (tries?_of_underway? hu)) nofun

end Next

namespace Pump

@[simp] theorem attempts_log (p : Pump) (l : LogLevel) (m : String) (fs : List (String × LogValue)) :
    (p.log l m fs).attempts = p.attempts := rfl

@[simp] theorem attempts_publish (p : Pump) (e : Event) : (p.publish e).attempts = p.attempts := rfl

@[simp] theorem attempts_ask (p : Pump) (r : Request) (c : Call) : (p.ask r c).1.attempts = p.attempts := rfl

@[simp] theorem attempts_finishStart (p : Pump) : p.finishStart.1.attempts = p.attempts := rfl

inductive Onward (f : AttemptSlot) (k : Nat) : AttemptSlot → Next → Prop where
  | begins (a : Attempt) (ha : a.number = k + 1) :
    Onward f k (f.register (k + 1)) (.ask .createClient (.start (.client a)))
  | pauses (a : Attempt) (wake : Nat) (ha : a.number = k) : Onward f k f (.wait (.start (.backoff a wake)))
  | ends {nx} (hn : nx.tries? = none) (hc : nx.asks (· == .createClient) = 0) : Onward f k f nx
  /-- The deadline of the next attempt cannot be computed. -/
  | dies : Onward f k (f.register (k + 1)) .crash

section Procedures

variable {p : Pump} {f : AttemptSlot} (hp : p.attempts = f) (now : Nat)
include hp

theorem onward_beginAttempt (k : Nat) (cursor : Cursor) :
    Onward f k (p.beginAttempt now (k + 1) cursor).1.attempts (p.beginAttempt now (k + 1) cursor).2 := by
  subst hp
  unfold beginAttempt
  by_cases hs : p.stopping = true
  · rw [if_pos hs]
    exact .ends rfl rfl
  · rw [if_neg hs]
    cases p.options.attemptDeadline? now with
    | some deadline => exact .begins _ rfl
    | none => exact .dies

theorem onward_failOpen (e : OpenError) (k : Nat) :
    Onward f k (p.failOpen e).1.attempts (p.failOpen e).2 := by
  subst hp
  unfold failOpen
  dsimp only
  split
  · rw [attempts_finishStart, attempts_log]
    exact .ends rfl rfl
  · rw [attempts_ask, attempts_log]
    exact .ends rfl rfl

theorem onward_connect : Onward f 0 (p.connect now).1.attempts (p.connect now).2 := by
  unfold connect
  cases startingCursor p.context.cursor with
  | error e => exact onward_failOpen ((attempts_log ..).trans hp) e 0
  | ok cursor => exact onward_beginAttempt hp now 0 cursor

theorem onward_pauseAfter (a : Attempt) (wait : Except WaitError Span) :
    Onward f a.number (p.pauseAfter now a wait).1.attempts (p.pauseAfter now a wait).2 := by
  cases wait with
  | error e => exact hp ▸ .ends rfl rfl
  | ok wait =>
    unfold pauseAfter
    dsimp only
    by_cases hz : wait.isZero = true
    · rw [if_pos hz]
      exact onward_beginAttempt hp now a.number a.cursor
    · rw [if_neg hz, attempts_log, hp]
      exact .pauses a _ rfl

theorem onward_retryAfter (a : Attempt) (e : TransportError) :
    Onward f a.number (p.retryAfter now a e).1.attempts (p.retryAfter now a e).2 := by
  unfold retryAfter
  dsimp only
  generalize hq : Pump.publish _ _ = q
  have hf : q.attempts = f := by rw [← hq, attempts_publish, attempts_log, hp]
  split
  · exact onward_pauseAfter hf now a _
  · exact onward_failOpen hf _ a.number

theorem onward_endAttempt (a : Attempt) (e : AttemptFailure) :
    Onward f.clear a.number (p.endAttempt now a e).1.attempts (p.endAttempt now a e).2 := by
  subst hp
  cases e with
  | cancelled => exact .ends rfl rfl
  | failed e =>
    unfold endAttempt
    dsimp only
    generalize hq : ({ p with attempts := p.attempts.clear } : Pump) = q
    have hf : q.attempts = p.attempts.clear := by rw [← hq]
    split
    · exact onward_failOpen ((attempts_log ..).trans hf) _ a.number
    · exact onward_retryAfter hf now a e

end Procedures

inductive SlotMove (f : AttemptSlot) (stage : OpenStage) : AttemptSlot → Next → Prop where
  | stays {nx} (n : Nat) (hs : stage.underway? = some n) (hn : nx.underway? = some n)
      (hc : nx.asks (· == .createClient) = 0) : SlotMove f stage f nx
  | onward {g nx} (k : Nat) (hs : stage.tries? = some k) (hm : Onward f.clear k g nx) : SlotMove f stage g nx
  | leaves {nx} (hn : nx.tries? = none) (hc : nx.asks (· == .createClient) = 0) : SlotMove f stage f.clear nx

variable {p q : Pump} {es : List Effect} {nx : Next}

/-- Between attempts the slot is empty, and clearing it does nothing. -/
theorem OpenMove.slotMove {now : Nat} {stage : OpenStage} {answer : Answer} {m : Move}
    (h : p.OpenMove stage answer q es nx) (hr : p.resumeStart now stage answer = some m)
    (hq : q.attempts = m.1.attempts) (hnx : nx = m.2)
    (hf : stage.underway? = none → p.attempts.clear = p.attempts) :
    SlotMove p.attempts stage q.attempts nx := by
  have rests (hs : stage.underway? = none) {nx : Next} (hn : nx.tries? = none)
      (hc : nx.asks (· == .createClient) = 0) : SlotMove p.attempts stage p.attempts nx :=
    hf hs ▸ .leaves hn hc
  cases h with
  | connect hp hs =>
    have hm : m = { p with opened := true }.connect now := by
      simpa [resumeStart, afterOnOpen, hp, hs] using hr.symm
    rw [hq, hnx, hm]
    exact .onward 0 rfl (onward_connect (p := { p with opened := true }) (hf rfl).symm now)
  | clientAnswered a => exact .stays a.number rfl rfl rfl
  | clientFailed a e hs =>
    obtain ⟨ha, hm⟩ : stage.underway? = some a.number ∧ m = p.endAttempt now a e := by
      obtain ⟨rfl, rfl, rfl⟩ | ⟨rfl, rfl, rfl⟩ | ⟨e, rfl, rfl, rfl⟩ := hs
      · exact ⟨rfl, (Option.some.inj hr).symm⟩
      · exact ⟨rfl, (Option.some.inj hr).symm⟩
      · exact ⟨rfl, (Option.some.inj hr).symm⟩
    rw [hq, hnx, hm]
    exact .onward a.number (OpenStage.tries?_of_underway? ha) (onward_endAttempt rfl now a e)
  | clientMade a => exact .stays a.number rfl rfl rfl
  | clientUnwanted a => exact .stays a.number rfl rfl rfl
  | receiverAnswered a => exact .stays a.number rfl rfl rfl
  | receiverCancelled a => exact .stays a.number rfl rfl rfl
  | receiverFailed a client e hs =>
    obtain ⟨rfl, -⟩ | ⟨rfl, -⟩ := hs
    · exact .stays a.number rfl rfl rfl
    · exact .stays a.number rfl rfl rfl
  | install => exact .leaves rfl rfl
  | reject => exact .leaves rfl rfl
  | abandoned a e outcome =>
    rw [hq, hnx, ← Option.some.inj hr]
    refine .onward a.number rfl ?_
    rcases outcome with _ | ⟨⟩
    · exact onward_endAttempt (attempts_log ..) now a e
    · exact onward_endAttempt rfl now a e
  | pauseOver a wake =>
    rw [hq, hnx, ← Option.some.inj hr]
    exact .onward a.number rfl (onward_beginAttempt (hf rfl).symm now a.number a.cursor)
  | releaseNext r r' =>
    refine rests rfl rfl ?_
    cases hr' : r'.step <;> simp [Release.request, hr']
  | _ => exact rests rfl rfl rfl

section Slots

variable {f g : AttemptSlot} {k : Nat} {stage : OpenStage}

/-- Between attempts the slot is empty, and there is nothing to clear. -/
theorem leads_clear (hf : stage.underway? = none → f.clear = f) (k : Nat) :
    Tenancy.Leads ⟨f, k, stage.underway?.isSome⟩ ⟨f.clear, k, false⟩ := by
  cases hu : stage.underway? with
  | none =>
    rw [hf hu]
    exact .refl _
  | some n => exact .of_act (x := .finish) rfl

theorem Onward.leads (h : Onward f k g nx) (hn : nx ≠ .crash) :
    Tenancy.Leads ⟨f, k, false⟩ ⟨g, k + nx.asks (· == .createClient), nx.underway?.isSome⟩ := by
  cases h with
  | begins a ha => exact .of_act (x := .begin) rfl
  | pauses a wake ha => exact .refl _
  | ends ht hc =>
    rw [hc, Next.underway?_of_tries? ht]
    exact .refl _
  | dies => exact absurd rfl hn

/-- What the opening call does short of dying is one operation on the slot after another. -/
theorem SlotMove.leads (h : SlotMove f stage g nx) (hk : ∀ n, stage.tries? = some n → n = k)
    (hf : stage.underway? = none → f.clear = f) (hn : nx ≠ .crash) :
    Tenancy.Leads ⟨f, k, stage.underway?.isSome⟩
      ⟨g, k + nx.asks (· == .createClient), nx.underway?.isSome⟩ := by
  cases h with
  | stays n hs hu hc =>
    rw [hs, hu, hc]
    exact .refl _
  | onward j hs hm =>
    obtain rfl := hk j hs
    exact (leads_clear hf j).trans (hm.leads hn)
  | leaves ht hc =>
    rw [hc, Next.underway?_of_tries? ht]
    exact leads_clear hf k

/-- The stages count the attempts. -/
theorem SlotMove.tries (h : SlotMove f stage g nx) (hk : ∀ n, stage.tries? = some n → n = k) (n : Nat)
    (hn : nx.tries? = some n) : n = k + nx.asks (· == .createClient) := by
  cases h with
  | stays m hs hu hc =>
    rw [Next.tries?_of_underway? hu] at hn
    rw [hc, ← Option.some.inj hn]
    exact hk m (OpenStage.tries?_of_underway? hs)
  | onward j hs hm =>
    obtain rfl := hk j hs
    cases hm with
    | begins a ha => exact (Option.some.inj hn).symm.trans ha
    | pauses a wake ha => exact (Option.some.inj hn).symm.trans ha
    | ends ht =>
      rw [ht] at hn
      cases hn
    | dies => cases hn
  | leaves ht =>
    rw [ht] at hn
    cases hn

/-- A call that dies leaves no attempt behind but one that was to begin. -/
theorem SlotMove.current_of_crash (h : SlotMove f stage g .crash) (hk : ∀ n, stage.tries? = some n → n = k)
    {n : Nat} (hn : g.current = some n) : k ≤ n := by
  cases h with
  | stays m hs hu => cases hu
  | onward j hs hm =>
    cases hm with
    | ends => cases hn
    | dies => exact (hk j hs).ge.trans ((Option.some.inj hn) ▸ j.le_succ)
  | leaves => cases hn

theorem SlotMove.revoked (h : SlotMove f stage g nx) : g.revoked = f.revoked := by
  cases h with
  | onward k hs hm => cases hm <;> rfl
  | _ => rfl

end Slots
end Pump
end PartitionConsumer
