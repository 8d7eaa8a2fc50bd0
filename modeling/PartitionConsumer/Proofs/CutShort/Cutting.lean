import PartitionConsumer.Proofs.Session.Stopping
/-!
# What cuts an open short

A call that waits for the transport, or between two attempts, can be told only one thing once the pump is
stopping: that it is cancelled. It then returns, or closes the client it has got and returns.
-/
namespace PartitionConsumer

/-- A shutdown cuts an open short that waits for the transport or for the next attempt. -/
def OpenStage.isCuttable : OpenStage → Bool
  | .client _ | .receiver .. | .backoff .. => true
  | _ => false

def Waiting.leaving (a : Attempt) (client : Nat) : Waiting :=
  ⟨.start, .start (.abandon a .cancelled), some (.closeClient client)⟩

/-- How a call ends that waited as `w` when its open was cut short: what it waits for, and what it has
shown since. -/
inductive Parting (id : Nat) (w : Waiting) : Option Waiting → List Mark → Prop where
  | waits : Parting id w (some w) []
  | ends (h : ∀ a client, w.call ≠ .start (.receiver a client)) :
    Parting id w none [.told id w .cancelled, .returned id .start]
  | closes (a : Attempt) (client : Nat) (h : w.call = .start (.receiver a client)) :
    Parting id w (some (.leaving a client))
      [.told id w .cancelled, .did id (.ask (.closeClient client))]
  | closed (a : Attempt) (client : Nat) (outcome) (h : w.call = .start (.receiver a client)) :
    Parting id w none
      [.told id w .cancelled, .did id (.ask (.closeClient client)),
        .told id (.leaving a client) (.released outcome), .returned id .start]

inductive Cutting (id : Nat) (w : Waiting) : Cause → Answer → List Effect → Next → Prop where
  | client (a : Attempt) (h : w.call = .start (.client a)) :
    Cutting id w (.answer id .cancelled) .cancelled [] .finish
  | backoff (a : Attempt) (wake : Nat) (h : w.call = .start (.backoff a wake)) :
    Cutting id w (.wake id) .cancelled [] .finish
  | receiver (a : Attempt) (client : Nat) (h : w.call = .start (.receiver a client)) :
    Cutting id w (.answer id .cancelled) .cancelled [.ask (.closeClient client)]
      (.ask (.closeClient client) (.start (.abandon a .cancelled)))
  | abandon (a : Attempt) (outcome) (h : w.call = .start (.abandon a .cancelled)) :
    Cutting id w (.answer id (.released outcome)) (.released outcome) [] .finish

namespace Pump

/-! ## The steps of an open that is cut short -/

theorem goes_endCut (p : Pump) (now : Nat) (a : Attempt) :
    p.Goes (p.endAttempt now a .cancelled) fun _ es nx => es = [] ∧ nx = .finish := by
  refine goes_quiet (q := { p with attempts := p.attempts.clear }) rfl ?_
  exact goes_log (goes_log (goes_finishStart ⟨rfl, rfl⟩))

theorem goes_afterAbandonCut (p : Pump) (now : Nat) (a : Attempt)
    (outcome : Except TransportError Unit) :
    p.Goes (p.afterAbandon now a .cancelled outcome) fun _ es nx => es = [] ∧ nx = .finish := by
  rcases outcome with e | ⟨⟩
  · exact goes_log (goes_endCut _ now a)
  · exact goes_endCut p now a

end Pump

namespace Session

variable {s t : Session} {c : Cause} {id : Nat} {w : Waiting}

theorem tell?_eq {stage : OpenStage} {a : Answer} {m : Move} {R : Pump → List Effect → Next → Prop}
    (hp : s.pump.trace = []) (hf : w.Fits id) (hw : w.call = .start stage)
    (hm : s.pump.resumeStart s.now stage a = some m) (hg : s.pump.Goes m R) :
    ∃ q es nx, s.tell? id w a = some ((s.told id w a).carry id .start q es nx) ∧ R q es nx := by
  have he : w.goesOn = .start := by
    simp [Waiting.goesOn, hw, (hf.of_start hw).1]
  have hr : s.pump.resume s.now w.call a = some m := by rw [hw]; exact hm
  obtain ⟨q, es, nx, hs, h⟩ := (s.told id w a).move_eq_carry hp hg id .start
  refine ⟨q, es, nx, ?_, h⟩
  unfold tell?
  rw [hr, he]
  exact congrArg some hs

theorem Tells.step?_eq {a : Answer} (h : s.Tells id w a c) : s.step? c = s.tell? id w a := by
  cases h with
  | answer hw ha => simp [Session.step?, hw, ha]
  | wake hw hr ha => simp [Session.step?, hw, hr, ha]

/-- What an opening call comes to when it is told an answer is what the step shows. -/
theorem Tells.exists_step {stage : OpenStage} {a : Answer} {m : Move}
    {R : Pump → List Effect → Next → Prop} (h : s.Tells id w a c) (hi : s.Tidy)
    (hw : w.call = .start stage) (hm : s.pump.resumeStart s.now stage a = some m)
    (hg : s.pump.Goes m R) :
    ∃ q es nx, s.step? c = some ((s.told id w a).carry id .start q es nx) ∧ R q es nx := by
  rw [h.step?_eq]
  exact tell?_eq hi.trace (hi.fits_call h.call?) hw hm hg

/-- A step that tells an opening call an answer is what the call does when it is told so. -/
theorem Tells.exists_resume {stage : OpenStage} {a : Answer} (h : s.Tells id w a c)
    (hw : w.call = .start stage) (hs : s.step? c = some t) :
    ∃ m, s.pump.resumeStart s.now stage a = some m := by
  obtain ⟨m, hm, -⟩ := Option.map_eq_some_iff.1 (h.step?_eq.symm.trans hs)
  rw [hw] at hm
  exact ⟨m, hm⟩

theorem Tells.opens {stage : OpenStage} {a : Answer} (h : s.Tells id w a c) (hi : s.Tidy)
    (hw : w.call = .start stage) (hs : s.step? c = some t) :
    ∃ q es nx, t = (s.told id w a).carry id .start q es nx ∧ s.pump.OpenMove stage a q es nx := by
  obtain ⟨m, hm⟩ := h.exists_resume hw hs
  have hg := Pump.goes_resumeStart hm
  rw [Pump.untraced_of_trace hi.trace] at hg
  obtain ⟨q, es, nx, hq, hn⟩ := h.exists_step hi hw hm hg
  exact ⟨q, es, nx, Option.some.inj (hs.symm.trans hq), hn⟩

end Session

namespace OpenStage.Asks

variable {a : Attempt} {r : Option Request}

theorem of_client (h : Asks (.client a) r) : r = some .createClient := by
  cases h
  rfl

theorem of_receiver {client : Nat} (h : Asks (.receiver a client) r) :
    ∃ request, r = some (.createReceiver client request) := by
  cases h
  exact ⟨_, rfl⟩

theorem of_backoff {wake : Nat} (h : Asks (.backoff a wake) r) : r = none := by
  cases h
  rfl

theorem of_failed {e : OpenError} (h : Asks (.failed e) r) :
    r = some (.hook (.onError (.opening e))) := by
  cases h
  rfl

theorem of_abandon {f : AttemptFailure} (h : Asks (.abandon a f) r) :
    ∃ client, r = some (.closeClient client) := by
  cases h
  exact ⟨_, rfl⟩

end OpenStage.Asks

section Steps

variable {s t : Session} {c : Cause} {id : Nat} {w : Waiting} {a : Answer} {es : List Effect}
  {nx : Next}

theorem Call.isInterrupted_of_stopping {c : Call} {p : Pump} {a : Attempt} (h : c.attempt? = some a)
    (hs : p.stopping = true) : c.isInterrupted p = true := by
  simp [isInterrupted, h, Pump.isCancelled, hs]

/-- The call can be told so at once. -/
theorem Cutting.tells (h : Cutting id w c a es nx) (hs : s.pump.stopping = true)
    (hw : s.call? id = some w) (hf : w.Fits id) : s.Tells id w a c := by
  cases h with
  | client a hc =>
    have hr := (hf.of_start hc).2.of_client
    have hi := Call.isInterrupted_of_stopping (c := w.call) (by rw [hc]; rfl) hs
    exact .answer hw (by simp [Waiting.admits, hr, hi])
  | backoff a wake hc => exact .wake hw (hf.of_start hc).2.of_backoff (by simp [hc, Call.ownAnswer?, hs])
  | receiver a client hc =>
    obtain ⟨request, hr⟩ := (hf.of_start hc).2.of_receiver
    have hi := Call.isInterrupted_of_stopping (c := w.call) (by rw [hc]; rfl) hs
    exact .answer hw (by simp [Waiting.admits, hr, hi])
  | abandon a outcome hc =>
    obtain ⟨client, hr⟩ := (hf.of_start hc).2.of_abandon
    exact .answer hw (by simp [Waiting.admits, hr])

/-- And this is what it does then. -/
theorem Cutting.step? (h : Cutting id w c a es nx) (hp : s.pump.trace = [])
    (hs : s.pump.stopping = true) (hw : s.call? id = some w) (hf : w.Fits id) :
    ∃ q, s.step? c = some ((s.told id w a).carry id .start q es nx) := by
  have ht := (h.tells hs hw hf).step?_eq
  cases h with
  | client b hc =>
    obtain ⟨q, _, _, hq, rfl, rfl⟩ :=
      Session.tell?_eq (a := .cancelled) hp hf hc rfl (Pump.goes_endCut s.pump s.now b)
    exact ⟨q, ht.trans hq⟩
  | backoff b wake hc =>
    obtain ⟨q, _, _, hq, rfl, rfl⟩ :=
      Session.tell?_eq (a := .cancelled) (R := fun _ es nx => es = [] ∧ nx = .finish) hp hf hc rfl
        (Pump.goes_log (Pump.goes_finishStart ⟨rfl, rfl⟩))
    exact ⟨q, ht.trans hq⟩
  | receiver b client hc =>
    obtain ⟨q, _, _, hq, rfl, rfl⟩ :=
      Session.tell?_eq (a := .cancelled)
        (R := fun _ es nx => es = [.ask (.closeClient client)]
          ∧ nx = .ask (.closeClient client) (.start (.abandon b .cancelled))) hp hf hc rfl
        (Pump.goes_ask _ _ _ ⟨rfl, rfl⟩)
    exact ⟨q, ht.trans hq⟩
  | abandon b outcome hc =>
    obtain ⟨q, _, _, hq, rfl, rfl⟩ :=
      Session.tell?_eq (a := .released outcome) hp hf hc rfl
        (Pump.goes_afterAbandonCut s.pump s.now b outcome)
    exact ⟨q, ht.trans hq⟩

/-- It cannot be told anything else. -/
theorem exists_cutting {stage : OpenStage} (hs : s.pump.stopping = true) (hf : w.Fits id)
    (hc : w.call = .start stage)
    (hk : stage.isCuttable = true ∨ ∃ a, stage = .abandon a .cancelled) (ht : s.Tells id w a c) :
    ∃ es nx, Cutting id w c a es nx := by
  have ha := (hf.of_start hc).2
  cases ht with
  | answer hv had =>
    cases stage with
    | client b =>
      have hi := Call.isInterrupted_of_stopping (c := w.call) (by rw [hc]; rfl) hs
      cases a <;> simp [Waiting.admits, ha.of_client, hi] at had
      exact ⟨_, _, .client b hc⟩
    | receiver b client =>
      obtain ⟨request, hr⟩ := ha.of_receiver
      have hi := Call.isInterrupted_of_stopping (c := w.call) (by rw [hc]; rfl) hs
      cases a <;> simp [Waiting.admits, hr, hi] at had
      exact ⟨_, _, .receiver b client hc⟩
    | backoff b wake => simp [Waiting.admits, ha.of_backoff] at had
    | abandon b f =>
      obtain ⟨d, he⟩ := hk.resolve_left (by simp [OpenStage.isCuttable])
      cases he
      obtain ⟨client, hr⟩ := ha.of_abandon
      cases a <;> simp [Waiting.admits, hr] at had
      exact ⟨_, _, .abandon b _ hc⟩
    | _ => simp [OpenStage.isCuttable] at hk
  | wake hv hr ho =>
    cases stage with
    | client b => simp [ha.of_client] at hr
    | receiver b client =>
      obtain ⟨request, he⟩ := ha.of_receiver
      simp [he] at hr
    | backoff b wake =>
      obtain rfl : .cancelled = a := by simpa [hc, Call.ownAnswer?, hs] using ho
      exact ⟨_, _, .backoff b wake hc⟩
    | abandon b f =>
      obtain ⟨client, he⟩ := ha.of_abandon
      simp [he] at hr
    | _ => simp [OpenStage.isCuttable] at hk

theorem Cutting.blames (h : Cutting id w c a es nx) : es.any Effect.blames = false := by
  cases h <;> rfl

end Steps

end PartitionConsumer
