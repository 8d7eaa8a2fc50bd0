import PartitionConsumer.Proofs.Failures.Breakdown
import PartitionConsumer.Proofs.Failures.Tasks
import PartitionConsumer.Proofs.Failures.Outcome
/-!
# Failures of the receiver

The first failure that reaches a running pump breaks it down and is handed to the executor, and all
others are ignored. The executor runs the deferred part of it once at most, and may give it up; a deferred
part that is run tells the error hook, and shuts the pump down unless it is dropped before.
-/
namespace PartitionConsumer
namespace Session

structure Recovers (s : Session) : Prop where
  led : s.Led
  halted : s.Halted
  ended : s.Ended
  moored : s.pump.Moored
  braced : s.pump.Braced
  afloat : s.pump.Afloat
  answered : s.Answered
  forwarded : s.Forwarded
  informed : deliveryErrors s.history = reports s.history

namespace Recovers

variable {s t : Session} {c : Cause}

theorem new (context : Context) (lease : Lease) (options : Options) (wire : String) (draw : Nat → Nat) :
    (Session.new (.new context lease options wire draw)).Recovers where
  led := .new _ rfl rfl rfl
  halted := .fresh
  ended := nofun
  moored := ⟨nofun, nofun⟩
  braced := .fresh
  afloat := by
    rintro (hs | hs) <;> cases hs
  answered hr := absurd rfl hr
  forwarded := .new _
  informed := rfl

theorem step (h : s.Recovers) (hs : s.Step c t) : t.Recovers where
  led := h.led.step hs
  halted := h.halted.step h.led hs
  ended := h.ended.step h.led.tidy hs
  moored := moored_step h.led h.halted h.moored hs
  braced := h.led.braced_step h.braced hs
  afloat := h.led.afloat_step h.afloat hs
  answered := h.answered.step h.braced h.led.tidy hs
  forwarded := h.forwarded.step h.led.tidy hs
  informed := by
    obtain ⟨ms, hm, he⟩ := hs.informs h.led.tidy
    rw [hm, deliveryErrors_append, reports_append, h.informed, he]

/-- The deferred part of a failure has returned only when the pump is closed. -/
theorem closed (h : s.Recovers) {id : Nat} {e : TransportError} {errand : Errand}
    (hb : .began id (.report e) ∈ s.history) (hr : .returned id errand ∈ s.history) :
    s.pump.status = .closed := by
  obtain ⟨reason, rfl⟩ := h.forwarded.returned id e errand hb hr
  exact h.moored.closed (h.ended (List.any_eq_true.2 ⟨_, hr, rfl⟩))

/-- While a pump has broken down no deferred part has gone on from the error hook. -/
theorem reported_eq_nil (h : s.Recovers) (hs : s.pump.status = .errored) : reported s.history = [] := by
  refine Decidable.byContradiction fun hr => ?_
  have ht := (h.afloat (.inr hs)).1
  rw [h.answered hr] at ht
  cases ht

end Recovers
end Session

section Main

variable {context : Context} {lease : Lease} {options : Options} {wire : String} {draw : Nat → Nat}

/-- In every run, whatever calls are dropped and whatever the executor gives up: a callback of the
receiver returns at once, breaks a running pump down and does nothing to any other, and one of them at most
does so. Each failure handed to the executor waits there, was given up, or its deferred part was begun,
which tells the error hook of it, once. While the pump is errored it is not being shut down, and there is
one failure, which waits in the executor or is in the error hook, unless it was given up or dropped there.
When the deferred part of a failure has returned the pump is closed. -/
theorem failures_handled_once {cs : List Cause} {s : Session}
    (h : (Session.new (.new context lease options wire draw)).run cs = some s) :
    let b := Session.new (.new context lease options wire draw)
    (∀ e, s.step? (.fail e) = some (if s.pump.status = .running then s.breakDown e else s.ignore e))
      ∧ b.BrokeOnce cs s ∧ (handed s.history).length ≤ 1
      ∧ (handed s.history).Perm (s.deferred ++ (b.discarded cs ++ reports s.history))
      ∧ deliveryErrors s.history = reports s.history
      ∧ (s.pump.status = .errored → s.pump.stopping = false ∧ ∃ e, handed s.history = [e]
        ∧ s.deferred ++ (b.discarded cs ++ (s.reporting ++ b.dropsReports cs)) = [e])
      ∧ ∀ id e errand, .began id (.report e) ∈ s.history → .returned id errand ∈ s.history →
        s.pump.status = .closed := by
  intro b
  have hrec : s.Recovers := Session.run_induction (.new context lease options wire draw)
    (fun s c t _ hr ht => hr.step (Session.step_of_step? hr.led.tidy.trace ht)) h
  have hclimbed := (Session.climbed_of_run h).2.2
  have hbroke : b.BrokeOnce cs s := by
    have h0 : b.BrokeOnce [] b := .inl rfl
    refine Session.run_history (P := b.BrokeOnce) rfl h0 ?_ h
    intro ds u c v hu hb hv
    have hs := Session.step_of_step? (Session.climbed_of_run hu).1.tidy.trace hv
    exact hb.step hu (Session.climbed_of_run (Session.run_snoc hu hv)).2.2 hs
  have hkept : s.Led ∧ s.Kept ([] ++ b.discarded cs) :=
    Session.run_gathering (P := fun gone s => s.Led ∧ s.Kept gone) ⟨.new _ rfl rfl rfl, .refl _⟩
      (fun gone s c t _ ⟨hi, hk⟩ ht => by
        have hs := Session.step_of_step? hi.tidy.trace ht
        exact ⟨hi.step hs, hk.step hs⟩) h
  have hbegun : s.Led ∧ s.Begun (([] ++ b.dropped cs).filterMap Waiting.report?) :=
    Session.run_dropping (P := fun ws s => s.Led ∧ s.Begun (ws.filterMap Waiting.report?))
      ⟨.new _ rfl rfl rfl, .refl _⟩ (fun ws s c t ⟨hi, hb⟩ ht => by
        have hs := Session.step_of_step? hi.tidy.trace ht
        exact ⟨hi.step hs, hb.step hi.tidy hs⟩) h
  refine ⟨Session.step?_fail hrec.led.tidy.trace, hbroke, ?_, hkept.2, hrec.informed, fun hs => ?_,
    fun id e errand => hrec.closed⟩
  · by_cases hf : failures s.history = []
    · simp [handed_eq_nil hf]
    · obtain ⟨e, he⟩ := hbroke.handed_eq hf
      simp [he]
  · have hf : failures s.history ≠ [] :=
      failures_ne_nil (mem_statusesOf (hclimbed.shown.trans hs) nofun)
    obtain ⟨e, he⟩ := hbroke.handed_eq hf
    refine ⟨(hrec.afloat (.inr hs)).1, e, he, List.perm_singleton.1 ?_⟩
    have hk := hkept.2
    have hb := hbegun.2
    rw [Session.Begun, hrec.reported_eq_nil hs, List.append_nil] at hb
    rw [Session.Kept, he] at hk
    exact (hk.trans ((hb.append_left _).append_left _)).symm

/-- A running pump loses its connection, and its receiver fails once more before the executor comes to the
first failure. -/
def Session.failingTwice : List Cause :=
  Session.opening ++ [.fail ⟨.connection, "link lost"⟩, .fail ⟨.other, "detached"⟩, .report 0]

/-- The error hook is told of the first failure, and the pump is shut down after it. -/
theorem failures_handled_once_of_two :
    ∃ s t, Session.sample.run Session.failingTwice = some s ∧ s.pump.status = .errored
      ∧ handed s.history = [⟨.connection, "link lost"⟩] ∧ s.deferred = []
      ∧ s.reporting = [⟨.connection, "link lost"⟩]
      ∧ Session.sample.run (Session.failingTwice ++ [.answer 3 (.hook (.ok ())),
        .answer 3 (.released (.ok ())), .answer 3 (.released (.ok ())), .answer 3 (.released (.ok ())),
        .answer 3 (.hook (.ok ()))]) = some t
      ∧ deliveryErrors t.history = [⟨.connection, "link lost"⟩] ∧ t.pump.status = .closed := by
  have hs : (Session.sample.run Session.failingTwice).map (fun s => (s.pump.status, s.deferred,
      handed s.history, Session.sample.discarded Session.failingTwice,
      Session.sample.dropsReports Session.failingTwice))
      = some (.errored, [], [⟨.connection, "link lost"⟩], [], []) := by rfl
  have ht : (Session.sample.run (Session.failingTwice ++ [.answer 3 (.hook (.ok ())),
        .answer 3 (.released (.ok ())), .answer 3 (.released (.ok ())), .answer 3 (.released (.ok ())),
        .answer 3 (.hook (.ok ()))])).map (fun t => (reports t.history, t.history[23]?, t.history[39]?))
      = some ([⟨.connection, "link lost"⟩], some (.began 3 (.report ⟨.connection, "link lost"⟩)),
        some (.returned 3 (.shutdown .shutdown))) := by rfl
  obtain ⟨s, hs, he⟩ := Option.map_eq_some_iff.1 hs
  obtain ⟨t, ht, hf⟩ := Option.map_eq_some_iff.1 ht
  simp only [Prod.mk.injEq] at he hf
  obtain ⟨hst, hdef, hhand, hgone, hlost⟩ := he
  obtain ⟨hrep, hbegan, hret⟩ := hf
  obtain ⟨-, -, -, -, -, hsafe, -⟩ := failures_handled_once hs
  obtain ⟨-, e, hone, htask⟩ := hsafe hst
  obtain rfl := (List.cons.inj (hone.symm.trans hhand)).1
  have htask : s.deferred ++ (Session.sample.discarded Session.failingTwice
      ++ (s.reporting ++ Session.sample.dropsReports Session.failingTwice)) = _ := htask
  rw [hdef, hgone, hlost, List.append_nil] at htask
  obtain ⟨-, -, -, -, htold, -, hend⟩ := failures_handled_once ht
  exact ⟨s, t, hs, hst, hhand, hdef, htask, ht, htold.trans hrep,
    hend _ _ _ (List.mem_of_getElem? hbegan) (List.mem_of_getElem? hret)⟩

/-- A failure is lost with its deferred part: the pump stays errored and nobody shuts it down, whether the
executor gives the deferred part up or it is dropped in the error hook. -/
theorem failure_lost_with_deferred_part :
    ∃ s t, Session.sample.run (Session.opening ++ [.fail default, .discard 0]) = some s
      ∧ Session.sample.run (Session.opening ++ [.fail default, .report 0, .drop 2]) = some t
      ∧ (s.pump.status = .errored ∧ s.deferred = [] ∧ s.calls = [] ∧ s.pump.stopping = false)
      ∧ t.pump.status = .errored ∧ t.deferred = [] ∧ t.calls = [] ∧ t.pump.stopping = false :=
  ⟨_, _, rfl, rfl, ⟨rfl, rfl, rfl, rfl⟩, rfl, rfl, rfl, rfl⟩

end Main
end PartitionConsumer
