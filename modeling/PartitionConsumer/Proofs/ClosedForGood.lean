import PartitionConsumer.Proofs.CloseHook
import PartitionConsumer.Proofs.Statuses
import PartitionConsumer.Proofs.Session.Stopping
import PartitionConsumer.Proofs.Bench.Steps
/-!
# What a returned shutdown means

Any number of calls for shutdown make one run of the procedure, that of the first of them. When one of
them has returned the pump is closed, holds nothing and cannot be opened, and so it stays.
-/
namespace PartitionConsumer

/-- The reason for which a call that may go on begins to run the shutdown procedure: its turn has come,
or it has its turn as soon as it asks for it. -/
def Call.initiation? (p : Pump) : Call → Option CloseReason
  | .shutdown ticket reason .queued => if p.once.isTurnOf ticket then some reason else none
  | .report ticket => if (p.once.enter ticket).isTurnOf ticket then some .shutdown else none
  | _ => none

theorem Once.isTurnOf_of_done {o : Once} (hd : o.done = true) (id : Nat) : o.isTurnOf id = false := by
  simp [isTurnOf, hd]

namespace Session

variable {s t : Session} {c : Cause} {id : Nat} {w : Waiting} {a : Answer}

/-- The reason for which some call begins to run the shutdown procedure. -/
def initiation? (s : Session) : Cause → Option CloseReason
  | .shutdown reason => if (s.pump.once.enter s.next).isTurnOf s.next then some reason else none
  | .answer id _ | .wake id => (s.call? id).bind fun w => w.call.initiation? s.pump
  | _ => none

/-- The reasons for which the shutdown procedure was begun in a run, in order. -/
def entries (s : Session) (cs : List Cause) : List CloseReason :=
  gathered (fun s c => (s.initiation? c).toList) s cs

theorem Tells.initiation? (h : s.Tells id w a c) : s.initiation? c = w.call.initiation? s.pump := by
  cases h with
  | answer hw _ => simp [Session.initiation?, hw]
  | wake hw _ _ => simp [Session.initiation?, hw]

/-- A call for shutdown that does not wait for its turn does not begin the procedure. -/
theorem initiation?_of_shutdown {p : Pump} {ticket : Nat} {reason : CloseReason} {stage : ShutdownStage}
    (hs : stage ≠ .queued) : (Call.shutdown ticket reason stage).initiation? p = none := by
  cases stage with
  | queued => exact absurd rfl hs
  | _ => rfl

/-- Who has its turn to run the procedure has made the pump stop. -/
theorem Halted.stopping_of_call (hi : s.Led) (hh : s.Halted) {ticket : Nat} {reason : CloseReason}
    {stage : ShutdownStage} (hw : s.call? id = some w) (hc : w.call = .shutdown ticket reason stage)
    (hs : stage ≠ .queued) : s.pump.stopping = true := by
  have ht : w.turn? = some ⟨ticket, reason, stage⟩ := by
    cases stage with
    | queued => exact absurd rfl hs
    | _ => simp [Waiting.turn?, Call.turn?, hc]
  apply hh.stopping
  rw [(hi.runners_of_turn hw ht).1]
  exact List.cons_ne_nil _ _

/-- A pump comes to be stopping when some call begins to run the procedure, and at no other time. -/
theorem Step.stopping_eq (hi : s.Led) (hh : s.Halted) (h : s.Step c t) :
    t.pump.stopping = (s.pump.stopping || (s.initiation? c).isSome) := by
  have same {q : Pump} (hq : q.stopping = s.pump.stopping) :
      q.stopping = (s.pump.stopping || (none : Option CloseReason).isSome) :=
    hq.trans (Bool.or_false _).symm
  have carry (b : Session) (j : Nat) (e : Errand) {q : Pump} {es : List Effect} {nx : Next} {x : Bool}
      (hq : q.stopping = x) : (b.carry j e q es nx).pump.stopping = x := by
    rw [pump_carry, Next.stopping_leave]
    exact hq
  have enters {ticket : Nat} {reason : CloseReason} {q : Pump} {es : List Effect} {nx : Next}
      (hm : s.pump.EnterMove s.now ticket reason q es nx) :
      q.stopping = (s.pump.stopping
        || (if (s.pump.once.enter ticket).isTurnOf ticket then some reason else none).isSome) := by
    cases hm with
    | done hd =>
      rw [Once.isTurnOf_of_done (by exact hd)]
      exact same rfl
    | queue hd hq =>
      rw [hq]
      exact same rfl
    | run hd hq hr =>
      rw [if_pos hq, hr.stops]
      exact (Bool.or_true _).symm
  cases h with
  | start hm => exact carry _ _ _ (same (hm.steady hh.linked).stopping)
  | shutdown reason hm => exact carry _ _ _ (enters hm)
  | deliver report batch hm => exact carry _ _ _ (same (hm.steady hh.linked).stopping)
  | fail e hm => exact carry _ _ _ (same (hm.steady hh.linked).stopping)
  | report n e he => exact carry _ _ _ (same rfl)
  | discard n hn => exact same rfl
  | tellStart id w a stage ht hw hm =>
    rw [ht.initiation?, hw]
    exact carry _ _ _ (same hm.keeps.stopping)
  | tellShutdown id w a ticket reason stage ht hw hm =>
    rw [ht.initiation?, hw]
    apply carry
    by_cases hs : stage = .queued
    · subst hs
      cases hm with
      | queuedDone hd =>
        rw [Call.initiation?, Once.isTurnOf_of_done hd]
        exact same rfl
      | queuedRun hd hr =>
        rw [Call.initiation?, if_pos (ht.isTurnOf hw hd), hr.stops]
        exact (Bool.or_true _).symm
    · have hst := hh.stopping_of_call hi ht.call? hw hs
      rw [initiation?_of_shutdown hs, hst, hm.aside.stopping hst]
      rfl
  | tellDelivery id w a stage ht hw hm =>
    rw [ht.initiation?, hw]
    exact carry _ _ _ (same rfl)
  | tellReport id w outcome ticket ht hw hm =>
    rw [ht.initiation?, hw]
    exact carry _ _ _ (enters hm)
  | drop id w hw => exact same (s.pump.stopping_abandon w.call)
  | bump => exact same (q := { s.pump with lease := s.pump.lease.bump }) rfl
  | pass ticks => exact same rfl

/-! ## One run of the procedure -/

structure Entered (es : List CloseReason) (s : Session) : Prop where
  entries : es = (firstShutdown? s.history).toList
  free : firstShutdown? s.history = none → s.pump.once = {}

namespace Entered

variable {b : Session} {errand : Errand} {q : Pump} {fs : List Effect} {nx : Next}
  {es : List CloseReason}

/-- A call goes on that asks for no turn. -/
theorem aside {ms : List Mark} (h : s.Entered es) (hb : b.history = s.history ++ ms)
    (hn : firstShutdown? ms = none) (hq : firstShutdown? s.history = none → q.once = s.pump.once) :
    (b.carry id errand q fs nx).Entered es := by
  have hf : firstShutdown? (b.carry id errand q fs nx).history = firstShutdown? s.history := by
    rw [firstShutdown?_carry, hb, firstShutdown?_append, hn, Option.or_none]
  constructor
  · rw [hf]
    exact h.entries
  · rw [hf, pump_carry, Next.once_leave]
    exact fun hnone => (hq hnone).trans (h.free hnone)

/-- A call for shutdown asks for its turn. It has it at once if it is the first. -/
theorem enter {ms : List Mark} {ticket : Nat} {reason : CloseReason} (h : s.Entered es)
    (hr : s.Reasoned) (hb : b.history = s.history ++ ms) (hn : firstShutdown? ms = some reason)
    (ht : s.pump.once.done = false → (s.pump.once.enter ticket).isTurnOf ticket = true →
      s.pump.once.turns = []) :
    (b.carry id errand q fs nx).Entered
      (es ++ (if (s.pump.once.enter ticket).isTurnOf ticket then some reason else none).toList) := by
  have hf : firstShutdown? (b.carry id errand q fs nx).history
      = (firstShutdown? s.history).or (some reason) := by
    rw [firstShutdown?_carry, hb, firstShutdown?_append, hn]
  constructor
  · rw [hf, h.entries]
    by_cases hq : (s.pump.once.enter ticket).isTurnOf ticket = true
    · have hd : s.pump.once.done = false := by
        simp only [Once.isTurnOf, Once.done_enter, Bool.and_eq_true, Bool.not_eq_true'] at hq
        exact hq.1
      rw [if_pos hq, hr.uncalled hd (ht hd hq)]
      rfl
    · rw [if_neg hq]
      cases hs : firstShutdown? s.history with
      | some r => rfl
      | none =>
        rw [h.free hs] at hq
        exact absurd (Once.isTurnOf_enter_of_empty rfl rfl ticket) hq
  · rw [hf]
    intro hnone
    cases hs : firstShutdown? s.history <;> simp [hs] at hnone

theorem step (hd : c.isDrop = false) (hi : s.InTurn) (hr : s.Reasoned) (h : s.Entered es)
    (hs : s.Step c t) : t.Entered (es ++ (s.initiation? c).toList) := by
  have keep {t : Session} (h : t.Entered es) : t.Entered (es ++ (none : Option CloseReason).toList) := by
    rw [Option.toList_none, List.append_nil]
    exact h
  cases hs with
  | start hm => exact keep (h.aside (b := s.begin _) rfl rfl fun _ => hm.keeps.once)
  | shutdown reason hm =>
    exact h.enter (b := s.begin _) hr rfl rfl fun hd hq => (hi.runners_of_enter hi.next_not_mem_turns hd hq).1
  | deliver report batch hm => exact keep (h.aside (b := s.begin _) rfl rfl fun _ => hm.once)
  | fail e hm => exact keep (h.aside (b := s.begin _) rfl rfl fun _ => hm.keeps.once)
  | report n e he => exact keep (h.aside (b := (s.forget n).begin _) rfl rfl fun _ => rfl)
  | discard n hn => exact keep ⟨h.entries, h.free⟩
  | tellStart id w a stage ht hw hm =>
    rw [ht.initiation?, hw]
    exact keep (h.aside rfl (by rw [firstShutdown?_marks, hw]) fun _ => hm.keeps.once)
  | tellShutdown id w a ticket reason stage ht hw hm =>
    have hn : firstShutdown? (w.marks id a) = none := by rw [firstShutdown?_marks, hw]
    rw [ht.initiation?, hw]
    obtain ⟨-, rfl, -, ⟨hdone, rfl, -⟩ | ⟨hst, -, hrun, -⟩⟩ := hi.told_shutdown ht hw hm
    · -- a caller in the queue goes on only when the procedure is at its end
      have he : (Call.shutdown ticket reason stage).initiation? s.pump = none := by
        cases stage with
        | queued => simp [Call.initiation?, Once.isTurnOf_of_done hdone]
        | _ => rfl
      rw [he]
      exact keep (h.aside rfl hn fun _ => rfl)
    · rw [initiation?_of_shutdown hst]
      have hfirst := hr.turns ⟨ticket, reason, stage⟩ (by rw [hrun]; exact List.mem_cons_self)
      exact keep (h.aside rfl hn fun hnone => by rw [hfirst] at hnone; cases hnone)
  | tellDelivery id w a stage ht hw hm =>
    rw [ht.initiation?, hw]
    exact keep (h.aside rfl (by rw [firstShutdown?_marks, hw]) fun _ => rfl)
  | tellReport id w outcome ticket ht hw hm =>
    obtain ⟨rfl, hn, -, -⟩ := hi.told_report ht hw
    rw [ht.initiation?, hw]
    exact h.enter hr rfl (by rw [firstShutdown?_marks, hw]) fun hd hq => (hi.runners_of_enter hn hd hq).1
  | drop => cases hd
  | bump => exact keep ⟨h.entries, h.free⟩
  | pass ticks =>
    apply keep
    constructor
    · rw [history_note, firstShutdown?_passed]
      exact h.entries
    · rw [history_note, firstShutdown?_passed]
      exact h.free

end Entered

/-! ## Nothing happens to a pump that is closed -/

theorem hasShutDown_of_prefix {h k : List Mark} (hp : h <+: k) (hs : hasShutDown h = true) :
    hasShutDown k = true := by
  obtain ⟨ms, rfl⟩ := hp
  rw [hasShutDown_append, hs]
  rfl

/-- A call to open a pump that is closed returns at once, and all it does is to be seen. -/
theorem start_of_closed (hp : s.pump.trace = []) (hc : s.pump.status = .closed) :
    s.step? .start = some ((s.begin .start).note [.returned s.next .start]) := by
  have hm : s.pump.beginStart
      = (s.pump.log .warn "start ignored" [("status", .text s.pump.status.label)], .finish) := by
    unfold Pump.beginStart
    rw [if_pos]
    simp [hc]
  simp [step?, hm, move, carry, note, begin, Pump.untraced_of_trace hp, Pump.shown_of_trace hp, Next.leave,
    Next.waiting?, Next.marks]

/-- What a shutdown that has returned leaves behind. -/
theorem closed_of_hasShutDown (hi : s.InTurn) (hl : s.Settled) (h : hasShutDown s.history = true) :
    s.pump.status = .closed ∧ s.pump.connection = none := by
  have hc := hl.done (hi.ended h)
  exact ⟨hc, hl.of_closed hc⟩

end Session

section Main

variable {context : Context} {lease : Lease} {options : Options} {wire : String} {draw : Nat → Nat}

/-- However many calls for shutdown there are, and whatever they meet: the procedure, which is what makes
the pump stop, is begun for the first of them and never again. As soon as one of them has returned the pump
is closed and has no connection, a call to open it returns at once and does nothing, and so it is in every
later state. -/
theorem shutdown_means_closed {cs : List Cause} {s : Session}
    (h : (Session.new (.new context lease options wire draw)).run cs = some s)
    (hd : ∀ c ∈ cs, c.isDrop = false) :
    (Session.new (.new context lease options wire draw)).entries cs = (firstShutdown? s.history).toList
      ∧ (∀ ds c es u v, cs = ds ++ c :: es →
        (Session.new (.new context lease options wire draw)).run ds = some u → u.step? c = some v →
        v.pump.stopping = (u.pump.stopping || (u.initiation? c).isSome))
      ∧ (hasShutDown s.history = true → ∀ ds t, s.run ds = some t → (∀ c ∈ ds, c.isDrop = false) →
        t.pump.status = .closed ∧ t.pump.connection = none
          ∧ t.step? .start = some ((t.begin .start).note [.returned t.next .start])) := by
  refine ⟨?_, ?_, ?_⟩
  · have h0 : Session.Entered [] (.new (.new context lease options wire draw)) := ⟨rfl, fun _ => rfl⟩
    have hrun := Session.run_gathering (P := fun es s => s.InTurn ∧ s.Reasoned ∧ s.Entered es)
      ⟨.new _ rfl rfl rfl, .new, h0⟩
      (fun es s c t hc ⟨hi, hr, he⟩ ht => by
        have hs := Session.step_of_step? hi.tidy.trace ht
        exact ⟨hi.step (hd c hc) hs, hr.step (hd c hc) hi hs, he.step (hd c hc) hi hr hs⟩) h
    exact hrun.2.2.entries
  · intro ds c es u v _ hu hv
    obtain ⟨hi, hh, -⟩ := Session.climbed_of_run hu
    exact (Session.step_of_step? hi.tidy.trace hv).stopping_eq hi hh
  · intro hret ds t ht hds
    obtain ⟨hi, hl⟩ := Session.run_undropped (P := Session.Settled) (.new _ rfl rfl rfl) .new hd
      (fun _ _ _ hc hi hl hs => hl.step hc hi hs) h
    obtain ⟨hit, hlt, hgrown⟩ := Session.run_undropped
      (P := fun t => t.Settled ∧ s.history <+: t.history) hi ⟨hl, List.prefix_rfl⟩ hds
      (fun _ _ _ hc hi ⟨hl, hg⟩ hs => ⟨hl.step hc hi hs, hg.trans hs.grows⟩) ht
    obtain ⟨hc, hn⟩ := Session.closed_of_hasShutDown hit hlt (Session.hasShutDown_of_prefix hgrown hret)
    exact ⟨hc, hn, Session.start_of_closed hit.tidy.trace hc⟩

/-- While the deferred part of a failure tells the error hook, two callers shut the pump down. All three
return. -/
def Session.shutByThree : List Cause :=
  Session.opening ++ [.fail default, .report 0, .shutdown .leaseLost, .shutdown .shutdown,
    .answer 2 (.hook (.ok ())), .answer 3 (.released (.ok ())), .answer 3 (.released (.ok ())),
    .answer 3 (.released (.ok ())), .answer 3 (.hook (.ok ())), .wake 2, .wake 4]

/-- After three calls for shutdown have returned, the pump is shut down and opened once more. -/
theorem shutdown_means_closed_for_three_callers :
    ∃ s t, Session.sample.run Session.shutByThree = some s ∧ s.calls = []
      ∧ s.run [.shutdown .shutdown, .start] = some t
      ∧ Session.sample.entries Session.shutByThree = [.leaseLost]
      ∧ t.pump.status = .closed ∧ t.pump.connection = none
      ∧ t.step? .start = some ((t.begin .start).note [.returned t.next .start]) := by
  have hr : (Session.sample.run Session.shutByThree).map (fun s => (s.calls, hasShutDown s.history,
      firstShutdown? s.history, (s.run [.shutdown .shutdown, .start]).isSome))
      = some ([], true, some .leaseLost, true) := by rfl
  obtain ⟨s, hs, he⟩ := Option.map_eq_some_iff.1 hr
  simp only [Prod.mk.injEq] at he
  obtain ⟨hcalls, hret, hfirst, hlater⟩ := he
  obtain ⟨t, ht⟩ := Option.isSome_iff_exists.1 hlater
  obtain ⟨hentries, -, hclosed⟩ := shutdown_means_closed hs (by decide)
  rw [hfirst] at hentries
  exact ⟨s, t, hs, hcalls, ht, hentries, hclosed hret _ t ht (by decide)⟩

end Main
end PartitionConsumer
