import PartitionConsumer.Proofs.HookOrder
import PartitionConsumer.Proofs.Session.Settings
import PartitionConsumer.Proofs.Stream.Passage
/-!
# Reports on the tail of a partition

With each delivery the handler may learn from its receiver how far the partition goes. It asks before it
looks at the batch or at the pump, and through a reference that does not keep the receiver alive. So what
the pump knows is what was heard last in any delivery: one that was handed to the batch hook, one that
brought nothing, or one that came when the pump was closing. Calls may be dropped at any time.
-/
namespace PartitionConsumer

structure Arrival where
  receiver : Nat
  /-- Somebody besides the pump keeps the receiver alive. -/
  kept : Bool
  /-- What the receiver reports on the tail of its partition, if it is asked. -/
  report : Option TailReport
  batch : Option Batch
  deriving Repr, Inhabited

inductive Occasion where
  | arrival (a : Arrival)
  | other (c : Cause)
  deriving Repr, Inhabited

namespace Pump

/-- What the pump knows of the tail after a delivery with this report. -/
def learns (p : Pump) (report : Option TailReport) : Option TailReport :=
  if p.options.metricsEnabled then report.or p.context.tail else p.context.tail

def informed (p : Pump) (report : Option TailReport) : Pump :=
  { p with context := { p.context with tail := p.learns report } }

def accepts (p : Pump) (messages : Option Batch) : Option Batch :=
  if p.status.isClosingOrClosed then none else p.options.normalised messages

/-- The report is kept first, and then the delivery goes on as one that brings none. -/
theorem receive_informed (p : Pump) (report : Option TailReport) (messages : Option Batch) :
    p.receive report messages = (p.informed report).receive none messages := by
  unfold receive informed learns
  cases p.options.metricsEnabled with
  | false => rfl
  | true => cases report <;> rfl

theorem receive_none (p : Pump) (messages : Option Batch) :
    p.receive none messages = (p.options.normalised messages).elim (p, .finish) p.handleBatch := by
  have hk : (if p.options.metricsEnabled then p.snapshot none else p) = p := ite_self p
  unfold receive
  rw [hk]
  rcases messages with _ | ⟨_ | ⟨m, ms⟩⟩
  · cases hi : p.options.invokeOnEmpty <;> simp [Options.normalised, hi]
  · cases hi : p.options.invokeOnEmpty <;> simp [Options.normalised, hi]
  · rfl

/-- A delivery does nothing to the pump but to keep its report. -/
theorem goes_receive_informed (p : Pump) (report : Option TailReport) (messages : Option Batch) :
    p.Goes (p.receive report messages) fun q es nx =>
      q = (p.informed report).untraced
        ∧ es = ((p.accepts messages).map fun b => Effect.ask (.hook (.onEvents b))).toList
        ∧ nx = (p.accepts messages).elim .finish
          fun b => .ask (.hook (.onEvents b)) (.deliver (.onEvents b.length)) := by
  rw [receive_informed, receive_none]
  refine goes_quiet (q := p.informed report) rfl ?_
  have hn : (p.informed report).options.normalised messages = p.options.normalised messages := rfl
  unfold accepts
  rw [hn]
  cases p.options.normalised messages with
  | none => exact ⟨[], by simp, by simp⟩
  | some b =>
    refine goes_handleBatch _ b _ (fun h => ?_) fun h => ?_
    · have hs : p.status.isClosingOrClosed = true := h
      simp [hs]
    · have hs : p.status.isClosingOrClosed = false := h
      simp [hs]

end Pump

namespace Session

variable {s t : Session}

/-- The pump keeps the receiver alive: it has the connection, or one of its calls has it in hand. -/
def keeps (s : Session) (r : Nat) : Bool :=
  (s.pump.connection.toList ++ s.waiting fun w => w.call.holds?).any (·.receiver == r)

/-- What the handler hears: nothing from a receiver that is gone. -/
def hears (s : Session) (a : Arrival) : Option TailReport :=
  if a.kept || s.keeps a.receiver then a.report else none

def cause? (s : Session) : Occasion → Option Cause
  | .arrival a => some (.deliver (s.hears a) a.batch)
  | .other c => if c.isDelivery then none else some c

def meet? (s : Session) (x : Occasion) : Option Session := (s.cause? x).bind s.step?

def meets (s : Session) : List Occasion → Option Session
  | [] => some s
  | x :: xs => (s.meet? x).bind fun t => t.meets xs

def heard (s : Session) : Occasion → List TailReport
  | .arrival a => (s.hears a).toList
  | .other _ => []

def reports (s : Session) : List Occasion → List TailReport
  | [] => []
  | x :: xs => s.heard x ++ (s.meet? x).elim [] fun t => t.reports xs

/-! ## One delivery -/

/-- The pump that has kept the report waits for the batch hook, or is done with the delivery. -/
theorem meet_arrival (hp : s.pump.trace = []) {a : Arrival} (h : s.meet? (.arrival a) = some t) :
    t.pump = s.pump.informed (s.hears a)
      ∧ t.history = s.history ++ .began s.next (.delivery a.batch)
        :: (s.pump.accepts a.batch).elim [.returned s.next (.delivery a.batch)]
          fun b => [.did s.next (.ask (.hook (.onEvents b)))] := by
  obtain ⟨q, es, nx, he, rfl, rfl, rfl⟩ := (s.begin (.delivery a.batch)).move_eq_carry hp
    (s.pump.goes_receive_informed (s.hears a) a.batch) s.next (.delivery a.batch)
  obtain rfl := (Option.some.inj h).symm.trans he
  have hu : (s.pump.informed (s.hears a)).untraced = s.pump.informed (s.hears a) :=
    Pump.untraced_of_trace hp
  rw [pump_carry, history_carry, history_begin, hu]
  cases s.pump.accepts a.batch with
  | none => exact ⟨rfl, by simp [Next.marks]⟩
  | some b => exact ⟨rfl, by simp [Next.marks]⟩

theorem step_of_meet? {c : Cause} (h : s.meet? (.other c) = some t) :
    c.isDelivery = false ∧ s.step? c = some t := by
  cases hc : c.isDelivery with
  | false => exact ⟨rfl, by simpa [meet?, cause?, hc] using h⟩
  | true => simp [meet?, cause?, hc] at h

/-! ## All other steps -/

section Carry

variable {b : Session} {id : Nat} {errand : Errand} {q : Pump} {es : List Effect} {nx : Next}

theorem asked_onEvents_carry (ha : Asks es nx) (hf : nx.Fits id errand)
    (he : ∀ batch, errand ≠ .delivery batch) :
    asked Request.isOnEvents (b.carry id errand q es nx).history = asked Request.isOnEvents b.history := by
  rw [asked_carry, ha]
  cases hr : nx.request? with
  | none =>
    cases nx with
    | ask => cases hr
    | _ => rfl
  | some r => rw [Next.asks_of_request? _ hr, if_neg (InOrder.not_isOnEvents hf he r hr), Nat.add_zero]

end Carry

/-- The batch hook is asked in a delivery's own step and in no other. -/
theorem Step.asked_onEvents {c : Cause} (hi : s.Tidy) (h : s.Step c t) (hc : c.isDelivery = false) :
    asked Request.isOnEvents t.history = asked Request.isOnEvents s.history := by
  cases h with
  | start hm => exact (asked_onEvents_carry hm.asks (hm.fits _) (by simp)).trans (asked_begin ..)
  | shutdown reason hm => exact (asked_onEvents_carry hm.asks hm.fits (by simp)).trans (asked_begin ..)
  | deliver => cases hc
  | fail e hm => exact (asked_onEvents_carry hm.asks .finish (by simp)).trans (asked_begin ..)
  | report n e he => exact (asked_onEvents_carry .only (.ask (.report e)) (by simp)).trans (asked_begin ..)
  | discard n hn => rfl
  | tellStart id w a stage ht hw hm =>
    have he := ((hi.fits_call ht.call?).of_start hw).1
    rw [he]
    exact (asked_onEvents_carry hm.asks (hm.fits _) (by simp)).trans (asked_told ..)
  | tellShutdown id w a ticket reason stage ht hw hm =>
    obtain ⟨he, rfl, -⟩ := (hi.fits_call ht.call?).of_shutdown hw
    rw [he]
    exact (asked_onEvents_carry hm.asks hm.fits (by simp)).trans (asked_told ..)
  | tellDelivery id w a stage ht hw hm =>
    rw [asked_carry, asked_told]
    cases hm <;> rfl
  | tellReport id w outcome ticket ht hw hm =>
    obtain ⟨rfl, -⟩ := (hi.fits_call ht.call?).of_report hw
    exact (asked_onEvents_carry hm.asks hm.fits (by simp)).trans (asked_told ..)
  | drop id w hw => exact (asked_append ..).trans (Nat.add_zero _)
  | bump => rfl
  | pass ticks => exact (asked_append ..).trans (Nat.add_zero _)

/-! ## Runs -/

structure Knows (o : Options) (rs : List TailReport) (s : Session) : Prop where
  tidy : s.Tidy
  options : s.pump.options = o
  tail : s.pump.context.tail = if o.metricsEnabled then rs.getLast? else none

namespace Knows

variable {o : Options} {rs : List TailReport}

theorem learns (h : s.Knows o rs) (report : Option TailReport) :
    s.pump.learns report = if o.metricsEnabled then (rs ++ report.toList).getLast? else none := by
  unfold Pump.learns
  rw [h.options, h.tail]
  cases o.metricsEnabled with
  | false => rfl
  | true => cases report <;> simp [List.getLast?_append]

theorem step {x : Occasion} (h : s.Knows o rs) (ht : s.meet? x = some t) :
    t.Knows o (rs ++ s.heard x) := by
  cases x with
  | arrival a =>
    obtain ⟨hp, -⟩ := meet_arrival h.tidy.trace ht
    have hs := step_of_step? (c := .deliver (s.hears a) a.batch) h.tidy.trace ht
    exact ⟨h.tidy.step hs, hs.options.trans h.options, by rw [hp]; exact h.learns (s.hears a)⟩
  | other c =>
    obtain ⟨hc, hk⟩ := step_of_meet? ht
    have hs := step_of_step? h.tidy.trace hk
    refine ⟨h.tidy.step hs, hs.options.trans h.options, ?_⟩
    rw [(hs.kept hc).context, heard, List.append_nil]
    exact h.tail

theorem run {xs : List Occasion} (h : s.Knows o rs) (ht : s.meets xs = some t) :
    t.Knows o (rs ++ s.reports xs) := by
  induction xs generalizing s rs with
  | nil =>
    obtain rfl := Option.some.inj ht
    rw [reports, List.append_nil]
    exact h
  | cons x xs ih =>
    obtain ⟨u, hu, ht⟩ := Option.bind_eq_some_iff.1 ht
    rw [reports, hu, Option.elim_some, ← List.append_assoc]
    exact ih (h.step hu) ht

/-- What was once known is never unlearned. -/
theorem isSome_tail {rs' : List TailReport} (h : s.Knows o rs) (ht : t.Knows o (rs ++ rs'))
    (hs : s.pump.context.tail.isSome) : t.pump.context.tail.isSome := by
  rw [h.tail] at hs
  rw [ht.tail]
  cases hm : o.metricsEnabled with
  | false => simp [hm] at hs
  | true =>
    simp only [hm, if_true, List.getLast?_isSome] at hs ⊢
    exact List.append_ne_nil_of_left_ne_nil hs _

end Knows
end Session

section Main

variable {context : Context} {lease : Lease} {options : Options} {wire : String} {draw : Nat → Nat}

/-- A pump that looks at reports knows the last one it has heard, and one that does not knows nothing. -/
theorem tail_is_last_report {xs : List Occasion} {s : Session}
    (h : (Session.new (.new { context with tail := none } lease options wire draw)).meets xs = some s) :
    s.pump.context.tail = (if options.metricsEnabled then
        ((Session.new (.new { context with tail := none } lease options wire draw)).reports xs).getLast?
        else none)
      ∧ (∀ ys t, s.meets ys = some t → s.pump.context.tail.isSome → t.pump.context.tail.isSome)
      ∧ (∀ a t, s.meet? (.arrival a) = some t →
        t.pump.context.tail
            = (if options.metricsEnabled then (s.hears a).or s.pump.context.tail else none)
          ∧ s.pump.receive (s.hears a) a.batch = { s.pump with context := t.pump.context }.receive none a.batch
          ∧ t.history = s.history ++ .began s.next (.delivery a.batch)
            :: (s.pump.accepts a.batch).elim [.returned s.next (.delivery a.batch)]
              fun b => [.did s.next (.ask (.hook (.onEvents b)))])
      ∧ ∀ c t, s.meet? (.other c) = some t →
        t.pump.context = s.pump.context
          ∧ asked Request.isOnEvents t.history = asked Request.isOnEvents s.history := by
  have hn : (Session.new (.new { context with tail := none } lease options wire draw)).Knows options [] :=
    ⟨.new _ rfl rfl, rfl, by cases hm : options.metricsEnabled <;> rfl⟩
  have hk := hn.run h
  refine ⟨hk.tail, fun ys t ht => hk.isSome_tail (hk.run ht), fun a t ht => ?_, fun c t ht => ?_⟩
  · obtain ⟨hp, hh⟩ := Session.meet_arrival hk.tidy.trace ht
    refine ⟨?_, ?_, hh⟩
    · have hl : t.pump.context.tail = s.pump.learns (s.hears a) := by rw [hp]; rfl
      rw [hl, Pump.learns, hk.options]
      cases hm : options.metricsEnabled with
      | true => rfl
      | false => simpa [hm] using hk.tail
    · rw [hp]
      exact s.pump.receive_informed (s.hears a) a.batch
  · obtain ⟨hc, ht⟩ := Session.step_of_meet? ht
    have hs := Session.step_of_step? hk.tidy.trace ht
    exact ⟨(hs.kept hc).context, hs.asked_onEvents hk.tidy hc⟩

/-- A report that is heard with a window without messages, one with a batch, one while the connection is
released, and one that is not heard because the receiver is gone. -/
def lastReports : List Occasion :=
  Session.opening.map .other
    ++ [.arrival ⟨0, false, none, some [.numbered 1]⟩,
      .arrival ⟨0, false, some ⟨"0", 1, "100", ⟨0⟩, ⟨0⟩⟩, none⟩,
      .arrival ⟨0, false, some ⟨"0", 2, "200", ⟨0⟩, ⟨0⟩⟩, some [.numbered 2]⟩,
      .other (.shutdown .shutdown),
      .arrival ⟨0, false, some ⟨"0", 3, "300", ⟨0⟩, ⟨0⟩⟩, some [.numbered 3]⟩,
      .other (.answer 4 (.released (.ok ()))), .other (.answer 4 (.released (.ok ()))),
      .other (.answer 4 (.released (.ok ()))),
      .arrival ⟨0, false, some ⟨"0", 4, "400", ⟨0⟩, ⟨0⟩⟩, some [.numbered 4]⟩]

def Session.measured : Session :=
  new (.new ⟨"h", "g", "0", some (.timestamp ⟨0⟩), none⟩ ⟨"0", "h", 1⟩ { metricsEnabled := true } "mock"
    fun _ => 0)

theorem tail_is_last_report_of_the_release :
    ∃ s, Session.measured.meets lastReports = some s
      ∧ s.pump.context.tail = some ⟨"0", 3, "300", ⟨0⟩, ⟨0⟩⟩
      ∧ asked Request.isOnEvents s.history = 2 := by
  have hr : (Session.measured.meets lastReports).map (fun s => asked Request.isOnEvents s.history)
      = some 2 := by rfl
  obtain ⟨s, hs, hn⟩ := Option.map_eq_some_iff.1 hr
  have ht := @tail_is_last_report ⟨"h", "g", "0", some (.timestamp ⟨0⟩), none⟩ _ _ _ _ lastReports s hs
  exact ⟨s, hs, ht.1, hn⟩

end Main
end PartitionConsumer
