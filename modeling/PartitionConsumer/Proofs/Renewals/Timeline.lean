import PartitionConsumer.Proofs.Renewals
import PartitionConsumer.Proofs.Sequence.Concourse
/-!
# The timeline of renewals

What a schedule does, and when, if its timers fire and its actions return on time. It is written down from the
length and the outcome of each action alone: one timer after the other, each set when the action before it has
returned, until a firing finds the owner closing.
-/
namespace PartitionConsumer

/-- How long each action of a schedule takes, in ticks, and what comes of it. -/
structure Workload where
  takes : Nat → Nat
  outcome : Nat → Except RenewalError Unit

instance : DecidableEq (Except RenewalError Unit)
  | .ok _, .ok _ => isTrue rfl
  | .error e, .error f => decidable_of_iff (e = f) ⟨congrArg Except.error, Except.error.inj⟩
  | .ok _, .error _ | .error _, .ok _ => isFalse nofun

/-- The action of this number begins. -/
def Entry.begins (k : Nat) : Entry → Bool
  | .begun j => j == k
  | _ => false

inductive Renewal.Stage where
  /-- It waits for the timer of this number. -/
  | waits (k : Nat)
  /-- The action of this number is under way. -/
  | acts (k : Nat)
  /-- The firing of this number has found the owner closing, which was the end. -/
  | rests (k : Nat)
  deriving DecidableEq, Repr, Inhabited

namespace Renewal

/-- The event that an action has returned. -/
def firedEvent (client : String) (outcome : Except RenewalError Unit) : Event where
  kind := .renewalFired
  partition := client
  reason := match outcome with
    | .ok () => none
    | .error e => e.message

def stoppedEvent (client : String) : Event where
  kind := .renewalStopped
  partition := client
  reason := "owner closed"

def sequel (client : String) (outcome : Except RenewalError Unit) : List Effect :=
  (match outcome with
    | .ok () => []
    | .error e => [.log ⟨.warn, "token renewal failed, will retry at next interval",
        [("client", .text client), ("error", .text e.message)]⟩])
    ++ [.publish (firedEvent client outcome)]

/-- What it does when a firing finds the owner closing. -/
def farewell (client : String) : List Effect :=
  [.log ⟨.info, "client closing or closed, stopping token renewal", [("client", .text client)]⟩,
    .publish (stoppedEvent client)]

namespace Stage

def completed : Stage → Nat
  | .waits k | .acts k | .rests k => k

def isRest : Stage → Bool
  | .rests _ => true
  | _ => false

end Stage
end Renewal

namespace Workload

variable (w : Workload) (client : String) (interval : Span)

/-- The tick that the timer `k` is set for. -/
def due : Nat → Nat
  | 0 => wakeTime 0 interval
  | k + 1 => wakeTime (due k + w.takes k) interval

/-- The tick at which the action `k` returns. -/
def back (k : Nat) : Nat := w.due interval k + w.takes k

/-- What can be seen of the timer `k` and its action, up to the next timer. -/
def cycle (k : Nat) : List (Nat × Entry) :=
  [(w.due interval k, .fired k false), (w.due interval k, .begun k),
    (w.back interval k, .ended k (w.outcome k))]
    ++ (Renewal.sequel client (w.outcome k)).map (fun e => (w.back interval k, .did e))
    ++ [(w.back interval k, .armed (k + 1) (w.due interval (k + 1)))]

def cycles (n : Nat) : List (Nat × Entry) :=
  [(0, .did (.log ⟨.debug, "renewal scheduled",
      [("client", .text client), ("interval", .text interval.text)]⟩)),
    (0, .armed 0 (w.due interval 0))]
    ++ (List.range n).flatMap (w.cycle client interval)

/-- All that can be seen of a schedule that has come this far. -/
def story : Renewal.Stage → List (Nat × Entry)
  | .waits n => w.cycles client interval n
  | .acts n => w.cycles client interval n
      ++ [(w.due interval n, .fired n false), (w.due interval n, .begun n)]
  | .rests n => w.cycles client interval n ++ (w.due interval n, .fired n true)
      :: (Renewal.farewell client).map fun e => (w.due interval n, .did e)

def events (stage : Renewal.Stage) : List Event :=
  (List.range stage.completed).map (fun k => Renewal.firedEvent client (w.outcome k))
    ++ if stage.isRest then [Renewal.stoppedEvent client] else []

theorem cycles_succ (n : Nat) : w.cycles client interval (n + 1)
    = w.cycles client interval n ++ w.cycle client interval n := by
  simp [cycles, List.range_succ]

variable {w client interval} {k : Nat}

theorem begun_cycles {b n : Nat} (h : (b, .begun k) ∈ w.cycles client interval n) :
    b = w.due interval k := by
  simp only [cycles, List.mem_append, List.mem_flatMap, List.mem_range, cycle, List.mem_cons, List.mem_map,
    List.not_mem_nil, Prod.mk.injEq, Entry.begun.injEq, reduceCtorEq, and_false, or_false, false_or,
    exists_false] at h
  obtain ⟨j, -, hb, rfl⟩ := h
  exact hb

/-- An action begins when its timer is due. -/
theorem begun_story {b : Nat} {stage : Renewal.Stage} (h : (b, .begun k) ∈ w.story client interval stage) :
    b = w.due interval k := by
  cases stage with
  | waits n => exact begun_cycles h
  | acts n =>
    obtain h | h := List.mem_append.1 h
    · exact begun_cycles h
    · simp only [List.mem_cons, Prod.mk.injEq, Entry.begun.injEq, reduceCtorEq, and_false, false_or,
        List.not_mem_nil, or_false] at h
      rw [h.1, h.2]
  | rests n =>
    obtain h | h := List.mem_append.1 h
    · exact begun_cycles h
    · simp [Renewal.farewell] at h

theorem begins_story {e : Nat × Entry} {stage : Renewal.Stage} (h : e ∈ w.story client interval stage)
    (hk : e.2.begins k = true) : e.1 = w.due interval k := by
  obtain ⟨b, entry⟩ := e
  cases entry with
  | begun j =>
    obtain rfl : j = k := eq_of_beq hk
    exact begun_story h
  | _ => cases hk

theorem published_cycle (k : Nat) : (w.cycle client interval k).filterMap (fun e => e.2.event?)
    = [Renewal.firedEvent client (w.outcome k)] := by
  unfold cycle Renewal.sequel
  cases w.outcome k <;> rfl

theorem published_cycles (n : Nat) : (w.cycles client interval n).filterMap (fun e => e.2.event?)
    = (List.range n).map fun k => Renewal.firedEvent client (w.outcome k) := by
  induction n with
  | zero => rfl
  | succ n ih =>
    rw [cycles_succ, List.filterMap_append, ih, published_cycle, List.range_succ, List.map_append]
    rfl

theorem published_story (stage : Renewal.Stage) :
    (w.story client interval stage).filterMap (fun e => e.2.event?) = w.events client stage := by
  cases stage with
  | waits n => exact (published_cycles n).trans (List.append_nil _).symm
  | acts n =>
    rw [story, List.filterMap_append, published_cycles]
    rfl
  | rests n =>
    rw [story, List.filterMap_append, published_cycles]
    rfl

/-- What the first `k` actions take together. -/
def taken (w : Workload) : Nat → Nat
  | 0 => 0
  | k + 1 => taken w k + w.takes k

/-- A timer is due after an interval for its own action and each before it, and what these have taken, as far as
the clock can hold that instant. -/
theorem due_eq {ticks : Nat} (h : ((k + 1) * ticks + w.taken k) * nanosPerTick < clockBound) :
    w.due (.ofMillis ticks) k = (k + 1) * ticks + w.taken k := by
  have hset {now : Nat} (hn : (now + ticks) * nanosPerTick < clockBound) :
      wakeTime now (.ofMillis ticks) = now + ticks := by
    refine wakeTime_ofMillis ?_
    rw [deadline?, if_pos (by rwa [Span.ofMillis, ← Nat.add_mul])]
    rfl
  induction k with
  | zero =>
    have hfirst : (0 + 1) * ticks + w.taken 0 = 0 + ticks := by
      rw [taken]
      omega
    rw [hfirst] at h ⊢
    exact hset h
  | succ k ih =>
    have hnext : (k + 1 + 1) * ticks + w.taken (k + 1) = (k + 1) * ticks + w.taken k + w.takes k + ticks := by
      rw [taken, Nat.add_mul (k + 1) 1]
      omega
    rw [hnext] at h ⊢
    rw [due, ih (Nat.lt_of_le_of_lt (Nat.mul_le_mul_right _ (by omega)) h)]
    exact hset h

theorem lt_wakeTime {ticks : Nat} (h : 0 < ticks) (now : Nat) : now < wakeTime now (.ofMillis ticks) := by
  unfold wakeTime deadline?
  split
  · rw [Span.ticks_ofMillis]
    exact Nat.lt_add_of_pos_right h
  · exact Nat.lt_add_of_pos_right (by decide)

end Workload

namespace Timetable

variable {t u : Timetable} {w : Workload} {client : String} {interval : Span} {stage : Renewal.Stage}
  {x : Occurrence} {xs : List Occurrence} {k n : Nat}

/-! ## On time -/

/-- Whether this can happen next where timers and actions are on time and nobody cancels: time does not pass the
tick of a timer or the end of an action. -/
def Keeps (w : Workload) (t : Timetable) : Occurrence → Prop
  | .pass ticks => (∀ timer ∈ t.timers, t.now + ticks ≤ timer.2)
      ∧ ∀ k ∈ t.actions, ∀ e ∈ t.history, e.2.begins k = true → t.now + ticks ≤ e.1 + w.takes k
  | .finish k outcome => outcome = w.outcome k
      ∧ ∀ e ∈ t.history, e.2.begins k = true → t.now = e.1 + w.takes k
  | .cancel => False
  | .expire _ | .own _ => True

def KeepsTime (w : Workload) (t : Timetable) : List Occurrence → Prop
  | [] => True
  | x :: xs => t.Keeps w x ∧ ∀ u ∈ t.step? x, u.KeepsTime w xs

instance (w : Workload) (t : Timetable) (x : Occurrence) : Decidable (t.Keeps w x) :=
  match x with
  | .pass _ | .finish _ _ => inferInstanceAs (Decidable (_ ∧ _))
  | .cancel => inferInstanceAs (Decidable False)
  | .expire _ | .own _ => inferInstanceAs (Decidable True)

instance decidableKeepsTime (w : Workload) (t : Timetable) :
    (xs : List Occurrence) → Decidable (t.KeepsTime w xs)
  | [] => inferInstanceAs (Decidable True)
  | x :: xs =>
    have (u : Timetable) : Decidable (u.KeepsTime w xs) := decidableKeepsTime w u xs
    inferInstanceAs (Decidable (t.Keeps w x ∧ ∀ u ∈ t.step? x, u.KeepsTime w xs))

theorem keepsTime_append {xs ys : List Occurrence} (hr : t.run xs = some u) (hx : t.KeepsTime w xs)
    (hy : u.KeepsTime w ys) : t.KeepsTime w (xs ++ ys) := by
  induction xs generalizing t with
  | nil =>
    obtain rfl := Option.some.inj hr
    exact hy
  | cons x xs ih =>
    obtain ⟨v, hv, hr⟩ := Option.bind_eq_some_iff.1 hr
    refine ⟨hx.1, fun v' hv' => ?_⟩
    obtain rfl := Option.some.inj (hv.symm.trans hv')
    exact ih hr (hx.2 _ hv)

/-- What every step on time keeps, a run on time keeps. -/
theorem run_induction_of_keepsTime {P : Timetable → Prop} {xs : List Occurrence} (ht : P t)
    (hs : ∀ t x u, t.Keeps w x → P t → t.Step x u → P u) (hkeep : t.KeepsTime w xs)
    (hr : t.run xs = some u) : P u := by
  induction xs generalizing t with
  | nil =>
    obtain rfl := Option.some.inj hr
    exact ht
  | cons x xs ih =>
    obtain ⟨v, hv, hr⟩ := Option.bind_eq_some_iff.1 hr
    exact ih (hs t x v hkeep.1 ht (step_of_step? hv)) (hkeep.2 v hv) hr

/-! ## What a step does in full -/

@[simp] theorem now_fire (t : Timetable) (k : Nat) : (t.fire k).now = t.now := by
  unfold fire
  dsimp only
  split <;> rfl

@[simp] theorem now_finish (t : Timetable) (k : Nat) (outcome : Except RenewalError Unit) :
    (t.finish k outcome).now = t.now := by
  unfold finish Timetable.arm
  split <;> rfl

section Steps

variable (hc : t.renewal.cancelled = false) (htrace : t.renewal.trace = [])

include hc htrace

theorem fire_of_open (ho : t.ownerClosing = false) : t.fire k =
    { t with
      renewal := { t.renewal with pending := false }
      timers := t.timers.filter (·.1 != k)
      actions := k :: t.actions
      history := t.history ++ [(t.now, .fired k false), (t.now, .begun k)] } := by
  simp [fire, Renewal.fire, hc, ho, note, adopt, htrace]

theorem fire_of_closing (ho : t.ownerClosing = true) : t.fire k =
    { t with
      renewal := { t.renewal with pending := false }
      timers := t.timers.filter (·.1 != k)
      history := t.history ++ (t.now, .fired k true)
        :: (Renewal.farewell t.renewal.client).map fun e => (t.now, .did e) } := by
  simp [fire, Renewal.fire, hc, ho, note, adopt, htrace, Renewal.log, Renewal.publish, Renewal.tell,
    Renewal.farewell, Renewal.stoppedEvent]

theorem finish_eq (outcome : Except RenewalError Unit) : t.finish k outcome =
    { t with
      renewal := { t.renewal with pending := true }
      timers := (t.next, wakeTime t.now t.renewal.interval) :: t.timers
      actions := t.actions.erase k
      next := t.next + 1
      history := t.history ++ [(t.now, .ended k outcome)]
        ++ (Renewal.sequel t.renewal.client outcome).map (fun e => (t.now, .did e))
        ++ [(t.now, .armed t.next (wakeTime t.now t.renewal.interval))] } := by
  cases outcome with
  | ok r => simp [finish, Renewal.complete, hc, note, adopt, htrace, Renewal.publish, Renewal.tell,
      Renewal.arm, Timetable.arm, Renewal.sequel, Renewal.firedEvent]
  | error e => simp [finish, Renewal.complete, hc, note, adopt, htrace, Renewal.log, Renewal.publish, Renewal.tell,
      Renewal.arm, Timetable.arm, Renewal.sequel, Renewal.firedEvent]

end Steps

/-! ## One stage after the other -/

def Awaits (t : Timetable) (w : Workload) (interval : Span) : Renewal.Stage → Prop
  | .waits n => t.timers = [(n, w.due interval n)] ∧ t.actions = [] ∧ t.next = n + 1 ∧ t.now ≤ w.due interval n
  | .acts n => t.timers = [] ∧ t.actions = [n] ∧ t.next = n + 1
      ∧ w.due interval n ≤ t.now ∧ t.now ≤ w.back interval n
  | .rests n => t.timers = [] ∧ t.actions = [] ∧ w.due interval n ≤ t.now

structure Stands (t : Timetable) (w : Workload) (client : String) (interval : Span) (stage : Renewal.Stage) :
    Prop where
  client_eq : t.renewal.client = client
  interval_eq : t.renewal.interval = interval
  cancelled : t.renewal.cancelled = false
  trace : t.renewal.trace = []
  awaits : t.Awaits w interval stage
  history : t.history = w.story client interval stage

namespace Stands

theorem new (w : Workload) (client : String) (interval : Span) (ownerClosing : Bool) :
    (Timetable.new client interval ownerClosing).Stands w client interval (.waits 0) where
  client_eq := rfl
  interval_eq := rfl
  cancelled := rfl
  trace := rfl
  awaits := ⟨rfl, rfl, rfl, Nat.zero_le _⟩
  history := rfl

/-- The timer whose tick has come fires on that tick. -/
theorem expire {wake : Nat} (h : t.Stands w client interval stage) (hk : t.timers.lookup k = some wake)
    (hw : wake ≤ t.now) :
    stage = .waits k ∧ t.now = w.due interval k
      ∧ (t.fire k).Stands w client interval (if t.ownerClosing then .rests k else .acts k) := by
  have hawaits := h.awaits
  have hhistory := h.history
  cases stage with
  | waits n =>
    obtain ⟨ht, ha, hnext, hle⟩ := hawaits
    rw [ht, List.lookup_cons] at hk
    split at hk
    · rename_i hkn
      obtain rfl := eq_of_beq hkn
      obtain rfl := Option.some.inj hk
      have hnow : t.now = w.due interval k := Nat.le_antisymm hle hw
      refine ⟨rfl, hnow, ?_⟩
      cases ho : t.ownerClosing with
      | true =>
        rw [fire_of_closing h.cancelled h.trace ho]
        refine ⟨h.client_eq, h.interval_eq, h.cancelled, h.trace, ⟨?_, ha, hw⟩, ?_⟩
        · simp [ht]
        · simp [hhistory, Workload.story, hnow, h.client_eq]
      | false =>
        rw [fire_of_open h.cancelled h.trace ho]
        refine ⟨h.client_eq, h.interval_eq, h.cancelled, h.trace, ⟨?_, ?_, hnext, hw, ?_⟩, ?_⟩
        · simp [ht]
        · simp [ha]
        · exact Nat.le_trans hle (Nat.le_add_right ..)
        · simp [hhistory, Workload.story, hnow]
    · cases hk
  | acts n =>
    rw [hawaits.1] at hk
    cases hk
  | rests n =>
    rw [hawaits.1] at hk
    cases hk

/-- The action returns when it has taken its time, and the next timer is set from there. -/
theorem finish (h : t.Stands w client interval stage) (hk : k ∈ t.actions)
    (hback : ∀ e ∈ t.history, e.2.begins k = true → t.now = e.1 + w.takes k) :
    stage = .acts k ∧ t.now = w.back interval k
      ∧ (t.finish k (w.outcome k)).Stands w client interval (.waits (k + 1)) := by
  have hawaits := h.awaits
  have hhistory := h.history
  cases stage with
  | waits n =>
    rw [hawaits.2.1] at hk
    cases hk
  | acts n =>
    obtain ⟨ht, ha, hnext, -, -⟩ := hawaits
    rw [ha] at hk
    obtain rfl := List.mem_singleton.1 hk
    have hnow : t.now = w.back interval k :=
      hback (w.due interval k, .begun k) (by simp [hhistory, Workload.story]) (beq_self_eq_true k)
    refine ⟨rfl, hnow, ?_⟩
    rw [finish_eq h.cancelled h.trace]
    have hdue : wakeTime t.now t.renewal.interval = w.due interval (k + 1) := by
      rw [hnow, h.interval_eq]
      rfl
    refine ⟨h.client_eq, h.interval_eq, h.cancelled, h.trace, ⟨?_, ?_, ?_, ?_⟩, ?_⟩
    · simp [ht, hnext, hdue]
    · simp [ha]
    · simp [hnext]
    · exact hdue ▸ le_wakeTime ..
    · simp [hhistory, Workload.story, Workload.cycles_succ, Workload.cycle, hnow, hnext, h.client_eq,
        h.interval_eq, Workload.back, Workload.due]
  | rests n =>
    rw [hawaits.2.1] at hk
    cases hk

theorem pass (h : t.Stands w client interval stage) {ticks : Nat} (hkeep : t.Keeps w (.pass ticks)) :
    { t with now := t.now + ticks }.Stands w client interval stage := by
  obtain ⟨htimers, hactions⟩ := hkeep
  refine ⟨h.client_eq, h.interval_eq, h.cancelled, h.trace, ?_, h.history⟩
  have hawaits := h.awaits
  have hhistory := h.history
  cases stage with
  | waits n =>
    obtain ⟨ht, ha, hnext, -⟩ := hawaits
    exact ⟨ht, ha, hnext, htimers (n, w.due interval n) (by simp [ht])⟩
  | acts n =>
    obtain ⟨ht, ha, hnext, hle, -⟩ := hawaits
    exact ⟨ht, ha, hnext, Nat.le_trans hle (Nat.le_add_right ..),
      hactions n (by simp [ha]) (w.due interval n, .begun n) (by simp [hhistory, Workload.story])
        (beq_self_eq_true n)⟩
  | rests n =>
    obtain ⟨ht, ha, hle⟩ := hawaits
    exact ⟨ht, ha, Nat.le_trans hle (Nat.le_add_right ..)⟩

theorem step (h : t.Stands w client interval stage) (hkeep : t.Keeps w x) (hs : t.Step x u) :
    ∃ stage, u.Stands w client interval stage := by
  cases hs with
  | pass ticks => exact ⟨_, h.pass hkeep⟩
  | expire k wake hk hw => exact ⟨_, (h.expire hk hw).2.2⟩
  | finish k outcome hk =>
    obtain ⟨rfl, hback⟩ := hkeep
    exact ⟨_, (h.finish hk hback).2.2⟩
  | cancel => exact absurd hkeep id
  | own closing => exact ⟨stage, h.client_eq, h.interval_eq, h.cancelled, h.trace, h.awaits, h.history⟩

theorem run (h : t.Stands w client interval stage) (hkeep : t.KeepsTime w xs) (hr : t.run xs = some u) :
    ∃ stage, u.Stands w client interval stage :=
  run_induction_of_keepsTime (P := fun t => ∃ stage, t.Stands w client interval stage) ⟨stage, h⟩
    (fun _ _ _ hkeep ⟨_, h⟩ hs => h.step hkeep hs) hkeep hr

/-- A schedule that rests does nothing more. -/
theorem rest (h : t.Stands w client interval (.rests n)) (hkeep : t.KeepsTime w xs) (hr : t.run xs = some u) :
    u.Stands w client interval (.rests n) := by
  refine run_induction_of_keepsTime (P := fun t => t.Stands w client interval (.rests n)) h
    (fun t x v hkeep h hs => ?_) hkeep hr
  cases hs with
  | pass ticks => exact h.pass hkeep
  | expire k wake hk hw => cases (h.expire hk hw).1
  | finish k outcome hk => cases (h.finish hk hkeep.2).1
  | cancel => exact absurd hkeep id
  | own closing => exact ⟨h.client_eq, h.interval_eq, h.cancelled, h.trace, h.awaits, h.history⟩

end Stands

/-! ## Going on -/

/-- The schedule can go on as `u`, on time, and its owner stays as it is. -/
def LeadsTo (t : Timetable) (w : Workload) (u : Timetable) : Prop :=
  ∃ xs, t.run xs = some u ∧ t.KeepsTime w xs ∧ ∀ closing, .own closing ∉ xs

theorem LeadsTo.trans {v : Timetable} (h : t.LeadsTo w u) (h' : u.LeadsTo w v) : t.LeadsTo w v := by
  obtain ⟨xs, hr, hk, ho⟩ := h
  obtain ⟨ys, hr', hk', ho'⟩ := h'
  refine ⟨xs ++ ys, ?_, keepsTime_append hr hk hk', fun closing hm => ?_⟩
  · rw [run_append, hr]
    exact hr'
  · exact (List.mem_append.1 hm).elim (ho closing) (ho' closing)

theorem leadsTo_of_step (hs : t.step? x = some u) (hk : t.Keeps w x) (ho : ∀ closing, x ≠ .own closing) :
    t.LeadsTo w u := by
  refine ⟨[x], ?_, ⟨hk, fun v _ => trivial⟩, fun closing hm => ho closing (List.mem_singleton.1 hm).symm⟩
  rw [run, hs]
  rfl

theorem leadsTo_later {m : Nat} (hm : t.now ≤ m) (hk : t.Keeps w (.pass (m - t.now))) :
    t.LeadsTo w { t with now := m } := by
  refine leadsTo_of_step (x := .pass (m - t.now)) ?_ hk nofun
  rw [step?, Nat.add_sub_cancel' hm]

namespace Stands

variable {m : Nat}

/-- Up to the tick of its timer a schedule can wait. -/
theorem waits_until (h : t.Stands w client interval (.waits n)) (hm : t.now ≤ m) (hle : m ≤ w.due interval n) :
    t.LeadsTo w { t with now := m } := by
  obtain ⟨ht, ha, -, -⟩ := h.awaits
  refine leadsTo_later hm ⟨fun timer hmem => ?_, fun k hmem => ?_⟩
  · rw [ht] at hmem
    obtain rfl := List.mem_singleton.1 hmem
    rw [Nat.add_sub_cancel' hm]
    exact hle
  · rw [ha] at hmem
    cases hmem

/-- Up to its end an action can go on. -/
theorem acts_until (h : t.Stands w client interval (.acts n)) (hm : t.now ≤ m) (hle : m ≤ w.back interval n) :
    t.LeadsTo w { t with now := m } := by
  obtain ⟨ht, ha, -, -, -⟩ := h.awaits
  refine leadsTo_later hm ⟨fun timer hmem => ?_, fun k hmem e he hb => ?_⟩
  · rw [ht] at hmem
    cases hmem
  · rw [ha] at hmem
    obtain rfl := List.mem_singleton.1 hmem
    rw [Nat.add_sub_cancel' hm, Workload.begins_story (h.history ▸ he) hb]
    exact hle

theorem rests_until (h : t.Stands w client interval (.rests n)) (hm : t.now ≤ m) :
    t.LeadsTo w { t with now := m } := by
  obtain ⟨ht, ha, -⟩ := h.awaits
  refine leadsTo_later hm ⟨fun timer hmem => ?_, fun k hmem => ?_⟩
  · rw [ht] at hmem
    cases hmem
  · rw [ha] at hmem
    cases hmem

/-- The timer fires when it is due. -/
theorem waits_on (h : t.Stands w client interval (.waits n)) : ∃ u, t.LeadsTo w u ∧ u.now = w.due interval n
    ∧ u.Stands w client interval (if t.ownerClosing then .rests n else .acts n) := by
  obtain ⟨ht, ha, hnext, hle⟩ := h.awaits
  have hlater := h.waits_until hle (Nat.le_refl _)
  have hdue : { t with now := w.due interval n }.Stands w client interval (.waits n) :=
    ⟨h.client_eq, h.interval_eq, h.cancelled, h.trace, ⟨ht, ha, hnext, Nat.le_refl _⟩, h.history⟩
  have hk : t.timers.lookup n = some (w.due interval n) := by
    rw [ht, List.lookup_cons_self]
  obtain ⟨-, -, hstands⟩ := hdue.expire hk (Nat.le_refl _)
  refine ⟨_, hlater.trans (leadsTo_of_step (x := .expire n) ?_ trivial nofun), ?_, hstands⟩
  · rw [step?, hk, Option.bind_some, if_pos (Nat.le_refl _)]
  · exact now_fire ..

/-- The next timer is set when the action has taken its time. -/
theorem acts_on (h : t.Stands w client interval (.acts n)) : ∃ u, t.LeadsTo w u ∧ u.now = w.back interval n
    ∧ u.Stands w client interval (.waits (n + 1)) := by
  obtain ⟨ht, ha, hnext, hge, hle⟩ := h.awaits
  have hlater := h.acts_until hle (Nat.le_refl _)
  have hback : { t with now := w.back interval n }.Stands w client interval (.acts n) :=
    ⟨h.client_eq, h.interval_eq, h.cancelled, h.trace,
      ⟨ht, ha, hnext, Nat.le_trans hge hle, Nat.le_refl _⟩, h.history⟩
  have hn : n ∈ t.actions := by
    rw [ha]
    exact List.mem_singleton_self n
  have htime : ∀ e ∈ t.history, e.2.begins n = true → w.back interval n = e.1 + w.takes n := by
    intro e he hb
    rw [Workload.begins_story (h.history ▸ he) hb]
    rfl
  obtain ⟨-, -, hstands⟩ := hback.finish hn htime
  exact ⟨_, hlater.trans (leadsTo_of_step (x := .finish n (w.outcome n)) (if_pos hn) ⟨rfl, htime⟩ nofun),
    now_finish .., hstands⟩

/-- A schedule that waits can go on to any later tick. -/
theorem goes_on_waiting {ticks : Nat} (hticks : 0 < ticks) (fuel : Nat)
    (h : t.Stands w client (.ofMillis ticks) (.waits n)) (hm : t.now ≤ m)
    (hfuel : m ≤ w.due (.ofMillis ticks) n + fuel) : ∃ u, t.LeadsTo w u ∧ u.now = m := by
  induction fuel generalizing t n with
  | zero => exact ⟨_, h.waits_until hm hfuel, rfl⟩
  | succ fuel ih =>
    by_cases hdue : m ≤ w.due (.ofMillis ticks) n
    · exact ⟨_, h.waits_until hm hdue, rfl⟩
    · obtain ⟨u, hu, hnow, hstands⟩ := h.waits_on
      have hmu : u.now ≤ m := by omega
      split at hstands
      · exact ⟨_, hu.trans (hstands.rests_until hmu), rfl⟩
      · by_cases hback : m ≤ w.back (.ofMillis ticks) n
        · exact ⟨_, hu.trans (hstands.acts_until hmu hback), rfl⟩
        · obtain ⟨v, hv, hnow', hstands'⟩ := hstands.acts_on
          have hlt : w.due (.ofMillis ticks) n < w.due (.ofMillis ticks) (n + 1) :=
            Nat.lt_of_le_of_lt (Nat.le_add_right ..) (Workload.lt_wakeTime hticks _)
          obtain ⟨x, hx, hnowx⟩ := ih hstands' (by omega) (by omega)
          exact ⟨x, (hu.trans hv).trans hx, hnowx⟩

/-- From every stage the schedule can go on to any later tick. -/
theorem goes_on {ticks : Nat} (hticks : 0 < ticks) (h : t.Stands w client (.ofMillis ticks) stage)
    (hm : t.now ≤ m) :
    ∃ u, t.LeadsTo w u ∧ u.now = m := by
  cases stage with
  | waits n => exact h.goes_on_waiting hticks m hm (Nat.le_add_left ..)
  | acts n =>
    by_cases hback : m ≤ w.back (.ofMillis ticks) n
    · exact ⟨_, h.acts_until hm hback, rfl⟩
    · obtain ⟨v, hv, hnow, hstands⟩ := h.acts_on
      obtain ⟨x, hx, hnowx⟩ := hstands.goes_on_waiting hticks m (by omega) (Nat.le_add_left ..)
      exact ⟨x, hv.trans hx, hnowx⟩
  | rests n => exact ⟨_, h.rests_until hm, rfl⟩

end Stands
end Timetable

section Main

variable {w : Workload} {client : String} {ticks : Nat} {ownerClosing : Bool} {xs : List Occurrence}
  {t : Timetable}

/-- A schedule whose timers and actions are on time follows its timeline. All that can be seen of it is the story
of the stage it has come to: one timer, one action and one event after the other, with a reason exactly if the
action has failed. A timer fires on the tick it is set for, and begins its action exactly if the owner is not
closing; from the firing that finds it closing on there is nothing more. Time can always go on, so that every
stage comes. The timers are due an interval after the end of the action before, so that the `k`-th of them is due
at `k` intervals and the time that the actions before it have taken, as far as the clock can hold that instant; an
interval it cannot hold counts as thirty years. -/
theorem renewals_keep_time (hticks : 0 < ticks)
    (h : (Timetable.new client (.ofMillis ticks) ownerClosing).run xs = some t)
    (hkeep : (Timetable.new client (.ofMillis ticks) ownerClosing).KeepsTime w xs) :
    ∃ stage, t.Stands w client (.ofMillis ticks) stage
      ∧ t.published = w.events client stage
      ∧ (∀ k u, t.step? (.expire k) = some u → t.now = w.due (.ofMillis ticks) k
        ∧ u.Stands w client (.ofMillis ticks) (if t.ownerClosing then .rests k else .acts k))
      ∧ (stage.isRest = true → ∀ ys u, t.run ys = some u → t.KeepsTime w ys → u.history = t.history)
      ∧ (∀ m, t.now ≤ m → ∃ u, t.LeadsTo w u ∧ u.now = m)
      ∧ ∀ k, ((k + 1) * ticks + w.taken k) * nanosPerTick < clockBound →
        w.due (.ofMillis ticks) k = (k + 1) * ticks + w.taken k := by
  obtain ⟨stage, hs⟩ := (Timetable.Stands.new w client (.ofMillis ticks) ownerClosing).run hkeep h
  refine ⟨stage, hs, ?events, fun k u hu => ?fires, fun hr ys u hu hk => ?rests, fun m => hs.goes_on hticks,
    fun k => Workload.due_eq⟩
  case events =>
    rw [Timetable.published, hs.history]
    exact Workload.published_story stage
  case fires =>
    cases Timetable.step_of_step? hu with
    | expire _ wake hk hw => exact (hs.expire hk hw).2
  case rests =>
    cases stage with
    | rests n => rw [(hs.rest hk hu).history, hs.history]
    | _ => cases hr

/-- Two actions of two ticks, the second of which fails; then the owner closes. -/
def Workload.sample : Workload where
  takes _ := 2
  outcome k := if k = 1 then .error ⟨"no token"⟩ else .ok ()

/-- The third firing finds the owner closing, and is the last. -/
theorem renewals_keep_time_until_owner_closes :
    ∃ t, (Timetable.new "7" (.ofMillis 5) false).run [.pass 5, .expire 0, .pass 2, .finish 0 (.ok ()), .pass 5,
        .expire 1, .pass 2, .finish 1 (.error ⟨"no token"⟩), .own true, .pass 5, .expire 2] = some t
      ∧ t.Stands .sample "7" (.ofMillis 5) (.rests 2) ∧ Workload.sample.due (.ofMillis 5) 2 = 19
      ∧ t.published = [{ kind := .renewalFired, partition := "7" },
        { kind := .renewalFired, partition := "7", reason := "token renewal failed: no token" },
        { kind := .renewalStopped, partition := "7", reason := "owner closed" }] := by
  have hr : ((Timetable.new "7" (.ofMillis 5) false).run [.pass 5, .expire 0, .pass 2, .finish 0 (.ok ()), .pass 5,
      .expire 1, .pass 2, .finish 1 (.error ⟨"no token"⟩), .own true, .pass 5, .expire 2]).map
        (fun t => (t.timers, t.actions, t.published.length)) = some ([], [], 3) := by decide +kernel
  obtain ⟨t, ht, hr⟩ := Option.map_eq_some_iff.1 hr
  simp only [Prod.mk.injEq] at hr
  obtain ⟨stage, hs, hp, -, -, -, hdue⟩ := renewals_keep_time (w := .sample) (by decide) ht (by decide +kernel)
  have hawaits := hs.awaits
  cases stage with
  | waits n => simp [Timetable.Awaits, hr.1] at hawaits
  | acts n => simp [Timetable.Awaits, hr.2.1] at hawaits
  | rests n =>
    obtain rfl : n = 2 := by
      have hlen := hr.2.2
      rw [hp] at hlen
      simpa [Workload.events, Renewal.Stage.completed, Renewal.Stage.isRest] using hlen
    exact ⟨t, ht, hs, (hdue 2 (by decide)).trans rfl, hp⟩

end Main
end PartitionConsumer
