import PartitionConsumer.Renewal
/-!
# Timetables

A renewal schedule together with its timers, the actions that its firings have begun, its owner and the
clock. A firing runs up to its action without a wait, and so does the end of an action up to the next
timer; all else may come in any order. A timer and the action that it begins share a number.

The timers are kept apart from what the schedule notes of them, so that it takes a proof to say that the
two agree.
-/
namespace PartitionConsumer

inductive Occurrence where
  | pass (ticks : Nat)
  /-- A timer whose tick has come fires. -/
  | expire (timer : Nat)
  /-- The action that a firing has begun returns. -/
  | finish (timer : Nat) (outcome : Except RenewalError Unit)
  | cancel
  /-- The owner begins to close, or is open again. -/
  | own (closing : Bool)
  deriving Repr, Inhabited

inductive Entry where
  | armed (timer wake : Nat)
  /-- The timer fires, and finds its owner closing or not. -/
  | fired (timer : Nat) (ownerClosing : Bool)
  /-- The action begins. -/
  | begun (timer : Nat)
  | ended (timer : Nat) (outcome : Except RenewalError Unit)
  | cancelled
  | did (effect : Effect)
  deriving Repr, Inhabited

namespace Entry

def starts : Entry → Bool
  | .armed .. | .begun _ => true
  | _ => false

/-- A firing finds its owner closing. -/
def dismisses : Entry → Bool
  | .fired _ ownerClosing => ownerClosing
  | _ => false

end Entry

structure Timetable where
  renewal : Renewal
  ownerClosing : Bool
  now : Nat := 0
  /-- The armed timers, the latest first, and the tick each is set for. -/
  timers : List (Nat × Nat) := []
  /-- The timers whose actions have not returned. -/
  actions : List Nat := []
  next : Nat := 0
  /-- What could be seen so far, and when. -/
  history : List (Nat × Entry) := []
  deriving Inhabited

namespace Timetable

def note (t : Timetable) (e : Entry) : Timetable := { t with history := t.history ++ [(t.now, e)] }

def adopt (t : Timetable) (r : Renewal) : Timetable :=
  { t with
    renewal := { r with trace := [] }
    history := t.history ++ r.trace.map fun e => (t.now, .did e) }

def arm (t : Timetable) : Timetable :=
  if t.renewal.pending then
    let wake := wakeTime t.now t.renewal.interval
    { t with timers := (t.next, wake) :: t.timers, next := t.next + 1 }.note (.armed t.next wake)
  else t

def fire (t : Timetable) (k : Nat) : Timetable :=
  let (r, runs) := t.renewal.fire t.ownerClosing
  let fired := ({ t with timers := t.timers.filter (·.1 != k) }.note (.fired k t.ownerClosing)).adopt r
  if runs then { fired with actions := k :: t.actions }.note (.begun k) else fired

def finish (t : Timetable) (k : Nat) (outcome : Except RenewalError Unit) : Timetable :=
  (({ t with actions := t.actions.erase k }.note (.ended k outcome)).adopt
    (t.renewal.complete outcome)).arm

/-- The schedule stops the timer it knows of, which is the one it has armed last. -/
def cancel (t : Timetable) : Timetable :=
  ({ t with timers := if t.renewal.pending then t.timers.tail else t.timers }.adopt
    t.renewal.cancel).note .cancelled

def step? (t : Timetable) : Occurrence → Option Timetable
  | .pass ticks => some { t with now := t.now + ticks }
  | .expire k => (t.timers.lookup k).bind fun wake => if wake ≤ t.now then some (t.fire k) else none
  | .finish k outcome => if k ∈ t.actions then some (t.finish k outcome) else none
  | .cancel => some t.cancel
  | .own closing => some { t with ownerClosing := closing }

inductive Step (t : Timetable) : Occurrence → Timetable → Prop where
  | pass (ticks : Nat) : Step t (.pass ticks) { t with now := t.now + ticks }
  | expire (k wake : Nat) (hk : t.timers.lookup k = some wake) (hw : wake ≤ t.now) :
    Step t (.expire k) (t.fire k)
  | finish (k : Nat) (outcome : Except RenewalError Unit) (hk : k ∈ t.actions) :
    Step t (.finish k outcome) (t.finish k outcome)
  | cancel : Step t .cancel t.cancel
  | own (closing : Bool) : Step t (.own closing) { t with ownerClosing := closing }

theorem step_of_step? {t u : Timetable} {x : Occurrence} (h : t.step? x = some u) : t.Step x u := by
  cases x with
  | pass ticks =>
    cases h
    exact .pass ticks
  | expire k =>
    obtain ⟨wake, hk, h⟩ := Option.bind_eq_some_iff.1 h
    split at h
    · rename_i hw
      cases h
      exact .expire k wake hk hw
    · cases h
  | finish k outcome =>
    dsimp only [step?] at h
    split at h
    · rename_i hk
      cases h
      exact .finish k outcome hk
    · cases h
  | cancel =>
    cases h
    exact .cancel
  | own closing =>
    cases h
    exact .own closing

def run (t : Timetable) : List Occurrence → Option Timetable
  | [] => some t
  | x :: xs => (t.step? x).bind fun u => u.run xs

def new (client : String) (interval : Span) (ownerClosing : Bool) : Timetable :=
  ({ renewal := .start client interval, ownerClosing : Timetable }.adopt
    (.start client interval)).arm

theorem run_append (t : Timetable) (xs ys : List Occurrence) :
    t.run (xs ++ ys) = (t.run xs).bind fun u => u.run ys := by
  induction xs generalizing t with
  | nil => rfl
  | cons x xs ih =>
    rw [List.cons_append, run, run, Option.bind_assoc]
    exact congrArg _ (funext fun u => ih u)

/-- What every step of a run keeps, the run keeps. -/
theorem run_induction {P : Timetable → Prop} {t u : Timetable} {xs : List Occurrence} (ht : P t)
    (hs : ∀ t x u, x ∈ xs → P t → t.Step x u → P u) (h : t.run xs = some u) : P u := by
  induction xs generalizing t with
  | nil =>
    obtain rfl := Option.some.inj h
    exact ht
  | cons x xs ih =>
    obtain ⟨v, hv, hr⟩ := Option.bind_eq_some_iff.1 h
    exact ih (hs t x v List.mem_cons_self ht (step_of_step? hv))
      (fun t x u hx => hs t x u (List.mem_cons_of_mem _ hx)) hr

end Timetable
end PartitionConsumer
