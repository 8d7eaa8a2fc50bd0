import PartitionConsumer.Proofs.Session.Requests
import PartitionConsumer.Proofs.Session.Halts
/-!
# Dropped calls

The calls that a run drops, each as it waited when it was dropped. What was asked and neither answered
nor waited for is what they waited for.
-/
namespace PartitionConsumer.Session

variable {s t : Session} {c : Cause} {cs : List Cause}

/-- The call that a cause drops, as it waits. -/
def drops (s : Session) : Cause → List Waiting
  | .drop id => (s.call? id).toList
  | _ => []

def dropped (s : Session) : List Cause → List Waiting
  | [] => []
  | c :: cs => s.drops c ++ (s.step? c).elim [] fun t => t.dropped cs

theorem drops_of_call? {id : Nat} {w : Waiting} (h : s.call? id = some w) : s.drops (.drop id) = [w] := by
  simp [drops, h]

theorem drops_eq_nil (h : c.isDrop = false) : s.drops c = [] := by
  cases c <;> first | rfl | cases h

theorem Tells.isDrop {id : Nat} {w : Waiting} {a : Answer} (h : s.Tells id w a c) : c.isDrop = false := by
  cases h <;> rfl

/-- A step drops one call, or none. -/
theorem Step.dropping {P : List Waiting → Session → Prop} {ws : List Waiting} (h : s.Step c t)
    (hu : c.isDrop = false → P ws t)
    (hd : ∀ id w, s.call? id = some w → P (ws ++ [w])
      ({ s.take id with pump := s.pump.abandon w.call }.note [.lost id w.errand])) :
    P (ws ++ s.drops c) t := by
  have keep (hc : c.isDrop = false) : P (ws ++ s.drops c) t := by
    rw [drops_eq_nil hc, List.append_nil]
    exact hu hc
  cases h with
  | drop id w hw =>
    rw [drops_of_call? hw]
    exact hd id w hw
  | tellStart _ _ _ _ ht => exact keep ht.isDrop
  | tellShutdown _ _ _ _ _ _ ht => exact keep ht.isDrop
  | tellDelivery _ _ _ _ ht => exact keep ht.isDrop
  | tellReport _ _ _ _ ht => exact keep ht.isDrop
  | _ => exact keep rfl

theorem dropped_eq_gathered (s : Session) (cs : List Cause) : s.dropped cs = gathered drops s cs := by
  induction cs generalizing s with
  | nil => rfl
  | cons c cs ih =>
    rw [dropped, gathered]
    cases s.step? c with
    | none => rfl
    | some t => exact congrArg _ (ih t)

/-- What every step keeps, together with the calls dropped before, holds at the end of every run. -/
theorem run_dropping {P : List Waiting → Session → Prop} {ws : List Waiting} (h0 : P ws s)
    (hs : ∀ ws s c t, P ws s → s.step? c = some t → P (ws ++ s.drops c) t) (h : s.run cs = some t) :
    P (ws ++ s.dropped cs) t := by
  rw [dropped_eq_gathered]
  exact run_gathering h0 (fun ws s c t _ => hs ws s c t) h

/-- How many of the calls waited for the answer to a request among those of `f`. -/
def lostWith (ws : List Waiting) (f : Request → Bool) : Nat := ws.countP fun w => w.request.any f

theorem Attended.step_dropping {ws : List Waiting} (h : s.Attended (lostWith ws)) (hs : s.Step c t) :
    t.Attended (lostWith (ws ++ s.drops c)) := by
  refine hs.dropping (P := fun ws t => t.Attended (lostWith ws)) (fun hd => h.step_undropped hd hs) ?_
  intro id w hw f
  have hf := h.drop hw f
  rw [lostWith, List.countP_append, List.countP_singleton]
  exact hf

end PartitionConsumer.Session
