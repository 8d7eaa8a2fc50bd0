import PartitionConsumer.Proofs.Released
import PartitionConsumer.Proofs.ConnectionSlot.Occupancy
/-!
# Benches on which calls are dropped

On a bench a caller may also drop a call that waits, and a delivery may be given up while it waits for its
share of a lock. Neither does anything to a handler. So a step of such a bench leaves the session and every
handler as they were, or the transport follows the session by a step from a bench of which that is true.
-/
namespace PartitionConsumer

inductive Impulse where
  | stimulus (x : Stimulus)
  /-- The caller drops a call that waits, and with it its place at a receiver's lock. -/
  | drop (id : Nat)
  /-- A delivery is given up before it has looked for the handler. -/
  | withdraw (ticket : Nat)
  deriving Repr, Inhabited

namespace Bench

/-- The call no longer waits for the deliveries of a receiver. -/
def forsake (b : Bench) (id : Nat) : Bench :=
  match b.drains.find? (·.call == id) with
  | some d => { b.modify d.receiver (·.leave d.ticket) with drains := b.drains.filter (·.call != id) }
  | none => b

def suffer? (b : Bench) : Impulse → Option Bench
  | .stimulus x => b.step? x
  | .drop id => (b.forsake id).follow? (.drop id)
  | .withdraw ticket =>
    (b.visit? ticket).bind fun v => if v.call.isNone then some (b.depart v) else none

def suffers (b : Bench) : List Impulse → Option Bench
  | [] => some b
  | x :: xs => (b.suffer? x).bind fun c => c.suffers xs

end Bench

/-! ## Handlers -/

namespace Transport

def handler? (t : Transport) (r : Nat) : Option InstalledHandler := (t.receivers[r]?).bind (·.handler)

/-- The pump's handler is on the receiver. -/
def Bridged (o : Options) (t : Transport) (r : Nat) : Prop :=
  t.handler? r = some ⟨.pump 0 r, o.maxBatchSize, o.invokeOnEmpty⟩

variable {o : Options} {t : Transport} {r : Nat}

theorem Bridged.lt_size (h : t.Bridged o r) : r < t.receivers.size := by
  unfold Bridged handler? at h
  obtain ⟨y, hy, -⟩ := Option.bind_eq_some_iff.1 h
  exact (Array.getElem?_eq_some_iff.1 hy).1

theorem handler?_modifyReceiver (t : Transport) (s : Nat) {f : Receiver → Receiver}
    (hf : ∀ y, (f y).handler = y.handler) (r : Nat) : (t.modifyReceiver s f).handler? r = t.handler? r := by
  unfold handler? modifyReceiver
  rw [Array.getElem?_modify]
  split
  · cases t.receivers[r]? with
    | none => rfl
    | some y => simp [hf y]
  · rfl

theorem handler?_modifyReceiver_of_ne (t : Transport) {s : Nat} (f : Receiver → Receiver) (h : s ≠ r) :
    (t.modifyReceiver s f).handler? r = t.handler? r := by
  unfold handler? modifyReceiver
  rw [Array.getElem?_modify, if_neg h]

theorem handler?_addReceiver (t : Transport) (epoch : Nat) (h : r < t.receivers.size) :
    (t.addReceiver epoch).2.handler? r = t.handler? r := by
  unfold handler? addReceiver
  rw [Array.getElem?_push_lt h, Array.getElem?_eq_getElem h]

theorem bridged_install (h : r < t.receivers.size) : (t.perform o (.install r)).Bridged o r := by
  unfold Bridged handler? perform modifyReceiver
  rw [Array.getElem?_modify, if_pos rfl, Array.getElem?_eq_getElem h]
  rfl

/-- Only a call that clears it takes the handler off. -/
theorem Bridged.perform (h : t.Bridged o r) {e : Effect} (he : e ≠ .ask (.clearHandler r)) :
    (t.perform o e).Bridged o r := by
  have same {u : Transport} (hu : u.handler? r = t.handler? r) : u.Bridged o r := hu.trans h
  cases e with
  | ask q =>
    cases q with
    | clearHandler s =>
      refine same (t.handler?_modifyReceiver_of_ne _ fun hs => he ?_)
      rw [hs]
    | closeReceiver s =>
      rw [Transport.perform, closeReceiver_fst]
      exact same (t.handler?_modifyReceiver s (f := (·.close.1)) (fun _ => rfl) r)
    | closeClient c =>
      rw [Transport.perform, closeClient_fst]
      exact h
    | _ => exact h
  | tune s =>
    refine same (t.handler?_modifyReceiver s ?_ r)
    exact fun _ => rfl
  | install s =>
    by_cases hs : s = r
    · subst hs
      exact bridged_install h.lt_size
    · exact same (t.handler?_modifyReceiver_of_ne _ hs)
  | _ => exact h

theorem Bridged.foldl (h : t.Bridged o r) {es : List Effect} (he : .ask (.clearHandler r) ∉ es) :
    (es.foldl (Transport.perform o) t).Bridged o r := by
  induction es generalizing t with
  | nil => exact h
  | cons e es ih =>
    rw [List.mem_cons, not_or] at he
    exact ih (h.perform fun heq => he.1 heq.symm) he.2

theorem size_foldl (t : Transport) (es : List Effect) :
    (es.foldl (Transport.perform o) t).receivers.size = t.receivers.size := by
  have h (r : Nat) := has_foldl o t es (.closeReceiver r)
  simp only [has, decide_eq_decide] at h
  have h1 := h (es.foldl (Transport.perform o) t).receivers.size
  have h2 := h t.receivers.size
  omega

end Transport

/-! ## Steps -/

def Cause.Made (t : Transport) : Cause → Prop
  | .answer _ (.receiver (.ok r)) => r < t.receivers.size
  | _ => True

theorem Cause.made_of_isOwn {c : Cause} (h : c.isOwn = true) (t : Transport) : c.Made t := by
  cases c with
  | answer id a =>
    cases a with
    | receiver => cases h
    | _ => trivial
  | _ => trivial

namespace Bench

variable {a b b' : Bench} {c : Cause}

/-- The session and the handlers of `b`; there may be one more receiver. -/
structure Resembles (a b : Bench) : Prop where
  session : a.session = b.session
  size : b.transport.receivers.size ≤ a.transport.receivers.size
  handler : ∀ r < b.transport.receivers.size, a.transport.handler? r = b.transport.handler? r

theorem Resembles.refl (b : Bench) : b.Resembles b := ⟨rfl, Nat.le_refl _, fun _ _ => rfl⟩

theorem Resembles.of_modify (r : Nat) {f : Receiver → Receiver} (hf : ∀ y, (f y).handler = y.handler)
    (hs : a.session = b.session) (ht : a.transport = b.transport.modifyReceiver r f) : a.Resembles b where
  session := hs
  size := by
    rw [ht]
    exact (Array.size_modify (f := f)).ge
  handler s _ := by
    rw [ht]
    exact b.transport.handler?_modifyReceiver r hf s

theorem Resembles.bridged {o : Options} {r : Nat} (h : a.Resembles b) (hb : b.transport.Bridged o r) :
    a.transport.Bridged o r := (h.handler r hb.lt_size).trans hb

inductive Proceeds (b b' : Bench) : Prop where
  | rests (h : b'.Resembles b)
  | follows (a : Bench) (c : Cause) (h : a.Follows c b') (hr : a.Resembles b) (hm : c.Made a.transport)

theorem resembles_depart (b : Bench) (v : Visit) : (b.depart v).Resembles b :=
  .of_modify v.receiver (f := (·.leave v.ticket)) (fun _ => rfl) rfl rfl

theorem resembles_forsake (b : Bench) (id : Nat) : (b.forsake id).Resembles b := by
  unfold forsake
  split
  · rename_i d hd
    exact .of_modify d.receiver (f := (·.leave d.ticket)) (fun _ => rfl) rfl rfl
  · exact .refl b

theorem Step.proceeds {x : Stimulus} (h : b.Step x b') : b.Proceeds b' := by
  cases h with
  | own c hc h => exact .follows b c h (.refl b) (c.made_of_isOwn hc _)
  | noClient id e _ h => exact .follows b _ h (.refl b) trivial
  | client id _ h => exact .follows _ _ h ⟨rfl, Nat.le_refl _, fun _ _ => rfl⟩ trivial
  | noReceiver id client request e _ h => exact .follows b _ h (.refl b) trivial
  | receiver id client request _ h =>
    have hs : (b.transport.addReceiver request.epoch).2.receivers.size = b.transport.receivers.size + 1 :=
      Array.size_push _
    refine .follows _ _ h ⟨rfl, by simp only [hs]; omega, fun r hr => ?_⟩ ?_
    · exact b.transport.handler?_addReceiver request.epoch hr
    · simp only [Cause.Made, hs]
      omega
  | close id error _ h => exact .follows b _ h (.refl b) trivial
  | pass id r => exact .rests (.of_modify r (f := (·.enterClear b.next)) (fun _ => rfl) rfl rfl)
  | drain error d _ _ h =>
    exact .follows _ _ h (.of_modify d.receiver (f := (·.endClear d.ticket)) (fun _ => rfl) rfl rfl) trivial
  | arrive r parcel => exact .rests (.of_modify r (f := (·.enterDelivery b.next)) (fun _ => rfl) rfl rfl)
  | depart report v => exact .rests (b.resembles_depart v)
  | deliver report v messages _ _ _ _ _ h =>
    exact .follows (b.handIn v) _ h ⟨rfl, Nat.le_refl _, fun _ _ => rfl⟩ trivial
  | fail report v e _ _ _ _ _ h => exact .follows _ _ h (b.resembles_depart v) trivial
  | leave v => exact .rests (b.resembles_depart v)
  | gate r isOpen => exact .rests (.of_modify r (f := ({ · with gateOpen := isOpen })) (fun _ => rfl) rfl rfl)

theorem proceeds_of_suffer? {x : Impulse} (h : b.suffer? x = some b') : b.Proceeds b' := by
  cases x with
  | stimulus x => exact (step_of_step? h).proceeds
  | drop id => exact .follows _ _ (follows_of_follow? h) (b.resembles_forsake id) trivial
  | withdraw ticket =>
    obtain ⟨v, -, h⟩ := Option.bind_eq_some_iff.1 h
    obtain ⟨-, h⟩ := Option.ite_none_right_eq_some.1 h
    exact .rests (Option.some.inj h ▸ b.resembles_depart v)

end Bench
end PartitionConsumer
