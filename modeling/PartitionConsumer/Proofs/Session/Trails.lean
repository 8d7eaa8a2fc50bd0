import PartitionConsumer.Proofs.Session.Service
/-!
# Trails

What a history shows of one call. A call that is neither told anything nor dropped stays where it is,
whatever else happens, and leaves no mark.
-/
namespace PartitionConsumer

def Mark.id? : Mark → Option Nat
  | .began id _ | .did id _ | .told id _ _ | .returned id _ | .lost id _ => some id
  | .passed _ => none

def trail (id : Nat) (h : List Mark) : List Mark := h.filter (·.id? == some id)

def Cause.id? : Cause → Option Nat
  | .answer id _ | .wake id | .drop id => some id
  | _ => none

section Histories

variable {id j : Nat}

@[simp] theorem trail_append (h k : List Mark) : trail id (h ++ k) = trail id h ++ trail id k :=
  List.filter_append ..

theorem trail_did (es : List Effect) : trail id (es.map (.did id)) = es.map (.did id) := by
  simp [trail, Mark.id?]

theorem trail_did_of_ne (hn : j ≠ id) (es : List Effect) : trail id (es.map (.did j)) = [] := by
  simp [trail, Mark.id?, hn]

theorem trail_end (nx : Next) (errand : Errand) : trail id (nx.marks id errand) = nx.marks id errand := by
  cases nx <;> simp [trail, Mark.id?, Next.marks]

theorem trail_end_of_ne (hn : j ≠ id) (nx : Next) (errand : Errand) :
    trail id (nx.marks j errand) = [] := by
  cases nx <;> simp [trail, Mark.id?, Next.marks, hn]

theorem trail_marks_of_ne (hn : j ≠ id) (w : Waiting) (a : Answer) : trail id (w.marks j a) = [] := by
  unfold Waiting.marks
  split <;> simp [trail, Mark.id?, hn]

end Histories

namespace Session

variable {s t : Session} {c : Cause} {id : Nat}

theorem Tells.id? {w : Waiting} {a : Answer} (h : s.Tells id w a c) : c.id? = some id := by
  cases h <;> rfl

/-- From `s` to `t` nothing happens to the call `id`. -/
structure Aloof (id : Nat) (s t : Session) : Prop where
  next : id < t.next
  call : t.call? id = s.call? id
  marks : ∃ ms, t.history = s.history ++ ms ∧ trail id ms = []

theorem Aloof.note {b : Session} (h : Aloof id s b) {ms : List Mark} (hm : trail id ms = []) :
    Aloof id s (b.note ms) := by
  obtain ⟨ns, hb, hn⟩ := h.marks
  refine ⟨h.next, h.call, ns ++ ms, ?_, by rw [trail_append, hn, hm]; rfl⟩
  rw [history_note, hb, List.append_assoc]

/-- Another call goes on. -/
theorem Aloof.carry {b : Session} (h : Aloof id s b) {j : Nat} (hn : j ≠ id) (e : Errand) (q : Pump)
    (es : List Effect) (nx : Next) : Aloof id s (b.carry j e q es nx) := by
  obtain ⟨ns, hb, ht⟩ := h.marks
  refine ⟨h.next, (b.call?_carry_of_ne hn e q es nx).trans h.call, _,
    history_carry_of j e q es nx hb, ?_⟩
  rw [trail_append, trail_append, ht, trail_did_of_ne hn, trail_end_of_ne hn]
  rfl

theorem Step.aloof (hi : id < s.next) (h : s.Step c t) (hc : c.id? ≠ some id) : Aloof id s t := by
  have refl : Aloof id s s := ⟨hi, rfl, [], (List.append_nil _).symm, rfl⟩
  have begin (e : Errand) (q es nx) : Aloof id s ((s.begin e).carry s.next e q es nx) := by
    have hb : Aloof id s { s with next := s.next + 1 } :=
      ⟨Nat.lt_succ_of_lt hi, rfl, refl.marks⟩
    exact (hb.note (by simp [trail, Mark.id?]; omega)).carry (by omega) e q es nx
  have tell {j : Nat} {w : Waiting} {a : Answer} (ht : s.Tells j w a c) (e : Errand) (q es nx) :
      Aloof id s ((s.told j w a).carry j e q es nx) := by
    have hn : j ≠ id := fun he => hc (he ▸ ht.id?)
    have hb : Aloof id s (s.take j) := ⟨hi, s.call?_take_of_ne hn, refl.marks⟩
    exact (hb.note (trail_marks_of_ne hn w a)).carry hn e q es nx
  cases h with
  | start => exact begin _ _ _ _
  | shutdown => exact begin _ _ _ _
  | deliver => exact begin _ _ _ _
  | fail => exact begin _ _ _ _
  | report n e he =>
    have hb : Aloof id s { (s.forget n) with next := s.next + 1 } :=
      ⟨Nat.lt_succ_of_lt hi, rfl, refl.marks⟩
    have hm : trail id [.began s.next (.report e)] = [] := by
      simp [trail, Mark.id?]
      omega
    exact (hb.note hm).carry (by omega) _ _ _ _
  | discard => exact ⟨hi, rfl, refl.marks⟩
  | tellStart _ _ _ _ ht => exact tell ht _ _ _ _
  | tellShutdown _ _ _ _ _ _ ht => exact tell ht _ _ _ _
  | tellDelivery _ _ _ _ ht => exact tell ht _ _ _ _
  | tellReport _ _ _ _ ht => exact tell ht _ _ _ _
  | drop j w hw =>
    have hn : j ≠ id := fun he => hc (by rw [Cause.id?, he])
    have hb : Aloof id s { s.take j with pump := s.pump.abandon w.call } :=
      ⟨hi, s.call?_take_of_ne hn, refl.marks⟩
    exact hb.note (by simp [trail, Mark.id?, hn])
  | bump => exact ⟨hi, rfl, refl.marks⟩
  | pass ticks =>
    have hb : Aloof id s { s with now := s.now + ticks } := ⟨hi, rfl, refl.marks⟩
    exact hb.note rfl

/-- A waiting call is told something, or dropped. -/
theorem tells_of_step? (hc : c.id? = some id) (h : s.step? c = some t) :
    ∃ w, s.call? id = some w ∧ (c = .drop id ∨ ∃ a, s.Tells id w a c) := by
  cases c with
  | answer j a =>
    obtain rfl := Option.some.inj hc
    obtain ⟨w, hw, h⟩ := Option.bind_eq_some_iff.1 h
    exact ⟨w, hw, .inr ⟨a, .answer hw (Option.ite_none_right_eq_some.1 h).1⟩⟩
  | wake j =>
    obtain rfl := Option.some.inj hc
    obtain ⟨w, hw, h⟩ := Option.bind_eq_some_iff.1 h
    obtain ⟨hr, h⟩ := Option.ite_none_right_eq_some.1 h
    obtain ⟨a, ha, -⟩ := Option.bind_eq_some_iff.1 h
    exact ⟨w, hw, .inr ⟨a, .wake hw (Option.isNone_iff_eq_none.1 hr) ha⟩⟩
  | drop j =>
    obtain rfl := Option.some.inj hc
    obtain ⟨w, hw, -⟩ := Option.map_eq_some_iff.1 h
    exact ⟨w, hw, .inl rfl⟩
  | _ => cases hc

/-- A call that is told nothing stays where it is. -/
theorem call?_of_untold (hi : s.Tidy) (hs : s.step? c = some t) (hd : c.isDrop = false) {w : Waiting}
    (hw : s.call? id = some w) (hn : ∀ a, ¬ s.Tells id w a c) : t.call? id = some w := by
  have untold : c.id? ≠ some id := by
    intro hc
    obtain ⟨v, hv, rfl | ⟨a, ht⟩⟩ := tells_of_step? hc hs
    · cases hd
    · obtain rfl := Option.some.inj (hw.symm.trans hv)
      exact hn a ht
  exact ((step_of_step? hi.trace hs).aloof (hi.lt_next hw) untold).call.trans hw

/-- A call is not found once it is taken out. -/
theorem Tidy.call?_take (hi : s.Tidy) {w : Waiting} (hw : s.call? id = some w) :
    (s.take id).call? id = none := by
  refine Option.eq_none_iff_forall_ne_some.2 fun v hv => ?_
  exact hi.ne_of_mem_take hw (mem_of_call? hv) rfl

theorem Tidy.call?_drop (hi : s.Tidy) (h : s.step? (.drop id) = some t) : t.call? id = none := by
  obtain ⟨w, hw, rfl⟩ := Option.map_eq_some_iff.1 h
  have hn : (s.take id).call? id = none := hi.call?_take hw
  exact hn

/-- The call that opens the pump is the only one. -/
theorem Led.opener_unique (hi : s.Led) {j : Nat} {v w : Waiting} {stage stage' : OpenStage}
    (hw : s.call? id = some w) (hc : w.call = .start stage) (hv : s.call? j = some v)
    (hd : v.call = .start stage') : j = id := by
  refine Decidable.byContradiction fun hn => ?_
  have hm : (j, v) ∈ (s.take id).calls :=
    mem_of_call? ((s.call?_take_of_ne fun he => hn he.symm).trans hv)
  have ho : stage' ∈ (s.take id).openers :=
    List.mem_filterMap.2 ⟨_, hm, by simp [Waiting.opening?, hd]⟩
  rw [(hi.openers_of_start hw hc).2.1] at ho
  cases ho

end Session
end PartitionConsumer
