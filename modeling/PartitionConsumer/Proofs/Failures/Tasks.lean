import Mathlib.Data.List.Perm.Basic
import PartitionConsumer.Proofs.AfterClose
import PartitionConsumer.Proofs.Session.Drops
import PartitionConsumer.Proofs.Failures.Breakdown
/-!
# Deferred tasks

What has become of the failures that were handed to the executor: each of them waits there, was given
up, or its deferred part was begun. A deferred part that was begun is in the error hook, was dropped in
it, or has gone on to shut the pump down.
-/
namespace PartitionConsumer

def HookCall.delivery? : HookCall → Option TransportError
  | .onError (.delivery e) => some e
  | _ => none

def deliveryErrors (h : List Mark) : List TransportError := (hooks h).filterMap HookCall.delivery?

def Errand.report? : Errand → Option TransportError
  | .report e => some e
  | _ => none

def Waiting.report? (w : Waiting) : Option TransportError := w.errand.report?

/-- Only the deferred part of a failure is on one. -/
theorem Waiting.Fits.report?_eq_none {id : Nat} {w : Waiting} (h : w.Fits id)
    (hc : ∀ ticket, w.call ≠ .report ticket) : w.errand.report? = none := by
  cases h with
  | report e => exact absurd rfl (hc id)
  | _ => rfl

def Mark.reported? : Mark → Option TransportError
  | .told _ w _ => w.report?
  | _ => none

/-- The failures whose deferred part has gone on from the error hook, in order. -/
def reported (h : List Mark) : List TransportError := h.filterMap Mark.reported?

section Histories

@[simp] theorem deliveryErrors_append (h k : List Mark) :
    deliveryErrors (h ++ k) = deliveryErrors h ++ deliveryErrors k := by simp [deliveryErrors]

@[simp] theorem reports_did (id : Nat) (es : List Effect) : reports (es.map (.did id)) = [] := by
  simp [reports, Mark.report?]

@[simp] theorem reports_end (nx : Next) (id : Nat) (errand : Errand) : reports (nx.marks id errand) = [] := by
  cases nx <;> rfl

@[simp] theorem reports_marks (w : Waiting) (id : Nat) (a : Answer) : reports (w.marks id a) = [] := by
  unfold Waiting.marks
  split <;> rfl

@[simp] theorem reported_append (h k : List Mark) : reported (h ++ k) = reported h ++ reported k := by
  simp [reported]

@[simp] theorem reported_did (id : Nat) (es : List Effect) : reported (es.map (.did id)) = [] := by
  simp [reported, Mark.reported?]

@[simp] theorem reported_end (nx : Next) (id : Nat) (errand : Errand) :
    reported (nx.marks id errand) = [] := by cases nx <;> rfl

@[simp] theorem reported_marks (w : Waiting) (id : Nat) (a : Answer) :
    reported (w.marks id a) = w.report?.toList := by
  unfold Waiting.marks
  split <;> cases h : w.report? <;> simp [reported, Mark.reported?, h]

end Histories

namespace Session

variable {s t : Session} {c : Cause}

/-- The failures whose deferred part is in the error hook. -/
def reporting (s : Session) : List TransportError := s.waiting Waiting.report?

def discards (s : Session) : Cause → List TransportError
  | .discard n => s.deferred[n]?.toList
  | _ => []

def discarded (s : Session) (cs : List Cause) : List TransportError := gathered discards s cs

theorem Tells.discards {id : Nat} {w : Waiting} {a : Answer} (h : s.Tells id w a c) : s.discards c = [] := by
  cases h <;> rfl

/-- The failures whose deferred part a run drops in the error hook, in order. -/
def dropsReports (s : Session) (cs : List Cause) : List TransportError :=
  (s.dropped cs).filterMap Waiting.report?

/-! ## What the executor has done -/

/-- A failure that was handed to the executor waits there, was given up, or its deferred part was
begun. -/
def Kept (gone : List TransportError) (s : Session) : Prop :=
  (handed s.history).Perm (s.deferred ++ (gone ++ reports s.history))

namespace Kept

variable {gone : List TransportError} {b : Session}

theorem note (h : s.Kept gone) {ms : List Mark} (hh : handed ms = []) (hr : reports ms = []) :
    (s.note ms).Kept gone := by
  unfold Kept
  rw [history_note, handed_append, reports_append, hh, hr, List.append_nil, List.append_nil]
  exact h

theorem begin (h : s.Kept gone) {e : Errand} (he : e.report? = none) : (s.begin e).Kept gone := by
  refine note (s := { s with next := s.next + 1 }) h rfl ?_
  cases e <;> first | rfl | cases he

theorem told (h : s.Kept gone) (id : Nat) (w : Waiting) (a : Answer) : (s.told id w a).Kept gone :=
  note (s := s.take id) h (handed_marks w id a) (reports_marks w id a)

/-- What a call hands to the executor waits there. -/
theorem carry (h : b.Kept gone) (id : Nat) (errand : Errand) (q : Pump) (es : List Effect) (nx : Next) :
    (b.carry id errand q es nx).Kept gone := by
  refine List.perm_iff_count.2 fun e => ?_
  have hc := List.perm_iff_count.1 h e
  simp only [history_carry, handed_append, handed_did, handed_end, reports_append, reports_did,
    reports_end, List.append_nil, deferred_carry, List.count_append] at hc ⊢
  omega

/-- The executor takes a failure out of those that wait. -/
theorem forget (h : s.Kept gone) {n : Nat} {e : TransportError} (he : s.deferred[n]? = some e) :
    (handed s.history).Perm (e :: ((s.forget n).deferred ++ (gone ++ reports s.history))) := by
  obtain ⟨hn, rfl⟩ := List.getElem?_eq_some_iff.1 he
  exact h.trans ((List.getElem_cons_eraseIdx_perm hn).symm.append_right _)

theorem step (h : s.Kept gone) (hs : s.Step c t) : t.Kept (gone ++ s.discards c) := by
  have keep {t : Session} (h : t.Kept gone) : t.Kept (gone ++ []) := by
    rw [List.append_nil]
    exact h
  cases hs with
  | start hm => exact keep ((h.begin rfl).carry _ _ _ _ _)
  | shutdown reason hm => exact keep ((h.begin rfl).carry _ _ _ _ _)
  | deliver report batch hm => exact keep ((h.begin rfl).carry _ _ _ _ _)
  | fail e hm => exact keep ((h.begin rfl).carry _ _ _ _ _)
  | report n e he =>
    have hb : ((s.forget n).begin (.report e)).Kept gone := by
      have hh : handed [.began s.next (.report e)] = [] := rfl
      have hr : reports [.began s.next (.report e)] = [e] := rfl
      unfold Kept
      rw [history_begin, handed_append, reports_append, history_forget, next_forget, hh, hr,
        List.append_nil, ← List.append_assoc gone, ← List.append_assoc]
      exact (h.forget he).trans (List.perm_append_singleton ..).symm
    exact keep (hb.carry _ _ _ _ _)
  | discard n hn =>
    have he : s.discards (.discard n) = [s.deferred[n]] := by simp [discards, hn]
    rw [he]
    refine (h.forget (List.getElem?_eq_getElem hn)).trans ?_
    rw [List.append_assoc gone, ← List.append_assoc, ← List.append_assoc]
    exact List.perm_middle.symm
  | tellStart id w a stage ht hw hm =>
    rw [ht.discards]
    exact keep ((h.told id w a).carry _ _ _ _ _)
  | tellShutdown id w a ticket reason stage ht hw hm =>
    rw [ht.discards]
    exact keep ((h.told id w a).carry _ _ _ _ _)
  | tellDelivery id w a stage ht hw hm =>
    rw [ht.discards]
    exact keep ((h.told id w a).carry _ _ _ _ _)
  | tellReport id w outcome ticket ht hw hm =>
    rw [ht.discards]
    exact keep ((h.told id w _).carry _ _ _ _ _)
  | drop id w hw =>
    have hk : Kept gone { s.take id with pump := s.pump.abandon w.call } := h
    exact keep (hk.note rfl rfl)
  | bump => exact keep h
  | pass ticks =>
    have hk : Kept gone { s with now := s.now + ticks } := h
    exact keep (hk.note rfl rfl)

end Kept

/-! ## What has become of the deferred parts -/

/-- A deferred part that was begun is in the error hook, was dropped in it, or has gone on. -/
def Begun (lost : List TransportError) (s : Session) : Prop :=
  (reports s.history).Perm (s.reporting ++ (lost ++ reported s.history))

/-- Only the deferred part of a failure goes on as one. -/
theorem report?_waiting? {nx : Next} {errand : Errand} (he : errand.report? = none) :
    (nx.waiting? errand).bind Waiting.report? = none := by
  cases hw : nx.waiting? errand with
  | none => rfl
  | some w => exact (congrArg Errand.report? (Next.errand_waiting? hw)).trans he

namespace Begun

variable {lost : List TransportError} {b : Session} {id : Nat} {errand : Errand} {q : Pump}
  {es : List Effect} {nx : Next}

theorem note (h : s.Begun lost) {ms : List Mark} (hr : reports ms = []) (hd : reported ms = []) :
    (s.note ms).Begun lost := by
  unfold Begun
  rw [history_note, reports_append, reported_append, hr, hd, List.append_nil, List.append_nil]
  exact h

theorem begin (h : s.Begun lost) {e : Errand} (he : e.report? = none) : (s.begin e).Begun lost := by
  refine note (s := { s with next := s.next + 1 }) h ?_ rfl
  cases e <;> first | rfl | cases he

theorem carry (h : (reports b.history).Perm (((nx.waiting? errand).bind Waiting.report?).toList
      ++ (b.reporting ++ (lost ++ reported b.history)))) : (b.carry id errand q es nx).Begun lost := by
  unfold Begun reporting
  rw [waiting_carry, history_carry, reports_append, reports_append, reports_did, reports_end,
    reported_append, reported_append, reported_did, reported_end, List.append_nil, List.append_nil,
    List.append_nil, List.append_nil, List.append_assoc]
  exact h

theorem aside (h : b.Begun lost) (he : errand.report? = none) : (b.carry id errand q es nx).Begun lost := by
  refine carry ?_
  rw [report?_waiting? he]
  exact h

/-- A deferred part goes on when the error hook has returned. -/
theorem told {w : Waiting} (h : s.Begun lost) (hw : s.call? id = some w) (a : Answer) :
    (s.told id w a).Begun lost := by
  refine List.perm_iff_count.2 fun e => ?_
  have hc := List.perm_iff_count.1 h e
  have hp := List.perm_iff_count.1 (waiting_take hw Waiting.report?) e
  have hr : (s.told id w a).reporting = (s.take id).waiting Waiting.report? := rfl
  rw [hr]
  simp only [reporting, history_told, reports_append, reports_marks, reported_append, reported_marks,
    List.append_nil, List.count_append] at hc hp ⊢
  omega

theorem drop {w : Waiting} (h : s.Begun lost) (hw : s.call? id = some w) (p : Pump) :
    ({ s.take id with pump := p }.note [.lost id w.errand]).Begun (lost ++ w.report?.toList) := by
  refine note (s := { s.take id with pump := p }) (List.perm_iff_count.2 fun e => ?_) rfl rfl
  have hc := List.perm_iff_count.1 h e
  have hp := List.perm_iff_count.1 (waiting_take hw Waiting.report?) e
  have hr : Session.reporting { s.take id with pump := p } = (s.take id).waiting Waiting.report? := rfl
  rw [hr]
  simp only [reporting, history_take, List.count_append] at hc hp ⊢
  omega

theorem step_undropped (hi : s.Tidy) (hd : c.isDrop = false) (h : s.Begun lost) (hs : s.Step c t) :
    t.Begun lost := by
  cases hs with
  | start hm => exact (h.begin rfl).aside rfl
  | shutdown reason hm => exact (h.begin rfl).aside rfl
  | deliver report batch hm => exact (h.begin rfl).aside rfl
  | fail e hm => exact (h.begin rfl).aside rfl
  | report n e he =>
    refine carry ?_
    have hr : reports (s.history ++ [.began s.next (.report e)]) = reports s.history ++ [e] :=
      reports_append ..
    have hd : reported (s.history ++ [.began s.next (.report e)]) = reported s.history :=
      (reported_append ..).trans (List.append_nil _)
    rw [history_begin, history_forget, next_forget, hr, hd]
    exact (List.perm_append_singleton e _).trans (h.cons e)
  | discard n hn => exact h
  | tellStart id w a stage ht hw hm =>
    exact (h.told ht.call? a).aside ((hi.fits_call ht.call?).report?_eq_none (by simp [hw]))
  | tellShutdown id w a ticket reason stage ht hw hm =>
    exact (h.told ht.call? a).aside ((hi.fits_call ht.call?).report?_eq_none (by simp [hw]))
  | tellDelivery id w a stage ht hw hm =>
    exact (h.told ht.call? a).aside ((hi.fits_call ht.call?).report?_eq_none (by simp [hw]))
  | tellReport id w outcome ticket ht hw hm => exact (h.told ht.call? _).aside rfl
  | drop => cases hd
  | bump => exact h
  | pass ticks =>
    have hn : Begun lost { s with now := s.now + ticks } := h
    exact hn.note rfl rfl

theorem step {ws : List Waiting} (hi : s.Tidy) (h : s.Begun (ws.filterMap Waiting.report?))
    (hs : s.Step c t) : t.Begun ((ws ++ s.drops c).filterMap Waiting.report?) := by
  refine hs.dropping (P := fun ws t => t.Begun (ws.filterMap Waiting.report?))
    (fun hd => h.step_undropped hi hd hs) fun id w hw => ?_
  have hl : [w].filterMap Waiting.report? = w.report?.toList := by cases hw : w.report? <;> simp [hw]
  rw [List.filterMap_append, hl]
  exact h.drop hw _

end Begun

end Session

/-! ## What the error hook was told -/

/-- Only the deferred part of a failure waits for the error hook to be told of it. -/
theorem Next.Fits.delivery?_request {nx : Next} {id : Nat} {errand : Errand} (h : nx.Fits id errand)
    (he : errand.report? = none) :
    (nx.request?.toList.filterMap Request.hook?).filterMap HookCall.delivery? = [] := by
  cases nx with
  | ask r c =>
    cases h _ rfl with
    | start ha =>
      cases ha with
      | release r => simp [Next.request?]
      | _ => rfl
    | shutdown ha =>
      cases ha with
      | release r => simp [Next.request?]
      | onClose => rfl
    | deliver ha => cases ha <;> rfl
    | report e => cases he
  | _ => rfl

theorem Session.deliveryErrors_moved {es : List Effect} {nx : Next} {id : Nat} {errand : Errand}
    (ha : Asks es nx) (hf : nx.Fits id errand) (he : errand.report? = none) :
    deliveryErrors (es.map (.did id) ++ nx.marks id errand) = [] := by
  unfold deliveryErrors
  rw [hooks_append, hooks_did, hooks_end, List.append_nil, hooks_eq_request ha]
  exact hf.delivery?_request he

/-- The error hook is told of each failure whose deferred part begins, as it begins, and of no other
failure of the receiver. -/
theorem Session.Step.informs {s t : Session} {c : Cause} (hi : s.Tidy) (h : s.Step c t) :
    ∃ ms, t.history = s.history ++ ms ∧ deliveryErrors ms = reports ms := by
  have carry {b : Session} {ms : List Mark} (hb : b.history = s.history ++ ms) (hm : hooks ms = [])
      (hr : reports ms = []) {id : Nat} {errand : Errand} {q : Pump} {es : List Effect} {nx : Next}
      (ha : Asks es nx) (hf : nx.Fits id errand) (he : errand.report? = none) :
      ∃ ks, (b.carry id errand q es nx).history = s.history ++ ks ∧ deliveryErrors ks = reports ks := by
    refine ⟨_, b.history_carry_of id errand q es nx hb, ?_⟩
    have hd : deliveryErrors ms = [] := by rw [deliveryErrors, hm]; rfl
    rw [deliveryErrors_append, deliveryErrors_moved ha hf he, hd, reports_append, reports_append, hr,
      reports_did, reports_end]
    rfl
  cases h with
  | start hm => exact carry (b := s.begin _) rfl rfl rfl hm.asks (hm.fits _) rfl
  | shutdown reason hm => exact carry (b := s.begin _) rfl rfl rfl hm.asks hm.fits rfl
  | deliver report batch hm => exact carry (b := s.begin _) rfl rfl rfl hm.asks hm.fits rfl
  | fail e hm => exact carry (b := s.begin _) rfl rfl rfl hm.asks .finish rfl
  | report n e he => exact ⟨_, ((s.forget n).begin _).history_carry_of _ _ _ _ _ rfl, rfl⟩
  | discard n hn => exact ⟨[], (List.append_nil _).symm, rfl⟩
  | tellStart id w a stage ht hw hm =>
    have he := ((hi.fits_call ht.call?).of_start hw).1
    exact carry (b := s.told id w a) rfl (hooks_marks w id a) (reports_marks w id a) hm.asks
      (he ▸ hm.fits id) (by rw [he]; rfl)
  | tellShutdown id w a ticket reason stage ht hw hm =>
    obtain ⟨he, rfl, -⟩ := (hi.fits_call ht.call?).of_shutdown hw
    exact carry (b := s.told ticket w a) rfl (hooks_marks w _ a) (reports_marks w _ a) hm.asks
      (he ▸ hm.fits) (by rw [he]; rfl)
  | tellDelivery id w a stage ht hw hm =>
    obtain ⟨batch, he⟩ := ((hi.fits_call ht.call?).of_deliver hw).1
    exact carry (b := s.told id w a) rfl (hooks_marks w id a) (reports_marks w id a) hm.asks
      (he ▸ hm.fits) (by rw [he]; rfl)
  | tellReport id w outcome ticket ht hw hm =>
    obtain ⟨rfl, -⟩ := (hi.fits_call ht.call?).of_report hw
    exact carry (b := s.told ticket w _) rfl (hooks_marks w _ _) (reports_marks w _ _) hm.asks hm.fits rfl
  | drop id w hw => exact ⟨_, rfl, rfl⟩
  | bump => exact ⟨[], (List.append_nil _).symm, rfl⟩
  | pass ticks => exact ⟨_, rfl, rfl⟩

end PartitionConsumer
