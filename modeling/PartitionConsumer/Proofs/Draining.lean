import PartitionConsumer.Proofs.Draining.Lookout
/-!
# Draining

When a receiver's handler is cleared, no callback starts any more, and the call returns only when all of them
have returned. The lock is what brings this about: a callback runs inside the share that its delivery has, and
the call that clears the handler ends inside the whole of it.
-/
namespace PartitionConsumer

/-! ## What has been seen -/

namespace Sight

def handler (on : Bool) : Sight → Bool
  | .installed => true
  | .took _ => false
  | _ => on

def moved (isOpen : Bool) : Sight → Bool
  | .gate isOpen => isOpen
  | _ => isOpen

def running (ks : List Nat) : Sight → List Nat
  | .started k _ _ => k :: ks
  | .returned k | .dropped k => ks.filter (· != k)
  | _ => ks

def cleared? : Sight → Option Nat
  | .cleared c => some c
  | _ => none

end Sight

namespace Lookout

/-- Whether a handler is installed, after all this. -/
def handlerAfter (h : List Sight) : Bool := h.foldl Sight.handler false

/-- Whether the gate is open. It is, to begin with. -/
def gateAfter (h : List Sight) : Bool := h.foldl Sight.moved true

/-- The deliveries whose callback has started and not returned. -/
def runningAfter (h : List Sight) : List Nat := h.foldl Sight.running []

/-- The calls that cleared the handler and have returned. -/
def clearedIn (h : List Sight) : List Nat := h.filterMap Sight.cleared?

/-- The gate was open at some moment after the call had taken the handler. -/
def FoundOpen (h : List Sight) (c : Nat) : Prop :=
  ∃ as bs cs, h = as ++ .took c :: bs ++ cs ∧ gateAfter (as ++ .took c :: bs) = true

def Permits (h : List Sight) : Sight → Prop
  | .started .. => handlerAfter h = true
  | .answered k true => ∃ handler parcel, .started k handler parcel ∈ h
  | .cleared c => runningAfter h = [] ∧ FoundOpen h c
  | _ => True

inductive Lawful : List Sight → Prop where
  | nil : Lawful []
  | snoc (h : List Sight) (s : Sight) (hl : Lawful h) (hs : Permits h s) : Lawful (h ++ [s])

variable {o p q : Lookout} {x : Traffic} {xs : List (Traffic × Nat)} {t u : Intake} {d : Delivery}
  {c k n : Nat} {h as bs : List Sight} {s : Sight}

theorem FoundOpen.append (hf : FoundOpen h c) (k : List Sight) : FoundOpen (h ++ k) c := by
  obtain ⟨as, bs, cs, rfl, hg⟩ := hf
  exact ⟨as, bs, cs ++ k, List.append_assoc .., hg⟩

theorem Lawful.permits (hl : Lawful (as ++ s :: bs)) : Permits as s := by
  generalize hh : as ++ s :: bs = h at hl
  induction hl generalizing bs with
  | nil => cases List.append_eq_nil_iff.1 hh |>.2
  | snoc h s hl hs ih =>
    obtain rfl | ⟨bs, b, rfl⟩ := List.eq_nil_or_concat bs
    · obtain ⟨rfl, hb⟩ := List.append_inj' hh rfl
      rwa [List.cons.inj hb |>.1]
    · rw [List.concat_eq_append, ← List.cons_append, ← List.append_assoc] at hh
      exact ih (List.append_inj' hh rfl).1

theorem handlerAfter_took (hi : .installed ∉ bs) : handlerAfter (as ++ .took c :: bs) = false := by
  have hfold (h : List Sight) (hi : .installed ∉ h) : h.foldl Sight.handler false = false := by
    induction h with
    | nil => rfl
    | cons s h ih =>
      rw [List.mem_cons, not_or] at hi
      cases s with
      | installed => exact absurd rfl hi.1
      | _ => exact ih hi.2
  rw [handlerAfter, List.foldl_append]
  exact hfold bs hi

/-- A callback that nothing has ended is running. -/
theorem mem_running {ks : List Nat} (hk : k ∈ ks) (hr : .returned k ∉ h) (hd : .dropped k ∉ h) :
    k ∈ h.foldl Sight.running ks := by
  induction h generalizing ks with
  | nil => exact hk
  | cons s h ih =>
    rw [List.mem_cons, not_or] at hr hd
    refine ih ?_ hr.2 hd.2
    cases s with
    | started j handler parcel => exact List.mem_cons_of_mem _ hk
    | returned j => exact List.mem_filter.2 ⟨hk, bne_iff_ne.2 fun hj => hr.1 (hj ▸ rfl)⟩
    | dropped j => exact List.mem_filter.2 ⟨hk, bne_iff_ne.2 fun hj => hd.1 (hj ▸ rfl)⟩
    | _ => exact hk

namespace Lawful

/-- With the handler taken, no callback starts until one is installed again. -/
theorem not_started (hl : Lawful (as ++ .took c :: bs)) (hi : .installed ∉ bs) (handler : Handler)
    (parcel : Parcel) : .started k handler parcel ∉ bs := by
  intro hm
  obtain ⟨cs, ds, rfl⟩ := List.append_of_mem hm
  rw [← List.cons_append, ← List.append_assoc] at hl
  have hon := hl.permits
  rw [Permits, handlerAfter_took fun hc => hi (List.mem_append_left _ hc)] at hon
  cases hon

/-- Nor does a delivery find one, unless it had called it before. -/
theorem started_of_answered (hl : Lawful (as ++ .took c :: bs)) (hi : .installed ∉ bs)
    (hm : .answered k true ∈ bs) : ∃ handler parcel, .started k handler parcel ∈ as := by
  obtain ⟨cs, ds, rfl⟩ := List.append_of_mem hm
  have hl' := hl
  rw [← List.cons_append, ← List.append_assoc] at hl'
  obtain ⟨handler, parcel, hs⟩ := hl'.permits
  obtain hs | hs := List.mem_append.1 hs
  · exact ⟨handler, parcel, hs⟩
  · obtain hs | hs := List.mem_cons.1 hs
    · cases hs
    · exact absurd (List.mem_append_left _ hs) (hl.not_started hi handler parcel)

/-- When a call returns that clears the handler, every callback that has started is over. -/
theorem over_of_cleared (hl : Lawful (as ++ .cleared c :: bs)) {cs ds : List Sight} {handler : Handler}
    {parcel : Parcel} (ha : as = cs ++ .started k handler parcel :: ds) :
    .returned k ∈ ds ∨ .dropped k ∈ ds := by
  by_contra hn
  rw [not_or] at hn
  have hmem : k ∈ runningAfter as := by
    rw [ha, runningAfter, List.foldl_append, List.foldl_cons]
    exact mem_running List.mem_cons_self hn.1 hn.2
  rw [hl.permits.1] at hmem
  cases hmem

end Lawful

/-! ## Sights and states -/

def calling (t : Intake) (k : Nat) : Prop := ∃ d ∈ t.deliveries, d.ticket = k ∧ d.calling.isSome = true

theorem calling_depart : calling (t.depart k) n ↔ calling t n ∧ n ≠ k := by
  constructor
  · rintro ⟨d, hd, rfl, hc⟩
    obtain ⟨hd, hn⟩ := List.mem_filter.1 hd
    exact ⟨⟨d, hd, rfl, hc⟩, by simpa using hn⟩
  · rintro ⟨⟨d, hd, rfl, hc⟩, hn⟩
    exact ⟨d, List.mem_filter.2 ⟨hd, by simpa using hn⟩, rfl, hc⟩

theorem calling_begin (hk : t.asks k) (handler : Handler) :
    calling (t.begin k handler) n ↔ calling t n ∨ n = k := by
  simp only [calling, Intake.begin, List.mem_map]
  constructor
  · rintro ⟨_, ⟨d, hd, rfl⟩, rfl, hc⟩
    split at hc
    · rename_i hdk
      exact .inr (by rw [if_pos hdk]; exact hdk)
    · rename_i hdk
      exact .inl ⟨d, hd, by rw [if_neg hdk], hc⟩
  · rintro (⟨d, hd, rfl, hc⟩ | rfl)
    · exact ⟨_, ⟨d, hd, rfl⟩, by split <;> rfl, by split <;> first | rfl | exact hc⟩
    · obtain ⟨d, hd, rfl⟩ := hk
      exact ⟨_, ⟨d, hd, rfl⟩, by rw [if_pos rfl], by rw [if_pos rfl]; rfl⟩

structure Reflects (h : List Sight) (t : Intake) : Prop where
  handler : handlerAfter h = t.receiver.handler.isSome
  gate : gateAfter h = t.receiver.gateOpen
  running : ∀ n, n ∈ runningAfter h ↔ calling t n
  done : t.receiver.clearsDone = (clearedIn h).length

theorem Reflects.append (hr : Reflects h t)
    (handler : bs.foldl Sight.handler t.receiver.handler.isSome = u.receiver.handler.isSome)
    (gate : bs.foldl Sight.moved t.receiver.gateOpen = u.receiver.gateOpen)
    (running : ∀ n, n ∈ bs.foldl Sight.running (runningAfter h) ↔ calling u n)
    (done : u.receiver.clearsDone = t.receiver.clearsDone + (clearedIn bs).length) :
    Reflects (h ++ bs) u where
  handler := by rw [handlerAfter, List.foldl_append, ← handler, ← hr.handler, handlerAfter]
  gate := by rw [gateAfter, List.foldl_append, ← gate, ← hr.gate, gateAfter]
  running n := by
    rw [runningAfter, List.foldl_append]
    exact running n
  done := by rw [done, hr.done, clearedIn, clearedIn, clearedIn, List.filterMap_append, List.length_append]

/-- The calls that clear the handler, by where they are: at the gate, past it, or over. -/
def clearing (o : Lookout) : List Nat := o.waiting ++ o.passed.map (·.2) ++ clearedIn o.history

structure Numbered (o : Lookout) : Prop where
  tickets : o.passed.map (·.1) = o.intake.draining
  took : ∀ c ∈ o.waiting, .took c ∈ o.history
  foundOpen : ∀ v ∈ o.passed, FoundOpen o.history v.2
  nodup : o.clearing.Nodup
  bounded : ∀ c ∈ o.clearing, c < o.calls

structure Sound (o : Lookout) : Prop where
  intake : o.intake.Sound
  lawful : Lawful o.history
  reflects : Reflects o.history o.intake
  numbered : o.Numbered

theorem sound_new (epoch : Nat) : (new epoch).Sound where
  intake := .new epoch
  lawful := .nil
  reflects := ⟨rfl, rfl, by simp [runningAfter, calling, new, Intake.new], rfl⟩
  numbered := ⟨rfl, nofun, nofun, .nil, nofun⟩

/-! ## A step -/

theorem mem_of_mem_running {ks : List Nat} (hk : k ∈ h.foldl Sight.running ks) :
    k ∈ ks ∨ ∃ handler parcel, .started k handler parcel ∈ h := by
  induction h generalizing ks with
  | nil => exact .inl hk
  | cons s h ih =>
    obtain hk | ⟨handler, parcel, hm⟩ := ih hk
    · cases s with
      | started j handler parcel =>
        obtain rfl | hk := List.mem_cons.1 hk
        · exact .inr ⟨handler, parcel, List.mem_cons_self⟩
        · exact .inl hk
      | returned j => exact .inl (List.mem_filter.1 hk).1
      | dropped j => exact .inl (List.mem_filter.1 hk).1
      | _ => exact .inl hk
    · exact .inr ⟨handler, parcel, List.mem_cons_of_mem _ hm⟩

inductive Glance (o : Lookout) (k : Nat) : List Sight → Intake → Prop where
  | batch (handler : Handler) (parcel : Parcel) (hk : o.intake.asks k)
      (hh : o.intake.receiver.handler.isSome = true) :
    Glance o k [.started k handler parcel] (o.intake.begin k handler)
  | failure (handler : Handler) (parcel : Parcel) (hh : o.intake.receiver.handler.isSome = true) :
    Glance o k [.started k handler parcel, .returned k, .answered k true] (o.intake.depart k)
  | miss (hh : o.intake.receiver.handler.isSome = false) :
    Glance o k [.answered k false] (o.intake.depart k)

theorem glance_of_step? (hs : o.intake.Sound) (ht : o.intake.step? (.call k) = some t) :
    Glance o k (o.sights (.call k)) t ∧ ¬ calling o.intake k := by
  obtain ⟨d, hf, ht⟩ := Option.bind_eq_some_iff.1 ht
  obtain ⟨hd, rfl⟩ := Intake.mem_of_delivery? hf
  split at ht
  · rename_i hc
    have hnone : d.calling = none := Option.isNone_iff_eq_none.1 (Bool.and_eq_true_iff.1 hc).1
    obtain rfl := Option.some.inj ht
    rw [sights, hf, Option.elim_some]
    refine ⟨?_, ?_⟩
    · unfold glimpse Intake.look
      cases hh : o.intake.receiver.handler with
      | none => exact .miss (by rw [hh]; rfl)
      | some slot =>
        cases hp : d.parcel with
        | batch messages => exact .batch _ _ ⟨d, hd, rfl⟩ (by rw [hh]; rfl)
        | failure e => exact .failure _ _ (by rw [hh]; rfl)
    · rintro ⟨e, he, hed, hce⟩
      rw [List.inj_on_of_nodup_map hs.nodup he hd hed, hnone] at hce
      cases hce
  · cases ht

theorem mem_filter_ne {ks : List Nat} : n ∈ ks.filter (· != k) ↔ n ∈ ks ∧ n ≠ k := by
  rw [List.mem_filter, bne_iff_ne]

theorem Sound.call?_isSome (hs : o.Sound) (hk : k ∈ o.intake.draining) :
    ∃ v ∈ o.passed, v.1 = k ∧ o.call? k = some v.2 := by
  rw [← hs.numbered.tickets] at hk
  obtain ⟨w, hw, hwk⟩ := List.mem_map.1 hk
  have hsome : (o.passed.find? (·.1 == k)).isSome = true :=
    List.find?_isSome.2 ⟨w, hw, beq_iff_eq.2 hwk⟩
  obtain ⟨v, hv⟩ := Option.isSome_iff_exists.1 hsome
  exact ⟨v, List.mem_of_find?_eq_some hv, by simpa using List.find?_some hv,
    by rw [call?, hv, Option.map_some]⟩

theorem Sound.reflects_step (hs : o.Sound) (ht : o.intake.step? x = some t) :
    Reflects (o.history ++ o.sights x) t := by
  have hr := hs.reflects
  cases x with
  | call k =>
    obtain ⟨hg, hn⟩ := glance_of_step? hs.intake ht
    generalize o.sights (.call k) = ss at hg ⊢
    cases hg with
    | batch handler parcel hk hh =>
      refine hr.append rfl rfl (fun n => ?_) rfl
      rw [calling_begin hk, ← hr.running, or_comm]
      exact List.mem_cons
    | failure handler parcel hh =>
      refine hr.append rfl rfl (fun n => ?_) rfl
      rw [calling_depart, ← hr.running]
      refine mem_filter_ne.trans (and_congr_left fun hne => ?_)
      exact List.mem_cons.trans (or_iff_right hne)
    | miss hh =>
      refine hr.append rfl rfl (fun n => ?_) rfl
      rw [calling_depart, ← hr.running, and_iff_left_of_imp]
      · rfl
      · rintro hm rfl
        exact hn ((hr.running n).1 hm)
  | finish k =>
    cases Intake.step_of_step? ht with
    | finish d hd =>
      refine hr.append rfl rfl (fun n => ?_) rfl
      rw [calling_depart, ← hr.running]
      exact mem_filter_ne
  | drop k =>
    cases Intake.step_of_step? ht with
    | drop =>
      refine hr.append rfl rfl (fun n => ?_) rfl
      exact mem_filter_ne.trans ((and_congr_left' (hr.running n)).trans calling_depart.symm)
  | arrive parcel =>
    cases Intake.step_of_step? ht with
    | arrive =>
      refine hr.append rfl rfl (fun n => (hr.running n).trans ?_) rfl
      simp [calling, or_and_right, exists_or]
  | cleared k =>
    cases Intake.step_of_step? ht with
    | cleared k hk =>
      obtain ⟨v, -, -, hv⟩ := hs.call?_isSome hk
      rw [sights, hv]
      exact hr.append rfl rfl hr.running rfl
  | install slot =>
    cases Intake.step_of_step? ht with
    | install => exact hr.append rfl rfl hr.running rfl
  | clear =>
    cases Intake.step_of_step? ht with
    | clear => exact hr.append rfl rfl hr.running rfl
  | pass =>
    cases Intake.step_of_step? ht with
    | pass => exact hr.append rfl rfl hr.running rfl
  | turnBack =>
    cases Intake.step_of_step? ht with
    | turnBack => exact hr.append rfl rfl hr.running rfl
  | gate isOpen =>
    cases Intake.step_of_step? ht with
    | gate => exact hr.append rfl rfl hr.running rfl

/-- A writer has the lock only when no callback is in progress. -/
theorem Sound.not_calling (hs : o.Sound) (hk : k ∈ o.intake.draining)
    (hi : o.intake.receiver.isInside k = true) : ¬ calling o.intake n := by
  rintro ⟨d, hd, rfl, hc⟩
  have hfirst := ((hs.intake.orderly.isHeldBy_writer_iff hk).1 hi).1 _ ⟨d, hd, rfl⟩
  have hlater := (hs.intake.orderly.mem_readers_iff ⟨d, hd, rfl⟩).1 (hs.intake.calling d hd hc) k hk
  omega

theorem Sound.lawful_step (hs : o.Sound) (ht : o.intake.step? x = some t) :
    Lawful (o.history ++ o.sights x) := by
  have hl := hs.lawful
  have hr := hs.reflects
  cases x with
  | call k =>
    obtain ⟨hg, -⟩ := glance_of_step? hs.intake ht
    generalize o.sights (.call k) = ss at hg ⊢
    cases hg with
    | batch handler parcel hk hh => exact hl.snoc _ _ (hr.handler.trans hh)
    | failure handler parcel hh =>
      have hl := hl.snoc _ (.started k handler parcel) (hr.handler.trans hh)
      have hl := (hl.snoc _ (.returned k) trivial).snoc _ (.answered k true) ⟨handler, parcel, by simp⟩
      simpa using hl
    | miss hh => exact hl.snoc _ _ trivial
  | finish k =>
    obtain ⟨d, hf, ht⟩ := Option.bind_eq_some_iff.1 ht
    obtain ⟨hd, rfl⟩ := Intake.mem_of_delivery? hf
    split at ht
    · rename_i hc
      obtain hm | ⟨handler, parcel, hm⟩ := mem_of_mem_running ((hr.running _).2 ⟨d, hd, rfl, hc⟩)
      · cases hm
      · have hl := (hl.snoc _ (.returned d.ticket) trivial).snoc _ (.answered d.ticket true)
          ⟨handler, parcel, List.mem_append_left _ hm⟩
        simpa [sights] using hl
    · cases ht
  | cleared k =>
    dsimp only [Intake.step?] at ht
    split at ht
    · rename_i hk
      obtain ⟨v, hm, -, hv⟩ := hs.call?_isSome hk.1
      rw [sights, hv]
      refine hl.snoc _ (.cleared v.2) ⟨?_, hs.numbered.foundOpen v hm⟩
      refine List.eq_nil_iff_forall_not_mem.2 fun n hn => ?_
      exact hs.not_calling hk.1 hk.2 ((hr.running n).1 hn)
    · cases ht
  | install slot => exact hl.snoc _ _ trivial
  | clear => exact hl.snoc _ _ trivial
  | drop k => exact hl.snoc _ _ trivial
  | gate isOpen => exact hl.snoc _ _ trivial
  | arrive parcel => exact (List.append_nil _).symm ▸ hl
  | pass => exact (List.append_nil _).symm ▸ hl
  | turnBack => exact (List.append_nil _).symm ▸ hl

/-- Calls that clear the handler only go, or go on. -/
theorem Numbered.of_perm {l m : List Nat} (hn : o.Numbered) (hp : p.clearing.Perm l) (hl : l.Sublist m)
    (hm : m.Perm o.clearing) (hc : p.calls = o.calls) : p.clearing.Nodup ∧ ∀ c ∈ p.clearing, c < p.calls := by
  refine ⟨hp.nodup_iff.2 ((hm.nodup_iff.2 hn.nodup).sublist hl), fun c hm' => ?_⟩
  rw [hc]
  exact hn.bounded c (hm.subset (hl.subset (hp.subset hm')))

@[simp] theorem clearedIn_append (h k : List Sight) : clearedIn (h ++ k) = clearedIn h ++ clearedIn k :=
  List.filterMap_append ..

/-- What concerns no call that clears the handler. -/
theorem Numbered.aside (hn : o.Numbered) (ht : t.draining = o.intake.draining) (hb : clearedIn bs = []) :
    Numbered { o with intake := t, history := o.history ++ bs } := by
  have hperm : (clearing { o with intake := t, history := o.history ++ bs }).Perm o.clearing := by
    rw [clearing, clearing, clearedIn_append, hb, List.append_nil]
  obtain ⟨hnodup, hbounded⟩ := hn.of_perm hperm (.refl _) (.refl _) rfl
  exact ⟨hn.tickets.trans ht.symm, fun c hc => List.mem_append_left _ (hn.took c hc),
    fun v hv => (hn.foundOpen v hv).append bs, hnodup, hbounded⟩

namespace Numbered

theorem clear (hn : o.Numbered) (ht : t.draining = o.intake.draining) :
    Numbered { o with
      intake := t
      calls := o.calls + 1
      waiting := o.waiting ++ [o.calls]
      history := o.history ++ [.took o.calls] } := by
  have hperm : (o.waiting ++ [o.calls] ++ o.passed.map (·.2)
      ++ clearedIn (o.history ++ [.took o.calls])).Perm (o.calls :: o.clearing) := by
    rw [clearedIn_append, show clearedIn [.took o.calls] = [] from rfl, List.append_nil, clearing]
    simp only [List.append_assoc]
    exact List.perm_middle
  refine ⟨hn.tickets.trans ht.symm, fun c hc => ?_, fun v hv => (hn.foundOpen v hv).append _, ?_,
    fun c hc => ?_⟩
  · obtain hc | hc := List.mem_append.1 hc
    · exact List.mem_append_left _ (hn.took c hc)
    · rw [List.mem_singleton.1 hc]
      exact List.mem_append_right _ List.mem_cons_self
  · exact hperm.nodup_iff.2 (List.nodup_cons.2 ⟨fun hm => Nat.lt_irrefl _ (hn.bounded _ hm), hn.nodup⟩)
  · obtain rfl | hc := List.mem_cons.1 (hperm.mem_iff.1 hc)
    · exact Nat.lt_succ_self _
    · exact Nat.lt_succ_of_lt (hn.bounded c hc)

theorem pass (hn : o.Numbered) (hc : c ∈ o.waiting) (hg : gateAfter o.history = true)
    (ht : t.draining = k :: o.intake.draining) :
    Numbered { o with intake := t, waiting := o.waiting.erase c, passed := (k, c) :: o.passed } := by
  have hperm : (clearing { o with
      intake := t
      waiting := o.waiting.erase c
      passed := (k, c) :: o.passed }).Perm o.clearing := by
    simp only [clearing, List.append_assoc]
    exact List.perm_middle.trans ((List.perm_cons_erase hc).symm.append_right _)
  obtain ⟨hnodup, hbounded⟩ := hn.of_perm hperm (.refl _) (.refl _) rfl
  refine ⟨(congrArg (k :: ·) hn.tickets).trans ht.symm, fun d hd => hn.took d (List.mem_of_mem_erase hd),
    fun v hv => ?_, hnodup, hbounded⟩
  obtain rfl | hv := List.mem_cons.1 hv
  · obtain ⟨as, bs, hh⟩ := List.append_of_mem (hn.took c hc)
    exact ⟨as, bs, [], hh.trans (List.append_nil _).symm, hh ▸ hg⟩
  · exact hn.foundOpen v hv

theorem turnBack (hn : o.Numbered) (ht : t.draining = o.intake.draining) (c : Nat) :
    Numbered { o with intake := t, waiting := o.waiting.erase c } := by
  have hsub : (clearing { o with intake := t, waiting := o.waiting.erase c }).Sublist o.clearing :=
    (List.erase_sublist.append_right _).append_right _
  obtain ⟨hnodup, hbounded⟩ := hn.of_perm (.refl _) hsub (.refl _) rfl
  exact ⟨hn.tickets.trans ht.symm, fun d hd => hn.took d (List.mem_of_mem_erase hd), hn.foundOpen, hnodup,
    hbounded⟩

theorem tickets_filter (hn : o.Numbered) (ht : t.draining = o.intake.draining.filter (· != k)) :
    (o.passed.filter (·.1 != k)).map (·.1) = t.draining := by
  rw [ht, ← hn.tickets, List.filter_map]
  rfl

theorem drop (hn : o.Numbered) (ht : t.draining = o.intake.draining.filter (· != k)) :
    Numbered { o with
      intake := t
      passed := o.passed.filter (·.1 != k)
      history := o.history ++ [.dropped k] } := by
  have hsub : (clearing { o with
      intake := t
      passed := o.passed.filter (·.1 != k)
      history := o.history ++ [.dropped k] }).Sublist o.clearing := by
    rw [clearing, clearedIn_append, show clearedIn [.dropped k] = [] from rfl, List.append_nil]
    exact ((List.filter_sublist.map _).append_left _).append_right _
  obtain ⟨hnodup, hbounded⟩ := hn.of_perm (.refl _) hsub (.refl _) rfl
  exact ⟨hn.tickets_filter ht, fun c hc => List.mem_append_left _ (hn.took c hc),
    fun v hv => (hn.foundOpen v (List.mem_filter.1 hv).1).append _, hnodup, hbounded⟩

/-- The call that returns was past the gate. -/
theorem cleared (hn : o.Numbered) {v : Nat × Nat} (hv : v ∈ o.passed)
    (ht : t.draining = o.intake.draining.filter (· != v.1)) :
    Numbered { o with
      intake := t
      passed := o.passed.filter (·.1 != v.1)
      history := o.history ++ [.cleared v.2] } := by
  have hfilter : (o.passed.filter (·.1 != v.1)).Perm ((o.passed.erase v).filter (·.1 != v.1)) := by
    have := (List.perm_cons_erase hv).filter (·.1 != v.1)
    rwa [List.filter_cons_of_neg (by simp)] at this
  have hleft : (clearing { o with
      intake := t
      passed := o.passed.filter (·.1 != v.1)
      history := o.history ++ [.cleared v.2] }).Perm
      (v.2 :: (o.waiting ++ ((o.passed.erase v).filter (·.1 != v.1)).map (·.2) ++ clearedIn o.history)) := by
    rw [clearing, clearedIn_append, show clearedIn [.cleared v.2] = [v.2] from rfl, ← List.append_assoc]
    refine (List.perm_append_singleton ..).trans (.cons _ ?_)
    exact ((hfilter.map _).append_left _).append_right _
  have hright : (v.2 :: (o.waiting ++ (o.passed.erase v).map (·.2) ++ clearedIn o.history)).Perm o.clearing := by
    simp only [clearing, List.append_assoc]
    refine List.perm_middle.symm.trans (.append_left _ ?_)
    exact ((List.perm_cons_erase hv).map (·.2)).symm.append_right _
  have hsub := (((List.filter_sublist (p := (·.1 != v.1)) (l := o.passed.erase v)).map (·.2)).append_left
    o.waiting).append_right (clearedIn o.history)
  obtain ⟨hnodup, hbounded⟩ := hn.of_perm hleft (hsub.cons_cons _) hright rfl
  exact ⟨hn.tickets_filter ht, fun c hc => List.mem_append_left _ (hn.took c hc),
    fun w hw => (hn.foundOpen w (List.mem_filter.1 hw).1).append _, hnodup, hbounded⟩

end Numbered

theorem Sound.numbered_step (hs : o.Sound) (hx : o.step? x c = some p) : p.Numbered := by
  obtain ⟨q, ht, hq, hp⟩ := of_step? hx
  rw [hp]
  generalize p.intake = t at ht
  have hn := hs.numbered
  cases x with
  | call k =>
    obtain rfl := Option.some.inj hq
    obtain ⟨hg, -⟩ := glance_of_step? hs.intake ht
    generalize o.sights (.call k) = ss at hg ⊢
    cases hg <;> exact hn.aside rfl rfl
  | install slot =>
    obtain rfl := Option.some.inj hq
    cases Intake.step_of_step? ht
    exact hn.aside rfl rfl
  | arrive parcel =>
    obtain rfl := Option.some.inj hq
    cases Intake.step_of_step? ht
    exact hn.aside rfl rfl
  | finish k =>
    obtain rfl := Option.some.inj hq
    cases Intake.step_of_step? ht
    exact hn.aside rfl rfl
  | gate isOpen =>
    obtain rfl := Option.some.inj hq
    cases Intake.step_of_step? ht
    exact hn.aside rfl rfl
  | clear =>
    obtain rfl := Option.some.inj hq
    cases Intake.step_of_step? ht
    exact hn.clear rfl
  | pass =>
    dsimp only [follow] at hq
    split at hq
    · rename_i hc
      obtain rfl := Option.some.inj hq
      have hopen : o.intake.receiver.gateOpen = true := by
        dsimp only [Intake.step?] at ht
        split at ht
        · rename_i hg
          exact (Bool.and_eq_true_iff.1 hg).1
        · cases ht
      have hdraining : t.draining = o.intake.next :: o.intake.draining := by
        cases Intake.step_of_step? ht
        rfl
      exact (hn.pass hc (hs.reflects.gate.trans hopen) hdraining).aside rfl rfl
    · cases hq
  | turnBack =>
    dsimp only [follow] at hq
    split at hq
    · obtain rfl := Option.some.inj hq
      cases Intake.step_of_step? ht
      exact (hn.turnBack rfl c).aside rfl rfl
    · cases hq
  | cleared k =>
    obtain rfl := Option.some.inj hq
    cases Intake.step_of_step? ht with
    | cleared k hk =>
      obtain ⟨v, hv, rfl, hcall⟩ := hs.call?_isSome hk
      rw [sights, hcall]
      exact hn.cleared hv rfl
  | drop k =>
    obtain rfl := Option.some.inj hq
    cases Intake.step_of_step? ht
    exact hn.drop rfl

theorem Sound.step (hs : o.Sound) (hx : o.step? x c = some p) : p.Sound := by
  obtain ⟨q, ht, -, hp⟩ := of_step? hx
  have hh : p.history = o.history ++ o.sights x := by rw [hp]
  refine ⟨hs.intake.step (Intake.step_of_step? ht), ?_, ?_, hs.numbered_step hx⟩
  · rw [hh]
    exact hs.lawful_step ht
  · rw [hh]
    exact hs.reflects_step ht

theorem Sound.run (hs : o.Sound) (hr : o.run xs = some p) : p.Sound := by
  induction xs generalizing o with
  | nil =>
    obtain rfl := Option.some.inj hr
    exact hs
  | cons x xs ih =>
    obtain ⟨q, hq, hr⟩ := Option.bind_eq_some_iff.1 hr
    exact ih (hs.step hq) hr

/-- A delivery that has its share and finds no handler goes, and nothing else happens. -/
theorem Sound.call_without_handler (hs : o.Sound) (hd : d ∈ o.intake.deliveries) (hc : d.calling = none)
    (hi : o.intake.receiver.isInside d.ticket = true) (hh : o.intake.receiver.handler = none) (n : Nat) :
    o.step? (.call d.ticket) n = some { o with
      intake := o.intake.depart d.ticket
      history := o.history ++ [.answered d.ticket false] } := by
  have hfind := Intake.delivery?_eq hs.intake.nodup hd
  have hstep : o.intake.step? (.call d.ticket) = some (o.intake.depart d.ticket) := by
    rw [Intake.step?, hfind, Option.bind_some, if_pos (by rw [hc, hi]; rfl), Intake.look, hh]
  rw [step?, hstep, Option.bind_some, sights, hfind, Option.elim_some, glimpse, hh]
  rfl

end Lookout

/-- In every run of a receiver, with any number of deliveries and of calls that clear the handler: once such a
call has taken the handler, and until one is installed again, no callback starts; a delivery that answers that
there was a handler had called it before, and one that has its share and has not called finds none, goes, and
does nothing else. A call that clears the handler returns only after the gate was open at some moment since it
took the handler, and after every callback that has ever started is over: it has returned, or whoever made the
delivery has dropped it. The receiver counts exactly the calls that returned. -/
theorem clearing_drains {epoch : Nat} {xs : List (Traffic × Nat)} {o : Lookout}
    (h : (Lookout.new epoch).run xs = some o) :
    (∀ as c bs, o.history = as ++ .took c :: bs → .installed ∉ bs →
      (∀ k handler parcel, .started k handler parcel ∉ bs)
        ∧ (∀ k, .answered k true ∈ bs → ∃ handler parcel, .started k handler parcel ∈ as)
        ∧ ∀ d ∈ o.intake.deliveries, d.calling = none → o.intake.receiver.isInside d.ticket = true → ∀ n,
          o.step? (.call d.ticket) n = some { o with
            intake := o.intake.depart d.ticket
            history := o.history ++ [.answered d.ticket false] })
      ∧ (∀ as c bs, o.history = as ++ .cleared c :: bs → Lookout.FoundOpen as c
        ∧ ∀ cs k handler parcel ds, as = cs ++ .started k handler parcel :: ds →
          .returned k ∈ ds ∨ .dropped k ∈ ds)
      ∧ (Lookout.clearedIn o.history).Nodup
      ∧ o.intake.receiver.clearsDone = (Lookout.clearedIn o.history).length := by
  have hs := (Lookout.sound_new epoch).run h
  refine ⟨fun as c bs hh hi => ?_, fun as c bs hh => ?_, ?_, hs.reflects.done⟩
  · have hl := hh ▸ hs.lawful
    have hnone : o.intake.receiver.handler = none := by
      have hon := hs.reflects.handler
      rw [hh, Lookout.handlerAfter_took hi] at hon
      exact Option.not_isSome_iff_eq_none.1 (Bool.eq_false_iff.1 hon.symm)
    exact ⟨fun k => hl.not_started hi, fun k => hl.started_of_answered hi,
      fun d hd hc hin n => hs.call_without_handler hd hc hin hnone n⟩
  · have hl := hh ▸ hs.lawful
    exact ⟨hl.permits.2, fun cs k handler parcel ds => hl.over_of_cleared⟩
  · exact hs.numbered.nodup.sublist (List.sublist_append_right ..)

/-- A call that clears the handler finds a callback in progress, a batch and a failure that have their shares
and have not looked for the handler, and the gate shut; a third delivery comes after it has passed the gate. -/
theorem clearing_drains_around_deliveries :
    ∃ o, (Lookout.new 1).run ([.install ⟨.recorder 0, 10, false⟩, .arrive (.batch none), .call 0,
        .arrive (.batch none), .gate false, .clear, .arrive (.failure ⟨.other, "late"⟩), .gate true, .pass,
        .arrive (.batch none), .call 1, .call 2, .finish 0, .cleared 3, .call 4].map (·, 0)) = some o
      ∧ o.history = [.installed, .started 0 (.recorder 0) (.batch none), .gate false] ++ .took 0 :: [.gate true,
        .answered 1 false, .answered 2 false, .returned 0, .answered 0 true, .cleared 0, .answered 4 false]
      ∧ (∀ k handler parcel, Sight.started k handler parcel ∉ o.history.drop 4)
      ∧ Lookout.FoundOpen [.installed, .started 0 (.recorder 0) (.batch none), .gate false, .took 0, .gate true,
        .answered 1 false, .answered 2 false, .returned 0, .answered 0 true] 0
      ∧ o.intake.receiver.clearsDone = 1 := by
  generalize hxs : List.map _ _ = xs
  have hrun : ((Lookout.new 1).run xs).map (·.history) = some ([.installed,
      .started 0 (.recorder 0) (.batch none), .gate false] ++ .took 0 :: [.gate true, .answered 1 false,
      .answered 2 false, .returned 0, .answered 0 true, .cleared 0, .answered 4 false]) := by
    subst hxs
    rfl
  obtain ⟨o, ho, hh⟩ := Option.map_eq_some_iff.1 hrun
  obtain ⟨htaken, hcleared, -, hdone⟩ := clearing_drains ho
  refine ⟨o, ho, hh, ?_, ?_, ?_⟩
  · rw [hh]
    exact (htaken _ 0 _ hh (by decide)).1
  · exact (hcleared _ 0 [.answered 4 false] hh).1
  · rw [hdone, hh]
    rfl

end PartitionConsumer
