import PartitionConsumer.Proofs.Overlap.Intake
/-!
# Overlapping deliveries

A delivery on the in-memory transport waits for no other delivery, only for calls that clear the handler and
have asked before it. So any number of calls of a handler can be in progress at once. They come one at a
time only if whoever delivers waits for each delivery before the next.
-/
namespace PartitionConsumer
namespace Intake

variable {t u : Intake} {x : Traffic} {xs : List Traffic} {d : Delivery} {k n : Nat} {h : Handler}
  {slot : InstalledHandler}

/-- The ticket is that of a delivery. -/
def asks (t : Intake) (k : Nat) : Prop := ∃ d ∈ t.deliveries, d.ticket = k

/-! ## Tickets -/

structure Sound (t : Intake) : Prop where
  orderly : t.receiver.lock.Orderly t.asks (· ∈ t.draining)
  nodup : (t.deliveries.map (·.ticket)).Nodup
  fresh : ∀ k, t.asks k → k < t.next
  freshDraining : ∀ k ∈ t.draining, k < t.next
  /-- A delivery keeps its share while the handler runs. -/
  calling : ∀ d ∈ t.deliveries, d.calling.isSome = true → d.ticket ∈ t.receiver.lock.readers

theorem asks_depart : (t.depart k).asks n ↔ t.asks n ∧ n ≠ k := by
  constructor
  · rintro ⟨d, hd, rfl⟩
    obtain ⟨hd, hn⟩ := List.mem_filter.1 hd
    exact ⟨⟨d, hd, rfl⟩, by simpa using hn⟩
  · rintro ⟨⟨d, hd, rfl⟩, hn⟩
    exact ⟨d, List.mem_filter.2 ⟨hd, by simpa using hn⟩, rfl⟩

theorem asks_begin : (t.begin k h).asks n ↔ t.asks n := by
  simp only [asks, begin, List.mem_map]
  constructor
  · rintro ⟨_, ⟨d, hd, rfl⟩, rfl⟩
    exact ⟨d, hd, by split <;> rfl⟩
  · rintro ⟨d, hd, rfl⟩
    exact ⟨_, ⟨d, hd, rfl⟩, by split <;> rfl⟩

theorem tickets_begin : (t.begin k h).deliveries.map (·.ticket) = t.deliveries.map (·.ticket) := by
  rw [begin, List.map_map]
  refine List.map_congr_left fun d _ => ?_
  dsimp only [Function.comp]
  split <;> rfl

namespace Sound

theorem new (epoch : Nat) : (Intake.new epoch).Sound where
  orderly := SharedLock.Orderly.new.congr (by simp [asks, Intake.new]) (by simp [Intake.new])
  nodup := .nil
  fresh := by simp [asks, Intake.new]
  freshDraining := nofun
  calling := nofun

/-- A delivery that goes takes its ticket along. -/
theorem depart (hs : t.Sound) (hd : d ∈ t.deliveries) : (t.depart d.ticket).Sound where
  orderly := by
    refine (hs.orderly.release d.ticket).congr (fun n => asks_depart) fun n => (and_iff_left_of_imp ?_).symm
    rintro hn rfl
    exact hs.orderly.apart _ ⟨d, hd, rfl⟩ hn
  nodup := hs.nodup.sublist (List.filter_sublist.map _)
  fresh n hn := hs.fresh n (asks_depart.1 hn).1
  freshDraining := hs.freshDraining
  calling e he hc := by
    obtain ⟨he, hn⟩ := List.mem_filter.1 he
    exact SharedLock.mem_readers_release (hs.calling e he hc) (by simpa using hn)

theorem begin (hs : t.Sound) (hi : k ∈ t.receiver.lock.readers) (h : Handler) :
    (t.begin k h).Sound where
  orderly := hs.orderly.congr (fun n => asks_begin) fun _ => .rfl
  nodup := by
    rw [tickets_begin]
    exact hs.nodup
  fresh n hn := hs.fresh n (asks_begin.1 hn)
  freshDraining := hs.freshDraining
  calling e he hc := by
    obtain ⟨e', he', rfl⟩ := List.mem_map.1 he
    split at hc
    · rename_i hk
      rw [if_pos hk]
      exact hk ▸ hi
    · rename_i hk
      rw [if_neg hk]
      exact hs.calling e' he' hc

/-- Who has a share of the lock is told by the tickets. -/
theorem isInside_iff (hs : t.Sound) (hd : d ∈ t.deliveries) :
    t.receiver.isInside d.ticket = true ↔ ∀ k ∈ t.draining, d.ticket < k :=
  hs.orderly.isHeldBy_reader_iff ⟨d, hd, rfl⟩

theorem mem_readers (hs : t.Sound) (hd : d ∈ t.deliveries) (hi : t.receiver.isInside d.ticket = true) :
    d.ticket ∈ t.receiver.lock.readers :=
  (hs.orderly.mem_readers_iff ⟨d, hd, rfl⟩).2 ((hs.isInside_iff hd).1 hi)

theorem step (hs : t.Sound) (hx : t.Step x u) : u.Sound := by
  cases hx with
  | install slot => exact ⟨hs.orderly, hs.nodup, hs.fresh, hs.freshDraining, hs.calling⟩
  | arrive parcel =>
    have hasks (n : Nat) : (∃ d ∈ t.deliveries ++ [{ ticket := t.next, parcel }], d.ticket = n)
        ↔ t.asks n ∨ n = t.next := by
      simp [asks, or_and_right, exists_or, eq_comm]
    refine ⟨(hs.orderly.request_shared hs.fresh hs.freshDraining).congr hasks fun _ => .rfl, ?_,
      fun n hn => ?_, fun n hn => ?_, fun e he hc => ?_⟩
    · rw [List.map_append]
      refine List.nodup_append.2 ⟨hs.nodup, List.nodup_singleton _, fun a ha b hb => ?_⟩
      obtain ⟨d, hd, rfl⟩ := List.mem_map.1 ha
      rw [List.mem_singleton.1 hb]
      exact Nat.ne_of_lt (hs.fresh _ ⟨d, hd, rfl⟩)
    · obtain hn | rfl := (hasks n).1 hn
      · exact Nat.lt_succ_of_lt (hs.fresh n hn)
      · exact Nat.lt_succ_self _
    · exact Nat.lt_succ_of_lt (hs.freshDraining n hn)
    · obtain he | he := List.mem_append.1 he
      · exact SharedLock.mem_readers_request (hs.calling e he hc) ..
      · rw [List.mem_singleton.1 he] at hc
        cases hc
  | call d slot hd hi hh => exact hs.begin (hs.mem_readers hd hi) _
  | miss d hd => exact hs.depart hd
  | finish d hd => exact hs.depart hd
  | clear => exact ⟨hs.orderly, hs.nodup, hs.fresh, hs.freshDraining, hs.calling⟩
  | pass =>
    refine ⟨(hs.orderly.request_exclusive hs.fresh hs.freshDraining).congr (fun _ => .rfl)
      (fun n => ?_), hs.nodup, fun n hn => Nat.lt_succ_of_lt (hs.fresh n hn), fun n hn => ?_,
      fun e he hc => SharedLock.mem_readers_request (hs.calling e he hc) ..⟩
    · rw [List.mem_cons, or_comm]
    · obtain rfl | hn := List.mem_cons.1 hn
      · exact Nat.lt_succ_self _
      · exact Nat.lt_succ_of_lt (hs.freshDraining n hn)
  | cleared k hk =>
    refine ⟨(hs.orderly.release k).congr (fun n => (and_iff_left_of_imp ?_).symm) (fun n => ?_), hs.nodup,
      hs.fresh, fun n hn => hs.freshDraining n (List.mem_filter.1 hn).1,
      fun e he hc => SharedLock.mem_readers_release (hs.calling e he hc) ?_⟩
    · rintro hn rfl
      exact hs.orderly.apart n hn hk
    · rw [List.mem_filter, bne_iff_ne]
    · rintro rfl
      exact hs.orderly.apart _ ⟨e, he, rfl⟩ hk
  | drop k =>
    refine ⟨(hs.orderly.release k).congr (fun n => asks_depart) (fun n => ?_),
      hs.nodup.sublist (List.filter_sublist.map _), fun n hn => hs.fresh n (asks_depart.1 hn).1,
      fun n hn => hs.freshDraining n (List.mem_filter.1 hn).1, fun e he hc => ?_⟩
    · rw [List.mem_filter, bne_iff_ne]
    · obtain ⟨he, hn⟩ := List.mem_filter.1 he
      exact SharedLock.mem_readers_release (hs.calling e he hc) (by simpa using hn)
  | turnBack => exact ⟨hs.orderly, hs.nodup, hs.fresh, hs.freshDraining, hs.calling⟩
  | gate isOpen => exact ⟨hs.orderly, hs.nodup, hs.fresh, hs.freshDraining, hs.calling⟩

theorem run (hs : t.Sound) (hr : t.run xs = some u) : u.Sound := by
  induction xs generalizing t with
  | nil =>
    obtain rfl := Option.some.inj hr
    exact hs
  | cons x xs ih =>
    obtain ⟨v, hv, hr⟩ := Option.bind_eq_some_iff.1 hr
    exact ih (hs.step (step_of_step? hv)) hr

end Sound

/-! ## One call more -/

theorem delivery?_eq (hn : (t.deliveries.map (·.ticket)).Nodup) (hd : d ∈ t.deliveries) :
    t.delivery? d.ticket = some d := by
  have hsome : (t.delivery? d.ticket).isSome = true := List.find?_isSome.2 ⟨d, hd, beq_self_eq_true _⟩
  obtain ⟨e, he⟩ := Option.isSome_iff_exists.1 hsome
  obtain ⟨hm, ht⟩ := mem_of_delivery? he
  rw [he, List.inj_on_of_nodup_map hn hm hd ht]

theorem inProgress_begin (hn : (t.deliveries.map (·.ticket)).Nodup) (hd : d ∈ t.deliveries)
    (hc : d.calling = none) (h : Handler) :
    (t.begin d.ticket h).inProgress h = t.inProgress h + 1 := by
  obtain ⟨as, bs, hs⟩ := List.append_of_mem hd
  rw [hs, List.map_append, List.map_cons, List.nodup_middle, List.nodup_cons, List.mem_append,
    not_or] at hn
  have hother (es : List Delivery) (he : d.ticket ∉ es.map (·.ticket)) :
      es.map (fun e => if e.ticket = d.ticket then { e with calling := some h } else e) = es := by
    refine (List.map_congr_left fun e hm => if_neg ?_).trans (List.map_id es)
    exact fun ht => he (ht ▸ List.mem_map_of_mem hm)
  rw [inProgress, inProgress, begin, hs]
  dsimp only
  rw [List.map_append, List.map_cons, hother as hn.1.1, hother bs hn.1.2, if_pos rfl,
    List.countP_append, List.countP_cons, List.countP_append, List.countP_cons, hc]
  simp
  omega

/-- A delivery that came before every pending call that drains can call the handler, whatever the other
deliveries are at. -/
theorem Sound.call (hs : t.Sound) (hd : d ∈ t.deliveries) (hc : d.calling = none) {messages : Option Batch}
    (hp : d.parcel = .batch messages) (hh : t.receiver.handler = some slot)
    (hk : ∀ k ∈ t.draining, d.ticket < k) :
    t.step? (.call d.ticket) = some (t.begin d.ticket slot.handler) := by
  have hi := (hs.isInside_iff hd).2 hk
  rw [step?, delivery?_eq hs.nodup hd, Option.bind_some, if_pos (by rw [hc, hi]; rfl), look, hh, hp]

/-- While no call that clears the handler is pending, any number of deliveries can call it, and none of
them has to return first. -/
theorem Sound.overlap (hs : t.Sound) (hh : t.receiver.handler = some slot) (hd : t.draining = [])
    (n : Nat) :
    ∃ xs u, (∀ x ∈ xs, (∃ parcel, x = .arrive parcel) ∨ ∃ k, x = .call k)
      ∧ t.run xs = some u ∧ u.inProgress slot.handler = t.inProgress slot.handler + n := by
  induction n generalizing t with
  | zero => exact ⟨[], t, nofun, rfl, rfl⟩
  | succ n ih =>
    -- one delivery arrives and calls the handler, and nothing has returned when the others follow
    obtain ⟨v, harrive⟩ : ∃ v, t.step? (.arrive (.batch none)) = some v := ⟨_, rfl⟩
    have hv := (Option.some.inj harrive).symm
    have hvs : v.Sound := hs.step (step_of_step? harrive)
    have hm : (⟨t.next, .batch none, none⟩ : Delivery) ∈ v.deliveries := by
      rw [hv]
      exact List.mem_append_right _ (List.mem_singleton_self _)
    have hvd : v.draining = [] := by rw [hv, ← hd]
    have hvh : v.receiver.handler = some slot := by rw [hv, ← hh]; rfl
    have hcall := hvs.call hm rfl rfl hvh (by rw [hvd]; nofun)
    have hone : v.inProgress slot.handler = t.inProgress slot.handler := by
      rw [hv, inProgress, List.countP_append]
      rfl
    obtain ⟨ys, u, hys, hu, hn⟩ := ih (hvs.step (step_of_step? hcall)) hvh hvd
    refine ⟨.arrive (.batch none) :: .call t.next :: ys, u, ?_, ?_, ?_⟩
    · exact List.forall_mem_cons.2 ⟨.inl ⟨_, rfl⟩, List.forall_mem_cons.2 ⟨.inr ⟨_, rfl⟩, hys⟩⟩
    · rw [Intake.run, harrive, Option.bind_some, Intake.run, hcall]
      exact hu
    · rw [hn, inProgress_begin hvs.nodup hm rfl, hone]
      omega

/-! ## One at a time -/

/-- Every delivery is made when the one before it is over. -/
def Awaited (t : Intake) (xs : List Traffic) : Prop :=
  ∀ as parcel bs u, xs = as ++ .arrive parcel :: bs → t.run as = some u → u.deliveries = []

theorem Step.length_le (hx : t.Step x u) (ha : ∀ parcel, x = .arrive parcel → t.deliveries = [])
    (hl : t.deliveries.length ≤ 1) : u.deliveries.length ≤ 1 := by
  cases hx with
  | arrive parcel =>
    rw [ha parcel rfl]
    exact Nat.le_refl 1
  | call d slot hd hi hh =>
    rw [begin, List.length_map]
    exact hl
  | miss d hd => exact Nat.le_trans (List.length_filter_le ..) hl
  | finish d hd => exact Nat.le_trans (List.length_filter_le ..) hl
  | drop k => exact Nat.le_trans (List.length_filter_le ..) hl
  | _ => exact hl

theorem Awaited.length_le (ha : t.Awaited xs) (hl : t.deliveries.length ≤ 1) (hr : t.run xs = some u) :
    u.deliveries.length ≤ 1 := by
  induction xs generalizing t with
  | nil =>
    obtain rfl := Option.some.inj hr
    exact hl
  | cons x xs ih =>
    obtain ⟨v, hv, hr⟩ := Option.bind_eq_some_iff.1 hr
    refine ih (fun as parcel bs w hx hw => ?_) ((step_of_step? hv).length_le (fun parcel hx => ?_) hl) hr
    · refine ha (x :: as) parcel bs w (by rw [hx]; rfl) ?_
      rw [run, hv]
      exact hw
    · exact ha [] parcel xs t (by rw [hx]; rfl) rfl

end Intake

/-- In every run of a receiver, a delivery has its share of the lock, and can call the handler, unless a
call that clears the handler has passed the gate before the delivery came and is still pending; no other
delivery keeps it from that. While a handler is installed and no such call is pending, deliveries alone can
bring any number of calls of the handler more into progress. A call that clears the handler does wait for
every delivery that came before it. If each delivery is made when the one before it is over, there is one at
a time at most. -/
theorem deliveries_overlap {epoch : Nat} {xs : List Traffic} {t : Intake}
    (h : (Intake.new epoch).run xs = some t) :
    (∀ d ∈ t.deliveries, t.receiver.isInside d.ticket = true ↔ ∀ k ∈ t.draining, d.ticket < k)
      ∧ (∀ d ∈ t.deliveries, ∀ (messages : Option Batch) (slot : InstalledHandler),
        d.calling = none → d.parcel = .batch messages → t.receiver.handler = some slot →
        (∀ k ∈ t.draining, d.ticket < k) →
        ∃ u, t.step? (.call d.ticket) = some u
          ∧ u.inProgress slot.handler = t.inProgress slot.handler + 1)
      ∧ (∀ (slot : InstalledHandler) (n : Nat), t.receiver.handler = some slot → t.draining = [] →
        ∃ ys u, (∀ y ∈ ys, (∃ parcel, y = .arrive parcel) ∨ ∃ k, y = .call k)
          ∧ t.run ys = some u ∧ u.inProgress slot.handler = t.inProgress slot.handler + n)
      ∧ (∀ k ∈ t.draining, t.receiver.isInside k = true
        ↔ (∀ d ∈ t.deliveries, k < d.ticket) ∧ ∀ j ∈ t.draining, k ≤ j)
      ∧ ((Intake.new epoch).Awaited xs → t.deliveries.length ≤ 1) := by
  have hs := (Intake.Sound.new epoch).run h
  refine ⟨fun d hd => hs.isInside_iff hd, fun d hd messages slot hc hp hh hk => ?_,
    fun slot n hh hd => hs.overlap hh hd n, fun k hk => ?_,
    fun ha => ha.length_le (Nat.zero_le 1) h⟩
  · exact ⟨_, hs.call hd hc hp hh hk, Intake.inProgress_begin hs.nodup hd hc _⟩
  · have hiff := hs.orderly.isHeldBy_writer_iff hk
    simpa [Intake.asks, Receiver.isInside] using hiff

/-- Two calls of one handler are in progress at once, and could be joined by more. A call that clears the
handler then waits for both, and the third delivery waits for it. -/
theorem deliveries_overlap_in_two_calls :
    ∃ t u, (Intake.new 1).run [.install ⟨.recorder 0, 10, false⟩, .arrive (.batch none), .call 0,
        .arrive (.batch none), .call 1] = some t
      ∧ t.inProgress (.recorder 0) = 2
      ∧ (∀ n, ∃ ys v, (∀ y ∈ ys, (∃ parcel, y = .arrive parcel) ∨ ∃ k, y = .call k)
        ∧ t.run ys = some v ∧ v.inProgress (.recorder 0) = 2 + n)
      ∧ t.run [.clear, .pass, .arrive (.batch none)] = some u ∧ u.inProgress (.recorder 0) = 2
      ∧ u.receiver.isInside 2 = false ∧ u.receiver.isInside 3 = false := by
  generalize hxs : [Traffic.install _, _, _, _, _] = xs
  have ht : ((Intake.new 1).run xs).map (fun t => (t.inProgress (.recorder 0), t.receiver.handler,
      t.draining)) = some (2, some ⟨.recorder 0, 10, false⟩, []) := by
    subst hxs
    rfl
  have hu : ((Intake.new 1).run (xs ++ [.clear, .pass, .arrive (.batch none)])).map
      (fun t => (t.inProgress (.recorder 0), t.deliveries.map (·.ticket), t.draining))
      = some (2, [0, 1, 3], [2]) := by
    subst hxs
    rfl
  obtain ⟨t, ht, hp⟩ := Option.map_eq_some_iff.1 ht
  obtain ⟨u, hu, hq⟩ := Option.map_eq_some_iff.1 hu
  simp only [Prod.mk.injEq] at hp hq
  obtain ⟨htp, hth, htd⟩ := hp
  obtain ⟨hup, hut, hud⟩ := hq
  have hrun := hu
  rw [Intake.run_append, ht, Option.bind_some] at hrun
  obtain ⟨hinside, -, -, hclear, -⟩ := deliveries_overlap hu
  refine ⟨t, u, ht, htp, fun n => ?_, hrun, hup, ?_, ?_⟩
  · obtain ⟨-, -, hmore, -⟩ := deliveries_overlap ht
    obtain ⟨ys, v, hys, hv, hn⟩ := hmore _ n hth htd
    exact ⟨ys, v, hys, hv, hn.trans (by rw [htp])⟩
  · have hmem : (0 : Nat) ∈ u.deliveries.map (·.ticket) := by rw [hut]; exact List.mem_cons_self
    obtain ⟨d, hd, hd0⟩ := List.mem_map.1 hmem
    refine Bool.eq_false_iff.2 fun hi => ?_
    have := ((hclear 2 (by rw [hud]; exact List.mem_cons_self)).1 hi).1 d hd
    omega
  · have hmem : (3 : Nat) ∈ u.deliveries.map (·.ticket) := by rw [hut]; decide
    obtain ⟨d, hd, hd3⟩ := List.mem_map.1 hmem
    refine Bool.eq_false_iff.2 fun hi => ?_
    have := (hinside d hd).1 (hd3 ▸ hi) 2 (by rw [hud]; exact List.mem_cons_self)
    omega

end PartitionConsumer
