import PartitionConsumer.Proofs.Renewals.Timetable
/-!
# Renewals

A schedule has one armed timer or one action under way, never two of them, and it has one of them as long
as it was not cancelled and no firing has found its owner closing. A schedule that is cancelled arms no
timer and begins no action any more; the action that is under way runs on to its end.
-/
namespace PartitionConsumer
namespace Timetable

variable {t u v : Timetable} {x : Occurrence} {xs : List Occurrence} {k wake : Nat}
  {outcome : Except RenewalError Unit}

/-! ## What a step does -/

@[simp] theorem timers_fire (t : Timetable) (k : Nat) :
    (t.fire k).timers = t.timers.filter (·.1 != k) := by
  unfold fire
  dsimp only
  split <;> rfl

@[simp] theorem actions_fire (t : Timetable) (k : Nat) : (t.fire k).actions
    = if t.renewal.cancelled || t.ownerClosing then t.actions else k :: t.actions := by
  unfold fire
  cases hc : t.renewal.cancelled <;> cases ho : t.ownerClosing <;>
    simp only [Renewal.runs_fire, hc] <;> rfl

@[simp] theorem pending_fire (t : Timetable) (k : Nat) : (t.fire k).renewal.pending = false := by
  unfold fire
  dsimp only
  split <;> exact Renewal.pending_fire ..

@[simp] theorem cancelled_fire (t : Timetable) (k : Nat) :
    (t.fire k).renewal.cancelled = t.renewal.cancelled := by
  unfold fire
  dsimp only
  split <;> exact Renewal.cancelled_fire ..

/-- A firing is noted down first, and last that its action begins, if it does. -/
theorem history_fire (t : Timetable) (k : Nat) : ∃ es : List Effect,
    (t.fire k).history = t.history ++ [(t.now, .fired k t.ownerClosing)]
      ++ es.map (fun e => (t.now, .did e))
      ++ if t.renewal.cancelled || t.ownerClosing then [] else [(t.now, .begun k)] := by
  refine ⟨(t.renewal.fire t.ownerClosing).1.trace, ?_⟩
  unfold fire
  cases hc : t.renewal.cancelled <;> cases ho : t.ownerClosing <;>
    simp [Renewal.runs_fire, hc, note, adopt]

@[simp] theorem timers_arm (t : Timetable) : t.arm.timers
    = if t.renewal.pending then (t.next, wakeTime t.now t.renewal.interval) :: t.timers
      else t.timers := by
  unfold arm
  split <;> rfl

@[simp] theorem actions_arm (t : Timetable) : t.arm.actions = t.actions := by
  unfold arm
  split <;> rfl

@[simp] theorem renewal_arm (t : Timetable) : t.arm.renewal = t.renewal := by
  unfold arm
  split <;> rfl

/-- A timer that is armed is noted down. -/
theorem history_arm (t : Timetable) : t.arm.history = t.history
    ++ if t.renewal.pending then [(t.now, .armed t.next (wakeTime t.now t.renewal.interval))]
      else [] := by
  unfold arm
  split
  · rfl
  · exact (List.append_nil _).symm

@[simp] theorem cancelled_finish (t : Timetable) (k : Nat) (outcome : Except RenewalError Unit) :
    (t.finish k outcome).renewal.cancelled = t.renewal.cancelled := by
  simp [finish, adopt, note]

@[simp] theorem pending_finish (t : Timetable) (k : Nat) (outcome : Except RenewalError Unit) :
    (t.finish k outcome).renewal.pending = (!t.renewal.cancelled || t.renewal.pending) := by
  simp [finish, adopt, note]

@[simp] theorem actions_finish (t : Timetable) (k : Nat) (outcome : Except RenewalError Unit) :
    (t.finish k outcome).actions = t.actions.erase k := by
  simp [finish, adopt, note]

/-- The next timer is armed, unless the schedule was cancelled. -/
theorem timers_finish (t : Timetable) (k : Nat) (outcome : Except RenewalError Unit) :
    ∃ wake, (t.finish k outcome).timers
      = if !t.renewal.cancelled || t.renewal.pending then (t.next, wake) :: t.timers else t.timers := by
  refine ⟨wakeTime t.now (t.renewal.complete outcome).interval, ?_⟩
  simp [finish, adopt, note]

theorem history_finish (t : Timetable) (k : Nat) (outcome : Except RenewalError Unit) :
    ∃ (es : List Effect) (wake : Nat), (t.finish k outcome).history
      = t.history ++ [(t.now, .ended k outcome)] ++ es.map (fun e => (t.now, .did e))
        ++ if !t.renewal.cancelled || t.renewal.pending then [(t.now, .armed t.next wake)] else [] := by
  refine ⟨(t.renewal.complete outcome).trace,
    wakeTime t.now (t.renewal.complete outcome).interval, ?_⟩
  rw [finish, history_arm]
  simp [adopt, note]

/-! ## One timer or one action -/

structure Sound (t : Timetable) : Prop where
  one : t.timers.length + t.actions.length ≤ 1
  /-- The schedule notes of its timer what is the case. -/
  pending : t.renewal.pending = true ↔ t.timers ≠ []
  cancelled : t.renewal.cancelled = true → t.timers = []
  /-- Only a cancellation and a firing that finds the owner closing leave it with nothing to wait for. -/
  lives : t.renewal.cancelled = false → (∀ e ∈ t.history, e.2.dismisses = false) →
    t.timers.length + t.actions.length = 1

namespace Sound

theorem new (client : String) (interval : Span) (ownerClosing : Bool) :
    (Timetable.new client interval ownerClosing).Sound where
  one := Nat.le_refl 1
  pending := by simp [Timetable.new, adopt]
  cancelled := by simp [Timetable.new, adopt]
  lives _ _ := rfl

/-- While a timer is armed there is no other, and no action is under way. -/
theorem of_timer (h : t.Sound) (hk : t.timers.lookup k = some wake) :
    t.timers = [(k, wake)] ∧ t.actions = [] := by
  have hone := h.one
  cases ht : t.timers with
  | nil => simp [ht] at hk
  | cons x rest =>
    obtain ⟨j, w⟩ := x
    rw [ht, List.length_cons] at hone
    have hr : rest = [] := List.length_eq_zero_iff.1 (by omega)
    have ha : t.actions = [] := List.length_eq_zero_iff.1 (by omega)
    rw [ht, hr, List.lookup_cons] at hk
    split at hk
    · rename_i hj
      rw [hr, ha, eq_of_beq hj, Option.some.inj hk]
      exact ⟨rfl, rfl⟩
    · cases hk

/-- While an action is under way there is no other, and no timer is armed. -/
theorem of_action (h : t.Sound) (hk : k ∈ t.actions) : t.timers = [] ∧ t.actions = [k] := by
  have hone := h.one
  obtain ⟨as, bs, hs⟩ := List.append_of_mem hk
  rw [hs] at hone ⊢
  simp only [List.length_append, List.length_cons] at hone
  have ht : t.timers.length = 0 := by omega
  have ha : as.length = 0 := by omega
  have hb : bs.length = 0 := by omega
  rw [List.length_eq_zero_iff.1 ha, List.length_eq_zero_iff.1 hb]
  exact ⟨List.length_eq_zero_iff.1 ht, rfl⟩

/-- The timer that fires was the only one, and its action is the only one if it begins. -/
theorem fire (h : t.Sound) (hk : t.timers.lookup k = some wake) : (t.fire k).Sound := by
  obtain ⟨ht, ha⟩ := h.of_timer hk
  have htimers : (t.fire k).timers = [] := by
    rw [timers_fire, ht]
    simp
  refine ⟨?_, ?_, fun _ => htimers, fun hc hd => ?_⟩
  · rw [htimers, actions_fire, ha]
    split <;> simp
  · rw [htimers, pending_fire]
    simp
  · obtain ⟨es, he⟩ := t.history_fire k
    have ho : t.ownerClosing = false := hd (t.now, .fired k t.ownerClosing) (by simp [he])
    rw [cancelled_fire] at hc
    rw [htimers, actions_fire, ha, hc, ho]
    rfl

/-- The action that has returned was the only one, and the timer it leaves is the only one. -/
theorem finish (h : t.Sound) (hk : k ∈ t.actions) (outcome : Except RenewalError Unit) :
    (t.finish k outcome).Sound := by
  obtain ⟨ht, ha⟩ := h.of_action hk
  have hp : t.renewal.pending = false := by simpa [ht] using h.pending
  obtain ⟨wake, hw⟩ := t.timers_finish k outcome
  rw [hp, ht, Bool.or_false] at hw
  refine ⟨?_, ?_, fun hc => ?_, fun hc _ => ?_⟩
  · rw [hw, actions_finish, ha, List.erase_cons_head]
    split <;> simp
  · rw [hw, pending_finish, hp]
    cases t.renewal.cancelled <;> simp
  · rw [cancelled_finish] at hc
    rw [hw, hc]
    rfl
  · rw [cancelled_finish] at hc
    rw [hw, hc, actions_finish, ha, List.erase_cons_head]
    rfl

/-- The timer that the schedule knows of is the only one there is. -/
theorem timers_cancel (h : t.Sound) : t.cancel.timers = [] := by
  change (if t.renewal.pending then t.timers.tail else t.timers) = []
  have hone := h.one
  split
  · apply List.length_eq_zero_iff.1
    rw [List.length_tail]
    omega
  · rename_i hp
    exact Decidable.byContradiction fun ht => hp (h.pending.2 ht)

theorem cancel (h : t.Sound) : t.cancel.Sound where
  one := by
    have hone := h.one
    rw [h.timers_cancel]
    change 0 + t.actions.length ≤ 1
    omega
  pending := by
    rw [h.timers_cancel]
    exact ⟨nofun, fun hn => absurd rfl hn⟩
  cancelled _ := h.timers_cancel
  lives hc _ := nomatch hc

theorem step (h : t.Sound) (hs : t.Step x u) : u.Sound := by
  cases hs with
  | pass ticks => exact ⟨h.one, h.pending, h.cancelled, h.lives⟩
  | expire k wake hk hw => exact h.fire hk
  | finish k outcome hk => exact h.finish hk outcome
  | cancel => exact h.cancel
  | own closing => exact ⟨h.one, h.pending, h.cancelled, h.lives⟩

theorem run (h : t.Sound) (hr : t.run xs = some u) : u.Sound :=
  run_induction h (fun _ _ _ _ hi hs => hi.step hs) hr

end Sound

/-! ## After a cancellation -/

theorem Step.cancelled_eq (hs : t.Step x u) (hx : x ≠ .cancel) :
    u.renewal.cancelled = t.renewal.cancelled := by
  cases hs with
  | pass ticks => rfl
  | expire k wake hk hw => exact t.cancelled_fire k
  | finish k outcome hk => exact t.cancelled_finish k outcome
  | cancel => exact absurd rfl hx
  | own closing => rfl

theorem cancelled_of_run (hx : .cancel ∉ xs) (hr : t.run xs = some u) :
    u.renewal.cancelled = t.renewal.cancelled :=
  run_induction (P := fun u => u.renewal.cancelled = t.renewal.cancelled) rfl
    (fun _ _ _ hm he hs => (hs.cancelled_eq fun hc => hx (hc ▸ hm)).trans he) hr

/-- What has come of the schedule `t` that was cancelled when it has gone on as `u` through `xs`. -/
structure RunsOut (t : Timetable) (xs : List Occurrence) (u : Timetable) : Prop where
  timers : u.timers = []
  /-- No timer was armed on the way, and no action has begun. -/
  silent : ∃ es, u.history = t.history ++ es ∧ ∀ e ∈ es, e.2.starts = false
  /-- An action that was under way goes on until it returns. -/
  runsOn : ∀ k ∈ t.actions, (k ∈ u.actions ∧ ∀ outcome, (u.step? (.finish k outcome)).isSome = true)
    ∨ ∃ outcome, .finish k outcome ∈ xs

namespace Sound

/-- A step of a schedule that was cancelled starts nothing, and ends an action only if it returns. -/
theorem step_of_cancelled (h : t.Sound) (hc : t.renewal.cancelled = true) (hs : t.Step x u) :
    (∃ es, u.history = t.history ++ es ∧ ∀ e ∈ es, e.2.starts = false)
      ∧ ∀ k ∈ t.actions, k ∈ u.actions ∨ ∃ outcome, x = .finish k outcome := by
  have ht := h.cancelled hc
  have hp : t.renewal.pending = false := by simpa [ht] using h.pending
  cases hs with
  | pass ticks => exact ⟨⟨[], (List.append_nil _).symm, List.forall_mem_nil _⟩, fun k hk => .inl hk⟩
  | expire k wake hk hw =>
    rw [ht] at hk
    cases hk
  | finish k outcome hk =>
    refine ⟨?_, fun j hj => ?_⟩
    · obtain ⟨es, wake, he⟩ := t.history_finish k outcome
      rw [hc, hp] at he
      refine ⟨(t.now, .ended k outcome) :: es.map fun e => (t.now, .did e), by simp [he], ?_⟩
      intro e hm
      obtain rfl | hm := List.mem_cons.1 hm
      · rfl
      · obtain ⟨f, -, rfl⟩ := List.mem_map.1 hm
        rfl
    · by_cases hjk : j = k
      · exact .inr ⟨outcome, by rw [hjk]⟩
      · rw [actions_finish]
        exact .inl ((List.mem_erase_of_ne hjk).2 hj)
  | cancel =>
    refine ⟨⟨(t.renewal.cancel.trace.map fun e => (t.now, .did e)) ++ [(t.now, .cancelled)],
      by simp [Timetable.cancel, adopt, note], fun e hm => ?_⟩, fun k hk => .inl hk⟩
    obtain hm | hm := List.mem_append.1 hm
    · obtain ⟨f, -, rfl⟩ := List.mem_map.1 hm
      rfl
    · obtain rfl := List.mem_singleton.1 hm
      rfl
  | own closing => exact ⟨⟨[], (List.append_nil _).symm, List.forall_mem_nil _⟩, fun k hk => .inl hk⟩

theorem runsOut (h : t.Sound) (hc : t.renewal.cancelled = true) (hr : t.run xs = some u) :
    t.RunsOut xs u := by
  induction xs generalizing t with
  | nil =>
    obtain rfl := Option.some.inj hr
    refine ⟨h.cancelled hc, ⟨[], (List.append_nil _).symm, List.forall_mem_nil _⟩,
      fun k hk => .inl ⟨hk, fun o => ?_⟩⟩
    simp [step?, hk]
  | cons x xs ih =>
    obtain ⟨v, hv, hr⟩ := Option.bind_eq_some_iff.1 hr
    have hs := step_of_step? hv
    have hvc : v.renewal.cancelled = true := by
      by_cases hx : x = .cancel
      · subst hx
        cases hs
        rfl
      · rw [hs.cancelled_eq hx, hc]
    obtain ⟨htimers, ⟨fs, hf, hfs⟩, hon⟩ := ih (h.step hs) hvc hr
    obtain ⟨⟨es, he, hes⟩, hk⟩ := h.step_of_cancelled hc hs
    refine ⟨htimers, ⟨es ++ fs, by rw [hf, he, List.append_assoc], fun e hm => ?_⟩, fun k hm => ?_⟩
    · exact (List.mem_append.1 hm).elim (hes e) (hfs e)
    · obtain hm | ⟨outcome, rfl⟩ := hk k hm
      · exact (hon k hm).imp_right fun ⟨o, ho⟩ => ⟨o, List.mem_cons_of_mem _ ho⟩
      · exact .inr ⟨outcome, List.mem_cons_self⟩

end Sound

/-- While the owner is closing no action begins. -/
theorem Step.actions_of_closing (hs : t.Step x u) (ho : t.ownerClosing = true) :
    u.actions.Sublist t.actions := by
  cases hs with
  | expire k wake hk hw =>
    rw [actions_fire, ho, Bool.or_true]
    exact .refl _
  | finish k outcome hk =>
    rw [actions_finish]
    exact List.erase_sublist
  | _ => exact .refl _

end Timetable

/-- In every run of a schedule there is one armed timer or one action under way at most, and one of them
exactly unless it was cancelled or a firing found the owner closing; the schedule notes whether a timer is
armed. From a cancellation on no timer is armed and no action begins, and the action under way goes on
until it returns. While the owner is closing no action begins. -/
theorem one_timer_or_action {client : String} {interval : Span} {ownerClosing : Bool}
    {xs : List Occurrence} {t : Timetable}
    (h : (Timetable.new client interval ownerClosing).run xs = some t) :
    t.timers.length + t.actions.length ≤ 1
      ∧ (t.renewal.pending = true ↔ t.timers ≠ [])
      ∧ (.cancel ∉ xs → (∀ e ∈ t.history, e.2.dismisses = false) →
        t.timers.length + t.actions.length = 1)
      ∧ (∀ as bs u, xs = as ++ .cancel :: bs →
        (Timetable.new client interval ownerClosing).run as = some u →
        ∃ v, u.step? .cancel = some v ∧ v.actions = u.actions ∧ v.RunsOut bs t)
      ∧ ∀ as x bs u v, xs = as ++ x :: bs →
        (Timetable.new client interval ownerClosing).run as = some u → u.step? x = some v →
        u.ownerClosing = true → v.actions.Sublist u.actions := by
  have hnew := Timetable.Sound.new client interval ownerClosing
  have hs := hnew.run h
  refine ⟨hs.one, hs.pending, fun hc hd => ?_, fun as bs u hxs hu => ?_,
    fun as x bs u v _ _ hv ho => (Timetable.step_of_step? hv).actions_of_closing ho⟩
  · have hn := Timetable.cancelled_of_run hc h
    exact hs.lives (hn.trans (Renewal.cancelled_start client interval)) hd
  · refine ⟨u.cancel, rfl, rfl, ?_⟩
    rw [hxs, Timetable.run_append, hu] at h
    exact (hnew.run hu).cancel.runsOut rfl h

/-- The action of the second firing is under way when the schedule is cancelled. It fails after a while,
and no timer is left. -/
theorem one_timer_or_action_when_cancelled_in_action :
    ∃ t u, (Timetable.new "7" (.ofMillis 5) false).run [.pass 5, .expire 0, .finish 0 (.ok ()), .pass 5,
        .expire 1] = some u ∧ u.actions = [1]
      ∧ u.run [.cancel, .pass 3, .finish 1 (.error ⟨"no token"⟩)] = some t
      ∧ t.timers.length + t.actions.length ≤ 1 ∧ (t.renewal.pending = true ↔ t.timers ≠ [])
      ∧ ∃ v, u.step? .cancel = some v ∧ v.actions = u.actions
        ∧ v.RunsOut [.pass 3, .finish 1 (.error ⟨"no token"⟩)] t := by
  have hu : ((Timetable.new "7" (.ofMillis 5) false).run [.pass 5, .expire 0, .finish 0 (.ok ()), .pass 5,
      .expire 1]).map (·.actions) = some [1] := by rfl
  obtain ⟨u, hu, ha⟩ := Option.map_eq_some_iff.1 hu
  obtain ⟨t, ht⟩ : ∃ t, u.run [.cancel, .pass 3, .finish 1 (.error ⟨"no token"⟩)] = some t := by
    simp [Timetable.run, Timetable.step?, Timetable.cancel, Timetable.adopt, Timetable.note, ha]
  have hr : (Timetable.new "7" (.ofMillis 5) false).run ([.pass 5, .expire 0, .finish 0 (.ok ()), .pass 5,
      .expire 1] ++ [.cancel, .pass 3, .finish 1 (.error ⟨"no token"⟩)]) = some t := by
    rw [Timetable.run_append, hu]
    exact ht
  obtain ⟨hone, hp, -, hc, -⟩ := one_timer_or_action hr
  exact ⟨t, u, hu, ha, ht, hone, hp, hc _ _ u rfl hu⟩

end PartitionConsumer
