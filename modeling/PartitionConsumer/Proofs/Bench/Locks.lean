import Mathlib.Data.List.Nodup
import PartitionConsumer.Proofs.Bench.Steps
/-!
# Locks of receivers

A delivery reads a receiver's lock from its arrival to its end, a call that clears the handler writes it.
Each holds or waits for the lock under a ticket of its own. So a call that clears a handler has its lock
only when no delivery is inside.
-/
namespace PartitionConsumer

namespace SharedLock

variable {l : SharedLock} {rs ws rs' ws' : Nat → Prop} {id t : Nat}

structure Within (l : SharedLock) (rs ws : Nat → Prop) : Prop where
  readers : ∀ t ∈ l.readers, rs t
  writer : ∀ t, l.writer = some t → ws t
  shared : ∀ t, (t, .shared) ∈ l.waiting → rs t
  exclusive : ∀ t, (t, .exclusive) ∈ l.waiting → ws t

namespace Within

theorem mono (h : l.Within rs ws) (hr : ∀ t, rs t → rs' t) (hw : ∀ t, ws t → ws' t) :
    l.Within rs' ws' where
  readers t ht := hr t (h.readers t ht)
  writer t ht := hw t (h.writer t ht)
  shared t ht := hr t (h.shared t ht)
  exclusive t ht := hw t (h.exclusive t ht)

theorem hold {mode : LockMode} {rest : List (Nat × LockMode)}
    (h : ({ l with waiting := (id, mode) :: rest } : SharedLock).Within rs ws) :
    ({ l.hold id mode with waiting := rest } : SharedLock).Within rs ws := by
  have hs (t : Nat) (ht : (t, .shared) ∈ rest) : rs t := h.shared t (List.mem_cons_of_mem _ ht)
  have he (t : Nat) (ht : (t, .exclusive) ∈ rest) : ws t := h.exclusive t (List.mem_cons_of_mem _ ht)
  cases mode with
  | shared =>
    refine ⟨fun t ht => ?_, h.writer, hs, he⟩
    rcases List.mem_append.1 ht with ht | ht
    · exact h.readers t ht
    · obtain rfl := List.mem_singleton.1 ht
      exact h.shared _ List.mem_cons_self
  | exclusive =>
    refine ⟨h.readers, fun t ht => ?_, hs, he⟩
    obtain rfl := Option.some.inj ht
    exact h.exclusive _ List.mem_cons_self

theorem grant {queue : List (Nat × LockMode)}
    (h : ({ l with waiting := queue } : SharedLock).Within rs ws) : (l.grant queue).Within rs ws :=
  grant_induction (P := fun l queue => ({ l with waiting := queue } : SharedLock).Within rs ws)
    (fun _ _ _ _ _ h => h.hold) (fun _ _ h => h) h

theorem request_shared (h : l.Within rs ws) (hid : rs id) : (l.request id .shared).Within rs ws := by
  refine grant ⟨h.readers, h.writer, fun t ht => ?_, fun t ht => ?_⟩
  · rcases List.mem_append.1 ht with ht | ht
    · exact h.shared t ht
    · obtain rfl := (Prod.mk.inj (List.mem_singleton.1 ht)).1
      exact hid
  · rcases List.mem_append.1 ht with ht | ht
    · exact h.exclusive t ht
    · cases (Prod.mk.inj (List.mem_singleton.1 ht)).2

theorem request_exclusive (h : l.Within rs ws) (hid : ws id) :
    (l.request id .exclusive).Within rs ws := by
  refine grant ⟨h.readers, h.writer, fun t ht => ?_, fun t ht => ?_⟩
  · rcases List.mem_append.1 ht with ht | ht
    · exact h.shared t ht
    · cases (Prod.mk.inj (List.mem_singleton.1 ht)).2
  · rcases List.mem_append.1 ht with ht | ht
    · exact h.exclusive t ht
    · obtain rfl := (Prod.mk.inj (List.mem_singleton.1 ht)).1
      exact hid

/-- Nobody is left under a ticket that was given up. -/
theorem release (h : l.Within rs ws) (id : Nat) :
    (l.release id).Within (fun t => rs t ∧ t ≠ id) (fun t => ws t ∧ t ≠ id) := by
  refine grant ⟨fun t ht => ?_, fun t ht => ?_, fun t ht => ?_, fun t ht => ?_⟩
  · obtain ⟨ht, hn⟩ := List.mem_filter.1 ht
    exact ⟨h.readers t ht, by simpa using hn⟩
  · dsimp only at ht
    split at ht
    · cases ht
    · rename_i hn
      refine ⟨h.writer t ht, ?_⟩
      rintro rfl
      exact hn ht
  · obtain ⟨ht, hn⟩ := List.mem_filter.1 ht
    exact ⟨h.shared t ht, by simpa using hn⟩
  · obtain ⟨ht, hn⟩ := List.mem_filter.1 ht
    exact ⟨h.exclusive t ht, by simpa using hn⟩

end Within

/-! A reader reads until it gives the lock up. -/

theorem mem_readers_hold {mode : LockMode} (h : t ∈ l.readers) : t ∈ (l.hold id mode).readers := by
  cases mode with
  | shared => exact List.mem_append_left _ h
  | exclusive => exact h

theorem mem_readers_grant (h : t ∈ l.readers) (queue : List (Nat × LockMode)) :
    t ∈ (l.grant queue).readers :=
  grant_induction (P := fun l _ => t ∈ l.readers) (fun _ _ _ _ _ h => mem_readers_hold h) (fun _ _ h => h) h

theorem mem_readers_request (h : t ∈ l.readers) (id : Nat) (mode : LockMode) :
    t ∈ (l.request id mode).readers := mem_readers_grant h _

theorem mem_readers_release (h : t ∈ l.readers) (hn : t ≠ id) : t ∈ (l.release id).readers :=
  mem_readers_grant (List.mem_filter.2 ⟨h, by simpa using hn⟩) _

end SharedLock

/-! ## The locks of a transport -/

namespace Transport

def lock? (t : Transport) (r : Nat) : Option SharedLock := t.receivers[r]?.map (·.lock)

variable (t : Transport) (r s : Nat)

theorem lock?_modifyReceiver {f : Receiver → Receiver} {g : SharedLock → SharedLock}
    (hf : ∀ y, (f y).lock = g y.lock) :
    (t.modifyReceiver r f).lock? s = if r = s then (t.lock? s).map g else t.lock? s := by
  unfold lock? modifyReceiver
  rw [Array.getElem?_modify]
  split
  · cases t.receivers[s]? with
    | none => rfl
    | some y => exact congrArg some (hf y)
  · rfl

theorem lock?_modifyReceiver_of_eq {f : Receiver → Receiver} (hf : ∀ y, (f y).lock = y.lock) :
    (t.modifyReceiver r f).lock? s = t.lock? s := by
  rw [lock?_modifyReceiver t r s (g := id) hf, Option.map_id]
  split <;> rfl

/-- What the pump does to the transport leaves the locks alone. -/
theorem lock?_perform (o : Options) (e : Effect) : (perform o t e).lock? s = t.lock? s := by
  cases e with
  | ask q =>
    cases q with
    | clearHandler r => exact t.lock?_modifyReceiver_of_eq r s fun _ => rfl
    | closeReceiver r =>
      dsimp only [perform, closeReceiver]
      cases hr : t.receivers[r]? with
      | none => rfl
      | some y =>
        unfold lock? modifyReceiver
        rw [Array.getElem?_modify]
        split
        · rename_i hs
          rw [← hs, hr]
          rfl
        · rfl
    | closeClient c =>
      dsimp only [perform, closeClient]
      cases t.clients[c]? <;> rfl
    | _ => rfl
  | tune r prefetch timeout => exact t.lock?_modifyReceiver_of_eq r s fun _ => rfl
  | install r => exact t.lock?_modifyReceiver_of_eq r s fun _ => rfl
  | _ => rfl

theorem lock?_foldl (o : Options) (es : List Effect) :
    (es.foldl (perform o) t).lock? s = t.lock? s := by
  induction es generalizing t with
  | nil => rfl
  | cons e es ih => exact (ih _).trans (t.lock?_perform s o e)

/-- Nobody holds the lock of a receiver that is new. -/
theorem lock?_addReceiver (epoch : Nat) {l : SharedLock} (h : (t.addReceiver epoch).2.lock? s = some l) :
    t.lock? s = some l ∨ l = {} := by
  unfold lock? addReceiver at h
  rw [Array.getElem?_push] at h
  split at h
  · exact .inr (Option.some.inj h).symm
  · exact .inl h

theorem lock?_addReceiver_of_some (epoch : Nat) {l : SharedLock} (h : t.lock? s = some l) :
    (t.addReceiver epoch).2.lock? s = some l := by
  unfold lock? addReceiver at *
  rw [Array.getElem?_push]
  split
  · rename_i hs
    simp [hs] at h
  · exact h

end Transport

namespace Bench

def visitsOn (vs : List Visit) (r t : Nat) : Prop := ∃ v ∈ vs, v.receiver = r ∧ v.ticket = t

def drainsOn (ds : List Drain) (r t : Nat) : Prop := ∃ d ∈ ds, d.receiver = r ∧ d.ticket = t

structure Locks (lock? : Nat → Option SharedLock) (vs : List Visit) (ds : List Drain) (next : Nat) :
    Prop where
  visits : (vs.map (·.ticket)).Nodup
  drains : (ds.map (·.ticket)).Nodup
  calls : (ds.map (·.call)).Nodup
  apart : ∀ v ∈ vs, ∀ d ∈ ds, v.ticket ≠ d.ticket
  freshVisits : ∀ v ∈ vs, v.ticket < next
  freshDrains : ∀ d ∈ ds, d.ticket < next
  exclusive : ∀ r l, lock? r = some l → l.Exclusive
  within : ∀ r l, lock? r = some l → l.Within (visitsOn vs r) (drainsOn ds r)

namespace Locks

variable {lock? lock?' : Nat → Option SharedLock} {vs : List Visit} {ds : List Drain} {next : Nat}

/-- What holds of all locks but one, and of that one when it has changed, holds of all locks afterwards. -/
theorem forall_changed {P : Nat → SharedLock → Prop} {r : Nat} {f : SharedLock → SharedLock}
    (hl : ∀ s, lock?' s = if r = s then (lock? s).map f else lock? s)
    (hchanged : ∀ l, lock? r = some l → P r (f l))
    (hother : ∀ s l, r ≠ s → lock? s = some l → P s l) (s : Nat) (l : SharedLock)
    (he : lock?' s = some l) : P s l := by
  rw [hl] at he
  split at he
  · rename_i hr
    obtain rfl := hr
    obtain ⟨k, hk, rfl⟩ := Option.map_eq_some_iff.1 he
    exact hchanged k hk
  · rename_i hr
    exact hother s l hr he

theorem congr (h : Locks lock? vs ds next) (hl : ∀ r l, lock?' r = some l → lock? r = some l ∨ l = {}) :
    Locks lock?' vs ds next :=
  { h with
    exclusive := fun r l he => by
      obtain he | rfl := hl r l he
      · exact h.exclusive r l he
      · intro hw
        cases hw
    within := fun r l he => by
      obtain he | rfl := hl r l he
      · exact h.within r l he
      · exact ⟨nofun, nofun, nofun, nofun⟩ }

/-- A delivery arrives. -/
theorem arrive (h : Locks lock? vs ds next) (r : Nat) (parcel : Parcel)
    (hl : ∀ s, lock?' s = if r = s then (lock? s).map (·.request next .shared) else lock? s) :
    Locks lock?' (⟨next, r, parcel, none⟩ :: vs) ds (next + 1) := by
  have hn (s t : Nat) (ht : visitsOn vs s t) : visitsOn (⟨next, r, parcel, none⟩ :: vs) s t := by
    obtain ⟨v, hv, he⟩ := ht
    exact ⟨v, List.mem_cons_of_mem _ hv, he⟩
  refine ⟨?_, h.drains, h.calls, ?_, ?_, ?_, forall_changed hl ?_ ?_, forall_changed hl ?_ ?_⟩
  · refine List.nodup_cons.2 ⟨fun hm => ?_, h.visits⟩
    obtain ⟨v, hv, he⟩ := List.mem_map.1 hm
    exact Nat.ne_of_lt (h.freshVisits v hv) he
  · rintro v hv d hd
    rcases List.mem_cons.1 hv with rfl | hv
    · exact (Nat.ne_of_lt (h.freshDrains d hd)).symm
    · exact h.apart v hv d hd
  · rintro v hv
    rcases List.mem_cons.1 hv with rfl | hv
    · exact Nat.lt_succ_self _
    · exact Nat.lt_succ_of_lt (h.freshVisits v hv)
  · exact fun d hd => Nat.lt_succ_of_lt (h.freshDrains d hd)
  · exact fun l he => SharedLock.exclusive_request (h.exclusive r l he) _ _
  · exact fun s l _ he => h.exclusive s l he
  · exact fun l he => ((h.within r l he).mono (hn r) fun t ht => ht).request_shared
      ⟨_, List.mem_cons_self, rfl, rfl⟩
  · exact fun s l _ he => (h.within s l he).mono (hn s) fun t ht => ht

/-- A call that clears a handler has passed the gate. -/
theorem pass (h : Locks lock? vs ds next) (id r : Nat) (hd : ∀ d ∈ ds, d.call ≠ id)
    (hl : ∀ s, lock?' s = if r = s then (lock? s).map (·.request next .exclusive) else lock? s) :
    Locks lock?' vs (⟨id, r, next⟩ :: ds) (next + 1) := by
  have hn (s t : Nat) (ht : drainsOn ds s t) : drainsOn (⟨id, r, next⟩ :: ds) s t := by
    obtain ⟨d, hd, he⟩ := ht
    exact ⟨d, List.mem_cons_of_mem _ hd, he⟩
  refine ⟨h.visits, ?_, ?_, ?_, ?_, ?_, forall_changed hl ?_ ?_, forall_changed hl ?_ ?_⟩
  · refine List.nodup_cons.2 ⟨fun hm => ?_, h.drains⟩
    obtain ⟨d, hd, he⟩ := List.mem_map.1 hm
    exact Nat.ne_of_lt (h.freshDrains d hd) he
  · refine List.nodup_cons.2 ⟨fun hm => ?_, h.calls⟩
    obtain ⟨d, hd', he⟩ := List.mem_map.1 hm
    exact hd d hd' he
  · rintro v hv d hd
    rcases List.mem_cons.1 hd with rfl | hd
    · exact Nat.ne_of_lt (h.freshVisits v hv)
    · exact h.apart v hv d hd
  · exact fun v hv => Nat.lt_succ_of_lt (h.freshVisits v hv)
  · rintro d hd
    rcases List.mem_cons.1 hd with rfl | hd
    · exact Nat.lt_succ_self _
    · exact Nat.lt_succ_of_lt (h.freshDrains d hd)
  · exact fun l he => SharedLock.exclusive_request (h.exclusive r l he) _ _
  · exact fun s l _ he => h.exclusive s l he
  · exact fun l he => ((h.within r l he).mono (fun t ht => ht) (hn r)).request_exclusive
      ⟨_, List.mem_cons_self, rfl, rfl⟩
  · exact fun s l _ he => (h.within s l he).mono (fun t ht => ht) (hn s)

/-- A delivery gives its share up. -/
theorem depart (h : Locks lock? vs ds next) {v : Visit} (hv : v ∈ vs)
    (hl : ∀ s, lock?' s = if v.receiver = s then (lock? s).map (·.release v.ticket) else lock? s) :
    Locks lock?' (vs.filter (·.ticket != v.ticket)) ds next := by
  have hsub : (vs.filter (·.ticket != v.ticket)).Sublist vs := List.filter_sublist
  have hn {s t : Nat} (ht : visitsOn vs s t) (hne : t ≠ v.ticket) :
      visitsOn (vs.filter (·.ticket != v.ticket)) s t := by
    obtain ⟨u, hu, hr, rfl⟩ := ht
    exact ⟨u, List.mem_filter.2 ⟨hu, by simpa using hne⟩, hr, rfl⟩
  refine ⟨h.visits.sublist (hsub.map _), h.drains, h.calls, ?_, ?_, h.freshDrains,
    forall_changed hl ?_ ?_, forall_changed hl ?_ ?_⟩
  · exact fun u hu d hd => h.apart u (hsub.subset hu) d hd
  · exact fun u hu => h.freshVisits u (hsub.subset hu)
  · exact fun l he => SharedLock.exclusive_release (h.exclusive _ l he) _
  · exact fun s l _ he => h.exclusive s l he
  · exact fun l he =>
      ((h.within _ l he).release v.ticket).mono (fun t ht => hn ht.1 ht.2) fun t ht => ht.1
  · intro s l hr he
    -- a delivery on another receiver has another ticket
    refine (h.within s l he).mono (fun t ht => hn ht ?_) fun t ht => ht
    rintro rfl
    obtain ⟨u, hu, hur, hut⟩ := ht
    obtain rfl := List.inj_on_of_nodup_map h.visits hu hv hut
    exact hr hur

/-- A call that clears a handler has done so. -/
theorem drain (h : Locks lock? vs ds next) {d : Drain} (hd : d ∈ ds)
    (hl : ∀ s, lock?' s = if d.receiver = s then (lock? s).map (·.release d.ticket) else lock? s) :
    Locks lock?' vs (ds.filter (·.call != d.call)) next := by
  have hsub : (ds.filter (·.call != d.call)).Sublist ds := List.filter_sublist
  have hn {s t : Nat} (ht : drainsOn ds s t) (hne : t ≠ d.ticket) :
      drainsOn (ds.filter (·.call != d.call)) s t := by
    obtain ⟨e, he, hr, rfl⟩ := ht
    refine ⟨e, List.mem_filter.2 ⟨he, ?_⟩, hr, rfl⟩
    rw [bne_iff_ne]
    intro hc
    exact hne (congrArg Drain.ticket (List.inj_on_of_nodup_map h.calls he hd hc))
  refine ⟨h.visits, h.drains.sublist (hsub.map _), h.calls.sublist (hsub.map _), ?_, h.freshVisits, ?_,
    forall_changed hl ?_ ?_, forall_changed hl ?_ ?_⟩
  · exact fun v hv e he => h.apart v hv e (hsub.subset he)
  · exact fun e he => h.freshDrains e (hsub.subset he)
  · exact fun l he => SharedLock.exclusive_release (h.exclusive _ l he) _
  · exact fun s l _ he => h.exclusive s l he
  · exact fun l he =>
      ((h.within _ l he).release d.ticket).mono (fun t ht => ht.1) fun t ht => hn ht.1 ht.2
  · intro s l hr he
    -- a call on another receiver has another ticket
    refine (h.within s l he).mono (fun t ht => ht) fun t ht => hn ht ?_
    rintro rfl
    obtain ⟨e, he', her, het⟩ := ht
    obtain rfl := List.inj_on_of_nodup_map h.drains he' hd het
    exact hr her

/-- A delivery has made its call. -/
theorem handIn (h : Locks lock? vs ds next) {v : Visit} (hv : v ∈ vs) (id : Nat) :
    Locks lock? ({ v with call := some id } :: vs.filter (·.ticket != v.ticket)) ds next := by
  have hsub : (vs.filter (·.ticket != v.ticket)).Sublist vs := List.filter_sublist
  refine ⟨?_, h.drains, h.calls, ?_, ?_, h.freshDrains, h.exclusive, fun s l he => ?_⟩
  · refine List.nodup_cons.2 ⟨fun hm => ?_, h.visits.sublist (hsub.map _)⟩
    obtain ⟨u, hu, he⟩ := List.mem_map.1 hm
    simpa [he] using (List.mem_filter.1 hu).2
  · rintro u hu d hd
    rcases List.mem_cons.1 hu with rfl | hu
    · exact h.apart v hv d hd
    · exact h.apart u (hsub.subset hu) d hd
  · rintro u hu
    rcases List.mem_cons.1 hu with rfl | hu
    · exact h.freshVisits v hv
    · exact h.freshVisits u (hsub.subset hu)
  · refine (h.within s l he).mono (fun t ht => ?_) fun t ht => ht
    obtain ⟨u, hu, hur, rfl⟩ := ht
    by_cases hut : u.ticket = v.ticket
    · obtain rfl := List.inj_on_of_nodup_map h.visits hu hv hut
      exact ⟨_, List.mem_cons_self, hur, rfl⟩
    · exact ⟨u, List.mem_cons_of_mem _ (List.mem_filter.2 ⟨hu, by simpa using hut⟩), hur, rfl⟩

end Locks
end Bench
end PartitionConsumer
