import PartitionConsumer.Proofs.Standstill.Grants
/-!
# Precedence

Tickets grow in the order in which a lock is asked for, and it is granted in that order. So a reader waits
for nobody but the writers that have asked before it, and a writer for all that have asked before it.
-/
namespace PartitionConsumer
namespace SharedLock

variable {l : SharedLock} {t k id : Nat} {mode : LockMode} {v : Nat × LockMode}
  {queue rest : List (Nat × LockMode)} {rs ws rs' ws' : Nat → Prop}

def Reads (l : SharedLock) (t : Nat) : Prop := t ∈ l.readers ∨ (t, .shared) ∈ l.waiting

theorem reads_grant (h : t ∈ l.readers ∨ (t, .shared) ∈ queue) : (l.grant queue).Reads t := by
  refine grant_induction (P := fun l queue => t ∈ l.readers ∨ (t, LockMode.shared) ∈ queue)
    (fun l id mode rest _ h => ?_) (fun _ _ h => h) h
  obtain hr | hm := h
  · exact .inl (mem_readers_hold hr)
  · obtain hm | hm := List.mem_cons.1 hm
    · obtain ⟨rfl, rfl⟩ := Prod.mk.inj hm
      exact .inl (List.mem_append_right _ (List.mem_singleton_self _))
    · exact .inr hm

theorem Reads.request (h : l.Reads t) (id : Nat) (mode : LockMode) : (l.request id mode).Reads t :=
  reads_grant (h.imp_right (List.mem_append_left _))

theorem reads_request (l : SharedLock) (id : Nat) : (l.request id .shared).Reads id :=
  reads_grant (.inr (List.mem_append_right _ (List.mem_singleton_self _)))

theorem Reads.release (h : l.Reads t) (hn : t ≠ id) : (l.release id).Reads t := by
  have hb : (t != id) = true := by simpa using hn
  exact reads_grant (h.imp (fun hr => List.mem_filter.2 ⟨hr, hb⟩) fun hm => List.mem_filter.2 ⟨hm, hb⟩)

/-! ## Who comes first -/

/-- Those in the queue have asked one after another, and after everyone who holds the lock. -/
structure InTurn (l : SharedLock) (queue : List (Nat × LockMode)) : Prop where
  ascending : queue.Pairwise fun v w => v.1 < w.1
  readers : ∀ t ∈ l.readers, ∀ w ∈ queue, t < w.1
  writer : ∀ t, l.writer = some t → ∀ w ∈ queue, t < w.1

namespace InTurn

theorem hold (h : l.InTurn ((id, mode) :: rest)) : (l.hold id mode).InTurn rest := by
  obtain ⟨hid, hrest⟩ := List.pairwise_cons.1 h.ascending
  have hr (t : Nat) (ht : t ∈ l.readers) (w) (hw : w ∈ rest) : t < w.1 :=
    h.readers t ht w (List.mem_cons_of_mem _ hw)
  have hx (t : Nat) (ht : l.writer = some t) (w) (hw : w ∈ rest) : t < w.1 :=
    h.writer t ht w (List.mem_cons_of_mem _ hw)
  cases mode with
  | shared =>
    refine ⟨hrest, fun t ht => ?_, hx⟩
    obtain ht | ht := List.mem_append.1 ht
    · exact hr t ht
    · obtain rfl := List.mem_singleton.1 ht
      exact hid
  | exclusive =>
    refine ⟨hrest, hr, fun t ht => ?_⟩
    obtain rfl := Option.some.inj ht
    exact hid

theorem grant (h : l.InTurn queue) : (l.grant queue).InTurn (l.grant queue).waiting :=
  grant_induction (P := InTurn) (fun _ _ _ _ _ h => h.hold) (fun _ _ h => ⟨h.ascending, h.readers, h.writer⟩) h

/-- Whoever asks now has a greater ticket than all others. -/
theorem request (h : l.InTurn l.waiting) (hl : l.Within (· < id) (· < id)) (mode : LockMode) :
    (l.request id mode).InTurn (l.request id mode).waiting := by
  refine grant ⟨List.pairwise_append.2 ⟨h.ascending, List.pairwise_singleton .., ?_⟩, ?_, ?_⟩
  · intro v hv w hw
    rw [List.mem_singleton.1 hw]
    obtain ⟨t, mode⟩ := v
    cases mode with
    | shared => exact hl.shared t hv
    | exclusive => exact hl.exclusive t hv
  · intro t ht w hw
    obtain hw | hw := List.mem_append.1 hw
    · exact h.readers t ht w hw
    · rw [List.mem_singleton.1 hw]
      exact hl.readers t ht
  · intro t ht w hw
    obtain hw | hw := List.mem_append.1 hw
    · exact h.writer t ht w hw
    · rw [List.mem_singleton.1 hw]
      exact hl.writer t ht

theorem release (h : l.InTurn l.waiting) (id : Nat) :
    (l.release id).InTurn (l.release id).waiting := by
  refine grant ⟨h.ascending.filter _, fun t ht w hw => ?_, fun t ht w hw => ?_⟩
  · exact h.readers t (List.mem_filter.1 ht).1 w (List.mem_filter.1 hw).1
  · dsimp only at ht
    split at ht
    · cases ht
    · exact h.writer t ht w (List.mem_filter.1 hw).1

/-- Nobody who waits has asked before the one in front. -/
theorem front_le (h : l.InTurn (v :: rest)) {w : Nat × LockMode} (hw : w ∈ v :: rest) :
    w = v ∨ v.1 < w.1 :=
  (List.mem_cons.1 hw).imp_right ((List.pairwise_cons.1 h.ascending).1 w)

end InTurn

/-! ## Readers and writers -/

structure Orderly (l : SharedLock) (rs ws : Nat → Prop) : Prop where
  exclusive : l.Exclusive
  tight : l.Tight
  inTurn : l.InTurn l.waiting
  within : l.Within rs ws
  reads : ∀ t, rs t → l.Reads t
  writes : ∀ t, ws t → l.Writes t
  apart : ∀ t, rs t → ¬ ws t

namespace Orderly

theorem new : ({} : SharedLock).Orderly (fun _ => False) (fun _ => False) where
  exclusive := nofun
  tight := nofun
  inTurn := ⟨.nil, nofun, nofun⟩
  within := ⟨nofun, nofun, nofun, nofun⟩
  reads := nofun
  writes := nofun
  apart := nofun

theorem congr (h : l.Orderly rs ws) (hr : ∀ t, rs' t ↔ rs t) (hw : ∀ t, ws' t ↔ ws t) :
    l.Orderly rs' ws' where
  exclusive := h.exclusive
  tight := h.tight
  inTurn := h.inTurn
  within := h.within.mono (fun t => (hr t).2) fun t => (hw t).2
  reads t ht := h.reads t ((hr t).1 ht)
  writes t ht := h.writes t ((hw t).1 ht)
  apart t ht hx := h.apart t ((hr t).1 ht) ((hw t).1 hx)

theorem request_shared (h : l.Orderly rs ws) (hr : ∀ t, rs t → t < id) (hw : ∀ t, ws t → t < id) :
    (l.request id .shared).Orderly (fun t => rs t ∨ t = id) ws where
  exclusive := exclusive_request h.exclusive _ _
  tight := tight_grant _ _
  inTurn := h.inTurn.request (h.within.mono hr hw) _
  within := (h.within.mono (fun _ => .inl) fun _ ht => ht).request_shared (.inr rfl)
  reads t ht := by
    obtain ht | rfl := ht
    · exact (h.reads t ht).request ..
    · exact reads_request ..
  writes t ht := (h.writes t ht).request ..
  apart t ht hx := by
    obtain ht | rfl := ht
    · exact h.apart t ht hx
    · exact Nat.lt_irrefl _ (hw _ hx)

theorem request_exclusive (h : l.Orderly rs ws) (hr : ∀ t, rs t → t < id) (hw : ∀ t, ws t → t < id) :
    (l.request id .exclusive).Orderly rs (fun t => ws t ∨ t = id) where
  exclusive := exclusive_request h.exclusive _ _
  tight := tight_grant _ _
  inTurn := h.inTurn.request (h.within.mono hr hw) _
  within := (h.within.mono (fun _ ht => ht) fun _ => .inl).request_exclusive (.inr rfl)
  reads t ht := (h.reads t ht).request ..
  writes t ht := by
    obtain ht | rfl := ht
    · exact (h.writes t ht).request ..
    · exact writes_request ..
  apart t ht hx := by
    obtain hx | rfl := hx
    · exact h.apart t ht hx
    · exact Nat.lt_irrefl _ (hr _ ht)

theorem release (h : l.Orderly rs ws) (id : Nat) :
    (l.release id).Orderly (fun t => rs t ∧ t ≠ id) (fun t => ws t ∧ t ≠ id) where
  exclusive := exclusive_release h.exclusive _
  tight := tight_grant _ _
  inTurn := h.inTurn.release id
  within := h.within.release id
  reads t ht := (h.reads t ht.1).release ht.2
  writes t ht := (h.writes t ht.1).release ht.2
  apart t ht hx := h.apart t ht.1 hx.1

/-- A reader has the lock exactly if every writer has asked after it. -/
theorem mem_readers_iff (h : l.Orderly rs ws) (ht : rs t) : t ∈ l.readers ↔ ∀ k, ws k → t < k := by
  constructor
  · intro hr k hk
    obtain hw | hw := h.writes k hk
    · rw [h.exclusive (hw ▸ rfl)] at hr
      cases hr
    · exact h.inTurn.readers t hr _ hw
  · intro hk
    -- whoever blocks the front of the queue, or stands there as a writer, has asked before it
    refine (h.reads t ht).resolve_right fun hw => ?_
    obtain ⟨⟨f, mode⟩, rest, hl⟩ := List.exists_cons_of_ne_nil (List.ne_nil_of_mem hw)
    have hfront := h.inTurn
    rw [hl] at hw hfront
    have hf := hfront.front_le hw
    cases hx : l.writer with
    | some k =>
      have hkt := hk k (h.within.writer k hx)
      have htk := hfront.writer k hx _ hw
      dsimp only at htk
      omega
    | none =>
      cases mode with
      | shared =>
        have ha := h.tight f .shared rest hl
        simp [admits, hx] at ha
      | exclusive =>
        have hft := hk f (h.within.exclusive f (hl ▸ List.mem_cons_self))
        obtain hf | hf := hf
        · cases (Prod.mk.inj hf).2
        · dsimp only at hf
          omega

/-- A writer has the lock exactly if all others have asked after it. -/
theorem writer_eq_some_iff (h : l.Orderly rs ws) (hk : ws k) :
    l.writer = some k ↔ (∀ t, rs t → k < t) ∧ ∀ j, ws j → k ≤ j := by
  constructor
  · intro hx
    refine ⟨fun t ht => ?_, fun j hj => ?_⟩
    · obtain hr | hr := h.reads t ht
      · rw [h.exclusive (hx ▸ rfl)] at hr
        cases hr
      · exact h.inTurn.writer k hx _ hr
    · obtain hw | hw := h.writes j hj
      · exact Nat.le_of_eq (Option.some.inj (hx.symm.trans hw))
      · exact Nat.le_of_lt (h.inTurn.writer k hx _ hw)
  · intro ⟨hr, hx⟩
    refine (h.writes k hk).resolve_right fun hw => ?_
    obtain ⟨⟨f, mode⟩, rest, hl⟩ := List.exists_cons_of_ne_nil (List.ne_nil_of_mem hw)
    have hfront := h.inTurn
    rw [hl] at hw hfront
    have hmem : (f, mode) ∈ l.waiting := hl ▸ List.mem_cons_self
    obtain hf | hf := hfront.front_le hw
    · obtain ⟨rfl, rfl⟩ := Prod.mk.inj hf
      -- the writer is in front, so somebody holds the lock, and has asked before it
      obtain ⟨j, hj⟩ | ⟨t, ht⟩ := h.tight.held (List.ne_nil_of_mem hmem)
      · have hkj := hx j (h.within.writer j hj)
        have hjk := h.inTurn.writer j hj _ hmem
        dsimp only at hjk
        omega
      · have hkt := hr t (h.within.readers t ht)
        have htk := h.inTurn.readers t ht _ hmem
        dsimp only at htk
        omega
    · dsimp only at hf
      cases mode with
      | shared =>
        have := hr f (h.within.shared f hmem)
        omega
      | exclusive =>
        have := hx f (h.within.exclusive f hmem)
        omega

theorem isHeldBy_reader_iff (h : l.Orderly rs ws) (ht : rs t) :
    l.isHeldBy t = true ↔ ∀ k, ws k → t < k := by
  rw [← h.mem_readers_iff ht, isHeldBy, Bool.or_eq_true, List.contains_iff_mem, beq_iff_eq]
  exact or_iff_left fun hx => h.apart t ht (h.within.writer t hx)

theorem isHeldBy_writer_iff (h : l.Orderly rs ws) (hk : ws k) :
    l.isHeldBy k = true ↔ (∀ t, rs t → k < t) ∧ ∀ j, ws j → k ≤ j := by
  rw [← h.writer_eq_some_iff hk, isHeldBy, Bool.or_eq_true, List.contains_iff_mem, beq_iff_eq]
  exact or_iff_right fun hr => h.apart k (h.within.readers k hr) hk

end Orderly
end SharedLock
end PartitionConsumer
