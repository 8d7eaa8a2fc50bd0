import PartitionConsumer.Proofs.Bench.Guards
import PartitionConsumer.Proofs.Released
/-!
# Grants

A lock that is free to go on does not keep anybody waiting, and a call that clears a handler holds the
lock or waits for it from the gate on. So whoever waits for a lock waits for somebody who holds it.
-/
namespace PartitionConsumer

namespace SharedLock

variable {l : SharedLock} {t id : Nat} {mode : LockMode} {queue : List (Nat × LockMode)}

def Tight (l : SharedLock) : Prop :=
  ∀ t mode rest, l.waiting = (t, mode) :: rest → l.admits mode = false

theorem tight_grant (l : SharedLock) (queue : List (Nat × LockMode)) : (l.grant queue).Tight := by
  induction queue generalizing l with
  | nil => exact nofun
  | cons w rest ih =>
    obtain ⟨id, mode⟩ := w
    unfold grant
    split
    · exact ih _
    · rename_i ha
      intro t mode' rest' he
      obtain ⟨rfl, rfl⟩ := Prod.mk.inj (List.cons.inj he).1
      exact Bool.not_eq_true _ ▸ ha

/-- While somebody waits, somebody holds the lock. -/
theorem Tight.held (h : l.Tight) (hw : l.waiting ≠ []) : (∃ t, l.writer = some t) ∨ ∃ t, t ∈ l.readers := by
  obtain ⟨⟨t, mode⟩, rest, hl⟩ := List.exists_cons_of_ne_nil hw
  have ha := h t mode rest hl
  cases hx : l.writer with
  | some u => exact .inl ⟨u, rfl⟩
  | none =>
    cases mode with
    | shared => simp [admits, hx] at ha
    | exclusive =>
      refine .inr (List.exists_mem_of_ne_nil _ fun hr => ?_)
      simp [admits, hx, hr] at ha

def Writes (l : SharedLock) (t : Nat) : Prop := l.writer = some t ∨ (t, .exclusive) ∈ l.waiting

theorem writes_grant (h : l.writer = some t ∨ (t, .exclusive) ∈ queue) : (l.grant queue).Writes t := by
  refine grant_induction (P := fun l queue => l.writer = some t ∨ (t, LockMode.exclusive) ∈ queue)
    (fun l id mode rest ha h => ?_) (fun _ _ h => h) h
  obtain hw | hm := h
  · -- a lock that somebody writes is granted to nobody
    cases mode <;> simp [admits, hw] at ha
  · obtain hm | hm := List.mem_cons.1 hm
    · obtain ⟨rfl, rfl⟩ := Prod.mk.inj hm
      exact .inl rfl
    · exact .inr hm

theorem Writes.request (h : l.Writes t) (id : Nat) (mode : LockMode) : (l.request id mode).Writes t :=
  writes_grant (h.imp_right (List.mem_append_left _))

theorem writes_request (l : SharedLock) (id : Nat) : (l.request id .exclusive).Writes id :=
  writes_grant (.inr (List.mem_append_right _ (List.mem_singleton_self _)))

theorem Writes.release (h : l.Writes t) (hn : t ≠ id) : (l.release id).Writes t := by
  refine writes_grant (h.imp (fun hw => ?_) fun hm => ?_)
  · simp [hw, hn]
  · exact List.mem_filter.2 ⟨hm, by simpa using hn⟩

end SharedLock

namespace Bench

variable {b b' : Bench} {c : Cause} {x : Stimulus}

/-- Nobody waits for a lock that is free to go on, and every call that has passed the gate writes its
lock or waits for it. -/
structure Granted (b : Bench) : Prop where
  tight : ∀ r l, b.transport.lock? r = some l → l.Tight
  writes : ∀ d ∈ b.drains, ∃ l, b.transport.lock? d.receiver = some l ∧ l.Writes d.ticket

namespace Granted

theorem new (p : Pump) : (Bench.new p).Granted where
  tight r l h := by
    have hr : (Bench.new p).transport.receivers[r]? = none := rfl
    rw [Transport.lock?, hr] at h
    cases h
  writes := nofun

/-- The locks and the calls that drain stay as they are. -/
theorem congr (h : b.Granted) (hl : ∀ r, b'.transport.lock? r = b.transport.lock? r)
    (hd : b'.drains = b.drains) : b'.Granted where
  tight r l he := h.tight r l ((hl r).symm.trans he)
  writes d hm := by
    rw [hl]
    exact h.writes d (hd ▸ hm)

theorem follows (h : b.Granted) (hf : b.Follows c b') : b'.Granted := by
  refine h.congr (fun r => ?_) hf.drains
  rw [hf.transport]
  exact Transport.lock?_foldl ..

/-- One lock goes on to another state, and what still drains writes its own. -/
theorem modify (h : b.Granted) {r next : Nat} {f : Receiver → Receiver} {g : SharedLock → SharedLock}
    {vs : List Visit} {ds : List Drain} (hf : ∀ y, (f y).lock = g y.lock)
    (hg : ∀ l : SharedLock, (g l).Tight)
    (hd : ∀ d ∈ ds, (d ∈ b.drains ∧ ∀ l : SharedLock, l.Writes d.ticket → (g l).Writes d.ticket)
      ∨ d.receiver = r ∧ r < b.transport.receivers.size ∧ ∀ l : SharedLock, (g l).Writes d.ticket) :
    Granted { b.modify r f with visits := vs, drains := ds, next } := by
  have hl (s : Nat) : (b.modify r f).transport.lock? s
      = if r = s then (b.transport.lock? s).map g else b.transport.lock? s :=
    b.transport.lock?_modifyReceiver r s hf
  refine ⟨fun s l he => ?_, fun d hm => ?_⟩
  · have he := (hl s).symm.trans he
    split at he
    · obtain ⟨k, -, rfl⟩ := Option.map_eq_some_iff.1 he
      exact hg k
    · exact h.tight s l he
  · have he := hl d.receiver
    obtain ⟨hm, hw⟩ | ⟨hr, hs, hw⟩ := hd d hm
    · obtain ⟨l, hk, ht⟩ := h.writes d hm
      rw [hk] at he
      split at he
      · exact ⟨g l, he, hw l ht⟩
      · exact ⟨l, he, ht⟩
    · obtain ⟨l, hk⟩ : ∃ l, b.transport.lock? r = some l := by
        unfold Transport.lock?
        rw [Array.getElem?_eq_getElem hs]
        exact ⟨_, rfl⟩
      rw [hr, if_pos rfl, hk] at he
      rw [hr]
      exact ⟨g l, he, hw l⟩

theorem depart (h : b.Granted) (hk : Locks b.transport.lock? b.visits b.drains b.next) {v : Visit}
    (hv : v ∈ b.visits) : (b.depart v).Granted :=
  h.modify (g := (·.release v.ticket)) (fun _ => rfl) (fun _ => SharedLock.tight_grant _ _)
    fun d hd => .inl ⟨hd, fun _ hl => hl.release (hk.apart v hv d hd).symm⟩

/-- If every receiver that a call clears the handler of was made, the grants are kept by every step. -/
theorem step (h : b.Granted) (hg : b.Guarded)
    (hr : ∀ id r, b.request? id = some (.clearHandler r) → r < b.transport.receivers.size)
    (hs : b.Step x b') : b'.Granted := by
  cases hs with
  | own c hc hf => exact h.follows hf
  | noClient id e hr hf => exact h.follows hf
  | client id hr hf =>
    have hm : Granted { b with transport := b.transport.addClient.2 } := h.congr (fun _ => rfl) rfl
    exact hm.follows hf
  | noReceiver id client request e hr hf => exact h.follows hf
  | receiver id client request hq hf =>
    have hm : Granted { b with transport := (b.transport.addReceiver request.epoch).2 } := by
      refine ⟨fun r l hl => ?_, fun d hd => ?_⟩
      · obtain hl | rfl := b.transport.lock?_addReceiver r _ hl
        · exact h.tight r l hl
        · exact nofun
      · obtain ⟨l, hl, hw⟩ := h.writes d hd
        exact ⟨l, b.transport.lock?_addReceiver_of_some _ _ hl, hw⟩
    exact hm.follows hf
  | close id error hr hf => exact h.follows hf
  | pass id r hq hd =>
    refine h.modify (g := (·.request b.next .exclusive)) (fun _ => rfl)
      (fun l => SharedLock.tight_grant _ _) fun d hm => ?_
    obtain rfl | hm := List.mem_cons.1 hm
    · exact .inr ⟨rfl, hr id r hq, fun l => l.writes_request b.next⟩
    · exact .inl ⟨hm, fun l hl => hl.request ..⟩
  | drain error d hd hl hf =>
    refine follows (h.modify (g := (·.release d.ticket)) (fun _ => rfl)
      (fun l => SharedLock.tight_grant _ _) fun e he => .inl ⟨(List.mem_filter.1 he).1, fun l hw => ?_⟩) hf
    -- two calls that drain have two tickets
    refine hw.release fun ht => ?_
    have hc := (List.mem_filter.1 he).2
    rw [List.inj_on_of_nodup_map hg.locks.drains (List.mem_filter.1 he).1 hd ht] at hc
    simp at hc
  | arrive r parcel hr =>
    exact h.modify (g := (·.request b.next .shared)) (fun _ => rfl) (fun l => SharedLock.tight_grant _ _)
      fun d hd => .inl ⟨hd, fun l hl => hl.request ..⟩
  | depart report v hv hc hl hh => exact h.depart hg.locks hv
  | deliver report v messages hv hc hl hh hp hf =>
    have hm : (b.handIn v).Granted := h.congr (fun _ => rfl) rfl
    exact hm.follows hf
  | fail report v e hv hc hl hh hp hf => exact (h.depart hg.locks hv).follows hf
  | leave v id hv hc hn => exact h.depart hg.locks hv
  | gate r isOpen =>
    exact h.congr (fun s => b.transport.lock?_modifyReceiver_of_eq r s fun _ => rfl) rfl

end Granted
end Bench
end PartitionConsumer
