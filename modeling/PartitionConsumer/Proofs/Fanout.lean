import PartitionConsumer.Proofs.Fanout.Roster
/-!
# Fan-out

A subscriber is called on exactly those events that its queue has accepted, once each and in the order in
which they were emitted, whatever the calls come to. Its queue turns an event away only when it is full.
When the call that shuts the set down has returned, every event that was accepted has been handled.
-/
namespace PartitionConsumer
namespace Roster

/-- The event that the queue of subscriber `i` accepts in this activity, if any. -/
def accepts (s : Roster) (i : Nat) : Activity → List NumberedEvent
  | .emit e => if (s.posts[i]?).any fun p => p.queue.verdict = .accepted then [e] else []
  | _ => []

def accepted (s : Roster) (i : Nat) : List Activity → List NumberedEvent
  | [] => []
  | x :: xs => s.accepts i x ++ (s.step? x).elim [] fun t => t.accepted i xs

theorem accepted_cons {s t : Roster} {x : Activity} (h : s.step? x = some t) (i : Nat)
    (xs : List Activity) : s.accepted i (x :: xs) = s.accepts i x ++ t.accepted i xs := by
  rw [accepted, h]
  rfl

/-- What is accepted was emitted, and the order is kept. -/
theorem accepted_sublist (s : Roster) (i : Nat) (xs : List Activity) :
    (s.accepted i xs).Sublist (emitted xs) := by
  induction xs generalizing s with
  | nil => exact .refl _
  | cons x xs ih =>
    have hrest : ((s.step? x).elim [] fun t => t.accepted i xs).Sublist (emitted xs) := by
      cases s.step? x with
      | none => exact List.nil_sublist _
      | some t => exact ih t
    cases x with
    | emit e =>
      have he : (s.accepts i (.emit e)).Sublist [e] := by
        dsimp only [accepts]
        split
        · exact .refl _
        · exact List.nil_sublist _
      exact he.append hrest
    | _ => exact hrest

end Roster

/-! ## One subscriber -/

namespace Post

variable {p q : Post} {i capacity : Nat} {isOpen : Bool} {accepted : List NumberedEvent} {x : Activity}
  {e : NumberedEvent} {w : Work}

structure Keeps (p : Post) (capacity : Nat) (isOpen : Bool) (accepted : List NumberedEvent) : Prop where
  capacity : p.queue.capacity = capacity
  closed : p.queue.closed = !isOpen
  /-- It was called on some of them, and the others wait. -/
  delivered : p.calls ++ p.queue.waiting = accepted
  current : p.calls = p.handled ++ p.stage.event?.toList
  /-- Its worker ends when there is nothing left to do. -/
  drained : p.stage = .ended → isOpen = false ∧ p.queue.waiting = []
  le_room : p.queue.waiting.length ≤ p.queue.room

theorem Keeps.new (name : String) (capacity : Nat) : (Post.new name capacity).Keeps capacity true [] where
  capacity := rfl
  closed := rfl
  delivered := rfl
  current := rfl
  drained := nofun
  le_room := Nat.zero_le _

namespace Keeps

/-- The queue of a set that is open takes an event unless it is full. -/
theorem verdict_eq (h : p.Keeps capacity true accepted) :
    p.queue.verdict = if p.queue.waiting.length = max 1 capacity then .full else .accepted := by
  have hr : p.queue.room = max 1 capacity := by rw [Subscriber.room, h.capacity, Nat.max_comm]
  have hle := h.le_room
  rw [Subscriber.verdict, h.closed, hr]
  rw [hr] at hle
  by_cases hf : p.queue.waiting.length = max 1 capacity
  · simp [hf]
  · have hlt : ¬ max 1 capacity ≤ p.queue.waiting.length := by omega
    simp only [Bool.not_true, Bool.false_eq_true, if_false]
    rw [if_neg hf, if_neg hlt]

theorem offer (h : p.Keeps capacity true accepted) (e : NumberedEvent) :
    (p.offer e).Keeps capacity true
      (accepted ++ if p.queue.verdict = .accepted then [e] else []) where
  capacity := (p.queue.capacity_offer e).trans h.capacity
  closed := (p.queue.closed_offer e).trans h.closed
  delivered := by
    have hd := h.delivered
    change p.calls ++ (p.queue.offer e).waiting = _
    rw [Subscriber.waiting_offer]
    split
    · rw [← List.append_assoc, hd]
    · rw [hd, List.append_nil]
  current := h.current
  drained hs := nomatch (h.drained hs).1
  le_room := Subscriber.length_offer_le _ _ h.le_room

theorem close (h : p.Keeps capacity isOpen accepted) : p.close.Keeps capacity false accepted where
  capacity := h.capacity
  closed := rfl
  delivered := h.delivered
  current := h.current
  drained hs := ⟨rfl, (h.drained hs).2⟩
  le_room := h.le_room

/-- The worker takes the event that has waited longest; a call that panics is over like any other. -/
theorem work (h : p.Keeps capacity isOpen accepted) (hw : w ≠ .lose) (hs : p.Step w q) :
    q.Keeps capacity isOpen accepted := by
  have hd := h.delivered
  have hcur := h.current
  cases hs with
  | take e rest hs hwait =>
    have hle := h.le_room
    rw [hwait] at hle hd
    refine ⟨h.capacity, h.closed, ?_, ?_, nofun, Nat.le_of_succ_le hle⟩
    · exact (List.append_assoc ..).trans hd
    · rw [hs] at hcur
      change p.calls ++ [e] = p.handled ++ [e]
      rw [hcur]
      exact congrArg (· ++ [e]) (List.append_nil _)
  | finish e panic hs =>
    rw [hs] at hcur
    exact ⟨h.capacity, h.closed, hd, hcur.trans (List.append_nil _).symm, nofun, h.le_room⟩
  | stop hs hc hwait =>
    have ho : isOpen = false := by simpa [hc] using h.closed
    rw [hs] at hcur
    exact ⟨h.capacity, h.closed, hd, hcur, fun _ => ⟨ho, hwait⟩, h.le_room⟩
  | lose => exact absurd rfl hw

/-- What the set does next keeps it so, and the queue may have accepted one more event. -/
theorem act {s t : Roster} (h : p.Keeps capacity s.isOpen accepted) (hp : s.posts[i]? = some p)
    (hx : x ≠ .work i .lose) (hs : s.Step x t) (hq : p.act? i x = some q) :
    q.Keeps capacity t.isOpen (accepted ++ s.accepts i x) := by
  cases hs with
  | emit e ho =>
    obtain rfl := Option.some.inj hq
    rw [ho] at h
    have ha : s.accepts i (.emit e) = if p.queue.verdict = .accepted then [e] else [] := by
      rw [Roster.accepts, hp]
      simp
    rw [ha]
    change (p.offer e).Keeps capacity s.isOpen _
    rw [ho]
    exact h.offer e
  | work j w r r' hr hr' =>
    change q.Keeps capacity s.isOpen (accepted ++ [])
    rw [List.append_nil]
    dsimp only [act?] at hq
    split at hq
    · rename_i hj
      exact h.work (fun hw => hx (by rw [hj, hw])) (step_of_step? hq)
    · obtain rfl := Option.some.inj hq
      exact h
  | disband ho =>
    obtain rfl := Option.some.inj hq
    change p.close.Keeps capacity false (accepted ++ [])
    rw [List.append_nil]
    exact h.close
  | leave ho he =>
    obtain rfl := Option.some.inj hq
    change p.Keeps capacity s.isOpen (accepted ++ [])
    rw [List.append_nil]
    exact h

/-- So it stays as long as its worker is not lost. -/
theorem run {s t : Roster} {xs : List Activity} (h : p.Keeps capacity s.isOpen accepted)
    (hp : s.posts[i]? = some p) (hl : .work i .lose ∉ xs) (hr : s.run xs = some t) :
    ∃ q, t.posts[i]? = some q ∧ q.Keeps capacity t.isOpen (accepted ++ s.accepted i xs) := by
  induction xs generalizing s p accepted with
  | nil =>
    obtain rfl := Option.some.inj hr
    refine ⟨p, hp, ?_⟩
    rw [Roster.accepted, List.append_nil]
    exact h
  | cons x xs ih =>
    obtain ⟨u, hu, hr⟩ := Option.bind_eq_some_iff.1 hr
    have hs := Roster.step_of_step? hu
    obtain ⟨q, hq, hqi⟩ := hs.post hp
    rw [List.mem_cons, not_or] at hl
    rw [Roster.accepted_cons hu, ← List.append_assoc]
    exact ih (h.act hp (fun hx => hl.1 hx.symm) hs hq) hqi hl.2 hr

end Keeps

/-! ## What is left to do -/

/-- All that the worker has yet to do for the events that wait, when the call on an event ends in this
way. -/
def rest (p : Post) (panic : NumberedEvent → Option String) : List Work :=
  p.stage.event?.toList.map (fun e => .finish (panic e))
    ++ p.queue.waiting.flatMap fun e => [.take, .finish (panic e)]

theorem take_of_waiting {rest : List NumberedEvent} (hs : p.stage = .idle)
    (hw : p.queue.waiting = e :: rest) :
    p.step? .take = some (p.call e { p.queue with waiting := rest }) := by
  simp only [step?, hs, Subscriber.take?, hw]
  rfl

theorem finish_of_handling (hs : p.stage = .handling e) (panic : Option String) :
    p.step? (.finish panic) = some (p.finish e panic) := by
  rw [step?, hs]

/-- An idle worker goes through all the events that wait, one after another. -/
theorem works_waiting (panic : NumberedEvent → Option String) (hs : p.stage = .idle) :
    ∃ q, (p.queue.waiting.flatMap fun e => [.take, .finish (panic e)]).foldlM step? p = some q
      ∧ q.handled = p.handled ++ p.queue.waiting := by
  generalize hw : p.queue.waiting = es
  induction es generalizing p with
  | nil => exact ⟨p, rfl, (List.append_nil _).symm⟩
  | cons e rest ih =>
    rw [List.flatMap_cons, List.foldlM_append, List.foldlM_cons, take_of_waiting hs hw,
      Option.bind_eq_bind, Option.bind_some, List.foldlM_cons, finish_of_handling rfl]
    obtain ⟨q, hq, hh⟩ :=
      ih (p := (p.call e { p.queue with waiting := rest }).finish e (panic e)) rfl rfl
    refine ⟨q, hq, ?_⟩
    rw [hh]
    exact List.append_assoc ..

/-- However its calls end, the worker goes on until it has handled every event that was accepted. -/
theorem Keeps.works_rest (h : p.Keeps capacity isOpen accepted) (panic : NumberedEvent → Option String) :
    ∃ q, (p.rest panic).foldlM step? p = some q ∧ q.handled = accepted := by
  have hcur := h.current
  have hd := h.delivered
  rw [rest, List.foldlM_append]
  cases hs : p.stage with
  | idle =>
    obtain ⟨q, hq, hh⟩ := works_waiting panic hs
    refine ⟨q, hq, ?_⟩
    rw [hs] at hcur
    rw [hh, ← hd, hcur]
    exact congrArg (· ++ _) (List.append_nil _).symm
  | handling e =>
    obtain ⟨q, hq, hh⟩ := works_waiting panic (p := p.finish e (panic e)) rfl
    refine ⟨q, ?_, ?_⟩
    · rw [WorkerStage.event?, Option.toList_some, List.map_cons, List.map_nil, List.foldlM_cons,
        finish_of_handling hs]
      exact hq
    · rw [hs] at hcur
      rw [hh, ← hd, hcur]
      rfl
  | ended =>
    have hw := (h.drained hs).2
    refine ⟨p, by rw [hw]; rfl, ?_⟩
    rw [hs] at hcur
    rw [← hd, hw, hcur]
    simp [WorkerStage.event?]

end Post

namespace Roster

variable {s t : Roster} {xs : List Activity} {i : Nat} {p q : Post}

theorem run_works {ws : List Work} (hp : s.posts[i]? = some p) (hq : ws.foldlM Post.step? p = some q) :
    ∃ t, s.run (ws.map (.work i)) = some t ∧ t.posts[i]? = some q := by
  induction ws generalizing s p with
  | nil => exact ⟨s, rfl, hp.trans hq⟩
  | cons w ws ih =>
    rw [List.foldlM_cons] at hq
    obtain ⟨r, hr, hq⟩ := Option.bind_eq_some_iff.1 hq
    obtain ⟨t, ht, hti⟩ := ih (s := { s with posts := s.posts.set i r })
      (List.getElem?_set_self (List.getElem?_eq_some_iff.1 hp).1) hq
    refine ⟨t, ?_, hti⟩
    rw [List.map_cons, run, step?_work hp hr]
    exact ht

/-! ## Shutting down -/

/-- The call that shuts the set down has not returned before every worker has ended. -/
def WaitsForAll (s : Roster) : Prop :=
  s.returned = true → s.isOpen = false ∧ ∀ p ∈ s.posts, p.stage = .ended

theorem WaitsForAll.step {x : Activity} (h : s.WaitsForAll) (hs : s.Step x t) : t.WaitsForAll := by
  cases hs with
  | emit e ho =>
    intro hr
    exact absurd ((h hr).1.symm.trans ho) nofun
  | work j w p q hp hq =>
    intro hr
    obtain ⟨ho, he⟩ := h hr
    have hst := he p (List.mem_of_getElem? hp)
    refine ⟨ho, fun r hm => ?_⟩
    obtain hm | rfl := List.mem_or_eq_of_mem_set hm
    · exact he r hm
    · -- an ended worker takes no step any more, but its task may still be dropped
      cases Post.step_of_step? hq with
      | take e rest hs => exact nomatch hst.symm.trans hs
      | finish e panic hs => exact nomatch hst.symm.trans hs
      | stop => rfl
      | lose => rfl
  | disband ho =>
    intro hr
    exact absurd ((h hr).1.symm.trans ho) nofun
  | leave ho he => exact fun _ => ⟨ho, he⟩

theorem WaitsForAll.run (h : s.WaitsForAll) (hr : s.run xs = some t) : t.WaitsForAll := by
  induction xs generalizing s with
  | nil =>
    obtain rfl := Option.some.inj hr
    exact h
  | cons x xs ih =>
    obtain ⟨u, hu, hr⟩ := Option.bind_eq_some_iff.1 hr
    exact ih (h.step (step_of_step? hu)) hr

end Roster

/-- In every run of a set of subscribers, however long calls take and whether they return or panic, a
subscriber whose worker is not lost is called on the events that its queue has accepted, once each and in
the order in which they were emitted; those it was not called on yet are the ones that wait. Whatever
becomes of a call, the worker can go on through all that waits. The queue turns an event away if it is full
and only then. When the call that shuts the set down has returned, every accepted event was handled.

Of the payload of a panic the text is kept that the worker reads from it, and it is taken that the payload can be
disposed of without another panic. -/
theorem handled_as_accepted {subscribers : List (String × Nat)} {xs : List Activity} {t : Roster}
    (h : (Roster.new subscribers).run xs = some t) {i : Nat} {name : String} {capacity : Nat}
    (hi : subscribers[i]? = some (name, capacity)) (hl : .work i .lose ∉ xs) :
    ∃ p, t.posts[i]? = some p
      ∧ p.calls ++ p.queue.waiting = (Roster.new subscribers).accepted i xs
      ∧ p.calls = p.handled ++ p.stage.event?.toList
      ∧ ((Roster.new subscribers).accepted i xs).Sublist (emitted xs)
      ∧ (∀ panic, ∃ u q, t.run ((p.rest panic).map (.work i)) = some u ∧ u.posts[i]? = some q
        ∧ q.handled = (Roster.new subscribers).accepted i xs)
      ∧ (t.returned = true → p.handled = (Roster.new subscribers).accepted i xs)
      ∧ ∀ as e bs u, xs = as ++ .emit e :: bs → (Roster.new subscribers).run as = some u →
        ∃ q, u.posts[i]? = some q ∧ u.accepts i (.emit e) = (if q.queue.waiting.length = max 1 capacity
          then [] else [e]) := by
  have hnew := Roster.posts_new hi
  obtain ⟨p, hp, hk⟩ := (Post.Keeps.new name capacity).run (s := Roster.new subscribers) hnew hl h
  rw [List.nil_append] at hk
  refine ⟨p, hp, hk.delivered, hk.current, Roster.accepted_sublist .., fun panic => ?_, fun hr => ?_,
    fun as e bs u hxs hu => ?_⟩
  · obtain ⟨q, hq, hh⟩ := hk.works_rest panic
    obtain ⟨u, hu, hui⟩ := Roster.run_works hp hq
    exact ⟨u, q, hu, hui, hh⟩
  · have hw : (Roster.new subscribers).WaitsForAll := nofun
    have he := (hw.run h hr).2 p (List.mem_of_getElem? hp)
    have hcur := hk.current
    have hd := hk.delivered
    rw [(hk.drained he).2, List.append_nil] at hd
    rw [he] at hcur
    rw [← hd, hcur]
    exact (List.append_nil _).symm
  · obtain ⟨q, hq, hku⟩ := (Post.Keeps.new name capacity).run (s := Roster.new subscribers) hnew
      (fun hm => hl (by rw [hxs]; exact List.mem_append_left _ hm)) hu
    rw [hxs, Roster.run_append, hu, Option.bind_some] at h
    obtain ⟨v, hv, -⟩ := Option.bind_eq_some_iff.1 h
    cases Roster.step_of_step? hv with
    | emit _ ho =>
      rw [ho] at hku
      refine ⟨q, hq, ?_⟩
      rw [Roster.accepts, hq, Option.any_some, hku.verdict_eq]
      by_cases hf : q.queue.waiting.length = max 1 capacity <;> simp [hf]

/-- The queue of the first subscriber holds one event, and turns the second of three away. The call on the
first event panics, and the third is handled in spite of it before the set is shut down. -/
theorem handled_as_accepted_past_panic :
    ∃ t p, (Roster.new [("a", 0), ("b", 2)]).run [.emit { kind := .pumpOpening, number := 0 },
        .emit { kind := .pumpRunning, number := 1 }, .work 0 .take,
        .emit { kind := .pumpClosing, number := 2 }, .work 0 (.finish (some "out of reach")), .work 1 .take,
        .disband, .work 1 (.finish none), .work 0 .take, .work 1 .take, .work 0 (.finish none), .work 0 .stop,
        .work 1 (.finish none), .work 1 .stop, .leave] = some t
      ∧ t.returned = true ∧ t.posts[0]? = some p
      ∧ p.handled = [{ kind := .pumpOpening, number := 0 }, { kind := .pumpClosing, number := 2 }] := by
  generalize hxs : [Activity.emit _, _, _, _, _, _, _, _, _, _, _, _, _, _, _] = xs
  have ht : ((Roster.new [("a", 0), ("b", 2)]).run xs).map (·.returned) = some true := by
    subst hxs
    rfl
  obtain ⟨t, ht, hr⟩ := Option.map_eq_some_iff.1 ht
  have hl : .work 0 .lose ∉ xs := by
    subst hxs
    decide
  obtain ⟨p, hp, -, -, -, -, hd, -⟩ := handled_as_accepted ht (i := 0) rfl hl
  refine ⟨t, p, ht, hr, hp, (hd hr).trans ?_⟩
  subst hxs
  rfl

end PartitionConsumer
