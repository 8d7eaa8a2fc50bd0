import PartitionConsumer.Proofs.Fanout.Roster
/-!
# Isolation

What becomes of one subscriber in a set is what becomes of it when it is the only one. Whatever the others
are and do, they change neither the events that it gets nor their order, and they cannot hold it up. Only
the call that shuts the set down waits for all of them.
-/
namespace PartitionConsumer

/-- What the activity is to the subscriber in place `i`, had it a set of its own. -/
def Activity.about (i : Nat) : Activity → Option Activity
  | .work j w => if j = i then some (.work 0 w) else none
  | x => some x

def Activity.moved (i : Nat) : Activity → Activity
  | .work _ w => .work i w
  | x => x

/-- What happens to the subscriber in place `i`: what is emitted, the steps of its own worker, and that
the set is shut down. -/
def schedule (i : Nat) (xs : List Activity) : List Activity :=
  (xs.filterMap (·.about i)).filter (· != .leave)

namespace Roster

variable {s t u : Roster} {x y : Activity} {xs : List Activity} {i : Nat} {p q : Post}

def alone (s : Roster) (p : Post) : Roster := { s with posts := [p] }

/-- A step of a set is a step of any of its subscribers alone, or does not concern it. -/
theorem Step.alone (hs : s.Step x t) (hp : s.posts[i]? = some p) :
    ∃ q, t.posts[i]? = some q
      ∧ (x.about i).elim (some (s.alone p)) (s.alone p).step? = some (t.alone q) := by
  obtain ⟨q, hq, hqi⟩ := hs.post hp
  refine ⟨q, hqi, ?_⟩
  cases hs with
  | emit e ho =>
    obtain rfl := Option.some.inj hq
    exact (Step.emit (s := s.alone p) e ho).step?_eq
  | work j w r r' hr hr' =>
    dsimp only [Post.act?] at hq
    dsimp only [Activity.about]
    split at hq
    · rename_i hj
      rw [if_pos hj]
      exact step?_work (s := s.alone p) (i := 0) rfl hq
    · rename_i hj
      obtain rfl := Option.some.inj hq
      rw [if_neg hj]
      rfl
  | disband ho =>
    obtain rfl := Option.some.inj hq
    exact (Step.disband (s := s.alone p) ho).step?_eq
  | leave ho he =>
    obtain rfl := Option.some.inj hq
    have he' : ∀ q ∈ [p], q.stage = .ended := by simpa using he p (List.mem_of_getElem? hp)
    exact (Step.leave (s := s.alone p) ho he').step?_eq

/-- A run of a set is a run of any of its subscribers alone. -/
theorem run_alone (hr : s.run xs = some t) (hp : s.posts[i]? = some p) :
    ∃ q, t.posts[i]? = some q ∧ (s.alone p).run (xs.filterMap (·.about i)) = some (t.alone q) := by
  induction xs generalizing s p with
  | nil =>
    obtain rfl := Option.some.inj hr
    exact ⟨p, hp, rfl⟩
  | cons x xs ih =>
    obtain ⟨u, hu, hr⟩ := Option.bind_eq_some_iff.1 hr
    obtain ⟨r, hri, hs⟩ := (step_of_step? hu).alone hp
    obtain ⟨q, hqi, hq⟩ := ih hr hri
    refine ⟨q, hqi, ?_⟩
    rw [List.filterMap_cons]
    cases hx : x.about i with
    | none =>
      rw [hx] at hs
      rw [Option.some.inj hs]
      exact hq
    | some y =>
      rw [hx] at hs
      have hy : (s.alone p).step? y = some (u.alone r) := hs
      change ((s.alone p).step? y).bind _ = _
      rw [hy]
      exact hq

/-! ## The return of the call that shuts the set down -/

/-- The set, leaving out whether the call that shuts it down has returned. -/
def unreturned (s : Roster) : Roster := { s with returned := false }

theorem Step.unreturned (hs : s.Step x t) :
    if x = .leave then t.unreturned = s.unreturned else s.unreturned.step? x = some t.unreturned := by
  cases hs with
  | emit e ho => exact (Step.emit (s := s.unreturned) e ho).step?_eq
  | work j w p q hp hq => exact step?_work (s := s.unreturned) hp hq
  | disband ho => exact (Step.disband (s := s.unreturned) ho).step?_eq
  | leave ho he => rfl

/-- Nothing else depends on whether that call has returned. -/
theorem run_unreturned (hr : s.run xs = some t) :
    s.unreturned.run (xs.filter (· != .leave)) = some t.unreturned := by
  induction xs generalizing s with
  | nil =>
    obtain rfl := Option.some.inj hr
    rfl
  | cons x xs ih =>
    obtain ⟨u, hu, hr⟩ := Option.bind_eq_some_iff.1 hr
    have hs := (step_of_step? hu).unreturned
    by_cases hx : x = .leave
    · rw [if_pos hx] at hs
      rw [List.filter_cons_of_neg (by simpa using hx), ← hs]
      exact ih hr
    · rw [if_neg hx] at hs
      rw [List.filter_cons_of_pos (by simpa using hx), run, hs]
      exact ih hr

/-! ## Among others -/

/-- What a subscriber does alone it can do in any set, unless all are waited for. -/
theorem step_moved (hs : (s.alone p).step? y = some u) (hp : s.posts[i]? = some p) (hy : y ≠ .leave) :
    ∃ t q, s.step? (y.moved i) = some t ∧ t.posts[i]? = some q ∧ u = t.alone q := by
  cases step_of_step? hs with
  | emit e ho =>
    have ht : s.Step (.emit e) (s.emit e) := .emit e ho
    obtain ⟨q, hq, hqi⟩ := ht.post hp
    obtain rfl := Option.some.inj hq
    exact ⟨_, _, ht.step?_eq, hqi, rfl⟩
  | work j w r r' hr hr' =>
    obtain rfl : r = p := by
      rw [alone, List.getElem?_singleton] at hr
      split at hr
      · exact (Option.some.inj hr).symm
      · cases hr
    have hj : j = 0 := by
      have := (List.getElem?_eq_some_iff.1 hr).1
      exact Nat.lt_one_iff.1 this
    refine ⟨_, r', step?_work hp hr', List.getElem?_set_self (List.getElem?_eq_some_iff.1 hp).1, ?_⟩
    rw [hj]
    rfl
  | disband ho =>
    have ht : s.Step .disband { s with posts := s.posts.map (·.close), isOpen := false } := .disband ho
    obtain ⟨q, hq, hqi⟩ := ht.post hp
    obtain rfl := Option.some.inj hq
    exact ⟨_, _, ht.step?_eq, hqi, rfl⟩
  | leave ho he => exact absurd rfl hy

theorem run_moved (hr : (s.alone p).run xs = some u) (hp : s.posts[i]? = some p) (hl : .leave ∉ xs) :
    ∃ t q, s.run (xs.map (·.moved i)) = some t ∧ t.posts[i]? = some q ∧ u = t.alone q := by
  induction xs generalizing s p with
  | nil =>
    obtain rfl := Option.some.inj hr
    exact ⟨s, p, rfl, hp, rfl⟩
  | cons x xs ih =>
    obtain ⟨v, hv, hr⟩ := Option.bind_eq_some_iff.1 hr
    rw [List.mem_cons, not_or] at hl
    obtain ⟨s', p', hs, hp', rfl⟩ := step_moved hv hp fun hx => hl.1 hx.symm
    obtain ⟨t, q, ht, hq, hu⟩ := ih hr hp' hl.2
    refine ⟨t, q, ?_, hq, hu⟩
    rw [List.map_cons, run, hs]
    exact ht

end Roster

/-- A run of a set, as far as one of its subscribers is concerned, is a run of the set that holds that
subscriber alone. Among any others, in any place, the same schedule of emitted events and of its own
worker's steps is possible, and in every run with that schedule the subscriber fares the same: it gets the
same events in the same order and misses the same ones. -/
theorem fares_as_alone {subscribers : List (String × Nat)} {xs : List Activity} {t : Roster}
    (h : (Roster.new subscribers).run xs = some t) {i : Nat} {name : String} {capacity : Nat}
    (hi : subscribers[i]? = some (name, capacity)) :
    ∃ p, t.posts[i]? = some p
      ∧ (Roster.new [(name, capacity)]).run (xs.filterMap (·.about i)) = some (t.alone p)
      ∧ ∀ others j, others[j]? = some (name, capacity) →
        (∃ u, (Roster.new others).run ((schedule i xs).map (·.moved j)) = some u ∧ u.posts[j]? = some p)
        ∧ ∀ ys u, (Roster.new others).run ys = some u → schedule j ys = schedule i xs →
          u.posts[j]? = some p := by
  obtain ⟨p, hp, ha⟩ := Roster.run_alone h (Roster.posts_new hi)
  have hrun : (Roster.new [(name, capacity)]).run (schedule i xs) = some (t.alone p).unreturned :=
    Roster.run_unreturned ha
  refine ⟨p, hp, ha, fun others j hj => ⟨?_, fun ys u hu hs => ?_⟩⟩
  · obtain ⟨u, q, hu, hq, he⟩ := Roster.run_moved (s := Roster.new others) hrun (Roster.posts_new hj)
      (by simp [schedule])
    have hpq : [p] = [q] := congrArg Roster.posts he
    exact ⟨u, hu, by rw [hq, List.singleton_inj.1 hpq]⟩
  · -- both runs come down to the same run of the subscriber alone
    obtain ⟨q, hq, hb⟩ := Roster.run_alone hu (Roster.posts_new hj)
    have hsame := Roster.run_unreturned hb
    change (Roster.new [(name, capacity)]).run (schedule j ys) = _ at hsame
    rw [hs, hrun] at hsame
    have he : [p] = [q] := congrArg Roster.posts (Option.some.inj hsame)
    rw [hq, List.singleton_inj.1 he]

/-- In one set the other subscriber never comes back from its first event and misses the third, in the
other there are two of them and one has lost its worker. -/
theorem fares_as_alone_beside_a_stuck_one :
    ∃ t u p, (Roster.new [("a", 1), ("b", 2)]).run [.emit { kind := .pumpOpening, number := 0 },
        .work 0 .take, .emit { kind := .pumpRunning, number := 1 }, .work 1 .take,
        .emit { kind := .pumpClosing, number := 2 }, .work 1 (.finish (some "out of reach")),
        .work 1 .take, .disband] = some t
      ∧ (Roster.new [("b", 2), ("c", 0), ("d", 7)]).run [.work 1 .lose,
        .emit { kind := .pumpOpening, number := 0 }, .emit { kind := .pumpRunning, number := 1 },
        .work 0 .take, .work 2 .take, .emit { kind := .pumpClosing, number := 2 }, .work 2 (.finish none),
        .work 0 (.finish (some "out of reach")), .work 0 .take, .disband, .work 2 .take] = some u
      ∧ t.posts[1]? = some p ∧ u.posts[0]? = some p
      ∧ p.handled = [{ kind := .pumpOpening, number := 0 }] := by
  generalize hxs : [Activity.emit _, _, _, _, _, _, _, _] = xs
  generalize hys : [Activity.work _ _, _, _, _, _, _, _, _, _, _, _] = ys
  have ht : ((Roster.new [("a", 1), ("b", 2)]).run xs).isSome = true := by
    subst hxs
    rfl
  have hu : ((Roster.new [("b", 2), ("c", 0), ("d", 7)]).run ys).map
      (fun u => u.posts.head?.map (·.handled)) = some (some [{ kind := .pumpOpening, number := 0 }]) := by
    subst hys
    rfl
  have hs : schedule 0 ys = schedule 1 xs := by
    subst hxs hys
    rfl
  obtain ⟨t, ht⟩ := Option.isSome_iff_exists.1 ht
  obtain ⟨u, hu, hh⟩ := Option.map_eq_some_iff.1 hu
  obtain ⟨p, hp, -, hothers⟩ := fares_as_alone ht (i := 1) rfl
  have hup := (hothers _ 0 rfl).2 ys u hu hs
  rw [List.head?_eq_getElem?, hup] at hh
  exact ⟨t, u, p, ht, hu, hp, hup, Option.some.inj hh⟩

end PartitionConsumer
