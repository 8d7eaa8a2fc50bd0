import PartitionConsumer.Fanout
/-!
# Rosters

A set of subscribers at work. Each has its queue and a worker that calls it on one event after another; a
call takes any time, and it returns or panics. Events are emitted, and the set is shut down, at any time in
between. What becomes of one subscriber is a matter of its own queue and worker.
-/
namespace PartitionConsumer

inductive WorkerStage where
  | idle
  /-- Its subscriber was called on the event. -/
  | handling (e : NumberedEvent)
  | ended
  deriving DecidableEq, Repr, Inhabited

def WorkerStage.event? : WorkerStage → Option NumberedEvent
  | .handling e => some e
  | _ => none

inductive Work where
  /-- It takes the oldest waiting event and calls its subscriber on it. -/
  | take
  /-- The call returns, or panics with a payload that reads as this text. -/
  | finish (panic : Option String)
  /-- It ends, because its queue is closed and empty. -/
  | stop
  /-- Its task is dropped, and its queue goes with it. -/
  | lose
  deriving DecidableEq, Repr, Inhabited

inductive Activity where
  | emit (e : NumberedEvent)
  | work (i : Nat) (w : Work)
  /-- The set is shut down: no queue takes events any more. -/
  | disband
  /-- The call that shuts the set down returns. -/
  | leave
  deriving DecidableEq, Repr, Inhabited

def Activity.event? : Activity → Option NumberedEvent
  | .emit e => some e
  | _ => none

/-- The events that are emitted, in order. -/
def emitted (xs : List Activity) : List NumberedEvent := xs.filterMap Activity.event?

structure Post where
  queue : Subscriber
  stage : WorkerStage := .idle
  /-- The events it was called on, in order. -/
  calls : List NumberedEvent := []
  /-- Those of them whose call is over. -/
  handled : List NumberedEvent := []
  /-- What was logged about events it did not get, and about calls that panicked. -/
  records : List LogRecord := []
  deriving Repr, Inhabited

namespace Post

def new (name : String) (capacity : Nat) : Post := { queue := { name, capacity } }

def told (e : NumberedEvent) (p : Post) (q : Subscriber) : Post :=
  { p with queue := q, records := p.records ++ (p.queue.dropRecord? e).toList }

def offer (p : Post) (e : NumberedEvent) : Post := p.told e (p.queue.offer e)

def close (p : Post) : Post := { p with queue := p.queue.close }

def call (p : Post) (e : NumberedEvent) (q : Subscriber) : Post :=
  { p with queue := q, stage := .handling e, calls := p.calls ++ [e] }

def finish (p : Post) (e : NumberedEvent) (panic : Option String) : Post :=
  { p with
    stage := .idle
    handled := p.handled ++ [e]
    records := p.records ++ panic.toList.map (p.queue.panicRecord e) }

def step? (p : Post) : Work → Option Post
  | .take =>
    match p.stage with
    | .idle => p.queue.take?.map fun (e, q) => p.call e q
    | _ => none
  | .finish panic =>
    match p.stage with
    | .handling e => some (p.finish e panic)
    | _ => none
  | .stop =>
    match p.stage with
    | .idle => if p.queue.closed && p.queue.waiting.isEmpty then some { p with stage := .ended } else none
    | _ => none
  | .lose => some { p with queue := { p.queue.close with waiting := [] }, stage := .ended }

inductive Step (p : Post) : Work → Post → Prop where
  | take (e : NumberedEvent) (rest : List NumberedEvent) (hs : p.stage = .idle)
    (hw : p.queue.waiting = e :: rest) : Step p .take (p.call e { p.queue with waiting := rest })
  | finish (e : NumberedEvent) (panic : Option String) (hs : p.stage = .handling e) :
    Step p (.finish panic) (p.finish e panic)
  | stop (hs : p.stage = .idle) (hc : p.queue.closed = true) (hw : p.queue.waiting = []) :
    Step p .stop { p with stage := .ended }
  | lose : Step p .lose { p with queue := { p.queue.close with waiting := [] }, stage := .ended }

theorem step_of_step? {p q : Post} {w : Work} (h : p.step? w = some q) : p.Step w q := by
  cases w with
  | take =>
    dsimp only [step?] at h
    split at h
    · rename_i hs
      obtain ⟨⟨e, q⟩, ht, rfl⟩ := Option.map_eq_some_iff.1 h
      unfold Subscriber.take? at ht
      split at ht
      · cases ht
      · rename_i e' rest hw
        obtain ⟨rfl, rfl⟩ := Prod.mk.inj (Option.some.inj ht)
        exact .take e' rest hs hw
    · cases h
  | finish panic =>
    dsimp only [step?] at h
    split at h
    · rename_i e hs
      cases h
      exact .finish e panic hs
    · cases h
  | stop =>
    dsimp only [step?] at h
    split at h
    · rename_i hs
      split at h
      · rename_i he
        cases h
        rw [Bool.and_eq_true, List.isEmpty_iff] at he
        exact .stop hs he.1 he.2
      · cases h
    · cases h
  | lose =>
    cases h
    exact .lose

def act? (p : Post) (i : Nat) : Activity → Option Post
  | .emit e => some (p.offer e)
  | .work j w => if j = i then p.step? w else some p
  | .disband => some p.close
  | .leave => some p

end Post

structure Roster where
  posts : List Post
  isOpen : Bool := true
  /-- The call that has shut it down has returned. -/
  returned : Bool := false
  deriving Repr, Inhabited

namespace Roster

def emit (s : Roster) (e : NumberedEvent) : Roster :=
  { s with posts := s.posts.zipWith (Post.told e) (PartitionConsumer.emit (s.posts.map (·.queue)) e).1 }

def step? (s : Roster) : Activity → Option Roster
  | .emit e => if s.isOpen then some (s.emit e) else none
  | .work i w =>
    (s.posts[i]?).bind fun p => (p.step? w).map fun q => { s with posts := s.posts.set i q }
  | .disband =>
    if s.isOpen then some { s with posts := s.posts.map (·.close), isOpen := false } else none
  | .leave =>
    if !s.isOpen && s.posts.all (·.stage == .ended) then some { s with returned := true } else none

inductive Step (s : Roster) : Activity → Roster → Prop where
  | emit (e : NumberedEvent) (ho : s.isOpen = true) : Step s (.emit e) (s.emit e)
  | work (i : Nat) (w : Work) (p q : Post) (hp : s.posts[i]? = some p) (hq : p.step? w = some q) :
    Step s (.work i w) { s with posts := s.posts.set i q }
  | disband (ho : s.isOpen = true) :
    Step s .disband { s with posts := s.posts.map (·.close), isOpen := false }
  | leave (ho : s.isOpen = false) (he : ∀ p ∈ s.posts, p.stage = .ended) :
    Step s .leave { s with returned := true }

theorem step_of_step? {s t : Roster} {x : Activity} (h : s.step? x = some t) : s.Step x t := by
  cases x with
  | emit e =>
    dsimp only [step?] at h
    split at h
    · rename_i ho
      cases h
      exact .emit e ho
    · cases h
  | work i w =>
    obtain ⟨p, hp, h⟩ := Option.bind_eq_some_iff.1 h
    obtain ⟨q, hq, rfl⟩ := Option.map_eq_some_iff.1 h
    exact .work i w p q hp hq
  | disband =>
    dsimp only [step?] at h
    split at h
    · rename_i ho
      cases h
      exact .disband ho
    · cases h
  | leave =>
    dsimp only [step?] at h
    split at h
    · rename_i ha
      cases h
      simp only [Bool.and_eq_true, Bool.not_eq_true', List.all_eq_true, beq_iff_eq] at ha
      exact .leave ha.1 ha.2
    · cases h

def run (s : Roster) : List Activity → Option Roster
  | [] => some s
  | x :: xs => (s.step? x).bind fun t => t.run xs

theorem run_append (s : Roster) (xs ys : List Activity) :
    s.run (xs ++ ys) = (s.run xs).bind fun t => t.run ys := by
  induction xs generalizing s with
  | nil => rfl
  | cons x xs ih =>
    rw [List.cons_append, run, run, Option.bind_assoc]
    exact congrArg _ (funext ih)

def new (subscribers : List (String × Nat)) : Roster :=
  { posts := subscribers.map fun s => .new s.1 s.2 }

variable {s t : Roster} {x : Activity} {i : Nat} {p : Post}

theorem posts_new {subscribers : List (String × Nat)} {name : String} {capacity : Nat}
    (h : subscribers[i]? = some (name, capacity)) :
    (new subscribers).posts[i]? = some (.new name capacity) := by
  rw [new, List.getElem?_map, h]
  rfl

/-- What a worker can do by itself it can do in the set. -/
theorem step?_work {q : Post} {w : Work} (hp : s.posts[i]? = some p) (hq : p.step? w = some q) :
    s.step? (.work i w) = some { s with posts := s.posts.set i q } := by
  rw [step?, hp, Option.bind_some, hq]
  rfl

theorem Step.step?_eq (h : s.Step x t) : s.step? x = some t := by
  cases h with
  | emit e ho => exact if_pos ho
  | work i w p q hp hq => exact step?_work hp hq
  | disband ho => exact if_pos ho
  | leave ho he =>
    have hall : (s.posts.all (·.stage == .ended)) = true :=
      List.all_eq_true.2 fun p hp => beq_iff_eq.2 (he p hp)
    rw [step?, ho, hall]
    rfl

/-- An event is offered to each subscriber in its own right. -/
theorem posts_emit (s : Roster) (e : NumberedEvent) :
    (s.emit e).posts = s.posts.map fun p => p.offer e := by
  have h (ps : List Post) : ps.zipWith (Post.told e) (PartitionConsumer.emit (ps.map (·.queue)) e).1
      = ps.map fun p => p.offer e := by
    induction ps with
    | nil => rfl
    | cons p ps ih => exact congrArg (p.offer e :: ·) ih
  exact h s.posts

/-- No subscriber looks at another. -/
theorem Step.post (h : s.Step x t) (hp : s.posts[i]? = some p) :
    ∃ q, p.act? i x = some q ∧ t.posts[i]? = some q := by
  cases h with
  | emit e ho =>
    refine ⟨p.offer e, rfl, ?_⟩
    rw [posts_emit, List.getElem?_map, hp]
    rfl
  | work j w r q hr hq =>
    by_cases hj : j = i
    · subst hj
      obtain rfl := Option.some.inj (hp.symm.trans hr)
      refine ⟨q, by rw [Post.act?, if_pos rfl, hq], ?_⟩
      exact List.getElem?_set_self (List.getElem?_eq_some_iff.1 hp).1
    · refine ⟨p, by rw [Post.act?, if_neg hj], ?_⟩
      exact (List.getElem?_set_ne hj).trans hp
  | disband ho =>
    refine ⟨p.close, rfl, ?_⟩
    dsimp only
    rw [List.getElem?_map, hp]
    rfl
  | leave ho he => exact ⟨p, rfl, hp⟩

end Roster
end PartitionConsumer
