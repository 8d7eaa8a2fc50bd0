/-!
A fair lock that is held by any number of readers or by one writer. Requests are granted in the order
they came: a reader that comes after a waiting writer waits too.
-/
namespace PartitionConsumer

inductive LockMode where
  | shared
  | exclusive
  deriving DecidableEq, Repr, Inhabited

/-- `readers` and `writer` hold the lock; `waiting` are the others, in the order they came. -/
structure SharedLock where
  readers : List Nat := []
  writer : Option Nat := none
  waiting : List (Nat × LockMode) := []
  deriving DecidableEq, Repr, Inhabited

namespace SharedLock

/-- Whether the lock could be granted in this mode on top of its holders. -/
def admits (l : SharedLock) : LockMode → Bool
  | .shared => l.writer.isNone
  | .exclusive => l.writer.isNone && l.readers.isEmpty

def hold (l : SharedLock) (id : Nat) : LockMode → SharedLock
  | .shared => { l with readers := l.readers ++ [id] }
  | .exclusive => { l with writer := some id }

/-- Grants the lock to those that wait in front, as far as the holders admit them. -/
def grant (l : SharedLock) : List (Nat × LockMode) → SharedLock
  | [] => { l with waiting := [] }
  | (id, mode) :: rest =>
    if l.admits mode then (l.hold id mode).grant rest else { l with waiting := (id, mode) :: rest }

/-- Asks for the lock, behind all that wait. -/
def request (l : SharedLock) (id : Nat) (mode : LockMode) : SharedLock :=
  l.grant (l.waiting ++ [(id, mode)])

def isHeldBy (l : SharedLock) (id : Nat) : Bool := l.readers.contains id || l.writer == some id

/-- Gives the lock up, or the place in the queue, and lets others move on. -/
def release (l : SharedLock) (id : Nat) : SharedLock :=
  let holders : SharedLock :=
    { readers := l.readers.filter (· != id)
      writer := if l.writer = some id then none else l.writer }
  holders.grant (l.waiting.filter fun w => w.1 != id)

/-- What the lock and its queue keep when the first in the queue is granted holds in the end of the lock
and of those that still wait. -/
theorem grant_induction {P : SharedLock → List (Nat × LockMode) → Prop}
    (hhold : ∀ l id mode rest, l.admits mode → P l ((id, mode) :: rest) → P (l.hold id mode) rest)
    (hpark : ∀ l queue, P l queue → P { l with waiting := queue } queue)
    {l : SharedLock} {queue : List (Nat × LockMode)} (h : P l queue) :
    P (l.grant queue) (l.grant queue).waiting := by
  induction queue generalizing l with
  | nil => exact hpark l [] h
  | cons w rest ih =>
    obtain ⟨id, mode⟩ := w
    unfold grant
    split
    · rename_i ha
      exact ih (hhold l id mode rest ha h)
    · exact hpark l _ h

/-- A writer holds the lock alone. -/
def Exclusive (l : SharedLock) : Prop := l.writer.isSome → l.readers = []

theorem exclusive_hold {l : SharedLock} {id : Nat} {mode : LockMode}
    (ha : l.admits mode) : (l.hold id mode).Exclusive := by
  cases mode with
  | shared =>
    simp only [admits, Option.isNone_iff_eq_none] at ha
    simp [Exclusive, hold, ha]
  | exclusive =>
    simp only [admits, Bool.and_eq_true, List.isEmpty_iff] at ha
    simp [Exclusive, hold, ha.2]

theorem exclusive_grant {l : SharedLock} (h : l.Exclusive) (queue : List (Nat × LockMode)) :
    (l.grant queue).Exclusive :=
  grant_induction (P := fun l _ => l.Exclusive) (fun _ _ _ _ ha _ => exclusive_hold ha) (fun _ _ h => h) h

theorem exclusive_request {l : SharedLock} (h : l.Exclusive) (id : Nat) (mode : LockMode) :
    (l.request id mode).Exclusive := exclusive_grant h _

theorem exclusive_release {l : SharedLock} (h : l.Exclusive) (id : Nat) :
    (l.release id).Exclusive := by
  apply exclusive_grant
  intro hw
  simp only [] at hw ⊢
  split at hw
  · simp at hw
  · rw [h hw]
    rfl

end SharedLock
end PartitionConsumer
