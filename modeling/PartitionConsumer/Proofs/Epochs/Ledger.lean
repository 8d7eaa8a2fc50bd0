import PartitionConsumer.Proofs.Session.Calls
/-!
# The ledger of an epoch

Two set the epoch of a lease: the lease store, which raises it by one, and the call that opens the pump,
which puts down the epoch its attempt has used. The ledger of a run has all that sets the epoch, with the
attempts that read it and the requests that carry it, in order.
-/
namespace PartitionConsumer

inductive EpochEntry where
  /-- The lease store has raised the epoch. -/
  | raised
  /-- An attempt has read the epoch, and asks for its client. -/
  | began (a : Attempt)
  /-- The client step of an attempt has failed, by an error or at its deadline. -/
  | failed (a : Attempt)
  /-- A receiver is asked for. -/
  | requested (r : ReceiverRequest)
  /-- The receiver step of an attempt is over and was not cancelled: it has brought a receiver, or ended in
  an error or at its deadline. -/
  | settled (a : Attempt)
  /-- The pump is announced to run. -/
  | ran (epoch : Option Nat)
  deriving DecidableEq, Repr, Inhabited

def EpochEntry.after (epoch : Nat) : EpochEntry → Nat
  | .raised => epoch + 1
  | .settled a => a.epoch
  | _ => epoch

def EpochEntry.requested? : EpochEntry → Option Nat
  | .requested r => some r.epoch
  | _ => none

/-- The epoch of a lease that began with `epoch`. -/
def epochAfter (epoch : Nat) (l : List EpochEntry) : Nat := l.foldl EpochEntry.after epoch

@[simp] theorem epochAfter_append (epoch : Nat) (l m : List EpochEntry) :
    epochAfter epoch (l ++ m) = epochAfter (epochAfter epoch l) m := List.foldl_append

def raises (n : Nat) : List EpochEntry := List.replicate n .raised

theorem raises_succ (n : Nat) : raises (n + 1) = raises n ++ [.raised] := List.replicate_succ'

@[simp] theorem epochAfter_raises (epoch n : Nat) : epochAfter epoch (raises n) = epoch + n := by
  induction n with
  | zero => rfl
  | succ n ih =>
    rw [raises_succ, epochAfter_append, ih]
    rfl

namespace Attempt

variable (a : Attempt) (j : Nat) (r : ReceiverRequest) (k n : Nat)

/-- An attempt that has not come further than its client step, in which the epoch was raised `j` times. -/
def opening : List EpochEntry := .began a :: raises j

/-- An attempt that failed in its client step, `n` raises ago. -/
def failing : List EpochEntry := a.opening j ++ .failed a :: raises n

/-- An attempt that has asked for its receiver, `k` raises ago. -/
def asking : List EpochEntry := a.opening j ++ .requested r :: raises k

/-- An attempt whose receiver step was over `n` raises ago. -/
def settling : List EpochEntry := a.asking j r k ++ .settled a :: raises n

theorem opening_succ : a.opening (j + 1) = a.opening j ++ [.raised] := by
  rw [opening, raises_succ]
  rfl

theorem failing_succ : a.failing j (n + 1) = a.failing j n ++ [.raised] := by
  rw [failing, raises_succ, failing, List.append_assoc]
  rfl

theorem asking_succ : a.asking j r (k + 1) = a.asking j r k ++ [.raised] := by
  rw [asking, raises_succ, asking, List.append_assoc]
  rfl

theorem settling_succ : a.settling j r k (n + 1) = a.settling j r k n ++ [.raised] := by
  rw [settling, raises_succ, settling, List.append_assoc]
  rfl

theorem epochAfter_settling (epoch : Nat) : epochAfter epoch (a.settling j r k n) = a.epoch + n := by
  rw [settling, epochAfter_append]
  exact epochAfter_raises a.epoch n

theorem epochAfter_failing (epoch : Nat) : epochAfter epoch (a.failing j n) = epoch + (j + n) := by
  rw [failing, epochAfter_append]
  have hj : epochAfter epoch (a.opening j) = epoch + j := epochAfter_raises epoch j
  rw [hj]
  exact (epochAfter_raises (epoch + j) n).trans (Nat.add_assoc ..)

end Attempt

/-- How a ledger stands when an attempt may begin: no attempt was made, or the last one has failed. -/
inductive Ripe (l : List EpochEntry) : Prop where
  | first (n : Nat) (h : l = raises n)
  | settled (past : List EpochEntry) (b : Attempt) (j : Nat) (r : ReceiverRequest) (k n : Nat)
    (h : l = past ++ b.settling j r k n)
  | failed (past : List EpochEntry) (b : Attempt) (j n : Nat) (h : l = past ++ b.failing j n)

/-- What may be entered after `l` in the ledger of a lease that began with `epoch`. -/
inductive EpochEntry.Follows (epoch : Nat) (l : List EpochEntry) : EpochEntry → Prop where
  | raised : Follows epoch l .raised
  | began (a : Attempt) (hl : Ripe l) (he : a.epoch = epochAfter epoch l) : Follows epoch l (.began a)
  | failed (past : List EpochEntry) (a : Attempt) (j : Nat) (hl : l = past ++ a.opening j) :
    Follows epoch l (.failed a)
  | requested (past : List EpochEntry) (a : Attempt) (j : Nat) (r : ReceiverRequest)
    (hl : l = past ++ a.opening j) (he : r.epoch = a.epoch) : Follows epoch l (.requested r)
  | settled (past : List EpochEntry) (a : Attempt) (j : Nat) (r : ReceiverRequest) (k : Nat)
    (hl : l = past ++ a.asking j r k) (he : r.epoch = a.epoch) : Follows epoch l (.settled a)
  | ran (past : List EpochEntry) (a : Attempt) (j : Nat) (r : ReceiverRequest) (k : Nat)
    (hl : l = past ++ a.settling j r k 0) (he : r.epoch = a.epoch) : Follows epoch l (.ran (some a.epoch))

inductive Ledger (epoch : Nat) : List EpochEntry → Prop where
  | nil : Ledger epoch []
  | snoc {l : List EpochEntry} {x : EpochEntry} (hl : Ledger epoch l) (hx : x.Follows epoch l) :
    Ledger epoch (l ++ [x])

namespace Ledger

variable {epoch : Nat} {l : List EpochEntry}

theorem follows (h : Ledger epoch l) {pre post : List EpochEntry} {x : EpochEntry}
    (hs : l = pre ++ x :: post) : x.Follows epoch pre := by
  induction h generalizing post with
  | nil => simp at hs
  | snoc hl hx ih =>
    rcases List.eq_nil_or_concat post with rfl | ⟨post, y, rfl⟩
    · obtain ⟨rfl, he⟩ := List.append_inj' hs rfl
      obtain rfl := List.cons.inj he |>.1
      exact hx
    · rw [List.concat_eq_append, ← List.cons_append, ← List.append_assoc] at hs
      exact ih (List.append_inj' hs rfl).1

/-- An attempt that has begun has the epoch the lease had then. -/
theorem epoch_of_began (h : Ledger epoch l) {pre post : List EpochEntry} {a : Attempt}
    (hs : l = pre ++ .began a :: post) : a.epoch = epochAfter epoch pre := by
  cases h.follows hs with
  | began _ _ he => exact he

end Ledger

/-! ## The ledger of a run -/

def OpenStage.ending : OpenStage → Answer → List EpochEntry
  | .client a, .timedOut | .clientReady a (.error _), .resume => [.failed a]
  | .receiver a _, .timedOut | .receiverReady a _ _, .resume => [.settled a]
  | _, _ => []

/-- What is entered for an effect, where the client asked for is that of `begun`. -/
def Effect.epochEntries (begun : List Attempt) : Effect → List EpochEntry
  | .ask .createClient => begun.map .began
  | .ask (.createReceiver _ r) => [.requested r]
  | .publish e => if e.kind == .pumpRunning then [.ran e.epoch] else []
  | _ => []

def OpenStage.begun? : OpenStage → Option Attempt
  | .client a => some a
  | _ => none

namespace Session

def ending (s : Session) : Cause → List EpochEntry
  | .bump => [.raised]
  | .answer id a => ((s.call? id).bind Waiting.opening?).elim [] (·.ending a)
  | .wake id => ((s.call? id).bind Waiting.opening?).elim [] (·.ending .resume)
  | _ => []

/-- What a step enters into the ledger. -/
def epochEntries (s : Session) (c : Cause) : List EpochEntry :=
  (s.step? c).elim [] fun t => s.ending c
    ++ (effects (t.history.drop s.history.length)).flatMap
      (Effect.epochEntries (t.openers.filterMap OpenStage.begun?))

def epochLedger (s : Session) (cs : List Cause) : List EpochEntry := gathered epochEntries s cs

end Session
end PartitionConsumer
