import PartitionConsumer.Proofs.Grace
import PartitionConsumer.Proofs.OpenSequence
import PartitionConsumer.Proofs.LiveClients
/-!
# The pace of the transport

How long the transport takes for the two steps of an attempt, and what becomes of the attempt then. In a run at
this pace each step is answered when its time has come and not before, closing a client takes no time, and a step
that can be answered when the deadline comes is not late.
-/
namespace PartitionConsumer

/-- The ticks that the transport takes to make a client, and then to make a receiver; nothing if it never
answers. -/
structure Pace where
  client : Option Nat
  receiver : Option Nat
  deriving DecidableEq, Repr, Inhabited

inductive Fate where
  | opened
  /-- The deadline has come before the client. -/
  | noClient
  /-- The deadline has come before the receiver. -/
  | noReceiver
  deriving DecidableEq, Repr, Inhabited

namespace Pace

/-- How an attempt ends, and after how many ticks, if it ends at all. A limit of no ticks is none. -/
def fate (p : Pace) (limit : Nat) : Option (Fate × Nat) :=
  if limit = 0 then
    match p.client, p.receiver with
    | some c, some r => some (.opened, c + r)
    | _, _ => none
  else
    match p.client with
    | some c =>
      if c ≤ limit then
        match p.receiver with
        | some r => if c + r ≤ limit then some (.opened, c + r) else some (.noReceiver, limit)
        | none => some (.noReceiver, limit)
      else some (.noClient, limit)
    | none => some (.noClient, limit)

variable {p : Pace} {limit c r : Nat}

theorem fate_opened (hc : p.client = some c) (hr : p.receiver = some r) (hd : limit = 0 ∨ c + r ≤ limit) :
    p.fate limit = some (.opened, c + r) := by
  unfold fate
  rw [hc, hr]
  dsimp only
  split
  · rfl
  · rename_i hl
    have hle := hd.resolve_left hl
    rw [if_pos (by omega), if_pos hle]

theorem fate_noClient (hl : 0 < limit) (hc : ∀ c, p.client = some c → limit < c) :
    p.fate limit = some (.noClient, limit) := by
  unfold fate
  rw [if_neg hl.ne']
  cases hk : p.client with
  | none => rfl
  | some c => exact if_neg (Nat.not_le.2 (hc c hk))

theorem fate_noReceiver (hl : 0 < limit) (hc : p.client = some c) (hle : c ≤ limit)
    (hr : ∀ r, p.receiver = some r → limit < c + r) : p.fate limit = some (.noReceiver, limit) := by
  unfold fate
  rw [if_neg hl.ne', hc]
  dsimp only
  rw [if_pos hle]
  cases hk : p.receiver with
  | none => rfl
  | some r => exact if_neg (Nat.not_le.2 (hr r hk))

end Pace

def OpenStage.attempt? : OpenStage → Option Attempt
  | .client a | .clientReady a _ | .receiver a _ | .receiverReady a _ _ | .abandon a _ => some a
  | _ => none

def Session.attempt? (s : Session) (id : Nat) : Option Attempt :=
  (s.call? id).bind fun w => match w.call with
    | .start stage => stage.attempt?
    | _ => none

/-! ## Runs at a pace -/

namespace Pace

/-- The ticks that pass before a request is answered, if it ever is. -/
def ticks? (p : Pace) : Request → Option Nat
  | .createClient => p.client
  | .createReceiver .. => p.receiver
  | _ => some 0

/-- Whether a request is still open after so many ticks, or is answered then. -/
def mayWait (p : Pace) (ticks : Nat) (r : Request) : Bool := (p.ticks? r).all (ticks ≤ ·)

/-- Whether a request may be answered like this after so many ticks. -/
def mayAnswer (p : Pace) (ticks : Nat) (r : Request) : Answer → Bool
  | .client (.error _) | .receiver (.error _) => false
  | .timedOut => p.ticks? r != some ticks
  | _ => p.ticks? r == some ticks

/-- Whether this can happen next where the transport serves the call `id` at this pace, and nobody cuts the call
short. -/
def admits (p : Pace) (id : Nat) (s : Session) : Cause → Bool
  | .start | .bump => true
  | .pass ticks => ticks == 0 || s.idleUntil (s.now + ticks)
      && ((s.call? id).bind (·.request)).all (p.mayWait (sinceAsked id s.history + ticks))
  | .answer j a => j == id
      && ((s.call? id).bind (·.request)).all (p.mayAnswer (sinceAsked id s.history) · a)
  | .wake j => j == id
  | _ => false

/-- Whether a run keeps this pace as long as the call makes the attempt `a`, and ends with it at the latest. -/
def keeps (p : Pace) (id : Nat) (a : Attempt) (s : Session) : List Cause → Bool
  | [] => true
  | c :: cs => s.attempt? id == some a && p.admits id s c && (s.step? c).all fun t => p.keeps id a t cs

variable {p : Pace} {id : Nat} {a : Attempt} {s t u : Session} {c : Cause} {cs ds : List Cause}

structure Leads (p : Pace) (id : Nat) (a : Attempt) (s : Session) (cs : List Cause) (t : Session) : Prop where
  run : s.run cs = some t
  keeps : p.keeps id a s cs = true

theorem Leads.refl (s : Session) : p.Leads id a s [] s := ⟨rfl, rfl⟩

theorem Leads.cons (ha : s.attempt? id = some a) (hc : p.admits id s c = true) (hs : s.step? c = some t)
    (hl : p.Leads id a t cs u) : p.Leads id a s (c :: cs) u where
  run := by
    rw [Session.run, hs]
    exact hl.run
  keeps := by
    rw [Pace.keeps, ha, hc, hs]
    simpa using hl.keeps

theorem Leads.exists_step (hl : p.Leads id a s (c :: cs) u) :
    ∃ t, s.attempt? id = some a ∧ p.admits id s c = true ∧ s.step? c = some t ∧ p.Leads id a t cs u := by
  obtain ⟨t, ht, hr⟩ := Option.bind_eq_some_iff.1 hl.run
  have hk := hl.keeps
  rw [Pace.keeps, ht, Bool.and_eq_true, Bool.and_eq_true] at hk
  exact ⟨t, eq_of_beq hk.1.1, hk.1.2, ht, hr, hk.2⟩

end Pace

/-! ## How an attempt ends -/

/-- How the attempt `a` of the call `id` has ended in `t`, where `ms` is what has been seen of it since it asked
for its client. -/
inductive Session.Ends (terms : Terms) (id : Nat) (a : Attempt) (t : Session) : Fate → List Mark → Prop where
  /-- The pump runs with the connection that was made. -/
  | opened {ms : List Mark} (c r : Nat) (hm : made ms = [.closeClient c, .clearHandler r, .closeReceiver r])
    (he : effects ms = .ask (.createReceiver c (terms.request a.epoch))
      :: Finale.effects terms (.opened a.number a.epoch ⟨c, r⟩))
    (hl : liveClients t.history = [c]) (hp : t.pump.status = .running ∧ t.pump.connection = some ⟨c, r⟩)
    (hc : t.call? id = none) : Ends terms id a t .opened ms
  /-- Nothing was made, no receiver was asked for, and the timeout is published as a failure of this attempt. The
  next attempt follows, or the error hook is told of the last one. -/
  | noClient {ms : List Mark} {past : List Nat} {epoch : Nat} {pt : Point} {es : List Effect} (hm : made ms = [])
    (he : effects ms = terms.fault a.number a.epoch .attemptTimedOut :: es)
    (hl : liveClients t.history = [])
    (hs : Point.Sequel terms t.now epoch past a .attemptTimedOut pt
      (terms.fault a.number a.epoch .attemptTimedOut :: es))
    (hc : t.call? id = pt.waiting? terms) : Ends terms id a t .noClient ms
  /-- The client alone was made, and closed after one request for a receiver. It goes on as before. -/
  | noReceiver {ms : List Mark} {past : List Nat} {epoch : Nat} {pt : Point} {es : List Effect} (c : Nat)
    (hm : made ms = [.closeClient c])
    (he : effects ms = [.ask (.createReceiver c (terms.request a.epoch)), .ask (.closeClient c)]
      ++ terms.fault a.number a.epoch .attemptTimedOut :: es)
    (hl : liveClients t.history = [])
    (hs : Point.Sequel terms t.now epoch past a .attemptTimedOut pt
      (terms.fault a.number a.epoch .attemptTimedOut :: es))
    (hc : t.call? id = pt.waiting? terms) : Ends terms id a t .noReceiver ms

/-- The attempt `a`, which began at `start` with the history `h`, is over, and has ended at the time of its fate
and with it. -/
structure Session.Over (p : Pace) (terms : Terms) (id : Nat) (a : Attempt) (start limit : Nat) (h : List Mark)
    (s : Session) : Prop where
  attempt : s.attempt? id ≠ some a
  fate : ∃ f n, p.fate limit = some (f, n) ∧ s.now = start + n
    ∧ ∃ ms, s.history = h ++ ms ∧ s.Ends terms id a f ms

/-- The attempt `a` goes on, which began at `start` with the history `h`. If it has a fate then it is not beyond
that, and a run at the pace leads to it; otherwise it may go on up to any time. -/
structure Session.UnderWay (p : Pace) (terms : Terms) (id : Nat) (a : Attempt) (start limit : Nat)
    (h : List Mark) (s : Session) : Prop where
  attempt : s.attempt? id = some a
  ends : ∀ f n, p.fate limit = some (f, n) → s.now ≤ start + n
    ∧ ∃ ds t, p.Leads id a s ds t ∧ t.Over p terms id a start limit h
  waits : p.fate limit = none → ∀ m, s.now ≤ m →
    ∃ ds t, p.Leads id a s ds t ∧ t.attempt? id = some a ∧ t.now = m

end PartitionConsumer
