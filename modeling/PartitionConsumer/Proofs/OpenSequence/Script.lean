import PartitionConsumer.Proofs.Session.Basic
/-!
# The open sequence by its script

A script says how the transport answers, call for call, and how long it takes: it has the calls for a client
and the calls for a receiver, each in their own order, and an attempt whose client step fails uses up nothing of
the second. The two steps of an attempt share its time, and a call that takes longer than is left is never
answered. What an open comes to is read off the script alone, without the calls that wait, their timers or the
state of a pump: which attempts are made, what each of them asks for and publishes, and how the sequence ends.
-/
namespace PartitionConsumer

/-- How a call of the transport that creates something turns out: what is answered and after how many ticks, or
that nothing is. -/
inductive Turnout where
  | makes (number ticks : Nat)
  | fails (error : TransportError) (ticks : Nat)
  | hangs
  deriving DecidableEq, Repr, Inhabited

namespace Turnout

/-- What the step of an attempt comes to. One that is never answered is given up at the deadline. -/
def outcome : Turnout → Except TransportError Nat
  | makes number _ => .ok number
  | fails e _ => .error e
  | hangs => .error .attemptTimedOut

def ticks : Turnout → Nat
  | makes _ n | fails _ n => n
  | hangs => 0

/-- How the call turns out where so much time is left for it. What is answered on the last tick is in time. -/
def within (left : Option Nat) (t : Turnout) : Turnout := if left.all (t.ticks ≤ ·) then t else hangs

def tells : Turnout → Answer → Bool
  | makes n _, .client (.ok m) | makes n _, .receiver (.ok m) => n == m
  | fails e _, .client (.error f) | fails e _, .receiver (.error f) => e == f
  | hangs, .timedOut => true
  | _, _ => false

theorem tells_cancelled (t : Turnout) : t.tells .cancelled = false := by cases t <;> rfl

theorem tells_client {t : Turnout} (h : t ≠ hangs) : t.tells (.client t.outcome) = true := by
  cases t with
  | hangs => exact absurd rfl h
  | _ => simp [tells, outcome]

theorem tells_receiver {t : Turnout} (h : t ≠ hangs) : t.tells (.receiver t.outcome) = true := by
  cases t with
  | hangs => exact absurd rfl h
  | _ => simp [tells, outcome]

theorem outcome_of_client {t : Turnout} {answer : Except TransportError Nat}
    (h : t.tells (.client answer) = true) : t.outcome = answer := by
  unfold tells at h
  split at h <;> simp_all [outcome]

theorem outcome_of_receiver {t : Turnout} {answer : Except TransportError Nat}
    (h : t.tells (.receiver answer) = true) : t.outcome = answer := by
  unfold tells at h
  split at h <;> simp_all [outcome]

theorem outcome_of_timedOut {t : Turnout} (h : t.tells .timedOut = true) :
    t.outcome = .error .attemptTimedOut := by
  unfold tells at h
  split at h <;> simp_all [outcome]

end Turnout

structure Script where
  clients : Nat → Turnout
  receivers : Nat → Turnout

inductive Finale where
  | opened (attempts epoch : Nat) (connection : Connection)
  | failed (error : OpenError)
  deriving DecidableEq, Repr, Inhabited

/-- What an open has to go by: whose it is and where reading is to start, what was set for it, and the draws
for its waits. -/
structure Terms where
  context : Context
  options : Options
  draw : Nat → Nat

namespace Terms

variable (terms : Terms)

def cursor : Cursor := terms.context.cursor.getD (.token "")

def refusal? : Option OpenError :=
  match terms.context.cursor with
  | none => some (.invalidCursor "no starting cursor")
  | some (.token "") => some (.invalidCursor "empty position token")
  | some _ => none

def limit : Nat := terms.options.retry.maxAttempts

/-- The ticks that an attempt may take, if that is limited. -/
def allowance : Option Nat := terms.options.attemptLimit.map Span.ticks

/-- The receiver an attempt asks for. -/
def request (epoch : Nat) : ReceiverRequest where
  group := terms.context.group
  partition := terms.context.partition
  cursor := terms.cursor
  epoch := epoch
  metrics := terms.options.metricsEnabled
  identifier := some terms.context.receiverName

/-- The event about an attempt that has failed for now. -/
def fault (number epoch : Nat) (e : TransportError) : Effect :=
  .publish
    { kind := .openAttemptFailed, partition := terms.context.partition, attempt := number, epoch
      reason := e.message }

end Terms

def Finale.effects (terms : Terms) : Finale → List Effect
  | opened attempts epoch c =>
    [.tune c.receiver terms.options.prefetchCount terms.options.receiveTimeout, .status .running,
      .install c.receiver,
      .publish { kind := .pumpRunning, partition := terms.context.partition, attempt := attempts, epoch }]
  | failed e => [.ask (.hook (.onError (.opening e)))]

namespace Script

variable (k : Script) (terms : Terms)

def client : Turnout := (k.clients 0).within terms.allowance

def receiver : Turnout := (k.receivers 0).within (terms.allowance.map (· - (k.clients 0).ticks))

/-- The script after a call for a client. If that has made one then the next call for a receiver has what is
left of the time. -/
def dropClient : Script where
  clients n := k.clients (n + 1)
  receivers n :=
    match n, (k.client terms).outcome with
    | 0, .ok _ => k.receiver terms
    | _, _ => k.receivers n

def dropReceiver : Script := { k with receivers := fun n => k.receivers (n + 1) }

/-- The script after a request is answered, if this is the answer in it; the opening hook succeeds. -/
def heed? (a : Answer) : Request → Option Script
  | .hook .onOpen =>
    match a with
    | .hook (.ok ()) => some k
    | _ => none
  | .createClient => if (k.client terms).tells a then some (k.dropClient terms) else none
  | .createReceiver .. => if (k.receivers 0).tells a then some k.dropReceiver else none
  | .closeClient _ => some k
  | _ => none

/-- The outcome of an attempt: the error of its client step if that fails, else of its receiver step, else
its connection. -/
def outcome : Except TransportError Connection :=
  match (k.client terms).outcome with
  | .error e => .error e
  | .ok client =>
    match (k.receiver terms).outcome with
    | .error e => .error e
    | .ok receiver => .ok { client, receiver }

/-- The script after an attempt. A failed client step uses up no call for a receiver. -/
def rest : Script :=
  match (k.client terms).outcome with
  | .error _ => k.dropClient terms
  | .ok _ => (k.dropClient terms).dropReceiver

def after : Nat → Script
  | 0 => k
  | n + 1 => (after n).rest terms

/-- Whether the attempt fails, but not for good. -/
def isTransient : Bool :=
  match k.outcome terms with
  | .ok _ => false
  | .error e => !e.isFenced

/-- How many attempts are followed by another: those before the first of them whose outcome is not
transient, or before the last if there is no such. -/
def retries : Nat :=
  ((List.range terms.limit).find? fun n => !(k.after terms n).isTransient terms).getD (terms.limit - 1)

def attempts : Nat :=
  match terms.refusal? with
  | some _ => 0
  | none => k.retries terms + 1

def finale (epoch : Nat) : Finale :=
  match terms.refusal? with
  | some e => .failed e
  | none =>
    match (k.after terms (k.retries terms)).outcome terms with
    | .ok c => .opened (k.attempts terms) epoch c
    | .error e =>
      if e.isFenced then .failed (.fenced epoch e) else .failed (.retriesExhausted (k.attempts terms) e)

def asks (epoch : Nat) : List Effect :=
  .ask .createClient :: match (k.client terms).outcome with
    | .error _ => []
    | .ok client =>
      .ask (.createReceiver client (terms.request epoch)) :: match (k.receiver terms).outcome with
        | .error _ => [.ask (.closeClient client)]
        | .ok _ => []

def faults (number epoch : Nat) : List Effect :=
  match k.outcome terms with
  | .ok _ => []
  | .error e => if e.isFenced then [] else [terms.fault number epoch e]

def story (epochs : List Nat) : List Effect :=
  epochs.zipIdx.flatMap fun (epoch, n) =>
    (k.after terms n).asks terms epoch ++ (k.after terms n).faults terms (n + 1) epoch

variable {k} {terms} {n epoch : Nat}

theorem story_snoc (epochs : List Nat) (epoch : Nat) :
    k.story terms (epochs ++ [epoch]) = k.story terms epochs
      ++ ((k.after terms epochs.length).asks terms epoch
        ++ (k.after terms epochs.length).faults terms (epochs.length + 1) epoch) := by
  simp [story, List.zipIdx_append]

section Steps

variable {e : TransportError} {c r : Nat}

theorem receivers_dropClient (h : (k.client terms).outcome = .ok c) :
    (k.dropClient terms).receivers 0 = k.receiver terms := by
  simp only [dropClient, h]

/-! An attempt whose client step fails, -/

theorem outcome_of_client (h : (k.client terms).outcome = .error e) : k.outcome terms = .error e := by
  rw [outcome, h]

theorem rest_of_client (h : (k.client terms).outcome = .error e) : k.rest terms = k.dropClient terms := by
  rw [rest, h]

theorem asks_of_client (h : (k.client terms).outcome = .error e) :
    k.asks terms epoch = [.ask .createClient] := by
  rw [asks, h]

/-! one whose receiver step does, -/

theorem outcome_of_receiver (hc : (k.client terms).outcome = .ok c)
    (h : (k.receiver terms).outcome = .error e) : k.outcome terms = .error e := by
  simp only [outcome, hc, h]

theorem rest_of_made (hc : (k.client terms).outcome = .ok c) :
    k.rest terms = (k.dropClient terms).dropReceiver := by
  rw [rest, hc]

theorem asks_of_receiver (hc : (k.client terms).outcome = .ok c)
    (h : (k.receiver terms).outcome = .error e) : k.asks terms epoch
      = [.ask .createClient, .ask (.createReceiver c (terms.request epoch)), .ask (.closeClient c)] := by
  simp only [asks, hc, h]

/-! and one that succeeds. -/

theorem outcome_of_made (hc : (k.client terms).outcome = .ok c) (h : (k.receiver terms).outcome = .ok r) :
    k.outcome terms = .ok ⟨c, r⟩ := by
  simp only [outcome, hc, h]

theorem asks_of_made (hc : (k.client terms).outcome = .ok c) (h : (k.receiver terms).outcome = .ok r) :
    k.asks terms epoch = [.ask .createClient, .ask (.createReceiver c (terms.request epoch))] := by
  simp only [asks, hc, h]

end Steps

theorem isTransient_eq_true_iff :
    k.isTransient terms = true ↔ ∃ e, k.outcome terms = .error e ∧ e.isFenced = false := by
  unfold isTransient
  split <;> simp_all

/-- An attempt ends the sequence if its outcome is not transient, and at any rate if it is the last. -/
theorem retries_eq (ht : ∀ i < n, (k.after terms i).isTransient terms = true) (hn : n < terms.limit)
    (he : (k.after terms n).isTransient terms = false ∨ terms.limit ≤ n + 1) : k.retries terms = n := by
  unfold retries
  cases hc : (k.after terms n).isTransient terms with
  | false =>
    have hf : (List.range terms.limit).find? (fun n => !(k.after terms n).isTransient terms) = some n := by
      refine List.find?_range_eq_some.2 ⟨by rw [hc]; rfl, List.mem_range.2 hn, fun j hj => ?_⟩
      rw [ht j hj]
      rfl
    rw [hf]
    rfl
  | true =>
    have hl : terms.limit = n + 1 := by
      obtain hn' | hn' := he
      · rw [hc] at hn'
        cases hn'
      · omega
    have hf : (List.range terms.limit).find? (fun n => !(k.after terms n).isTransient terms) = none := by
      refine List.find?_range_eq_none.2 fun i hi => ?_
      obtain h | rfl : i < n ∨ i = n := by omega
      · rw [ht i h]
        rfl
      · rw [hc]
        rfl
    rw [hf, hl]
    rfl

/-- As long as all have failed for now, and there may be another, the attempts are among those that are
made. -/
theorem le_retries (ht : ∀ i < n, (k.after terms i).isTransient terms = true) (hn : n < terms.limit) :
    n ≤ k.retries terms := by
  refine Nat.le_of_not_lt fun hlt => ?_
  have hr := ht _ hlt
  unfold retries at hr hlt
  cases hf : (List.range terms.limit).find? fun n => !(k.after terms n).isTransient terms with
  | some m =>
    rw [hf] at hr
    have hm := (List.find?_range_eq_some.1 hf).1
    rw [Option.getD_some] at hr
    rw [hr] at hm
    cases hm
  | none =>
    rw [hf, Option.getD_none] at hlt
    omega

end Script
end PartitionConsumer
