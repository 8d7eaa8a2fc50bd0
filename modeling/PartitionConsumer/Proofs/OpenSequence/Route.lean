import PartitionConsumer.Proofs.OpenSequence.Script
import PartitionConsumer.Proofs.Session.Steps
/-!
# The route of an open

The points at which a sequence of attempts stands, from the opening hook to its end, and how it moves from one
to the next when its call is told something, as long as nobody cuts it short. At each point there is only one
thing that can have been seen so far, if the transport has answered as the script says.
-/
namespace PartitionConsumer

/-- Where a sequence of attempts stands. The numbers are the epochs of the attempts before, or of all of them
when the last is over. -/
inductive Point where
  /-- In the opening hook. -/
  | hook
  | client (past : List Nat) (a : Attempt)
  | clientReady (past : List Nat) (a : Attempt) (answer : Except TransportError Nat)
  | receiver (past : List Nat) (a : Attempt) (client : Nat)
  | receiverReady (past : List Nat) (a : Attempt) (client : Nat) (answer : Except TransportError Nat)
  /-- While the client of a failed attempt is closed. -/
  | abandon (past : List Nat) (a : Attempt) (client : Nat) (e : TransportError)
  /-- Between two attempts. -/
  | pause (epochs : List Nat) (a : Attempt) (wake : Nat)
  | ended (epochs : List Nat) (f : Finale)
  /-- A time could not be computed, and the call has died. -/
  | dead (epochs : List Nat)

def Finale.waiting? : Finale → Option Waiting
  | opened .. => none
  | failed e => some ⟨.start, .start (.failed e), some (.hook (.onError (.opening e)))⟩

structure Script.Tries (k : Script) (terms : Terms) (past : List Nat) (a : Attempt) : Prop where
  usable : terms.refusal? = none
  number : a.number = past.length + 1
  cursor : a.cursor = terms.cursor
  room : past.length < terms.limit
  transient : ∀ i < past.length, (k.after terms i).isTransient terms = true

/-- The attempts up to one that has failed for now, and the next one. -/
theorem Script.Tries.snoc {k : Script} {terms : Terms} {past : List Nat} {b c : Attempt} {e : TransportError}
    (hk : k.Tries terms past b) (ho : (k.after terms past.length).outcome terms = .error e)
    (he : e.isFenced = false) (hl : b.number < terms.limit) (hn : c.number = b.number + 1)
    (hc : c.cursor = b.cursor) :
    k.Tries terms (past ++ [b.epoch]) c where
  usable := hk.usable
  number := by rw [hn, hk.number, List.length_append]; rfl
  cursor := hc.trans hk.cursor
  room := by rw [List.length_append]; exact hk.number ▸ hl
  transient i hi := by
    rw [List.length_append] at hi
    obtain h | rfl : i < past.length ∨ i = past.length := by simp at hi; omega
    · exact hk.transient i h
    · exact Script.isTransient_eq_true_iff.2 ⟨e, ho, he⟩

/-- The attempt is the last one. -/
theorem Script.Tries.last {k : Script} {terms : Terms} {past : List Nat} {a : Attempt}
    (hk : k.Tries terms past a)
    (hr : (k.after terms past.length).isTransient terms = false ∨ terms.limit ≤ past.length + 1) :
    k.retries terms = past.length ∧ k.attempts terms = past.length + 1 := by
  have hn := Script.retries_eq hk.transient hk.room hr
  refine ⟨hn, ?_⟩
  rw [Script.attempts, hk.usable, hn]

/-- The attempt is one of those that are made. -/
theorem Script.Tries.lt_attempts {k : Script} {terms : Terms} {past : List Nat} {a : Attempt}
    (hk : k.Tries terms past a) : past.length < k.attempts terms := by
  rw [Script.attempts, hk.usable]
  exact Nat.lt_succ_of_le (Script.le_retries hk.transient hk.room)

namespace Point

section Defs

variable (k : Script) (terms : Terms)

def epochs : Point → List Nat
  | hook => []
  | client past a | clientReady past a _ | receiver past a _ | receiverReady past a _ _
  | abandon past a _ _ => past ++ [a.epoch]
  | pause epochs _ _ | ended epochs _ | dead epochs => epochs

def waiting? : Point → Option Waiting
  | hook => some ⟨.start, .start .onOpen, some (.hook .onOpen)⟩
  | client _ a => some ⟨.start, .start (.client a), some .createClient⟩
  | clientReady _ a answer => some ⟨.start, .start (.clientReady a answer), none⟩
  | receiver _ a c =>
    some ⟨.start, .start (.receiver a c), some (.createReceiver c (terms.request a.epoch))⟩
  | receiverReady _ a c answer => some ⟨.start, .start (.receiverReady a c answer), none⟩
  | abandon _ a c e => some ⟨.start, .start (.abandon a (.failed e)), some (.closeClient c)⟩
  | pause _ a wake => some ⟨.start, .start (.backoff a wake), none⟩
  | ended _ f => f.waiting?
  | dead _ => none

/-- What has been seen since the opening hook has returned. -/
def seen : Point → List Effect
  | hook => []
  | client past _ | clientReady past _ _ => k.story terms past ++ [.ask .createClient]
  | receiver past a c | receiverReady past a c _ =>
    k.story terms past ++ [.ask .createClient, .ask (.createReceiver c (terms.request a.epoch))]
  | abandon past a c _ =>
    k.story terms past
      ++ [.ask .createClient, .ask (.createReceiver c (terms.request a.epoch)), .ask (.closeClient c)]
  | pause epochs _ _ | dead epochs => k.story terms epochs
  | ended epochs f => k.story terms epochs ++ f.effects terms

def script : Point → Script
  | hook => k
  | client past _ => k.after terms past.length
  | clientReady past _ _ | receiver past _ _ => (k.after terms past.length).dropClient terms
  | receiverReady past _ _ _ | abandon past _ _ _ => ((k.after terms past.length).dropClient terms).dropReceiver
  | pause epochs _ _ | ended epochs _ | dead epochs => k.after terms epochs.length

def Sound : Point → Prop
  | hook => 1 ≤ terms.limit
  | client past a => k.Tries terms past a
  | clientReady past a answer =>
    k.Tries terms past a ∧ ((k.after terms past.length).client terms).outcome = answer
  | receiver past a c => k.Tries terms past a ∧ ((k.after terms past.length).client terms).outcome = .ok c
  | receiverReady past a c answer =>
    k.Tries terms past a ∧ ((k.after terms past.length).client terms).outcome = .ok c
      ∧ ((k.after terms past.length).receiver terms).outcome = answer
  | abandon past a c e =>
    k.Tries terms past a ∧ ((k.after terms past.length).client terms).outcome = .ok c
      ∧ ((k.after terms past.length).receiver terms).outcome = .error e
  | pause epochs a _ =>
    k.Tries terms epochs { a with number := a.number + 1 }
  | ended epochs f =>
    epochs.length = k.attempts terms ∧ f = k.finale terms (epochs.getLastD 0)
  | dead _ => True

def Hears (p : Point) (a : Answer) (k' : Script) : Prop :=
  match (p.waiting? terms).bind (·.request) with
  | some r => (p.script k terms).heed? terms a r = some k'
  | none => k' = p.script k terms

end Defs

inductive Sequel (terms : Terms) (now epoch : Nat) (past : List Nat) (a : Attempt) (e : TransportError) :
    Point → List Effect → Prop where
  | fenced (h : e.isFenced = true) :
    Sequel terms now epoch past a e (ended (past ++ [a.epoch]) (.failed (.fenced a.epoch e)))
      (Finale.effects terms (.failed (.fenced a.epoch e)))
  | exhausted (h : e.isFenced = false) (hl : terms.limit ≤ a.number) :
    Sequel terms now epoch past a e (ended (past ++ [a.epoch]) (.failed (.retriesExhausted a.number e)))
      (terms.fault a.number a.epoch e :: Finale.effects terms (.failed (.retriesExhausted a.number e)))
  | again (h : e.isFenced = false) (hl : a.number < terms.limit) {wait : Span}
      (hw : terms.options.retry.delay a.number (terms.draw a.number) = .ok wait) (hz : wait.isZero = true)
      {deadline : Option Nat} (hd : terms.options.attemptDeadline? now = some deadline) :
    Sequel terms now epoch past a e (client (past ++ [a.epoch]) ⟨a.number + 1, a.cursor, epoch, deadline⟩)
      [terms.fault a.number a.epoch e, .ask .createClient]
  | pause (h : e.isFenced = false) (hl : a.number < terms.limit) {wait : Span}
      (hw : terms.options.retry.delay a.number (terms.draw a.number) = .ok wait) (hz : wait.isZero = false) :
    Sequel terms now epoch past a e (pause (past ++ [a.epoch]) a (wakeTime now wait))
      [terms.fault a.number a.epoch e]
  | late (h : e.isFenced = false) (hl : a.number < terms.limit)
      (hd : (∃ e', terms.options.retry.delay a.number (terms.draw a.number) = .error e')
        ∨ ∃ wait, terms.options.retry.delay a.number (terms.draw a.number) = .ok wait ∧ wait.isZero = true
          ∧ terms.options.attemptDeadline? now = none) :
    Sequel terms now epoch past a e (dead (past ++ [a.epoch])) [terms.fault a.number a.epoch e]

inductive Moves (terms : Terms) (now epoch : Nat) : Point → Answer → Point → List Effect → Prop where
  | refused {e : OpenError} (hc : terms.refusal? = some e) :
    Moves terms now epoch hook (.hook (.ok ())) (ended [] (.failed e)) (Finale.effects terms (.failed e))
  | begin (hc : terms.refusal? = none) {deadline : Option Nat}
      (hd : terms.options.attemptDeadline? now = some deadline) :
    Moves terms now epoch hook (.hook (.ok ())) (client [] ⟨1, terms.cursor, epoch, deadline⟩)
      [.ask .createClient]
  | beginLate (hc : terms.refusal? = none) (hd : terms.options.attemptDeadline? now = none) :
    Moves terms now epoch hook (.hook (.ok ())) (dead []) []
  | clientAnswered (past : List Nat) (a : Attempt) (answer : Except TransportError Nat) :
    Moves terms now epoch (client past a) (.client answer) (clientReady past a answer) []
  | clientLate {past : List Nat} {a : Attempt} {q : Point} {es : List Effect}
      (h : Sequel terms now epoch past a .attemptTimedOut q es) :
    Moves terms now epoch (client past a) .timedOut q es
  | clientFailed {past : List Nat} {a : Attempt} {e : TransportError} {q : Point} {es : List Effect}
      (h : Sequel terms now epoch past a e q es) :
    Moves terms now epoch (clientReady past a (.error e)) .resume q es
  | clientMade (past : List Nat) (a : Attempt) (c : Nat) :
    Moves terms now epoch (clientReady past a (.ok c)) .resume (receiver past a c)
      [.ask (.createReceiver c (terms.request a.epoch))]
  | receiverAnswered (past : List Nat) (a : Attempt) (c : Nat) (answer : Except TransportError Nat) :
    Moves terms now epoch (receiver past a c) (.receiver answer) (receiverReady past a c answer) []
  | receiverLate (past : List Nat) (a : Attempt) (c : Nat) :
    Moves terms now epoch (receiver past a c) .timedOut (abandon past a c .attemptTimedOut)
      [.ask (.closeClient c)]
  | receiverFailed (past : List Nat) (a : Attempt) (c : Nat) (e : TransportError) :
    Moves terms now epoch (receiverReady past a c (.error e)) .resume (abandon past a c e)
      [.ask (.closeClient c)]
  | receiverMade (past : List Nat) (a : Attempt) (c r : Nat) :
    Moves terms now epoch (receiverReady past a c (.ok r)) .resume
      (ended (past ++ [a.epoch]) (.opened a.number a.epoch ⟨c, r⟩))
      (Finale.effects terms (.opened a.number a.epoch ⟨c, r⟩))
  | abandoned {past : List Nat} {a : Attempt} {c : Nat} {e : TransportError} {q : Point} {es : List Effect}
      (outcome : Except TransportError Unit) (h : Sequel terms now epoch past a e q es) :
    Moves terms now epoch (abandon past a c e) (.released outcome) q es
  | woken {epochs : List Nat} {a : Attempt} {wake : Nat} {deadline : Option Nat}
      (hd : terms.options.attemptDeadline? now = some deadline) :
    Moves terms now epoch (pause epochs a wake) .elapsed
      (client epochs ⟨a.number + 1, a.cursor, epoch, deadline⟩) [.ask .createClient]
  | wokenLate {epochs : List Nat} {a : Attempt} {wake : Nat}
      (hd : terms.options.attemptDeadline? now = none) :
    Moves terms now epoch (pause epochs a wake) .elapsed (dead epochs) []

variable {k : Script} {terms : Terms} {now epoch : Nat} {p q : Point} {es : List Effect} {a : Answer}

/-- At every point the call that waits is one that opens the pump. -/
theorem exists_stage {w : Waiting} (h : p.waiting? terms = some w) :
    w.errand = .start ∧ ∃ stage, w.call = .start stage := by
  cases p with
  | ended epochs f =>
    cases f with
    | opened => cases h
    | failed e =>
      obtain rfl := Option.some.inj h
      exact ⟨rfl, _, rfl⟩
  | dead epochs => cases h
  | _ =>
    obtain rfl := Option.some.inj h
    exact ⟨rfl, _, rfl⟩

structure Advances (k : Script) (terms : Terms) (epoch : Nat) (p : Point) (es : List Effect) (q : Point) :
    Prop where
  sound : q.Sound k terms
  seen : q.seen k terms = p.seen k terms ++ es
  epochs : q.epochs = p.epochs ++ List.replicate (es.countP (Effect.asks (· == .createClient))) epoch

/-- An attempt that has failed ends the sequence, or is followed by another. -/
theorem Sequel.advances {past : List Nat} {b : Attempt} {e : TransportError}
    (h : Sequel terms now epoch past b e q es) (hk : k.Tries terms past b)
    (ho : (k.after terms past.length).outcome terms = .error e) (hp : p.epochs = past ++ [b.epoch])
    (hs : p.seen k terms = k.story terms past ++ (k.after terms past.length).asks terms b.epoch) :
    Advances k terms epoch p es q ∧ q.script k terms = k.after terms (past.length + 1) := by
  have hlen : (past ++ [b.epoch]).length = past.length + 1 := by rw [List.length_append]; rfl
  have hlast : (past ++ [b.epoch]).getLastD 0 = b.epoch := List.getLastD_concat ..
  have hstory : k.story terms (past ++ [b.epoch])
      = p.seen k terms ++ (k.after terms past.length).faults terms (past.length + 1) b.epoch := by
    rw [Script.story_snoc, hs, List.append_assoc]
  have hscript (epochs : List Nat) (he : epochs.length = past.length + 1) :
      k.after terms epochs.length = k.after terms (past.length + 1) := by rw [he]
  have hepochs : past ++ [b.epoch] = p.epochs ++ [] := hp.symm.trans (List.append_nil _).symm
  cases h with
  | fenced hf =>
    obtain ⟨hr, ha⟩ := hk.last (.inl (by simp [Script.isTransient, ho, hf]))
    refine ⟨⟨⟨by rw [hlen, ha], ?_⟩, ?_, ?_⟩, hscript _ hlen⟩
    · rw [hlast, Script.finale, hk.usable, hr, ho]
      simp [hf]
    · rw [seen, hstory, Script.faults, ho]
      simp [hf]
    · exact hepochs
  | exhausted hf hl =>
    rw [hk.number] at hl
    obtain ⟨hr, ha⟩ := hk.last (.inr hl)
    refine ⟨⟨⟨by rw [hlen, ha], ?_⟩, ?_, ?_⟩, hscript _ hlen⟩
    · rw [hlast, Script.finale, hk.usable, hr, ho, hk.number, ha]
      simp [hf]
    · rw [seen, hstory, Script.faults, ho, hk.number]
      simp [hf]
    · exact hepochs
  | late hf hl hd =>
    refine ⟨⟨trivial, ?_, ?_⟩, hscript _ hlen⟩
    · rw [seen, hstory, Script.faults, ho, hk.number]
      simp [hf]
    · exact hepochs
  | again hf hl hw hz hd =>
    refine ⟨⟨hk.snoc ho hf hl rfl rfl, ?_, ?_⟩, hscript _ hlen⟩
    · rw [seen, hstory, Script.faults, ho, hk.number]
      simp [hf]
    · rw [hp]
      rfl
  | pause hf hl hw hz =>
    refine ⟨⟨hk.snoc ho hf hl rfl rfl, ?_, ?_⟩, hscript _ hlen⟩
    · rw [seen, hstory, Script.faults, ho, hk.number]
      simp [hf]
    · exact hepochs

/-- The sequence follows the script. -/
theorem Moves.advances {k' : Script} (h : Moves terms now epoch p a q es) (hp : p.Sound k terms)
    (hk : p.Hears k terms a k') : Advances k terms epoch p es q ∧ q.script k terms = k' := by
  have silent {past : List Nat} {b : Attempt} {r : Point} (hr : r.Sound k terms)
      (hs : r.seen k terms = p.seen k terms) (he : p.epochs = past ++ [b.epoch])
      (he' : r.epochs = past ++ [b.epoch]) : Advances k terms epoch p [] r :=
    ⟨hr, hs.trans (List.append_nil _).symm, by rw [he', he]; exact (List.append_nil _).symm⟩
  cases h with
  | refused hc =>
    obtain rfl := Option.some.inj hk
    refine ⟨⟨⟨?_, ?_⟩, rfl, rfl⟩, rfl⟩
    · rw [Script.attempts, hc]
      rfl
    · rw [Script.finale, hc]
  | begin hc hd =>
    obtain rfl := Option.some.inj hk
    exact ⟨⟨⟨hc, rfl, rfl, hp, fun i hi => absurd hi (Nat.not_lt_zero i)⟩, rfl, rfl⟩, rfl⟩
  | beginLate hc hd =>
    obtain rfl := Option.some.inj hk
    exact ⟨⟨trivial, rfl, rfl⟩, rfl⟩
  | clientAnswered past b answer =>
    obtain ⟨ht, hk⟩ := Option.ite_none_right_eq_some.1 hk
    exact ⟨silent ⟨hp, Turnout.outcome_of_client ht⟩ rfl rfl rfl, Option.some.inj hk⟩
  | clientLate h =>
    rename_i past b
    obtain ⟨ht, hk⟩ := Option.ite_none_right_eq_some.1 hk
    have ho : ((k.after terms past.length).client terms).outcome = .error .attemptTimedOut :=
      Turnout.outcome_of_timedOut ht
    obtain ⟨ha, hs⟩ := h.advances (p := client past b) hp (Script.outcome_of_client ho) rfl
      (by rw [Script.asks_of_client ho]; rfl)
    exact ⟨ha, hs.trans ((Script.rest_of_client ho).trans (Option.some.inj hk))⟩
  | clientFailed h =>
    rename_i past b e
    obtain ⟨hp, ho⟩ := hp
    obtain ⟨ha, hs⟩ := h.advances (p := clientReady past b (.error e)) hp (Script.outcome_of_client ho) rfl
      (by rw [Script.asks_of_client ho]; rfl)
    exact ⟨ha, hs.trans ((Script.rest_of_client ho).trans hk.symm)⟩
  | clientMade past b c =>
    refine ⟨⟨hp, ?_, (List.append_nil _).symm⟩, hk.symm⟩
    rw [seen, seen, List.append_assoc]
    rfl
  | receiverAnswered past b c answer =>
    obtain ⟨ht, hk⟩ := Option.ite_none_right_eq_some.1 hk
    have ho := Script.receivers_dropClient hp.2 ▸ Turnout.outcome_of_receiver ht
    exact ⟨silent ⟨hp.1, hp.2, ho⟩ rfl rfl rfl, Option.some.inj hk⟩
  | receiverLate past b c =>
    obtain ⟨ht, hk⟩ := Option.ite_none_right_eq_some.1 hk
    have ho := Script.receivers_dropClient hp.2 ▸ Turnout.outcome_of_timedOut ht
    refine ⟨⟨⟨hp.1, hp.2, ho⟩, ?_, (List.append_nil _).symm⟩, Option.some.inj hk⟩
    rw [seen, seen, List.append_assoc]
    rfl
  | receiverFailed past b c e =>
    refine ⟨⟨hp, ?_, (List.append_nil _).symm⟩, hk.symm⟩
    rw [seen, seen, List.append_assoc]
    rfl
  | receiverMade past b c r =>
    obtain ⟨ht, hc, ho⟩ := hp
    have hout := Script.outcome_of_made hc ho
    obtain ⟨hr, ha⟩ := ht.last (.inl (by rw [Script.isTransient, hout]))
    have hlen : (past ++ [b.epoch]).length = past.length + 1 := List.length_append
    refine ⟨⟨⟨by rw [hlen, ha], ?_⟩, ?_, (List.append_nil _).symm⟩, ?_⟩
    · rw [List.getLastD_concat, Script.finale, ht.usable, hr, hout, ht.number, ha]
    · rw [seen, seen, Script.story_snoc, Script.asks_of_made hc ho, Script.faults, hout]
      simp
    · rw [script, hlen]
      exact (Script.rest_of_made hc).trans hk.symm
  | abandoned outcome h =>
    rename_i past b c e
    obtain ⟨ht, hc, ho⟩ := hp
    obtain ⟨ha, hs⟩ := h.advances (p := abandon past b c e) ht (Script.outcome_of_receiver hc ho) rfl
      (by rw [Script.asks_of_receiver hc ho]; rfl)
    exact ⟨ha, hs.trans ((Script.rest_of_made hc).trans (Option.some.inj hk))⟩
  | woken hd => exact ⟨⟨⟨hp.usable, hp.number, hp.cursor, hp.room, hp.transient⟩, rfl, rfl⟩, hk.symm⟩
  | wokenLate hd => exact ⟨⟨trivial, (List.append_nil _).symm, (List.append_nil _).symm⟩, hk.symm⟩

end Point
end PartitionConsumer
