import PartitionConsumer.Proofs.OpenSequence.Steering
import PartitionConsumer.Proofs.CutShort.Cutting
/-!
# Runs that go by a script

In a run that goes by a script the transport answers the opening call as the script says, after any time, and
nobody cuts the open short; the lease may be raised at any point. Whatever the run, the call is at a point of
its route.
-/
namespace PartitionConsumer

/-- Time passes, the lease is raised, or a call to open the pump comes. -/
def Cause.isIdle : Cause → Bool
  | .start | .bump | .pass _ => true
  | _ => false

namespace Script

/-- The script after a cause that concerns the opening call `id`, or leaves it alone. -/
def next? (k : Script) (terms : Terms) (id : Nat) (s : Session) : Cause → Option Script
  | .answer j a => if j = id then ((s.call? id).bind (·.request)).bind (k.heed? terms a) else none
  | .wake j => if j = id then some k else none
  | c => if c.isIdle then some k else none

/-- A run that goes by the script: the call `id` is told what is in it, and otherwise only idle things happen.
What is left of the script, and the session to which the run has come. -/
def play? (k : Script) (terms : Terms) (id : Nat) (s : Session) : List Cause → Option (Script × Session)
  | [] => some (k, s)
  | c :: cs => (k.next? terms id s c).bind fun k' => (s.step? c).bind fun t => k'.play? terms id t cs

variable {k k' : Script} {terms : Terms} {id : Nat} {s t : Session} {c : Cause} {cs ds : List Cause}

/-- A run by a script is a run. -/
theorem run_of_play? (h : k.play? terms id s cs = some (k', t)) : s.run cs = some t := by
  induction cs generalizing k s with
  | nil => rw [(Prod.mk.inj (Option.some.inj h)).2]; rfl
  | cons c cs ih =>
    obtain ⟨k₁, -, h⟩ := Option.bind_eq_some_iff.1 h
    obtain ⟨u, hu, h⟩ := Option.bind_eq_some_iff.1 h
    rw [Session.run, hu]
    exact ih h

theorem play?_cons (hk : k.next? terms id s c = some k') (hs : s.step? c = some t) :
    k.play? terms id s (c :: cs) = k'.play? terms id t cs := by
  rw [play?, hk, Option.bind_some, hs, Option.bind_some]

theorem play?_append (h : k.play? terms id s cs = some (k', t)) :
    k.play? terms id s (cs ++ ds) = k'.play? terms id t ds := by
  induction cs generalizing k s with
  | nil =>
    obtain ⟨rfl, rfl⟩ := Prod.mk.inj (Option.some.inj h)
    rfl
  | cons c cs ih =>
    obtain ⟨k₁, hk, h⟩ := Option.bind_eq_some_iff.1 h
    obtain ⟨u, hu, h⟩ := Option.bind_eq_some_iff.1 h
    exact (play?_cons hk hu).trans (ih h)

end Script

/-- A time cannot be computed: the deadline of an attempt that begins now, or some wait between two
attempts. -/
def Terms.Overruns (terms : Terms) (now : Nat) : Prop :=
  terms.options.attemptDeadline? now = none
    ∨ ∃ n e, 1 ≤ n ∧ n < terms.limit ∧ terms.options.retry.delay n (terms.draw n) = .error e

theorem Options.attemptDeadline?_eq_none_of_le {o : Options} {now later : Nat} (hn : now ≤ later)
    (h : o.attemptDeadline? now = none) : o.attemptDeadline? later = none := by
  unfold attemptDeadline? deadline? at *
  cases ho : o.attemptLimit with
  | none =>
    rw [ho] at h
    cases h
  | some limit =>
    simp only [ho, Option.map_eq_none_iff, ite_eq_right_iff, reduceCtorEq, imp_false, Nat.not_lt] at h ⊢
    exact Nat.le_trans h (Nat.add_le_add_right (Nat.mul_le_mul_right _ hn) _)

theorem Terms.Overruns.of_le {terms : Terms} {now later : Nat} (h : terms.Overruns now) (hn : now ≤ later) :
    terms.Overruns later :=
  h.imp_left (Options.attemptDeadline?_eq_none_of_le hn)

namespace Point

def isDead : Point → Bool
  | dead _ => true
  | _ => false

variable {k : Script} {terms : Terms} {now epoch : Nat} {p q : Point} {es : List Effect} {a : Answer}

theorem Sequel.overruns {past : List Nat} {b : Attempt} {e : TransportError}
    (h : Sequel terms now epoch past b e q es) (hb : 1 ≤ b.number) (hq : q.isDead = true) :
    terms.Overruns now := by
  cases h with
  | late _ hl hd =>
    obtain ⟨e', hd⟩ | ⟨-, -, -, hd⟩ := hd
    · exact .inr ⟨b.number, e', hb, hl, hd⟩
    · exact .inl hd
  | _ => cases hq

/-- The call dies only where a time cannot be computed. -/
theorem Moves.overruns (h : Moves terms now epoch p a q es) (hp : p.Sound k terms) (hq : q.isDead = true) :
    terms.Overruns now := by
  have first {past : List Nat} {b : Attempt} (h : k.Tries terms past b) : 1 ≤ b.number := by
    rw [h.number]
    exact Nat.succ_pos _
  cases h with
  | beginLate _ hd | wokenLate hd => exact .inl hd
  | clientLate h => exact h.overruns (first hp) hq
  | clientFailed h | abandoned _ h => exact h.overruns (first hp.1) hq
  | _ => cases hq

end Point

namespace Session

/-- The epochs that are read in a step: each attempt reads that of the lease, and asks for a client. -/
def readings (s : Session) (c : Cause) : List Nat :=
  (s.step? c).elim [] fun t =>
    List.replicate (asked (· == .createClient) (t.history.drop s.history.length)) s.pump.lease.epoch

structure Stands (terms : Terms) (id : Nat) (pt : Point) (s : Session) : Prop where
  tidy : s.Tidy
  pump : pt.Holds terms s.pump
  calls : s.calls = (pt.waiting? terms).toList.map (id, ·)

structure Voyages (k : Script) (terms : Terms) (id : Nat) (h : List Mark) (pt : Point) (s : Session) :
    Prop where
  tidy : s.Tidy
  pump : pt.Holds terms s.pump
  calls : s.calls = (pt.waiting? terms).toList.map (id, ·)
  sound : pt.Sound k terms
  marks : ∃ ms, s.history = h ++ ms ∧ effects ms = pt.seen k terms
  late : pt.isDead = true → terms.Overruns s.now

variable {k k' : Script} {terms : Terms} {id : Nat} {h : List Mark} {pt : Point} {s t : Session} {c : Cause}

theorem gathered_append {α : Type} {f : Session → Cause → List α} {cs ds : List Cause}
    (h : s.run cs = some t) : gathered f s (cs ++ ds) = gathered f s cs ++ gathered f t ds := by
  induction cs generalizing s with
  | nil =>
    obtain rfl := Option.some.inj h
    rfl
  | cons c cs ih =>
    obtain ⟨u, hu, h⟩ := Option.bind_eq_some_iff.1 h
    simp only [List.cons_append, gathered, hu, Option.elim_some, ih h, List.append_assoc]

theorem readings_eq (hs : s.step? c = some t) {ms : List Mark} (ht : t.history = s.history ++ ms) :
    s.readings c
      = List.replicate ((effects ms).countP (Effect.asks (· == .createClient))) s.pump.lease.epoch := by
  rw [readings, hs, Option.elim_some, ht, List.drop_left]
  rfl

/-- An idle step shows nothing and changes nothing but the lease and the clock, once the pump was started. -/
theorem Tidy.step_idle (hi : s.Tidy) (hs : s.step? c = some t) (hc : c.isIdle = true)
    (hp : s.pump.status ≠ .uninitialized) :
    (∃ lease, t.pump = { s.pump with lease }) ∧ t.calls = s.calls ∧ s.now ≤ t.now
      ∧ ∃ ms, t.history = s.history ++ ms ∧ effects ms = [] := by
  have hstep := step_of_step? hi.trace hs
  cases hstep with
  | start hm =>
    cases hm with
    | ignored => exact ⟨⟨_, rfl⟩, rfl, Nat.le_refl _, _, history_carry_of _ _ _ _ _ rfl, rfl⟩
    | opens _ hu => exact absurd hu hp
  | bump => exact ⟨⟨_, rfl⟩, rfl, Nat.le_refl _, [], (List.append_nil _).symm, rfl⟩
  | pass ticks => exact ⟨⟨_, rfl⟩, rfl, Nat.le_add_right .., _, rfl, rfl⟩
  | tellStart _ _ _ _ ht | tellShutdown _ _ _ _ _ _ ht | tellDelivery _ _ _ _ ht | tellReport _ _ _ _ ht =>
    cases ht <;> cases hc
  | _ => cases hc

namespace Stands

theorem call? (hv : s.Stands terms id pt) : s.call? id = pt.waiting? terms := by
  rw [Session.call?, hv.calls]
  cases pt.waiting? terms <;> simp

theorem started (hv : s.Stands terms id pt) : s.pump.status ≠ .uninitialized := by
  have hp := hv.pump
  cases pt with
  | ended epochs f =>
    cases f with
    | opened => rw [hp.1]; nofun
    | failed => rw [hp.status]; nofun
  | dead => rw [hp]; nofun
  | _ => rw [hp.status]; nofun

/-- The opening call is told something, and comes to another point of its route. -/
theorem lands (hv : s.Stands terms id pt) {w : Waiting} {a : Answer} {P : Point → List Effect → Prop}
    (ht : s.Tells id w a c) (hs : s.step? c = some t)
    (hg : ∀ stage request m, pt.waiting? terms = some ⟨.start, .start stage, request⟩ →
      s.pump.resumeStart s.now stage a = some m → s.pump.Goes m (Pump.Lands terms P)) :
    t.now = s.now ∧ ∃ pt' es nx, P pt' es ∧ t.Stands terms id pt'
      ∧ t.history = s.history ++ w.marks id a ++ es.map (.did id) ++ Next.marks id .start nx := by
  have hw := hv.call?.symm.trans ht.call?
  obtain ⟨errand, call, request⟩ := w
  obtain ⟨rfl, stage, rfl⟩ := Point.exists_stage hw
  obtain ⟨m, hm⟩ := ht.exists_resume rfl hs
  obtain ⟨q, es, nx, hq, hl⟩ := ht.exists_step hv.tidy rfl hm (hg stage request m hw hm)
  obtain rfl := Option.some.inj (hs.symm.trans hq)
  obtain ⟨pt', hp, hq', hn⟩ := hl.arrives
  refine ⟨rfl, pt', es, nx, hp, ⟨hv.tidy.step (step_of_step? hv.tidy.trace hs), hq', ?_⟩, rfl⟩
  have hcalls : (s.take id).calls = [] := by simp [take, hv.calls, hw]
  rw [calls_carry, hn]
  exact (congrArg (_ ++ ·) hcalls).trans (List.append_nil _)

end Stands

namespace Voyages

theorem stands (hv : s.Voyages k terms id h pt) : s.Stands terms id pt := ⟨hv.tidy, hv.pump, hv.calls⟩

theorem call? (hv : s.Voyages k terms id h pt) : s.call? id = pt.waiting? terms := hv.stands.call?

/-- The opening call is told something, and goes on to the next point of its route. -/
theorem tell (hv : s.Voyages k terms id h pt) {w : Waiting} {a : Answer}
    (ht : s.Tells id w a c) (ha : a ≠ .cancelled) (hk : pt.Hears k terms a k') (hs : s.step? c = some t) :
    t.now = s.now ∧ ∃ pt' es, pt.Moves terms s.now s.pump.lease.epoch a pt' es
      ∧ t.Voyages k terms id h pt' ∧ pt'.script k terms = k' ∧ pt'.epochs = pt.epochs ++ s.readings c := by
  obtain ⟨hnow, pt', es, nx, hmove, hst, hms⟩ := hv.stands.lands ht hs
    fun _ _ _ hw hm => Pump.goes_resumeStart_lands hv.pump hv.sound hk hw ha hm
  obtain ⟨hadv, hscript⟩ := hmove.advances hv.sound hk
  simp only [List.append_assoc] at hms
  have hes : effects (w.marks id a ++ (es.map (.did id) ++ Next.marks id .start nx)) = es := by simp
  refine ⟨hnow, pt', es, hmove, ⟨hst.tidy, hst.pump, hst.calls, hadv.sound, ?_,
    fun hd => hnow.symm ▸ hmove.overruns hv.sound hd⟩, hscript, ?_⟩
  · obtain ⟨before, hb, heb⟩ := hv.marks
    exact ⟨_, by rw [hms, hb, List.append_assoc], by rw [effects_append, heb, hes, hadv.seen]⟩
  · rw [readings_eq hs hms, hes]
    exact hadv.epochs

/-- An idle step leaves the call where it is. -/
theorem idle (hv : s.Voyages k terms id h pt) (hc : c.isIdle = true) (hs : s.step? c = some t) :
    t.Voyages k terms id h pt ∧ s.readings c = [] := by
  obtain ⟨⟨lease, hp⟩, hcalls, hnow, ms, hms, hes⟩ := hv.tidy.step_idle hs hc hv.stands.started
  obtain ⟨before, hb, heb⟩ := hv.marks
  refine ⟨⟨hv.tidy.step (step_of_step? hv.tidy.trace hs), ?_, hcalls.trans hv.calls, hv.sound,
    ⟨before ++ ms, ?_, ?_⟩, fun hd => (hv.late hd).of_le hnow⟩, ?_⟩
  · rw [hp]
    exact hv.pump.with_lease lease
  · rw [hms, hb, List.append_assoc]
  · rw [effects_append, heb, hes, List.append_nil]
  · rw [readings_eq hs hms, hes]
    rfl

/-- A step that goes by the script tells the call something, or leaves it alone. -/
theorem heeds (hv : s.Voyages k terms id h pt)
    (hk : (pt.script k terms).next? terms id s c = some k') (hs : s.step? c = some t) :
    (c.isIdle = true ∧ pt.script k terms = k')
      ∨ ∃ w a, s.Tells id w a c ∧ a ≠ .cancelled ∧ pt.Hears k terms a k' := by
  cases c with
  | answer j a =>
    obtain ⟨rfl, hk⟩ := Option.ite_none_right_eq_some.1 hk
    obtain ⟨r, hr, hh⟩ := Option.bind_eq_some_iff.1 hk
    obtain ⟨w, hw, hstep⟩ := Option.bind_eq_some_iff.1 hs
    obtain ⟨ha, -⟩ := Option.ite_none_right_eq_some.1 hstep
    refine .inr ⟨w, a, .answer hw ha, ?_, ?_⟩
    · rintro rfl
      rw [hw] at hr
      cases r with
      | createClient | createReceiver =>
        obtain ⟨ht, -⟩ := Option.ite_none_right_eq_some.1 hh
        rw [Turnout.tells_cancelled] at ht
        cases ht
      | _ => simp [Waiting.admits, show w.request = some _ from hr] at ha
    · rw [Point.Hears, ← hv.call?, hr]
      exact hh
  | wake j =>
    obtain ⟨rfl, hk'⟩ := Option.ite_none_right_eq_some.1 hk
    obtain ⟨w, hw, hstep⟩ := Option.bind_eq_some_iff.1 hs
    obtain ⟨hr, hstep⟩ := Option.ite_none_right_eq_some.1 hstep
    obtain ⟨a, ha, -⟩ := Option.bind_eq_some_iff.1 hstep
    have hrw := Option.isNone_iff_eq_none.1 hr
    have hwp := hv.call?.symm.trans hw
    refine .inr ⟨w, a, .wake hw hrw ha, ?_, ?_⟩
    · rintro rfl
      exact w.call.ownAnswer?_ne_cancelled (hv.pump.stopping hwp) ha
    · rw [Point.Hears, hwp, Option.bind_some, hrw]
      exact (Option.some.inj hk').symm
  | start => exact .inl ⟨rfl, Option.some.inj hk⟩
  | bump => exact .inl ⟨rfl, Option.some.inj hk⟩
  | pass => exact .inl ⟨rfl, Option.some.inj hk⟩
  | _ => cases hk

/-- A step that goes by the script. -/
theorem next (hv : s.Voyages k terms id h pt)
    (hk : (pt.script k terms).next? terms id s c = some k') (hs : s.step? c = some t) :
    ∃ pt', t.Voyages k terms id h pt' ∧ pt'.script k terms = k' ∧ pt'.epochs = pt.epochs ++ s.readings c := by
  obtain ⟨hc, hk'⟩ | ⟨w, a, ht, ha, hh⟩ := hv.heeds hk hs
  · obtain ⟨hv', hr⟩ := hv.idle hc hs
    exact ⟨pt, hv', hk', by rw [hr, List.append_nil]⟩
  · obtain ⟨-, pt', -, -, hv', hk', he⟩ := hv.tell ht ha hh hs
    exact ⟨pt', hv', hk', he⟩

/-- A run that goes by the script. -/
theorem play {cs : List Cause} (hv : s.Voyages k terms id h pt)
    (hp : (pt.script k terms).play? terms id s cs = some (k', t)) :
    ∃ pt', t.Voyages k terms id h pt' ∧ pt'.script k terms = k'
      ∧ pt'.epochs = pt.epochs ++ gathered readings s cs := by
  induction cs generalizing s pt with
  | nil =>
    obtain ⟨hk, rfl⟩ := Prod.mk.inj (Option.some.inj hp)
    exact ⟨pt, hv, hk, (List.append_nil _).symm⟩
  | cons c cs ih =>
    obtain ⟨k₁, hk, hp⟩ := Option.bind_eq_some_iff.1 hp
    obtain ⟨u, hu, hp⟩ := Option.bind_eq_some_iff.1 hp
    obtain ⟨pt₁, hv₁, rfl, he₁⟩ := hv.next hk hu
    obtain ⟨pt₂, hv₂, hk₂, he₂⟩ := ih hv₁ hp
    refine ⟨pt₂, hv₂, hk₂, ?_⟩
    rw [he₂, he₁, gathered, hu, Option.elim_some, List.append_assoc]

end Voyages
end Session
end PartitionConsumer
