import PartitionConsumer.Proofs.OpenSequence.Schedule
import PartitionConsumer.Proofs.OpenFailures.Silence
/-!
# The open sequence

An open does what the script of the transport says, however late it is told the answers: it makes the
attempts that are read off the script, asks and publishes for each what that one calls for, and ends as the
script does. If every attempt comes to an end then so does the open, wherever it stands: from there on the
script can be played to its end, which is reached on schedule.
-/
namespace PartitionConsumer

namespace Point

variable {k : Script} {terms : Terms} {past : List Nat} {a : Attempt} {c : Nat} {shown : List Effect}

theorem story_of_asks (h : shown <+: (k.after terms past.length).asks terms a.epoch) :
    k.story terms past ++ shown <+: k.story terms (past ++ [a.epoch]) := by
  rw [Script.story_snoc]
  exact (List.prefix_append_right_inj _).2 (h.trans (List.prefix_append ..))

/-- An attempt whose client was made asks for a receiver. -/
theorem asks_of_client (h : ((k.after terms past.length).client terms).outcome = .ok c) :
    [.ask .createClient, .ask (.createReceiver c (terms.request a.epoch))]
      <+: (k.after terms past.length).asks terms a.epoch := by
  cases hr : ((k.after terms past.length).receiver terms).outcome with
  | error e =>
    rw [Script.asks_of_receiver h hr]
    exact ⟨[.ask (.closeClient c)], rfl⟩
  | ok r => exact ⟨[], (List.append_nil _).trans (Script.asks_of_made h hr).symm⟩

/-- As long as it is not over, the sequence makes attempts that are in the script, and what has been seen is a
beginning of what it says. -/
theorem Sound.story {pt : Point} (h : pt.Sound k terms) (ho : ∀ epochs f, pt ≠ .ended epochs f)
    (hd : pt.isDead = false) :
    pt.epochs.length ≤ k.attempts terms ∧ pt.seen k terms <+: k.story terms pt.epochs := by
  have next {past : List Nat} {b : Attempt} (h : k.Tries terms past b) :
      (past ++ [b.epoch]).length ≤ k.attempts terms := by
    rw [List.length_append]
    exact h.lt_attempts
  cases pt with
  | hook => exact ⟨Nat.zero_le _, List.prefix_refl _⟩
  | client past b => exact ⟨next h, story_of_asks ⟨_, rfl⟩⟩
  | clientReady past b answer => exact ⟨next h.1, story_of_asks ⟨_, rfl⟩⟩
  | receiver past b c => exact ⟨next h.1, story_of_asks (asks_of_client h.2)⟩
  | receiverReady past b c answer => exact ⟨next h.1, story_of_asks (asks_of_client h.2.1)⟩
  | abandon past b c e =>
    exact ⟨next h.1, story_of_asks ⟨[], (List.append_nil _).trans (Script.asks_of_receiver h.2.1 h.2.2).symm⟩⟩
  | pause epochs b wake => exact ⟨Nat.le_of_lt h.lt_attempts, List.prefix_refl _⟩
  | ended epochs f => exact absurd rfl (ho epochs f)
  | dead => cases hd

end Point

namespace Session

/-- The open is under way: it has made some of the attempts of the script, and what has been seen is a
beginning of what the script says. -/
structure MidStory (k : Script) (terms : Terms) (id : Nat) (epochs : List Nat) (es : List Effect)
    (s : Session) : Prop where
  call : ∃ w stage, s.call? id = some w ∧ w.call = .start stage
    ∧ (stage = .onOpen ∨ stage.isConnecting = true)
  attempts : epochs.length ≤ k.attempts terms
  seen : es <+: k.story terms epochs

structure AtFinale (k : Script) (terms : Terms) (id : Nat) (epochs : List Nat) (es : List Effect)
    (s : Session) : Prop where
  attempts : epochs.length = k.attempts terms
  seen : es = k.story terms epochs ++ (k.finale terms (epochs.getLastD 0)).effects terms
  /-- The call has returned, or passes its error to the hook. -/
  call : s.call? id = (k.finale terms (epochs.getLastD 0)).waiting?
  running : ∀ n epoch c, k.finale terms (epochs.getLastD 0) = .opened n epoch c →
    s.pump.status = .running ∧ s.pump.connection = some c

variable {k : Script} {terms : Terms} {id : Nat} {h : List Mark} {pt : Point} {s t : Session} {c : Cause}

theorem Voyages.at_finale {epochs : List Nat} {f : Finale} (hv : s.Voyages k terms id h (.ended epochs f)) :
    ∃ ms, s.history = h ++ ms ∧ s.AtFinale k terms id epochs (effects ms) := by
  obtain ⟨ms, hms, hes⟩ := hv.marks
  obtain ⟨hlen, rfl⟩ := hv.sound
  refine ⟨ms, hms, hlen, hes, hv.call?, fun n epoch c hf => ?_⟩
  have hp := hv.pump
  rw [hf] at hp
  exact hp

theorem Voyages.mid_story (hv : s.Voyages k terms id h pt) (hd : pt.isDead = false)
    (ho : ∀ epochs f, pt ≠ .ended epochs f) :
    ∃ ms, s.history = h ++ ms ∧ s.MidStory k terms id pt.epochs (effects ms) := by
  have under_way {w : Waiting} {stage : OpenStage} (hw : pt.waiting? terms = some w)
      (hc : w.call = .start stage) (hk : stage = .onOpen ∨ stage.isConnecting = true) :
      ∃ ms, s.history = h ++ ms ∧ s.MidStory k terms id pt.epochs (effects ms) := by
    obtain ⟨ms, hms, hes⟩ := hv.marks
    obtain ⟨ha, hs⟩ := hv.sound.story ho hd
    exact ⟨ms, hms, ⟨w, stage, hv.call?.trans hw, hc, hk⟩, ha, hes ▸ hs⟩
  cases pt with
  | ended epochs f => exact absurd rfl (ho epochs f)
  | dead => cases hd
  | hook => exact under_way rfl rfl (.inl rfl)
  | _ => exact under_way rfl rfl (.inr rfl)

/-- Played on from `u`, which it has reached by `ds`, the script brings the sequence to its end at this tick. -/
def PlaysOut (s : Session) (k : Script) (terms : Terms) (id : Nat) (ds : List Cause) (rest : Script)
    (u : Session) (tick : Nat) : Prop :=
  ∃ ds' rest' t ms, rest.play? terms id u ds' = some (rest', t) ∧ t.now = tick ∧ t.history = s.history ++ ms
    ∧ t.AtFinale k terms id (gathered readings s (ds ++ ds')) (effects ms)

theorem Leads.plays_out {u : Session} {ds : List Cause} {epochs : List Nat} {f : Finale}
    (hl : u.Leads k terms id s.history pt t (.ended epochs f)) (hu : s.run ds = some u)
    (hp : pt.epochs = gathered readings s ds) : s.PlaysOut k terms id ds (pt.script k terms) u t.now := by
  obtain ⟨ds', hds, he⟩ := hl.play
  obtain ⟨ms, hms, hf⟩ := hl.voyages.at_finale
  refine ⟨ds', _, t, ms, hds, rfl, hms, ?_⟩
  rw [gathered_append hu, ← hp, ← he]
  exact hf

/-! ## Before the opening hook returns -/

/-- Nothing has happened to a pump but that the lease was raised and the open begun. -/
structure Fresh (p : Pump) (s : Session) : Prop where
  tidy : s.Tidy
  stands : ∃ lease, s.pump = { p with lease } ∧ s.calls = []
    ∨ s.pump = { p with lease, status := .opening, phase := .opening }
      ∧ ∃ id, s.calls = [(id, ⟨.start, .start .onOpen, some (.hook .onOpen)⟩)]

theorem Fresh.step {p : Pump} (hf : s.Fresh p) (hs : s.step? c = some t) (hc : c.isIdle = true) :
    t.Fresh p := by
  have hstep := step_of_step? hf.tidy.trace hs
  refine ⟨hf.tidy.step hstep, ?_⟩
  obtain ⟨lease, hst⟩ := hf.stands
  cases hstep with
  | start hm =>
    cases hm with
    | ignored => exact ⟨lease, hst⟩
    | opens _ hu =>
      obtain ⟨hp, hcalls⟩ | ⟨hp, -⟩ := hst
      · refine ⟨lease, .inr ⟨?_, s.next, ?_⟩⟩
        · rw [pump_carry, hp]
          rfl
        · rw [calls_carry]
          exact congrArg (_ ++ ·) hcalls
      · rw [hp] at hu
        cases hu
  | bump =>
    refine ⟨lease.bump, ?_⟩
    obtain ⟨hp, hcalls⟩ | ⟨hp, hcalls⟩ := hst
    · exact .inl ⟨by rw [hp], hcalls⟩
    · exact .inr ⟨by rw [hp], hcalls⟩
  | pass ticks => exact ⟨lease, hst⟩
  | tellStart _ _ _ _ ht | tellShutdown _ _ _ _ _ _ ht | tellDelivery _ _ _ _ ht | tellReport _ _ _ _ ht =>
    cases ht <;> cases hc
  | _ => cases hc

end Session

section Main

variable {terms : Terms} {lease : Lease} {wire : String}

/-- The open of a pump that was left alone is in its hook, if it has begun. -/
theorem Session.Fresh.in_hook {s : Session}
    (hf : s.Fresh (.new terms.context lease terms.options wire terms.draw)) :
    s.calls = [] ∨ ∃ id, s.Stands terms id .hook := by
  obtain ⟨lease', ⟨-, hcalls⟩ | ⟨hp, id, hcalls⟩⟩ := hf.stands
  · exact .inl hcalls
  · refine .inr ⟨id, hf.tidy, ?_, hcalls⟩
    rw [hp]
    exact ⟨rfl, rfl, rfl, rfl, rfl, rfl, rfl⟩

theorem Session.voyages_of_run {cs : List Cause} {s : Session} {id : Nat} {w : Waiting}
    (h : (Session.new (.new terms.context lease terms.options wire terms.draw)).run cs = some s)
    (hc : cs.all Cause.isIdle = true) (hw : s.call? id = some w) (hm : 1 ≤ terms.limit) (k : Script) :
    s.Voyages k terms id s.history .hook := by
  have hf : s.Fresh (.new terms.context lease terms.options wire terms.draw) :=
    Session.run_induction (P := Session.Fresh (.new terms.context lease terms.options wire terms.draw))
      ⟨.new _ rfl rfl, lease, .inl ⟨rfl, rfl⟩⟩
      (fun u d v hd hu hv => hu.step hv (List.all_eq_true.1 hc d hd)) h
  have hmem := Session.mem_of_call? hw
  obtain hcalls | ⟨id', hs⟩ := hf.in_hook
  · rw [hcalls] at hmem
    cases hmem
  · rw [hs.calls] at hmem
    obtain ⟨rfl, -⟩ := Prod.mk.inj (List.mem_singleton.1 hmem)
    exact ⟨hs.tidy, hs.pump, hs.calls, hm, ⟨[], (List.append_nil _).symm, rfl⟩, fun hd => by cases hd⟩

/-- An open that nobody cuts short does what the script says, whatever time it is told the answers, if every
deadline and every wait can be computed. Wherever it stands the script can be played on, and if every attempt
to come ends then so does the open, on schedule. -/
theorem open_follows_script {cs : List Cause} {s : Session} {id : Nat} {w : Waiting}
    (h : (Session.new (.new terms.context lease terms.options wire terms.draw)).run cs = some s)
    (hc : cs.all Cause.isIdle = true) (hw : s.call? id = some w) (hm : 1 ≤ terms.limit)
    (hd : ∀ n, 1 ≤ n → n < terms.limit → ∃ wait, terms.options.retry.delay n (terms.draw n) = .ok wait)
    (k : Script) :
    (∀ ds rest u, k.play? terms id s ds = some (rest, u) →
      (terms.options.attemptDeadline? u.now).isSome = true →
      ∃ ms, u.history = s.history ++ ms
        ∧ (u.AtFinale k terms id (Session.gathered Session.readings s ds) (effects ms)
          ∨ u.MidStory k terms id (Session.gathered Session.readings s ds) (effects ms)
            ∧ ∀ tick, u.endsAt? k terms id rest (Session.gathered Session.readings s ds).length = some tick →
              s.PlaysOut k terms id ds rest u tick))
      ∧ ∀ tick, k.endsAt? terms 0 s.now (k.attempts terms) = some tick → s.PlaysOut k terms id [] k s tick := by
  have hv := Session.voyages_of_run h hc hw hm k
  refine ⟨fun ds rest u hp hdl => ?_, fun tick he => ?_⟩
  · obtain ⟨pt, hv', rfl, he⟩ := hv.play hp
    have halive : pt.isDead = false := by
      refine Bool.eq_false_iff.2 fun hdead => ?_
      obtain hno | ⟨n, e, h1, hn, he⟩ := hv'.late hdead
      · rw [hno] at hdl
        cases hdl
      · obtain ⟨wait, hw⟩ := hd n h1 hn
        rw [he] at hw
        cases hw
    replace he : pt.epochs = Session.gathered Session.readings s ds := he
    rw [← he]
    by_cases hend : ∃ epochs f, pt = .ended epochs f
    · obtain ⟨epochs, f, rfl⟩ := hend
      obtain ⟨ms, hms, hf⟩ := hv'.at_finale
      exact ⟨ms, hms, .inl hf⟩
    · have ho (epochs : List Nat) (f : Finale) : pt ≠ .ended epochs f := fun he => hend ⟨epochs, f, he⟩
      obtain ⟨ms, hms, hmid⟩ := hv'.mid_story halive ho
      refine ⟨ms, hms, .inr ⟨hmid, fun tick ht => ?_⟩⟩
      obtain ⟨t, epochs, f, hl, rfl⟩ := hv'.comes_to_end ho ht
      exact hl.plays_out (Script.run_of_play? hp) he
  · have hstart : OpenStage.onOpen.goesOnAt? terms k s.now 0 k 0 = some s.now := rfl
    obtain ⟨t, epochs, f, hl, rfl⟩ := (hv.onward rfl (by simp) hstart).comes_to_end (Nat.sub_zero _) he
    exact hl.plays_out rfl rfl

/-- A client that cannot be had, then a receiver that is made too late, and then a connection. A client takes
5 ticks, the last receiver 10. -/
def Script.faltering : Script where
  clients n := if n = 0 then .fails ⟨.connection, "no route"⟩ 0 else .makes n 5
  receivers n := .makes n (if n = 0 then 5000 else 10)

/-- A run by this script in which the first answer is told late. The lease is raised while the open waits for
its second attempt. -/
def Script.falteringRun : List Cause :=
  [.answer 0 (.hook (.ok ())), .pass 40, .answer 0 (.client (.error ⟨.connection, "no route"⟩)), .wake 0, .bump,
    .pass 150, .wake 0, .answer 0 (.client (.ok 1)), .wake 0, .pass 1000, .answer 0 .timedOut,
    .answer 0 (.released (.ok ())), .pass 200, .wake 0, .answer 0 (.client (.ok 2)), .wake 0,
    .answer 0 (.receiver (.ok 1)), .wake 0]

/-- Attempts of a second, with a tenth of a second after the first that fails. -/
def Terms.sample : Terms where
  context := ⟨"h", "g", "0", some (.timestamp ⟨0⟩), none⟩
  options := { attemptTimeout := .ofSeconds 1, retry := { first := .ofMillis 100 } }
  draw _ := 0

/-- The third attempt brings the connection, in this run, when it is played on while the first answer is late,
and when nothing is. -/
theorem open_follows_script_to_third_attempt :
    ∃ s, (Session.new (.new Terms.sample.context ⟨"0", "h", 1⟩ Terms.sample.options "mock"
        Terms.sample.draw)).run [.bump, .start, .pass 3] = some s
      ∧ (∃ u rest ms, Script.faltering.play? .sample 0 s Script.falteringRun = some (rest, u)
        ∧ u.history = s.history ++ ms ∧ u.AtFinale .faltering .sample 0 [2, 3, 3] (effects ms))
      ∧ (∃ u rest, Script.faltering.play? .sample 0 s (Script.falteringRun.take 2) = some (rest, u) ∧ u.now = 43
        ∧ s.PlaysOut .faltering .sample 0 (Script.falteringRun.take 2) rest u 1358)
      ∧ s.PlaysOut .faltering .sample 0 [] .faltering s 1318 := by
  have hlate : ((Session.new (.new Terms.sample.context ⟨"0", "h", 1⟩ Terms.sample.options "mock"
        Terms.sample.draw)).run [.bump, .start, .pass 3]).bind (fun s =>
      (Script.faltering.play? .sample 0 s (Script.falteringRun.take 2)).map fun x =>
        (s.now, (s.call? 0).isSome, x.2.now,
          (Session.gathered Session.readings s (Script.falteringRun.take 2)).length,
          x.2.endsAt? .faltering .sample 0 x.1 1))
      = some (3, true, 43, 1, some 1358) := by decide +kernel
  have hrun : ((Session.new (.new Terms.sample.context ⟨"0", "h", 1⟩ Terms.sample.options "mock"
        Terms.sample.draw)).run [.bump, .start, .pass 3]).bind (fun s =>
      (Script.faltering.play? .sample 0 s Script.falteringRun).map fun x =>
        (x.2.now, (x.2.call? 0).isNone, Session.gathered Session.readings s Script.falteringRun))
      = some (1393, true, [2, 3, 3]) := by decide +kernel
  obtain ⟨s, hs, hlate⟩ := Option.bind_eq_some_iff.1 hlate
  rw [hs, Option.bind_some] at hrun
  obtain ⟨⟨rest, v⟩, hv, hrun⟩ := Option.map_eq_some_iff.1 hrun
  obtain ⟨⟨rest', u⟩, hu, hlate⟩ := Option.map_eq_some_iff.1 hlate
  simp only [Prod.mk.injEq] at hrun hlate
  obtain ⟨hvn, hvc, hve⟩ := hrun
  obtain ⟨hsn, hw, hun, hlen, hend⟩ := hlate
  obtain ⟨w, hw⟩ := Option.isSome_iff_exists.1 hw
  have hwait (n : Nat) (h1 : 1 ≤ n) (hn : n < 5) :
      ∃ wait, Terms.sample.options.retry.delay n 0 = .ok wait := by
    obtain rfl | rfl | rfl | rfl : n = 1 ∨ n = 2 ∨ n = 3 ∨ n = 4 := by omega
    · exact ⟨.ofMillis 100, by decide +kernel⟩
    · exact ⟨.ofMillis 200, by decide +kernel⟩
    · exact ⟨.ofMillis 400, by decide +kernel⟩
    · exact ⟨.ofMillis 800, by decide +kernel⟩
  obtain ⟨hplay, hall⟩ := open_follows_script hs rfl hw (by decide) hwait .faltering
  refine ⟨s, hs, ?_, ⟨u, rest', hu, hun, ?_⟩, hall 1318 (by rw [hsn]; decide +kernel)⟩
  · obtain ⟨ms, hms, hf | ⟨hm, -⟩⟩ := hplay _ rest v hv (by rw [hvn]; decide +kernel)
    · exact ⟨v, rest, ms, hv, hms, hve ▸ hf⟩
    · -- the call has returned
      obtain ⟨w', -, hw', -⟩ := hm.call
      rw [Option.isNone_iff_eq_none.1 hvc] at hw'
      cases hw'
  · obtain ⟨ms, hms, hf | ⟨-, hends⟩⟩ := hplay _ rest' u hu (by rw [hun]; decide +kernel)
    · -- there is more than one attempt
      have hattempts : Script.faltering.attempts .sample = 3 := by decide +kernel
      have hall := hf.attempts
      omega
    · exact hends 1358 (hlen.symm ▸ hend)

end Main
end PartitionConsumer
