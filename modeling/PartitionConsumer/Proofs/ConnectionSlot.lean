import PartitionConsumer.Proofs.Session.Openers
import PartitionConsumer.Proofs.Session.Settings
import PartitionConsumer.Proofs.ConnectionSlot.Impulses
/-!
# The connection of a pump

A pump has its connection exactly while it runs or has broken down. It gets one at most, before any
shutdown was requested, and what was taken out is never put back. The receiver it holds has the pump's
handler, and only the pump takes that off. Calls may be dropped at any time.
-/
namespace PartitionConsumer

/-- The handler was installed on the receiver, and its clearing was not asked for since. -/
def Equipped (h : List Mark) (r : Nat) : Prop :=
  ∃ pre post, effects h = pre ++ .install r :: post ∧ .ask (.clearHandler r) ∉ post

/-- The slot is empty, holds one connection for a while, and is empty again. -/
def HeldOnce (l : List (Option Connection)) : Prop :=
  ∃ i j k c, l = List.replicate i none ++ (List.replicate j (some c) ++ List.replicate k none)

theorem Equipped.append {h ms : List Mark} {r : Nat} (hs : Equipped h r)
    (he : (effects ms).all Effect.isInert = true) : Equipped (h ++ ms) r := by
  obtain ⟨pre, post, hp, hn⟩ := hs
  refine ⟨pre, post ++ effects ms, by rw [effects_append, hp]; simp, fun hm => ?_⟩
  obtain hm | hm := List.mem_append.1 hm
  · exact hn hm
  · cases List.all_eq_true.1 he _ hm

/-- Of a receiver that was made the opening call is told by the transport. -/
theorem Pump.OpenMove.receiverReady {p q : Pump} {es : List Effect} {nx : Next} {stage : OpenStage}
    {answer : Answer} {a : Attempt} {client r : Nat} (h : p.OpenMove stage answer q es nx)
    (hn : nx.opening? = some (.receiverReady a client (.ok r))) : answer = .receiver (.ok r) := by
  have never {p : Pump} {cut : Bool} {shown : List Effect} (hm : p.AttemptMove cut shown q es nx) : False := by
    cases hm <;> cases hn
  cases h with
  | receiverAnswered b k answer =>
    cases hn
    rfl
  | connect _ _ hm => exact (never hm).elim
  | clientFailed _ _ _ hm => exact (never hm).elim
  | abandoned _ _ _ hm => exact (never hm).elim
  | pauseOver _ _ hm => exact (never hm).elim
  | _ => cases hn

namespace Session

variable {s t : Session} {c : Cause}

/-- What the slot holds before the first cause and after each. -/
def slots (s : Session) : List Cause → List (Option Connection)
  | [] => [s.pump.connection]
  | c :: cs => s.pump.connection :: ((s.step? c).map (·.slots cs)).getD []

/-- The connection was put in with the handler on its receiver. -/
def Equips (s : Session) : Prop := ∀ c, s.pump.connection = some c → Equipped s.history c.receiver

theorem Equips.step (h : s.Equips) (hs : s.Shifts t) : t.Equips := by
  intro c hc
  cases hs with
  | stays hk he =>
    obtain ⟨ms, hm, he⟩ := he
    rw [hm]
    exact (h c (hk ▸ hc)).append he
  | empty hk =>
    rw [hk] at hc
    cases hc
  | fills a k es _ _ hf he =>
    obtain ⟨ms, hm, he⟩ := he
    obtain rfl := Option.some.inj (hf.connection.symm.trans hc)
    refine ⟨effects s.history ++ [.tune k.receiver s.pump.options.prefetchCount s.pump.options.receiveTimeout,
      .status .running], [s.pump.event { kind := .pumpRunning, attempt := a.number, epoch := a.epoch }],
      ?_, by simp [Pump.event]⟩
    rw [hm, effects_append, he, hf.effects, List.append_assoc]
    rfl

namespace Anchored

/-- A step puts a connection in only while none was there and the pump opens. -/
theorem slot_step (h : s.Anchored) (hs : s.step? c = some t) :
    t.pump.connection = s.pump.connection ∨ t.pump.connection = none
      ∨ s.pump.phase = .opening ∧ s.pump.connection = none ∧ t.pump.stopping = false := by
  cases (step_of_step? h.led.tidy.trace hs).shifts h with
  | stays hc => exact .inl hc
  | empty hc => exact .inr (.inl hc)
  | fills a k es _ hp hf => exact .inr (.inr ⟨hp, h.connection_of_opening hp, hf.stopping⟩)

theorem step? (h : s.Anchored) (hs : s.step? c = some t) : t.Anchored :=
  h.step (step_of_step? h.led.tidy.trace hs)

/-- When the open has settled and the slot is empty, it stays so. -/
theorem slots_of_settled (h : s.Anchored) (hp : s.pump.phase = .settled) (hc : s.pump.connection = none)
    (cs : List Cause) : ∃ k, s.slots cs = List.replicate k none := by
  induction cs generalizing s with
  | nil => exact ⟨1, by rw [slots, hc]; rfl⟩
  | cons c cs ih =>
    cases hs : s.step? c with
    | none => exact ⟨1, by rw [slots, hs, hc]; rfl⟩
    | some t =>
      have ht : t.pump.connection = none := by
        obtain ht | ht | ⟨ho, -⟩ := h.slot_step hs
        · exact ht.trans hc
        · exact ht
        · rw [hp] at ho
          cases ho
      obtain ⟨k, hk⟩ := ih (h.step? hs) ((step_of_step? h.led.tidy.trace hs).settled h.led hp) ht
      refine ⟨k + 1, ?_⟩
      rw [slots, hs, hc, Option.map_some, Option.getD_some, hk]
      rfl

/-- A connection that is in the slot stays in it, or is taken out for good. -/
theorem slots_of_some (h : s.Anchored) {k : Connection} (hc : s.pump.connection = some k)
    (cs : List Cause) :
    ∃ m n, s.slots cs = List.replicate m (some k) ++ List.replicate n none := by
  induction cs generalizing s with
  | nil => exact ⟨1, 0, by rw [slots, hc]; rfl⟩
  | cons c cs ih =>
    have hp : s.pump.phase = .settled := h.moored.settled (by rw [hc]; rfl)
    cases hs : s.step? c with
    | none => exact ⟨1, 0, by rw [slots, hs, hc]; rfl⟩
    | some t =>
      rw [slots, hs, hc, Option.map_some, Option.getD_some]
      have hst := (step_of_step? h.led.tidy.trace hs).settled h.led hp
      obtain ht | ht | ⟨ho, -⟩ := h.slot_step hs
      · obtain ⟨m, n, he⟩ := ih (h.step? hs) (ht.trans hc)
        exact ⟨m + 1, n, by rw [he]; rfl⟩
      · obtain ⟨n, he⟩ := (h.step? hs).slots_of_settled hst ht cs
        exact ⟨1, n, by rw [he]; rfl⟩
      · rw [hp] at ho
        cases ho

theorem heldOnce_slots (h : s.Anchored) (cs : List Cause) : HeldOnce (s.slots cs) := by
  induction cs generalizing s with
  | nil =>
    cases hc : s.pump.connection with
    | none => exact ⟨1, 0, 0, ⟨0, 0⟩, by rw [slots, hc]; rfl⟩
    | some k => exact ⟨0, 1, 0, k, by rw [slots, hc]; rfl⟩
  | cons c cs ih =>
    cases hc : s.pump.connection with
    | some k =>
      obtain ⟨m, n, he⟩ := h.slots_of_some hc (c :: cs)
      exact ⟨0, m, n, k, he⟩
    | none =>
      rw [slots, hc]
      cases hs : s.step? c with
      | none => exact ⟨1, 0, 0, ⟨0, 0⟩, rfl⟩
      | some t =>
        obtain ⟨i, j, n, k, he⟩ := ih (h.step? hs)
        refine ⟨i + 1, j, n, k, ?_⟩
        rw [Option.map_some, Option.getD_some, he]
        rfl

theorem of_run {context : Context} {lease : Lease} {options : Options} {wire : String} {draw : Nat → Nat}
    {cs : List Cause} (h : (Session.new (.new context lease options wire draw)).run cs = some s) :
    s.Anchored ∧ s.Equips := by
  refine run_induction (P := fun s => s.Anchored ∧ s.Equips) ⟨.new, nofun⟩ ?_ h
  rintro s c t - ⟨ha, hv⟩ hs
  exact ⟨ha.step? hs, hv.step ((step_of_step? ha.led.tidy.trace hs).shifts ha)⟩

end Anchored

/-- Of a receiver that was made the opening call knows since it was told. -/
theorem Affects.receiverReady {a : Attempt} {client r : Nat} (h : s.Affects c t) (hi : s.Led)
    (hm : .receiverReady a client (.ok r) ∈ t.openers) :
    .receiverReady a client (.ok r) ∈ s.openers ∨ ∃ id, c = .answer id (.receiver (.ok r)) := by
  cases h with
  | begins _ _ ht =>
    rw [ht] at hm
    cases hm with
    | tail _ hm => cases hm
  | tells id w answer stage m es ht hw hr ho he =>
    obtain ⟨-, hb, -⟩ := hi.openers_of_start ht.call? hw
    have hb : (s.told id w answer).openers = [] := hb
    rw [he, openers_carry, hb, List.append_nil] at hm
    obtain rfl := ho.receiverReady (Option.mem_toList.1 hm)
    cases ht with
    | answer => exact .inr ⟨id, rfl⟩
    | wake _ _ ha => cases stage <;> simp [hw, Call.ownAnswer?, ite_eq_iff] at ha
  | loses _ _ _ ht =>
    rw [ht] at hm
    cases hm
  | spares h => exact .inl (h.openers ▸ hm)

end Session

/-! ## The handler -/

namespace Bench

variable {o : Options} {a b b' : Bench} {c : Cause}

structure Slotted (o : Options) (b : Bench) : Prop where
  anchored : b.session.Anchored
  options : b.session.pump.options = o
  supplied : ∀ a client r, .receiverReady a client (.ok r) ∈ b.session.openers →
    r < b.transport.receivers.size
  bridged : ∀ c, b.session.pump.connection = some c → b.transport.Bridged o c.receiver

/-- The pump takes the handler off, or it stays. -/
theorem Follows.bridged (h : a.Follows c b') (ho : b'.session.pump.options = o) {r : Nat}
    (hr : a.transport.Bridged o r) :
    b'.transport.Bridged o r
      ∨ .ask (.clearHandler r) ∈ effects (b'.session.history.drop a.session.history.length) := by
  by_cases he : .ask (.clearHandler r) ∈ effects (b'.session.history.drop a.session.history.length)
  · exact .inr he
  · rw [h.transport, ho]
    exact .inl (hr.foldl he)

namespace Slotted

theorem new {context : Context} {lease : Lease} {options : Options} {wire : String} {draw : Nat → Nat} :
    (Bench.new (.new context lease options wire draw)).Slotted options where
  anchored := .new
  options := rfl
  supplied := nofun
  bridged := nofun

theorem resembles (h : b.Slotted o) (hr : a.Resembles b) : a.Slotted o where
  anchored := hr.session ▸ h.anchored
  options := hr.session ▸ h.options
  supplied x client r hm := (h.supplied x client r (hr.session ▸ hm)).trans_le hr.size
  bridged k hk := hr.bridged (h.bridged k (hr.session ▸ hk))

theorem follows (h : a.Slotted o) (hf : a.Follows c b') (hm : c.Made a.transport) : b'.Slotted o := by
  have hs := Session.step_of_step? h.anchored.led.tidy.trace hf.session
  have ho : b'.session.pump.options = o := hs.options.trans h.options
  have hn : b'.transport.receivers.size = a.transport.receivers.size := by
    rw [hf.transport, Transport.size_foldl]
  refine ⟨h.anchored.step hs, ho, fun x client r hr => ?_, fun k hk => ?_⟩
  · rw [hn]
    obtain hr | ⟨id, rfl⟩ := (Session.Affects.of_step h.anchored.led h.anchored.halted.stopping hs
      hf.session).receiverReady h.anchored.led hr
    · exact h.supplied x client r hr
    · exact hm
  · rw [hf.transport, ho]
    cases hs.shifts h.anchored with
    | stays hc he =>
      obtain ⟨ms, hm, he⟩ := he
      rw [hm, List.drop_left, Transport.foldl_of_isInert o _ he]
      exact h.bridged k (hc ▸ hk)
    | empty hc =>
      rw [hc] at hk
      cases hk
    | fills x k' es hop _ hfl he =>
      obtain ⟨ms, hm, rfl⟩ := he
      obtain rfl := Option.some.inj (hfl.connection.symm.trans hk)
      rw [hm, List.drop_left, hfl.effects]
      have hr := h.supplied x k'.client k'.receiver (by rw [hop]; exact List.mem_singleton_self _)
      have hz := a.transport.size_foldl (o := o) [.tune k'.receiver a.session.pump.options.prefetchCount
        a.session.pump.options.receiveTimeout, .status .running]
      exact Transport.bridged_install (hr.trans_eq hz.symm)

theorem proceeds (h : b.Slotted o) (ha : b.Proceeds b') : b'.Slotted o := by
  cases ha with
  | rests hr => exact h.resembles hr
  | follows a c hf hr hm => exact (h.resembles hr).follows hf hm

theorem of_suffers {xs : List Impulse} (h : b.Slotted o) (hs : b.suffers xs = some b') : b'.Slotted o := by
  induction xs generalizing b with
  | nil => exact Option.some.inj hs ▸ h
  | cons x xs ih =>
    obtain ⟨u, hu, hs⟩ := Option.bind_eq_some_iff.1 hs
    exact ih (h.proceeds (proceeds_of_suffer? hu)) hs

/-- Only the pump takes its handler off. -/
theorem keeps_handler (h : b.Slotted o) (ha : b.Proceeds b') {r : Nat} (hr : b.transport.Bridged o r) :
    b'.transport.Bridged o r
      ∨ .ask (.clearHandler r) ∈ effects (b'.session.history.drop b.session.history.length) := by
  cases ha with
  | rests hs => exact .inl (hs.bridged hr)
  | follows a c hf hs hm =>
    have ho := ((h.resembles hs).follows hf hm).options
    rw [← hs.session]
    exact hf.bridged ho (hs.bridged hr)

end Slotted
end Bench

section Main

variable {context : Context} {lease : Lease} {options : Options} {wire : String} {draw : Nat → Nat}

/-- Whatever happens to a pump and its calls, it has a connection exactly while it runs or has broken
down, and only before a shutdown is requested does it get one: once, and none after it was taken out. On
the receiver the handler was installed and not cleared since; on the in-memory transport the receiver
has it, and no step takes the handler of any receiver off in which the pump does not ask for it. -/
theorem connection_held_while_running {cs : List Cause} {s : Session}
    (h : (Session.new (.new context lease options wire draw)).run cs = some s) :
    (s.pump.connection.isSome ↔ s.pump.status = .running ∨ s.pump.status = .errored)
      ∧ (∀ c, s.pump.connection = some c → Equipped s.history c.receiver)
      ∧ HeldOnce ((Session.new (.new context lease options wire draw)).slots cs)
      ∧ (∀ c t, s.step? c = some t → s.pump.connection = none → t.pump.connection.isSome →
          firstShutdown? t.history = none)
      ∧ ∀ xs b, (Bench.new (.new context lease options wire draw)).suffers xs = some b → b.session = s →
          (∀ c, s.pump.connection = some c → b.transport.Bridged options c.receiver)
          ∧ ∀ x b' r, b.suffer? x = some b' → b.transport.Bridged options r →
            b'.transport.Bridged options r
              ∨ .ask (.clearHandler r) ∈ effects (b'.session.history.drop s.history.length) := by
  obtain ⟨ha, hv⟩ := Session.Anchored.of_run h
  refine ⟨ha.isSome_iff, hv, Session.Anchored.new.heldOnce_slots cs, fun c t ht hn hs => ?_, ?_⟩
  · obtain he | he | ⟨-, -, hst⟩ := ha.slot_step ht
    · rw [he, hn] at hs
      cases hs
    · rw [he] at hs
      cases hs
    · have hr := (ha.step? ht).requested
      rw [Session.Requested, hst] at hr
      exact Option.not_isSome_iff_eq_none.1 (by rw [← hr]; nofun)
  · rintro xs b hb rfl
    have hk := Bench.Slotted.new.of_suffers hb
    exact ⟨hk.bridged, fun x b' r hx hr => hk.keeps_handler (Bench.proceeds_of_suffer? hx) hr⟩

/-- The receiver fails, and the pump keeps its connection until it is shut down. -/
theorem connection_held_while_running_of_failed_receiver :
    ∃ s b, Session.sample.run (Session.opening ++ [.fail ⟨.connection, "lost"⟩]) = some s
      ∧ Bench.sample.suffers (Bench.opening.map .stimulus ++
          [.stimulus (.arrive 0 (.failure ⟨.connection, "lost"⟩)), .stimulus (.enter 0 none)]) = some b
      ∧ b.session = s ∧ s.pump.status = .errored ∧ s.pump.connection = some ⟨0, 0⟩ ∧ Equipped s.history 0
      ∧ b.transport.Bridged {} 0
      ∧ Session.sample.slots (Session.opening ++ [.fail ⟨.connection, "lost"⟩, .shutdown .shutdown, .drop 2])
        = List.replicate 6 none ++ (List.replicate 2 (some ⟨0, 0⟩) ++ List.replicate 2 none) := by
  have hb : (Bench.sample.suffers (Bench.opening.map .stimulus ++
      [.stimulus (.arrive 0 (.failure ⟨.connection, "lost"⟩)), .stimulus (.enter 0 none)])).map (·.session)
      = Session.sample.run (Session.opening ++ [.fail ⟨.connection, "lost"⟩]) := by rfl
  have hr : (Session.sample.run (Session.opening ++ [.fail ⟨.connection, "lost"⟩])).map
      (fun s => (s.pump.status, s.pump.connection)) = some (.errored, some ⟨0, 0⟩) := by rfl
  obtain ⟨s, hs, he⟩ := Option.map_eq_some_iff.1 hr
  obtain ⟨b, hb, rfl⟩ := Option.map_eq_some_iff.1 (hb.trans hs)
  obtain ⟨hst, hc⟩ := Prod.mk.inj he
  obtain ⟨-, hv, -, -, ht⟩ := connection_held_while_running hs
  exact ⟨_, b, hs, hb, rfl, hst, hc, hv _ hc, (ht _ b hb rfl).1 _ hc, by rfl⟩

end Main
end PartitionConsumer
