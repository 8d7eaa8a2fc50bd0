import PartitionConsumer.Proofs.Session.Turns
/-!
# The closing hook

The closing hook is owed when the opening hook has succeeded, unless the pump closed itself because its
open failed. Two calls can come to pay it: the shutdown procedure, and the opening call itself, when
the opening hook outlives the grace. Whichever is the second to see both `opened` and `passed` does.
-/
namespace PartitionConsumer

def Request.isOnClose : Request → Bool
  | .hook (.onClose _) => true
  | _ => false

@[simp] theorem Release.isOnClose_request (r : Release) : r.request.isOnClose = false := by
  unfold Release.request
  split <;> rfl

def Call.isOpened : Call → Answer → Bool
  | .start .onOpen, .hook (.ok ()) => true
  | _, _ => false

def Mark.isOpened : Mark → Bool
  | .told _ w a => w.call.isOpened a
  | _ => false

/-- The opening hook has succeeded. -/
def wasOpened (h : List Mark) : Bool := h.any Mark.isOpened

section Histories

@[simp] theorem wasOpened_append (h k : List Mark) : wasOpened (h ++ k) = (wasOpened h || wasOpened k) :=
  List.any_append

@[simp] theorem wasOpened_did (id : Nat) (es : List Effect) : wasOpened (es.map (.did id)) = false := by
  simp [wasOpened, Mark.isOpened]

@[simp] theorem wasOpened_end (nx : Next) (id : Nat) (errand : Errand) :
    wasOpened (nx.marks id errand) = false := by cases nx <;> rfl

@[simp] theorem wasOpened_began (id : Nat) (errand : Errand) : wasOpened [.began id errand] = false := rfl

@[simp] theorem wasOpened_passed (ticks : Nat) : wasOpened [.passed ticks] = false := rfl

theorem wasOpened_marks (w : Waiting) (id : Nat) (a : Answer) :
    wasOpened (w.marks id a) = w.call.isOpened a := by
  unfold Waiting.marks
  split
  · rename_i hc
    simp [wasOpened, Mark.isOpened, hc, Call.isOpened]
  · simp [wasOpened, Mark.isOpened]

theorem wasOpened_told (s : Session) (id : Nat) (w : Waiting) (a : Answer) :
    wasOpened (s.told id w a).history = (wasOpened s.history || w.call.isOpened a) := by
  rw [Session.history_told, wasOpened_append, wasOpened_marks]

end Histories

def Mark.shutdown? : Mark → Option CloseReason
  | .began _ (.shutdown reason) => some reason
  | _ => none

/-- The reason of the first call for shutdown. -/
def firstShutdown? (h : List Mark) : Option CloseReason := h.findSome? Mark.shutdown?

/-- Where a turn stands with the closing hook. -/
def Turn.Sound (p : Pump) (t : Turn) : Prop :=
  match t.stage with
  | .queued => False
  | .settling _ => p.passed = none
  | .release _ => p.passed = none ∧ p.status = .closing
  | .onClose => p.passed.isSome ∧ p.status = .closing

/-- What ties the closing hook to the state of the pump. The hook was asked `asks` times, the opening
hook has succeeded if `ok`, and `fails` failed opens were published. -/
structure Owed (p : Pump) (openers : List OpenStage) (runners : List Turn) (asks : Nat) (ok : Bool)
    (fails : Nat) : Prop where
  asks : asks = if p.opened = true ∧ p.passed.isSome then 1 else 0
  ok : ok = p.opened
  fails : fails = if p.status = .closed ∧ p.passed = none then 1 else 0
  passed : p.passed.isSome → p.status = .closing ∨ p.status = .closed
  done : p.once.done = true → p.status = .closed
  untaken : runners = [] → p.once.done = false → p.passed = none
  turns : ∀ t ∈ runners, t.Sound p
  onOpen : OpenStage.onOpen ∈ openers → p.opened = false
  /-- A pump that closes itself has no connection. -/
  linked : p.connection.isSome → p.status = .running ∨ p.status = .errored
  release : ∀ r, OpenStage.release r true ∉ openers
  unopened : p.status = .uninitialized → p.opened = false ∧ openers = []

namespace Owed

variable {p q : Pump} {os os' : List OpenStage} {rs : List Turn} {n m : Nat} {ok : Bool}

structure Alike (p q : Pump) : Prop where
  status : q.status = p.status
  opened : q.opened = p.opened
  passed : q.passed = p.passed
  once : q.once = p.once
  connection : q.connection = p.connection

theorem alike (h : Owed p os rs n ok m) (hq : Alike p q) (he : p.status = .uninitialized → os' = [])
    (ho : ∀ st ∈ os', st ∈ os ∨ st ≠ .onOpen ∧ ∀ r, st ≠ .release r true) :
    Owed q os' rs n ok m := by
  obtain ⟨h1, h2, h3, h4, h5⟩ := hq
  refine ⟨?_, ?_, ?_, ?_, ?_, ?_, ?_, ?_, ?_, ?_, ?_⟩
  · rw [h2, h3]
    exact h.asks
  · rw [h2]
    exact h.ok
  · rw [h1, h3]
    exact h.fails
  · rw [h1, h3]
    exact h.passed
  · rw [h1, h4]
    exact h.done
  · rw [h3, h4]
    exact h.untaken
  · intro t ht
    have hs := h.turns t ht
    unfold Turn.Sound at hs ⊢
    rw [h1, h3]
    exact hs
  · intro hm
    rw [h2]
    obtain hm | ⟨hn, -⟩ := ho _ hm
    · exact h.onOpen hm
    · exact absurd rfl hn
  · rw [h1, h5]
    exact h.linked
  · intro r hm
    obtain hm | ⟨-, hn⟩ := ho _ hm
    · exact h.release r hm
    · exact hn r rfl
  · rw [h1, h2]
    exact fun hu => ⟨(h.unopened hu).1, he hu⟩

theorem congr {n' m' : Nat} {ok' : Bool} (h : Owed p os rs n ok m) (hn : n' = n) (hk : ok' = ok)
    (hm : m' = m) : Owed p os rs n' ok' m' := by
  subst hn hk hm
  exact h

theorem leave (h : Owed q os rs n ok m) (nx : Next) : Owed (nx.leave q) os rs n ok m :=
  h.alike ⟨by simp, by simp, by simp, by simp, by simp⟩ (fun hu => (h.unopened hu).2)
    fun _ hm => .inl hm

theorem initialized {stage : OpenStage} (h : Owed p [stage] rs n ok m) :
    p.status ≠ .uninitialized := by
  intro hu
  have := (h.unopened hu).2
  cases this

/-- A call that opens the pump goes on, and nothing changes that the closing hook depends on. -/
theorem quiet {nx : Next} {n' m' : Nat} {ok' : Bool} (h : Owed p os rs n ok m)
    (hs : p.status ≠ .uninitialized) (hq : Alike p q) (hn : n' = n) (hk : ok' = ok) (hm : m' = m)
    (ho : ∀ st ∈ nx.opening?, st ≠ .onOpen ∧ ∀ r, st ≠ .release r true) :
    Owed q nx.opening?.toList rs n' ok' m' :=
  (h.alike hq (fun hu => absurd hu hs) fun st hm => .inr (ho st (Option.mem_toList.1 hm))).congr
    hn hk hm

theorem attempt {r : Pump} {cut : Bool} {shown es : List Effect} {nx : Next} {ok' : Bool}
    (h : Owed p os rs n ok m) (hs : p.status ≠ .uninitialized)
    (hm : r.AttemptMove cut shown q es nx) (hr : Alike p r) (hk : ok' = ok)
    (hc : shown.countP (Effect.asks Request.isOnClose) = 0)
    (hf : shown.countP (Effect.announces .openFailed) = 0) :
    Owed q nx.opening?.toList rs (n + es.countP (Effect.asks Request.isOnClose)) ok'
      (m + es.countP (Effect.announces .openFailed)) := by
  rw [asked_attempt _ _ hm rfl fun _ => rfl, announced_attempt _ _ hm, hc, hf]
  refine h.quiet hs ?_ rfl hk rfl ?_ <;> cases hm
  all_goals first | exact ⟨hr.1, hr.2, hr.3, hr.4, hr.5⟩ | simp

/-- The opening hook has succeeded. If shutdown has passed the closing hook, it is asked now. -/
theorem succeed (h : Owed p [.onOpen] rs n ok m) :
    Owed { p with opened := true } [] rs (n + if p.passed.isSome then 1 else 0) true m := by
  have hf : p.opened = false := h.onOpen List.mem_cons_self
  have hn : n = 0 := by simpa [hf] using h.asks
  exact ⟨by simp [hn], rfl, h.fails, h.passed, h.done, h.untaken, h.turns, by simp, h.linked, by simp,
    fun hu => absurd hu h.initialized⟩

/-- The pump closes itself, because its open failed. -/
theorem fail {stage : OpenStage} (h : Owed p [stage] rs n ok m) (hs : p.status = .opening) :
    Owed { p with status := .closed } [] rs n ok (m + 1) := by
  have hp : p.passed = none := by simpa [hs] using h.passed
  have hm : m = 0 := by simpa [hs] using h.fails
  refine ⟨h.asks, h.ok, by simp [hm, hp], fun _ => .inr rfl, fun _ => rfl, h.untaken, ?_, by simp, ?_,
    by simp, by simp⟩
  · intro t ht
    have ht' := h.turns t ht
    unfold Turn.Sound at ht' ⊢
    split at ht' <;> simp_all
  · intro hc
    have := h.linked hc
    simp [hs] at this

/-- The pump goes from one of the states in which it is not closing to another. -/
theorem alive (h : Owed p os rs n ok m) (hs : p.status.isClosingOrClosed = false)
    (hq : q.status.isClosingOrClosed = false) (hu : q.status ≠ .uninitialized)
    (ho : q.opened = p.opened) (hp : q.passed = p.passed) (he : q.once = p.once)
    (hl : q.connection.isSome → q.status = .running ∨ q.status = .errored)
    (hn : .onOpen ∈ os' → p.opened = false) (hr : ∀ r, .release r true ∉ os') :
    Owed q os' rs n ok m := by
  have h1 : p.status ≠ .closing := by rintro hc; rw [hc] at hs; cases hs
  have h2 : p.status ≠ .closed := by rintro hc; rw [hc] at hs; cases hs
  have h3 : q.status ≠ .closed := by rintro hc; rw [hc] at hq; cases hq
  have h4 : p.passed = none := by
    have := h.passed
    simpa [h1, h2] using this
  refine ⟨?_, ?_, ?_, ?_, ?_, ?_, ?_, ?_, hl, hr, fun hc => absurd hc hu⟩
  · rw [ho, hp]
    exact h.asks
  · rw [ho]
    exact h.ok
  · have hm : m = 0 := by simpa [h2] using h.fails
    simp [hm, h3]
  · simp [hp, h4]
  · rw [he]
    exact fun hd => absurd (h.done hd) h2
  · rw [hp]
    exact fun _ _ => h4
  · intro t ht
    have ht' := h.turns t ht
    unfold Turn.Sound at ht' ⊢
    split at ht' <;> simp_all
  · rw [ho]
    exact hn

/-- The closing hook is asked as often as it is owed, after every move of the call that opens the
pump. -/
theorem openMove {stage : OpenStage} {a : Answer} {es : List Effect} {nx : Next}
    (h : Owed p [stage] rs n ok m) (hm : p.OpenMove stage a q es nx) :
    Owed q nx.opening?.toList rs (n + es.countP (Effect.asks Request.isOnClose))
      (ok || (Call.start stage).isOpened a) (m + es.countP (Effect.announces .openFailed)) := by
  have hs := h.initialized
  have same : Alike p p := ⟨rfl, rfl, rfl, rfl, rfl⟩
  have alike {x : OpenPhase} : Alike p { p with phase := x } := ⟨rfl, rfl, rfl, rfl, rfl⟩
  have open' : stage ≠ .onOpen → (ok || (Call.start stage).isOpened a) = ok := by
    intro hn
    cases stage with
    | onOpen => exact absurd rfl hn
    | _ => exact Bool.or_false ok
  cases hm with
  | refuse e => exact h.quiet hs same rfl (by simp [Call.isOpened]) rfl (by simp)
  | closeLate reason hp =>
    refine h.succeed.quiet hs ⟨rfl, rfl, rfl, rfl, rfl⟩ ?_ (by simp [Call.isOpened]) rfl (by simp)
    simp [hp, Request.isOnClose]
  | cutShort hp =>
    refine h.succeed.quiet hs ⟨rfl, rfl, rfl, rfl, rfl⟩ ?_ (by simp [Call.isOpened]) rfl (by simp)
    simp [hp]
  | connect hp _ hm =>
    have ho : Owed { p with opened := true } [] rs n true m := h.succeed.congr (by simp [hp]) rfl rfl
    exact ho.attempt hs hm ⟨rfl, rfl, rfl, rfl, rfl⟩ (by simp [Call.isOpened]) rfl rfl
  | refusedCloses e outcome hp =>
    refine (h.fail hp).quiet (by simp) ⟨rfl, rfl, rfl, rfl, rfl⟩ (by simp) (open' (by simp)) ?_ (by simp)
    simp [Pump.closingEffects]
  | refusedLeaves => exact h.quiet hs alike rfl (open' (by simp)) rfl (by simp)
  | closedLate => exact h.quiet hs alike rfl (open' (by simp)) rfl (by simp)
  | clientAnswered => exact h.quiet hs same rfl (open' (by simp)) rfl (by simp)
  | clientFailed a f he hm =>
    have hn : stage ≠ .onOpen := by
      obtain ⟨rfl, -⟩ | ⟨rfl, -⟩ | ⟨e, rfl, -⟩ := he <;> simp
    exact h.attempt hs hm ⟨rfl, rfl, rfl, rfl, rfl⟩ (open' hn) (by simp) (by simp)
  | clientMade => exact h.quiet hs same rfl (open' (by simp)) rfl (by simp)
  | clientUnwanted => exact h.quiet hs same rfl (open' (by simp)) rfl (by simp)
  | receiverAnswered => exact h.quiet hs same rfl (open' (by simp)) rfl (by simp)
  | receiverCancelled => exact h.quiet hs same rfl (open' (by simp)) rfl (by simp)
  | receiverFailed a client e he =>
    have hn : stage ≠ .onOpen := by
      obtain ⟨rfl, -⟩ | ⟨rfl, -⟩ := he <;> simp
    exact h.quiet hs ⟨rfl, rfl, rfl, rfl, rfl⟩ rfl (open' hn) rfl (by simp)
  | install a client receiver _ ho =>
    have hl : p.status.isClosingOrClosed = false := by simp [ho, Status.isClosingOrClosed]
    have hq : Owed _ [] rs n ok m :=
      h.alive (q := { p with
          lease := p.lease.stamp a.epoch, attempts := p.attempts.clear, status := .running,
          connection := some ⟨client, receiver⟩, phase := .settled })
        hl rfl (by simp) rfl rfl rfl (by simp) (by simp) (by simp)
    exact hq.congr (by simp) (open' (by simp)) (by simp)
  | reject =>
    exact h.quiet hs ⟨rfl, rfl, rfl, rfl, rfl⟩ (by simp [Request.isOnClose]) (open' (by simp))
      (by simp) (by simp)
  | abandoned a f outcome hm =>
    exact h.attempt hs hm ⟨rfl, rfl, rfl, rfl, rfl⟩ (open' (by simp)) (by simp) (by simp)
  | pauseCut => exact h.quiet hs alike rfl (open' (by simp)) rfl (by simp)
  | pauseOver a wake hm => exact h.attempt hs hm same (open' (by simp)) rfl rfl
  | failedCloses e outcome hp =>
    refine (h.fail hp).quiet (by simp) ⟨rfl, rfl, rfl, rfl, rfl⟩ (by simp) (open' (by simp)) ?_ (by simp)
    simp [Pump.closingEffects]
  | failedReleases e outcome c hp hc =>
    have := h.linked (by simp [hc])
    simp [hp] at this
  | failedLeaves => exact h.quiet hs alike rfl (open' (by simp)) rfl (by simp)
  | releaseNext r r' closing outcome hr =>
    cases closing with
    | true => exact absurd List.mem_cons_self (h.release r)
    | false =>
      exact h.quiet hs same (by simp) (open' (by simp)) (by simp) (by simp)
  | releaseCloses r => exact absurd List.mem_cons_self (h.release r)
  | releaseEnds r outcome => exact h.quiet hs alike (by simp) (open' (by simp)) (by simp) (by simp)

/-! ## Shutdown -/

section Shutdown

variable {now ticket : Nat} {reason : CloseReason} {es : List Effect} {nx : Next}

/-- Who has the turn matters only as far as it is sound. -/
theorem withTurns {rs' : List Turn} (h : Owed p os rs n ok m) (ht : ∀ t ∈ rs', t.Sound p)
    (hu : rs' = [] → p.once.done = false → p.passed = none) : Owed p os rs' n ok m :=
  { h with turns := ht, untaken := hu }

/-- The shutdown procedure is at its end. -/
theorem finish (h : Owed p os rs n ok m) (hs : p.status = .closed)
    (hq : Alike { p with once := p.once.finish } q) :
    Owed q os [] n ok m := by
  have ho : Owed { p with once := p.once.finish } os [] n ok m :=
    { h with
      done := fun _ => hs, turns := by simp, untaken := fun _ hd => by cases hd }
  exact ho.alike hq (fun hu => (ho.unopened hu).2) fun _ hm => .inl hm

theorem pass {shown : List Effect} (h : Owed p os rs n ok m) (hp : p.passed = none)
    (hs : p.status = .closing) (hm : p.PassMove ticket reason shown q es nx)
    (hc : shown.countP (Effect.asks Request.isOnClose) = 0)
    (hf : shown.countP (Effect.announces .openFailed) = 0) :
    Owed q os nx.turn?.toList (n + es.countP (Effect.asks Request.isOnClose)) ok
      (m + es.countP (Effect.announces .openFailed)) := by
  have hn : n = 0 := by simpa [hp] using h.asks
  have hm0 : m = 0 := by simpa [hs] using h.fails
  have hl : p.connection = none := by
    have := h.linked
    simpa [hs] using this
  have hd : p.once.done = false := by
    cases hd : p.once.done with
    | false => rfl
    | true =>
      have := h.done hd
      simp [hs] at this
  cases hm with
  | hook ho =>
    refine ⟨?_, h.ok, ?_, fun _ => .inl hs, ?_, by simp [Call.turn?], ?_, h.onOpen, h.linked,
      h.release, by simp [hs]⟩
    · simp [hn, hc, ho, Request.isOnClose]
    · simp [hm0, hf, hs]
    · simp [hd]
    · simp [Call.turn?, Turn.Sound, hs]
  | close ho =>
    refine ⟨?_, h.ok, ?_, fun _ => .inr rfl, fun _ => rfl, ?_, by simp, h.onOpen, ?_, h.release, by simp⟩
    · simp [hn, hc, ho]
    · simp [hm0, hf]
    · simp
    · simp [hl]

/-- The connection is taken out, and the pump is closing. -/
theorem unlink (h : Owed p os rs n ok m) (hp : p.passed = none) (hs : p.status ≠ .closed) :
    Owed p.unlinked os [] n ok m ∧ p.unlinked.status = .closing := by
  have hc : p.unlinked.status = .closing := by
    unfold Pump.unlinked Pump.closingStatus
    cases hp : p.status <;> simp [Status.isClosingOrClosed]
    exact hs hp
  refine ⟨⟨h.asks, h.ok, ?_, ?_, ?_, fun _ _ => hp, by simp, h.onOpen, ?_, h.release, ?_⟩, hc⟩
  · have hm : m = 0 := by simpa [hs] using h.fails
    simp [hm, hc]
  · exact fun _ => .inl hc
  · exact fun hd => absurd (h.done hd) hs
  · simp [Pump.unlinked]
  · simp [hc]

theorem disconnect (h : Owed p os rs n ok m) (hp : p.passed = none) (hs : p.status ≠ .closed)
    (hm : p.DisconnectMove ticket reason q es nx) :
    Owed q os nx.turn?.toList (n + es.countP (Effect.asks Request.isOnClose)) ok
      (m + es.countP (Effect.announces .openFailed)) := by
  obtain ⟨hu, hc⟩ := h.unlink hp hs
  cases hm with
  | release c =>
    have hp' : p.unlinked.passed = none := hp
    refine (hu.withTurns ?_ (by simp [Call.turn?])).congr ?_ rfl ?_
    · simp [Call.turn?, Turn.Sound, hc, hp']
    · simp [Request.isOnClose]
    · simp
  | pass _ hm => exact hu.pass hp hc hm (by simp) (by simp)

theorem runMove (h : Owed p os [] n ok m) (hd : p.once.done = false)
    (hm : p.RunMove now ticket reason q es nx) :
    Owed q os nx.turn?.toList (n + es.countP (Effect.asks Request.isOnClose)) ok
      (m + es.countP (Effect.announces .openFailed)) := by
  have hp := h.untaken rfl hd
  cases hm with
  | closed hs => exact h.finish hs ⟨rfl, rfl, rfl, rfl, rfl⟩
  | settle =>
    have ho : Owed { p with stopping := true } os [] n ok m :=
      h.alike ⟨rfl, rfl, rfl, rfl, rfl⟩ (fun hu => (h.unopened hu).2) fun _ hm => .inl hm
    exact ho.withTurns (by simpa [Call.turn?, Turn.Sound] using hp) (by simp [Call.turn?])
  | disconnect hs _ hm =>
    have ho : Owed { p with stopping := true } os [] n ok m :=
      h.alike ⟨rfl, rfl, rfl, rfl, rfl⟩ (fun hu => (h.unopened hu).2) fun _ hm => .inl hm
    exact ho.disconnect hp hs hm

theorem enterMove (h : Owed p os rs n ok m)
    (hr : p.once.done = false → (p.once.enter ticket).isTurnOf ticket = true → rs = [])
    (hm : p.EnterMove now ticket reason q es nx) :
    Owed q os (nx.turn?.toList ++ rs) (n + es.countP (Effect.asks Request.isOnClose)) ok
      (m + es.countP (Effect.announces .openFailed)) := by
  cases hm with
  | done => exact h
  | queue => exact { h with }
  | run hd ht hm =>
    obtain rfl := hr hd ht
    have ho : Owed { p with once := p.once.enter ticket } os [] n ok m := { h with }
    rw [List.append_nil]
    exact ho.runMove hd hm

theorem shutdownMove {stage : ShutdownStage} {a : Answer} (hs : stage ≠ .queued)
    (h : Owed p os [⟨ticket, reason, stage⟩] n ok m)
    (hm : p.ShutdownMove now ticket reason stage a q es nx) :
    Owed q os nx.turn?.toList (n + es.countP (Effect.asks Request.isOnClose)) ok
      (m + es.countP (Effect.announces .openFailed)) := by
  have ht := h.turns _ List.mem_cons_self
  cases hm with
  | queuedDone => exact absurd rfl hs
  | queuedRun => exact absurd rfl hs
  | foundClosed wake _ hc => exact h.finish hc ⟨rfl, rfl, rfl, rfl, rfl⟩
  | disconnect wake _ hc hm => exact h.disconnect ht hc hm
  | releaseNext r r' outcome =>
    refine (h.withTurns ?_ (by simp [Call.turn?])).congr (by simp) rfl (by simp)
    simpa [Call.turn?, Turn.Sound] using ht
  | releaseEnds r outcome _ hm => exact h.pass ht.1 ht.2 hm (by simp) (by simp)
  | close outcome =>
    have hm : m = 0 := by simpa [ht.2] using h.fails
    have hl : p.connection = none := by
      have := h.linked
      simpa [ht.2] using this
    have hp : p.passed ≠ none := Option.isSome_iff_ne_none.1 ht.1
    refine ⟨by simpa using h.asks, h.ok, ?_, fun _ => .inr rfl, fun _ => rfl, ?_, by simp, h.onOpen, ?_,
      h.release, by simp⟩
    · simp [hm, hp]
    · simp
    · simp [hl]

end Shutdown

end Owed

namespace Session

/-- At any time the closing hook has been asked as often as it is owed. -/
def Settled (s : Session) : Prop :=
  Owed s.pump s.openers s.runners (asked Request.isOnClose s.history) (wasOpened s.history)
    (announced .openFailed s.history)

namespace Settled

variable {s b : Session} {id : Nat} {errand : Errand} {q : Pump} {es : List Effect} {nx : Next}

theorem carry (h : Owed q (nx.opening?.toList ++ b.openers) (nx.turn?.toList ++ b.runners)
    (asked Request.isOnClose b.history + es.countP (Effect.asks Request.isOnClose))
    (wasOpened b.history)
    (announced .openFailed b.history + es.countP (Effect.announces .openFailed))) :
    (b.carry id errand q es nx).Settled := by
  unfold Settled
  rw [openers_carry, runners_carry, asked_carry, announced_carry, history_carry,
    wasOpened_append, wasOpened_append, wasOpened_did, wasOpened_end, Bool.or_false, Bool.or_false]
  exact h.leave nx

theorem begin (h : s.Settled) (e : Errand) : (s.begin e).Settled := by
  unfold Settled at h ⊢
  rw [asked_begin, announced_begin, history_begin, wasOpened_append, wasOpened_began, Bool.or_false]
  exact h

/-- A call is told an answer that neither opens the pump nor has to do with its end. -/
theorem told {w : Waiting} {a : Answer} (h : s.Settled) (ho : (s.told id w a).openers = s.openers)
    (hr : (s.told id w a).runners = s.runners) (hk : w.call.isOpened a = false) :
    (s.told id w a).Settled := by
  unfold Settled at h ⊢
  rw [ho, hr, asked_told, announced_told, wasOpened_told, hk, Bool.or_false]
  exact h

/-- A call that neither opens the pump nor asks for the end of it goes on. -/
theorem aside (h : b.Settled) (hq : Owed.Alike b.pump q) (ho : nx.opening? = none)
    (ht : nx.turn? = none) (hc : es.countP (Effect.asks Request.isOnClose) = 0)
    (hf : es.countP (Effect.announces .openFailed) = 0) : (b.carry id errand q es nx).Settled := by
  refine carry ?_
  rw [ho, ht, hc, hf]
  exact h.alike hq (fun hu => (h.unopened hu).2) fun _ hm => .inl hm

theorem step {t : Session} {c : Cause} (hd : c.isDrop = false) (hi : s.InTurn)
    (h : s.Settled) (hs : s.Step c t) : t.Settled := by
  cases hs with
  | start hm =>
    have hb := h.begin .start
    cases hm with
    | ignored => exact hb.aside ⟨rfl, rfl, rfl, rfl, rfl⟩ rfl rfl rfl rfl
    | opens _ hu =>
      have hn := h.unopened hu
      have hl : (s.begin .start).openers = [] := hn.2
      have ho : Owed { s.pump with status := .opening, phase := .opening } [.onOpen]
          (s.begin .start).runners (asked Request.isOnClose (s.begin .start).history)
          (wasOpened (s.begin .start).history) (announced .openFailed (s.begin .start).history) := by
        have hb' : Owed s.pump (s.begin .start).openers _ _ _ _ := hb
        refine hb'.alive ?_ rfl (by simp) rfl rfl rfl ?_
          (fun _ => hn.1) (by simp)
        · simp [hu, Status.isClosingOrClosed]
        · intro hl
          have := h.linked hl
          simp [hu] at this
      refine carry ?_
      rw [hl]
      exact ho
  | shutdown reason hm =>
    have hb := h.begin (.shutdown reason)
    refine carry ?_
    rw [hm.fits.opening? (by simp)]
    exact Owed.enterMove hb
      (fun hd hq => (hi.runners_of_enter hi.next_not_mem_turns hd hq).2) hm
  | deliver report batch hm =>
    have hb := h.begin (.delivery batch)
    cases hm with
    | unheard => exact hb.aside ⟨rfl, rfl, rfl, rfl, rfl⟩ rfl rfl rfl rfl
    | handle => exact hb.aside ⟨rfl, rfl, rfl, rfl, rfl⟩ rfl rfl rfl rfl
  | fail e hm =>
    have hb := h.begin (.failure e)
    cases hm with
    | ignored => exact hb.aside ⟨rfl, rfl, rfl, rfl, rfl⟩ rfl rfl rfl rfl
    | taken hr =>
      refine carry (Owed.alive hb ?_ rfl (by simp) rfl rfl rfl (by simp) h.onOpen h.release)
      simp [hr, Status.isClosingOrClosed]
  | report n e he =>
    have hb : (s.forget n).Settled := h
    exact (hb.begin (.report e)).aside ⟨rfl, rfl, rfl, rfl, rfl⟩ rfl rfl rfl rfl
  | discard n hn => exact h
  | @tellStart _ q es nx id w a stage ht hw hm =>
    obtain ⟨he, ho, hl, hr⟩ := hi.told_start ht hw
    have hf : nx.Fits id w.errand := he ▸ hm.fits id
    have h' : Owed s.pump s.openers s.runners _ _ _ := h
    rw [ho] at h'
    refine carry ?_
    rw [hf.turn? (by simp [he]), hl, hr, asked_told, announced_told, wasOpened_told, hw,
      List.append_nil]
    exact h'.openMove hm
  | @tellShutdown _ q es nx id w a ticket reason stage ht hw hm =>
    obtain ⟨he, rfl, ho, hr⟩ := hi.told_shutdown ht hw hm
    have hk : w.call.isOpened a = false := by rw [hw]; rfl
    have h' : Owed s.pump s.openers s.runners _ _ _ := h
    refine carry ?_
    rw [hm.fits.opening? (by simp), ho, asked_told, announced_told, wasOpened_told, hk, Bool.or_false]
    obtain ⟨-, rfl, rfl, rfl, hr⟩ | ⟨hs, -, hr, hl⟩ := hr
    · rw [hr]
      exact h
    · rw [hr] at h'
      rw [hl, List.append_nil]
      exact h'.shutdownMove hs hm
  | tellDelivery id w a stage ht hw hm =>
    obtain ⟨-, ho, hr⟩ := hi.told_delivery ht hw
    have hb := h.told ho hr (by rw [hw]; rfl)
    cases hm with
    | handled => exact hb.aside ⟨rfl, rfl, rfl, rfl, rfl⟩ rfl rfl rfl rfl
    | failed => exact hb.aside ⟨rfl, rfl, rfl, rfl, rfl⟩ rfl rfl rfl rfl
    | reported => exact hb.aside ⟨rfl, rfl, rfl, rfl, rfl⟩ rfl rfl rfl rfl
  | tellReport id w outcome ticket ht hw hm =>
    obtain ⟨rfl, hn, ho, hr⟩ := hi.told_report ht hw
    have hb := h.told (a := .hook outcome) ho hr (by rw [hw]; rfl)
    refine carry ?_
    rw [hm.fits.opening? (by simp)]
    refine Owed.enterMove hb (fun hd hq => ?_) hm
    rw [hr]
    exact (hi.runners_of_enter hn hd hq).2
  | drop id w hw => cases hd
  | bump => exact h.alike ⟨rfl, rfl, rfl, rfl, rfl⟩ (fun hu => (h.unopened hu).2) fun _ hm => .inl hm
  | pass ticks =>
    unfold Settled
    rw [history_note, asked_append, asked_passed, announced_append, announced_passed,
      wasOpened_append, wasOpened_passed, Bool.or_false]
    exact h

/-- Only a pump that runs or has run into an error has a connection. -/
theorem connection_eq_none (h : s.Settled) (hr : s.pump.status ≠ .running)
    (he : s.pump.status ≠ .errored) : s.pump.connection = none := by
  cases hc : s.pump.connection with
  | none => rfl
  | some c =>
    obtain hl | hl := h.linked (by rw [hc]; rfl)
    · exact absurd hl hr
    · exact absurd hl he

theorem of_opening (h : s.Settled) (ho : s.pump.status = .opening) : s.pump.connection = none :=
  h.connection_eq_none (by simp [ho]) (by simp [ho])

theorem of_closing (h : s.Settled) (ho : s.pump.status = .closing) : s.pump.connection = none :=
  h.connection_eq_none (by simp [ho]) (by simp [ho])

theorem of_closed (h : s.Settled) (ho : s.pump.status = .closed) : s.pump.connection = none :=
  h.connection_eq_none (by simp [ho]) (by simp [ho])

end Settled
end Session

/-! ## The reason -/

theorem not_mem_of_asks {es : List Effect} (h : es.countP (Effect.asks Request.isOnClose) = 0)
    (reason : CloseReason) : .ask (.hook (.onClose reason)) ∉ es := by
  intro hm
  exact List.countP_eq_zero.1 h _ hm rfl

namespace Pump

variable {p q : Pump} {es : List Effect} {nx : Next}

theorem AttemptMove.onClose {r : Pump} {cut : Bool} {shown : List Effect}
    (h : AttemptMove r cut shown q es nx) (hp : r.passed = p.passed)
    (hc : shown.countP (Effect.asks Request.isOnClose) = 0) :
    q.passed = p.passed ∧ es.countP (Effect.asks Request.isOnClose) = 0 := by
  refine ⟨?_, (asked_attempt _ _ h rfl fun _ => rfl).trans hc⟩
  cases h <;> exact hp

/-- The call that opens the pump asks the closing hook only for the reason shutdown has passed it
with. -/
theorem OpenMove.onClose {stage : OpenStage} {a : Answer} (h : OpenMove p stage a q es nx) :
    q.passed = p.passed
      ∧ ∀ reason, .ask (.hook (.onClose reason)) ∈ es → p.passed = some reason := by
  have none {es : List Effect} (hc : es.countP (Effect.asks Request.isOnClose) = 0) (reason) :
      .ask (.hook (.onClose reason)) ∈ es → p.passed = some reason :=
    fun hm => absurd hm (not_mem_of_asks hc reason)
  cases h with
  | closeLate reason hp =>
    refine ⟨rfl, fun r hm => ?_⟩
    obtain rfl : r = reason := by simpa using hm
    exact hp
  | connect hp _ h => exact (h.onClose rfl rfl).imp_right none
  | clientFailed a f _ h => exact (h.onClose rfl (by simp)).imp_right none
  | abandoned a f _ h => exact (h.onClose rfl (by simp)).imp_right none
  | pauseOver a wake h => exact (h.onClose rfl rfl).imp_right none
  | releaseNext => exact ⟨rfl, none (by simp)⟩
  | _ => exact ⟨rfl, none (by simp [Request.isOnClose])⟩

structure Reasons (reason : CloseReason) (p q : Pump) (es : List Effect) (nx : Next) : Prop where
  passed : q.passed = p.passed ∨ q.passed = some reason
  asked : ∀ r, .ask (.hook (.onClose r)) ∈ es → r = reason
  turn : ∀ t ∈ nx.turn?, t.reason = reason

variable {now ticket : Nat} {reason : CloseReason}

theorem Reasons.of_none (hp : q.passed = p.passed ∨ q.passed = some reason)
    (hc : es.countP (Effect.asks Request.isOnClose) = 0) (ht : ∀ t ∈ nx.turn?, t.reason = reason) :
    Reasons reason p q es nx :=
  ⟨hp, fun r hm => absurd hm (not_mem_of_asks hc r), ht⟩

theorem PassMove.reasons {shown : List Effect} (h : PassMove p ticket reason shown q es nx)
    (hc : shown.countP (Effect.asks Request.isOnClose) = 0) : Reasons reason p q es nx := by
  cases h with
  | hook =>
    refine ⟨.inr rfl, fun r hm => ?_, by simp [Call.turn?]⟩
    rcases List.mem_append.1 hm with hm | hm
    · exact absurd hm (not_mem_of_asks hc r)
    · simpa using hm
  | close => exact .of_none (.inr rfl) (by simp [hc]) (by simp)

theorem DisconnectMove.reasons (h : DisconnectMove p ticket reason q es nx) :
    Reasons reason p q es nx := by
  cases h with
  | release => exact .of_none (.inl rfl) (by simp [Request.isOnClose]) (by simp [Call.turn?])
  | pass _ hp =>
    obtain ⟨h1, h2, h3⟩ := hp.reasons (by simp)
    exact ⟨h1, h2, h3⟩

theorem RunMove.reasons (h : RunMove p now ticket reason q es nx) : Reasons reason p q es nx := by
  cases h with
  | closed => exact .of_none (.inl rfl) rfl (by simp)
  | settle => exact .of_none (.inl rfl) rfl (by simp [Call.turn?])
  | disconnect _ _ hd =>
    obtain ⟨h1, h2, h3⟩ := hd.reasons
    exact ⟨h1, h2, h3⟩

theorem ShutdownMove.reasons {stage : ShutdownStage} {a : Answer}
    (h : ShutdownMove p now ticket reason stage a q es nx) : Reasons reason p q es nx := by
  cases h with
  | queuedDone => exact .of_none (.inl rfl) rfl (by simp)
  | queuedRun _ hr => exact hr.reasons
  | foundClosed => exact .of_none (.inl rfl) rfl (by simp)
  | disconnect _ _ _ hd => exact hd.reasons
  | releaseNext => exact .of_none (.inl rfl) (by simp) (by simp [Call.turn?])
  | releaseEnds _ _ _ hp => exact hp.reasons (by simp)
  | close => exact .of_none (.inl rfl) (by simp) (by simp)

end Pump

@[simp] theorem firstShutdown?_append (h k : List Mark) :
    firstShutdown? (h ++ k) = (firstShutdown? h).or (firstShutdown? k) := List.findSome?_append

theorem firstShutdown?_did (id : Nat) (es : List Effect) : firstShutdown? (es.map (.did id)) = none := by
  simp [firstShutdown?, List.findSome?_map, Mark.shutdown?]

theorem firstShutdown?_end (nx : Next) (id : Nat) (errand : Errand) :
    firstShutdown? (nx.marks id errand) = none := by cases nx <;> rfl

/-- Time that passes asks for nothing. -/
theorem firstShutdown?_passed (h : List Mark) (ticks : Nat) :
    firstShutdown? (h ++ [.passed ticks]) = firstShutdown? h := by
  rw [firstShutdown?_append]
  exact Option.or_none

theorem firstShutdown?_marks (w : Waiting) (id : Nat) (a : Answer) :
    firstShutdown? (w.marks id a)
      = match w.call with
        | .report _ => some .shutdown
        | _ => none := by
  unfold Waiting.marks
  cases w.call <;> rfl

theorem not_did_mem_marks (w : Waiting) (id : Nat) (a : Answer) (i : Nat) (e : Effect) :
    .did i e ∉ w.marks id a := by
  intro hm
  obtain hm | hm := Waiting.mem_marks hm <;> cases hm

/-- Wherever the closing hook is asked, it is for the reason of the first call for shutdown. -/
def AskedForFirst : List Mark → Prop :=
  Always fun pre m => ∀ id reason, m = .did id (.ask (.hook (.onClose reason))) →
    firstShutdown? pre = some reason

theorem AskedForFirst.append {h ms : List Mark} (hh : AskedForFirst h) (hm : ∀ i e, .did i e ∉ ms) :
    AskedForFirst (h ++ ms) := by
  refine hh.append_of_forall fun pre m hk => ?_
  rintro i reason rfl
  exact absurd hk (hm i _)

namespace Session

theorem firstShutdown?_carry (b : Session) (id : Nat) (errand : Errand) (q : Pump) (es : List Effect)
    (nx : Next) : firstShutdown? (b.carry id errand q es nx).history = firstShutdown? b.history := by
  rw [history_carry, firstShutdown?_append, firstShutdown?_append, firstShutdown?_did,
    firstShutdown?_end, Option.or_none, Option.or_none]

structure Reasoned (s : Session) : Prop where
  uncalled : s.pump.once.done = false → s.pump.once.turns = [] → firstShutdown? s.history = none
  turns : ∀ t ∈ s.runners, firstShutdown? s.history = some t.reason
  passed : ∀ reason, s.pump.passed = some reason → firstShutdown? s.history = some reason
  asked : AskedForFirst s.history

namespace Reasoned

variable {s b : Session} {id : Nat} {errand : Errand} {q : Pump} {es : List Effect} {nx : Next}

/-- A call goes on, and what it does to the closing hook is for the first reason. -/
theorem carry (hr : ∀ t ∈ b.runners, firstShutdown? b.history = some t.reason)
    (hb : AskedForFirst b.history)
    (hu : q.once.done = false → q.once.turns = [] → firstShutdown? b.history = none)
    (ht : ∀ t ∈ nx.turn?, firstShutdown? b.history = some t.reason)
    (hp : ∀ reason, q.passed = some reason → firstShutdown? b.history = some reason)
    (ha : ∀ reason, .ask (.hook (.onClose reason)) ∈ es → firstShutdown? b.history = some reason) :
    (b.carry id errand q es nx).Reasoned := by
  have hf := b.firstShutdown?_carry id errand q es nx
  refine ⟨?_, ?_, ?_, ?_⟩
  · rw [hf, pump_carry, Next.once_leave]
    exact hu
  · rw [hf, runners_carry]
    intro t hm
    rcases List.mem_append.1 hm with hm | hm
    · exact ht t (Option.mem_toList.1 hm)
    · exact hr t hm
  · rw [hf, pump_carry, Next.passed_leave]
    exact hp
  · refine b.always_carry _ _ _ _ _ hb (fun pre e post he => ?_) fun pre m hm => ?_
    · rintro i reason hd
      obtain ⟨rfl, rfl⟩ := Mark.did.inj hd
      rw [firstShutdown?_append, ha reason (by rw [he]; exact List.mem_append_right _ List.mem_cons_self)]
      rfl
    · rintro i reason rfl
      cases nx <;> simp [Next.marks] at hm

/-- A call goes on that has nothing to do with the end of the pump. -/
theorem aside (h : s.Reasoned) {ms : List Mark} (hm : ∀ i e, .did i e ∉ ms)
    (hn : firstShutdown? ms = none) (hh : b.history = s.history ++ ms) (hr : b.runners = s.runners)
    (ho : q.once = s.pump.once) (hp : q.passed = s.pump.passed) (ht : nx.turn? = none)
    (hc : ∀ reason, .ask (.hook (.onClose reason)) ∈ es → s.pump.passed = some reason) :
    (b.carry id errand q es nx).Reasoned := by
  have hf : firstShutdown? b.history = firstShutdown? s.history := by
    rw [hh, firstShutdown?_append, hn, Option.or_none]
  refine carry ?_ (hh ▸ h.asked.append hm) ?_ (by simp [ht]) ?_ ?_
  · rw [hf, hr]
    exact h.turns
  · rw [hf, ho]
    exact h.uncalled
  · rw [hf, hp]
    exact h.passed
  · rw [hf]
    exact fun reason hc' => h.passed reason (hc reason hc')

/-- A call for shutdown asks for its turn. If it has it at once, it is the first. -/
theorem enter {now ticket : Nat} {reason : CloseReason} (h : s.Reasoned) {ms : List Mark}
    (hm : ∀ i e, .did i e ∉ ms) (hn : firstShutdown? ms = some reason)
    (hh : b.history = s.history ++ ms) (hr : b.runners = s.runners)
    (he : s.pump.once.done = false → (s.pump.once.enter ticket).isTurnOf ticket = true →
      s.pump.once.turns = [] ∧ s.runners = [])
    (hq : s.pump.EnterMove now ticket reason q es nx) : (b.carry id errand q es nx).Reasoned := by
  have hf : firstShutdown? b.history = (firstShutdown? s.history).or (some reason) := by
    rw [hh, firstShutdown?_append, hn]
  have mono {r : CloseReason} (hs : firstShutdown? s.history = some r) :
      firstShutdown? b.history = some r := by
    rw [hf, hs]
    rfl
  have hb : AskedForFirst b.history := hh ▸ h.asked.append hm
  have ht : ∀ t ∈ b.runners, firstShutdown? b.history = some t.reason := by
    rw [hr]
    exact fun t ht => mono (h.turns t ht)
  cases hq with
  | done hd =>
    exact carry ht hb (by simp [hd]) (by simp) (fun r hp => mono (h.passed r hp)) (by simp)
  | queue =>
    exact carry ht hb (by simp [Once.enter]) (by simp [Call.turn?]) (fun r hp => mono (h.passed r hp))
      (by simp)
  | run hd hq hm =>
    obtain ⟨hl, -⟩ := he hd hq
    have hf' : firstShutdown? b.history = some reason := by
      rw [hf, h.uncalled hd hl]
      rfl
    have hr := hm.reasons
    refine carry ht hb ?_ (fun t ht => ?_) (fun r hp => ?_) fun r hc => ?_
    · obtain ⟨ho, -⟩ | ⟨ho, -⟩ := hm.turning
      · simp [ho, Once.enter]
      · simp [ho]
    · rw [hf', hr.turn t ht]
    · obtain hp' | hp' := hr.passed
      · exact mono (h.passed r (hp' ▸ hp))
      · rw [hf', ← hp, hp']
    · rw [hf', hr.asked r hc]

theorem step {t : Session} {c : Cause} (hd : c.isDrop = false) (hi : s.InTurn) (h : s.Reasoned)
    (hs : s.Step c t) : t.Reasoned := by
  cases hs with
  | start hm =>
    cases hm with
    | ignored => exact h.aside (by simp) rfl rfl rfl rfl rfl rfl (by simp)
    | opens => exact h.aside (by simp) rfl rfl rfl rfl rfl rfl (by simp [Pump.event])
  | shutdown reason hm =>
    exact h.enter (by simp) rfl rfl rfl (hi.runners_of_enter hi.next_not_mem_turns) hm
  | deliver report batch hm =>
    cases hm with
    | unheard => exact h.aside (by simp) rfl rfl rfl rfl rfl rfl (by simp)
    | handle => exact h.aside (by simp) rfl rfl rfl rfl rfl rfl (by simp)
  | fail e hm =>
    cases hm with
    | ignored => exact h.aside (by simp) rfl rfl rfl rfl rfl rfl (by simp)
    | taken => exact h.aside (by simp) rfl rfl rfl rfl rfl rfl (by simp [Pump.event])
  | report n e he =>
    exact h.aside (b := (s.forget n).begin (.report e)) (by simp) rfl rfl rfl rfl rfl rfl (by simp)
  | discard n hn => exact ⟨h.1, h.2, h.3, h.4⟩
  | @tellStart _ q es nx id w a stage ht hw hm =>
    obtain ⟨he, -, -, hr⟩ := hi.told_start ht hw
    have hf : nx.Fits id w.errand := he ▸ hm.fits id
    have hn : firstShutdown? (w.marks id a) = none := by rw [firstShutdown?_marks, hw]
    exact h.aside (not_did_mem_marks w id a) hn rfl hr hm.keeps.once hm.onClose.1 (hf.turn? (by simp [he]))
      hm.onClose.2
  | tellShutdown id w a ticket reason stage ht hw hm =>
    obtain ⟨-, rfl, -, hr⟩ := hi.told_shutdown ht hw hm
    have hn : firstShutdown? (w.marks ticket a) = none := by rw [firstShutdown?_marks, hw]
    obtain ⟨-, rfl, rfl, rfl, hr⟩ | ⟨hs, hd, hr, hl⟩ := hr
    · exact h.aside (not_did_mem_marks w ticket a) hn rfl hr rfl rfl rfl (by simp)
    · have hf : firstShutdown? (s.told ticket w a).history = some reason := by
        rw [history_told, firstShutdown?_append, hn, Option.or_none]
        exact h.turns ⟨ticket, reason, stage⟩ (by rw [hr]; exact List.mem_cons_self)
      have hq := hm.reasons
      refine carry ?_ (h.asked.append (not_did_mem_marks w ticket a)) ?_ (fun t ht => ?_)
        (fun r hp => ?_) fun r hc => ?_
      · rw [hl]
        simp
      · obtain ⟨ho, -⟩ | ⟨ho, -⟩ := hm.turning hs
        · intro _ he
          have ht := hi.runner ⟨ticket, reason, stage⟩ (by rw [hr]; exact List.mem_cons_self)
          simp [Once.isTurnOf, ← ho, he] at ht
        · simp [ho]
      · rw [hf, hq.turn t ht]
      · obtain hp' | hp' := hq.passed
        · have := h.passed r (hp' ▸ hp)
          rw [history_told, firstShutdown?_append, this]
          rfl
        · rw [hf, ← hp, hp']
      · rw [hf, hq.asked r hc]
  | tellDelivery id w a stage ht hw hm =>
    obtain ⟨-, -, hr⟩ := hi.told_delivery ht hw
    have hn : firstShutdown? (w.marks id a) = none := by rw [firstShutdown?_marks, hw]
    have hd := not_did_mem_marks w id a
    cases hm with
    | handled => exact h.aside hd hn rfl hr rfl rfl rfl (by simp [Pump.event])
    | failed => exact h.aside hd hn rfl hr rfl rfl rfl (by simp)
    | reported => exact h.aside hd hn rfl hr rfl rfl rfl (by simp)
  | tellReport id w outcome ticket ht hw hm =>
    obtain ⟨rfl, hn, -, hr⟩ := hi.told_report ht hw
    have hs : firstShutdown? (w.marks ticket (.hook outcome)) = some .shutdown := by
      rw [firstShutdown?_marks, hw]
    exact h.enter (not_did_mem_marks w ticket _) hs rfl hr (hi.runners_of_enter hn) hm
  | drop id w hw => cases hd
  | bump => exact ⟨h.1, h.2, h.3, h.4⟩
  | pass ticks =>
    refine ⟨?_, ?_, ?_, h.asked.append (by simp)⟩
    · rw [history_note, firstShutdown?_passed]
      exact h.uncalled
    · rw [history_note, firstShutdown?_passed]
      exact h.turns
    · rw [history_note, firstShutdown?_passed]
      exact h.passed

end Reasoned
end Session

/-! ## Whenever it is owed -/

section Main

variable {context : Context} {lease : Lease} {options : Options} {wire : String} {draw : Nat → Nat}

theorem Session.Settled.new : (Session.new (.new context lease options wire draw)).Settled :=
  ⟨rfl, rfl, rfl, nofun, nofun, fun _ _ => rfl, nofun, nofun, nofun, nofun, fun _ => ⟨rfl, rfl⟩⟩

theorem Session.Reasoned.new : (Session.new (.new context lease options wire draw)).Reasoned :=
  ⟨fun _ _ => rfl, nofun, nofun, Always.nil⟩

/-- The closing hook is called at most once, and for the reason of the first call for shutdown. Once any
call for shutdown has returned it has been called if and only if the opening hook has succeeded and no
failed open was published, whether or not the call that opened the pump has returned too. -/
theorem closing_hook_exactly_when_owed {cs : List Cause} {s : Session}
    (h : (Session.new (.new context lease options wire draw)).run cs = some s)
    (hd : ∀ c ∈ cs, c.isDrop = false) :
    asked Request.isOnClose s.history ≤ 1
      ∧ (hasShutDown s.history = true →
        asked Request.isOnClose s.history
          = if wasOpened s.history = true ∧ announced .openFailed s.history = 0 then 1 else 0)
      ∧ ∀ pre id reason post, s.history = pre ++ .did id (.ask (.hook (.onClose reason))) :: post →
        firstShutdown? pre = some reason := by
  obtain ⟨hi, ho, hr⟩ := Session.run_undropped (P := fun s => s.Settled ∧ s.Reasoned)
    (.new _ rfl rfl rfl) ⟨.new, .new⟩ hd
    (fun s c t hc hi h hs => ⟨h.1.step hc hi hs, h.2.step hc hi hs⟩) h
  have hn := ho.asks
  refine ⟨?_, fun hm => ?_, fun pre id reason post he => hr.asked pre _ post he id reason rfl⟩
  · rw [hn]
    split <;> omega
  · have hc := ho.done (hi.ended hm)
    rw [hn, ho.ok, ho.fails, hc]
    cases s.pump.passed <;> simp

/-- The pump is shut down when it runs. -/
theorem closing_hook_exactly_when_owed_after_running :
    ∃ s, Session.sample.run (Session.opening ++ [.shutdown .leaseLost, .answer 1 (.released (.ok ())),
        .answer 1 (.released (.ok ())), .answer 1 (.released (.ok ())), .answer 1 (.hook (.ok ()))])
        = some s
      ∧ hasShutDown s.history = true ∧ asked Request.isOnClose s.history = 1 := by
  have hr : (Session.sample.run (Session.opening ++ [.shutdown .leaseLost,
        .answer 1 (.released (.ok ())), .answer 1 (.released (.ok ())), .answer 1 (.released (.ok ())),
        .answer 1 (.hook (.ok ()))])).map
      (fun s => (hasShutDown s.history, wasOpened s.history, announced .openFailed s.history))
      = some (true, true, 0) := by rfl
  obtain ⟨s, hs, he⟩ := Option.map_eq_some_iff.1 hr
  simp only [Prod.mk.injEq] at he
  refine ⟨s, hs, he.1, ?_⟩
  have hn := (closing_hook_exactly_when_owed hs (by decide)).2.1 he.1
  rw [he.2.1, he.2.2] at hn
  exact hn

end Main
end PartitionConsumer
