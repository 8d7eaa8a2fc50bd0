import PartitionConsumer.Proofs.CloseHook
import PartitionConsumer.Proofs.Statuses
/-!
# The events of a pump's life

Six kinds of events tell that a pump has come to another state. As long as no call is dropped each change
of the status is published once, in its place, and the close for the reason it has: the events published
are the story of the way that the status has gone.
-/
namespace PartitionConsumer

/-- The state that an event of this kind tells of. -/
def EventKind.status? : EventKind → Option Status
  | .pumpOpening => some .opening
  | .pumpRunning => some .running
  | .openFailed => some .openFailed
  | .pumpErrored => some .errored
  | .pumpClosing => some .closing
  | .pumpClosed => some .closed
  | _ => none

/-- No two kinds of events tell of the same state. -/
theorem EventKind.eq_of_status? {k l : EventKind} {s : Status} (hk : k.status? = some s)
    (hl : l.status? = some s) : k = l := by
  cases k <;> cases hk <;> cases l <;> first | rfl | cases hl

def Effect.station? : Effect → Option Event
  | .publish e => if e.kind.status?.isSome then some e else none
  | _ => none

def stationsOf (es : List Effect) : List Event := es.filterMap Effect.station?

def stations (h : List Mark) : List Event := stationsOf (effects h)

@[simp] theorem stationsOf_append (es fs : List Effect) :
    stationsOf (es ++ fs) = stationsOf es ++ stationsOf fs := List.filterMap_append

@[simp] theorem stations_append (h k : List Mark) : stations (h ++ k) = stations h ++ stations k := by
  simp [stations]

theorem Status.isClosingOrClosed_eq_false {s : Status} (hc : s ≠ .closing) (hd : s ≠ .closed) :
    s.isClosingOrClosed = false := by
  cases s with
  | closing => exact absurd rfl hc
  | closed => exact absurd rfl hd
  | _ => rfl

/-! ## Stories -/

/-- The event that is published when the status goes from `s` to `t`. That the pump is closing is put
down to the failed open, or to the reason of the first call for shutdown. -/
structure Chapter (first : Option CloseReason) (s : Status) (e : Event) (t : Status) : Prop where
  edge : Status.Edge s t
  tells : e.kind.status? = some t
  reason : t = .closing →
    if s = .openFailed then e.reason = some "open_failed" ∨ e.reason = some "on_open_failed"
    else ∃ r, first = some r ∧ e.reason = some r.label

inductive Story (first : Option CloseReason) : Status → List Event → Status → Prop where
  | nil (s : Status) : Story first s [] s
  | cons {s t u e es} (hc : Chapter first s e t) (h : Story first t es u) : Story first s (e :: es) u

namespace Story

variable {first : Option CloseReason} {s t u : Status} {e : Event} {es fs : List Event}

theorem single (h : Chapter first s e t) : Story first s [e] t := .cons h (.nil t)

theorem append (h : Story first s es t) (k : Story first t fs u) : Story first s (es ++ fs) u := by
  induction h with
  | nil => exact k
  | cons hc _ ih => exact .cons hc (ih k)

theorem of_append (h : Story first s (es ++ fs) u) : ∃ t, Story first s es t ∧ Story first t fs u := by
  induction es generalizing s with
  | nil => exact ⟨s, .nil s, h⟩
  | cons e es ih =>
    cases h with
    | cons hc h =>
      obtain ⟨t, he, hf⟩ := ih h
      exact ⟨t, .cons hc he, hf⟩

/-- The chapter in the middle of a story. -/
theorem chapter (h : Story first s (es ++ e :: fs) u) :
    ∃ a b, Story first s es a ∧ Chapter first a e b ∧ Story first b fs u := by
  obtain ⟨a, he, h⟩ := h.of_append
  cases h with
  | cons hc h => exact ⟨a, _, he, hc, h⟩

/-- Whoever was the first to call for shutdown stays the first. -/
theorem mono {first' : Option CloseReason} (h : Story first s es u)
    (hf : ∀ r, first = some r → first' = some r) : Story first' s es u := by
  induction h with
  | nil => exact .nil _
  | cons hc _ ih =>
    refine .cons ⟨hc.edge, hc.tells, fun ht => ?_⟩ ih
    have hr := hc.reason ht
    split at hr
    · rw [if_pos ‹_›]
      exact hr
    · rw [if_neg ‹_›]
      exact hr.imp fun r hr => hr.imp_left (hf r)

theorem rank_le (h : Story first s es u) : s.rank ≤ u.rank := by
  induction h with
  | nil => exact Nat.le_refl _
  | cons hc _ ih => exact Nat.le_of_lt (Nat.lt_of_lt_of_le hc.edge.rank_lt ih)

/-- No event of a story tells of a state that is behind it. -/
theorem rank_lt (h : Story first s es u) (he : e ∈ es) (ht : e.kind.status? = some t) :
    s.rank < t.rank := by
  induction h with
  | nil => cases he
  | cons hc _ ih =>
    rcases List.mem_cons.1 he with rfl | he
    · obtain rfl := Option.some.inj (hc.tells.symm.trans ht)
      exact hc.edge.rank_lt
    · exact Nat.lt_trans hc.edge.rank_lt (ih he)

theorem not_mem_of_rank_le (h : Story first s es u) {k : EventKind} (hk : k.status? = some t)
    (ht : t.rank ≤ s.rank) : es.countP (·.kind == k) = 0 := by
  refine List.countP_eq_zero.2 fun e he hb => ?_
  rw [← eq_of_beq hb] at hk
  have := h.rank_lt he hk
  omega

/-- A story comes to each state once at most. -/
theorem count_le_one (h : Story first s es u) {k : EventKind} (hk : k.status? = some t) :
    es.countP (·.kind == k) ≤ 1 := by
  induction h with
  | nil => exact Nat.zero_le _
  | @cons _ v _ e _ hc h ih =>
    rw [List.countP_cons]
    by_cases he : e.kind = k
    · obtain rfl := Option.some.inj (hc.tells.symm.trans (he ▸ hk))
      rw [h.not_mem_of_rank_le hk (Nat.le_refl _)]
      split <;> omega
    · rw [if_neg (by simpa using he)]
      exact ih

/-- A story comes to one of two states only, if they are equally far from the beginning. -/
theorem count_excludes (h : Story first s es u) {k l : EventKind} {t t' : Status}
    (hk : k.status? = some t) (hl : l.status? = some t') (hr : t.rank = t'.rank) (hn : k ≠ l) :
    es.countP (·.kind == k) = 0 ∨ es.countP (·.kind == l) = 0 := by
  induction h with
  | nil => exact .inl rfl
  | @cons _ v _ e _ hc h ih =>
    simp only [List.countP_cons]
    by_cases he : e.kind = k
    · obtain rfl := Option.some.inj (hc.tells.symm.trans (he ▸ hk))
      rw [h.not_mem_of_rank_le hl hr.ge, he, if_neg (mt eq_of_beq hn)]
      exact .inr rfl
    · by_cases he' : e.kind = l
      · obtain rfl := Option.some.inj (hc.tells.symm.trans (he' ▸ hl))
        rw [h.not_mem_of_rank_le hk hr.le, if_neg (by simpa using he)]
        exact .inl rfl
      · rw [if_neg (by simpa using he), if_neg (by simpa using he')]
        exact ih

/-- The last chapter of a story. -/
theorem last (h : Story first s es u) (hs : s ≠ u) :
    ∃ fs e a, es = fs ++ [e] ∧ Story first s fs a ∧ Chapter first a e u := by
  induction h with
  | nil => exact absurd rfl hs
  | @cons s v w e es hc h ih =>
    by_cases hv : v = w
    · subst hv
      cases h with
      | nil => exact ⟨[], e, s, rfl, .nil s, hc⟩
      | cons hc' h' => exact absurd h'.rank_le (Nat.not_le_of_gt hc'.edge.rank_lt)
    · obtain ⟨fs, f, a, rfl, hf, hl⟩ := ih hv
      exact ⟨e :: fs, f, a, rfl, .cons hc hf, hl⟩

/-- A story that comes to another state tells of it. -/
theorem count_pos (h : Story first s es u) (hs : s ≠ u) {k : EventKind} (hk : k.status? = some u) :
    0 < es.countP (·.kind == k) := by
  obtain ⟨fs, e, a, rfl, -, hc⟩ := h.last hs
  rw [List.countP_append, List.countP_singleton, EventKind.eq_of_status? hc.tells hk,
    if_pos (beq_self_eq_true k)]
  omega

/-- Where the open has failed, a story goes on with the close. -/
theorem eq_openFailed (h : Story first .openFailed es u) (hu : u.rank < Status.closing.rank) :
    u = .openFailed := by
  cases h with
  | nil => rfl
  | cons hc h =>
    have hr := h.rank_le
    cases hc.edge
    omega

/-- A story that tells of a failed open, and not of the close, ends there. -/
theorem eq_openFailed_of_pos (h : Story first s es u) (hu : u.rank < Status.closing.rank)
    (hp : 0 < es.countP (·.kind == .openFailed)) : u = .openFailed := by
  obtain ⟨e, he, hk⟩ := List.countP_pos_iff.1 hp
  obtain ⟨pre, post, rfl⟩ := List.append_of_mem he
  obtain ⟨a, b, -, hc, hpost⟩ := h.chapter
  have hb := hc.tells
  rw [eq_of_beq hk] at hb
  obtain rfl := Option.some.inj hb
  exact hpost.eq_openFailed hu

end Story

/-! ## Histories that tell a story -/

theorem announced_eq_count {k : EventKind} {t : Status} (hk : k.status? = some t) (h : List Mark) :
    announced k h = (stations h).countP (·.kind == k) := by
  unfold announced stations stationsOf
  rw [List.countP_filterMap]
  refine List.countP_congr fun f _ => ?_
  cases f with
  | publish e =>
    by_cases he : e.kind = k
    · simp [Effect.announces, Effect.station?, he, hk]
    · cases hs : e.kind.status? <;> simp [Effect.announces, Effect.station?, he, hs]
  | _ => rfl

namespace Story

variable {first : Option CloseReason} {u b : Status} {hist pre post : List Mark} {id : Nat} {e : Event}

/-- The chapter that an event belongs to. -/
theorem published (h : Story first .uninitialized (stations hist) u)
    (he : hist = pre ++ .did id (.publish e) :: post) (hb : e.kind.status? = some b) :
    ∃ a, Story first .uninitialized (stations pre) a ∧ Chapter first a e b
      ∧ Story first b (stations post) u := by
  have hs : stations (.did id (.publish e) :: post) = e :: stations post := by
    simp [stations, stationsOf, effects, Mark.effect?, Effect.station?, hb]
  rw [he, stations_append, hs] at h
  obtain ⟨a, b', hp, hc, hf⟩ := h.chapter
  obtain rfl := Option.some.inj (hc.tells.symm.trans hb)
  exact ⟨a, hp, hc, hf⟩

theorem announced_pos (h : Story first .uninitialized (stations hist) u) (hu : .uninitialized ≠ u)
    {k : EventKind} (hk : k.status? = some u) : 0 < announced k hist :=
  announced_eq_count hk hist ▸ h.count_pos hu hk

/-- A close is put down to the failed open if there was one, and to the first call for shutdown if
not. -/
theorem closing_reason (h : Story first .uninitialized (stations hist) u)
    (he : hist = pre ++ .did id (.publish e) :: post) (hk : e.kind = .pumpClosing) :
    if 0 < announced .openFailed hist then
      e.reason = some "open_failed" ∨ e.reason = some "on_open_failed"
    else ∃ r, first = some r ∧ e.reason = some r.label := by
  obtain ⟨a, hp, hc, hf⟩ := h.published he (by rw [hk]; rfl)
  have hm : announced .openFailed hist = announced .openFailed pre := by
    have hn : announced .openFailed (.did id (.publish e) :: post) = announced .openFailed post := by
      simp [announced, effects, Mark.effect?, Effect.announces, hk]
    have hz : announced .openFailed post = 0 :=
      (announced_eq_count rfl post).trans (hf.not_mem_of_rank_le rfl (by decide))
    rw [he, announced_append, hn, hz, Nat.add_zero]
  have hr := hc.reason rfl
  rw [hm]
  by_cases ha : a = .openFailed
  · subst ha
    rw [if_pos (hp.announced_pos (by decide) rfl)]
    exact hr
  · rw [if_neg ha] at hr
    have hn : ¬ 0 < announced .openFailed pre := by
      rw [announced_eq_count (k := .openFailed) rfl]
      exact fun hpos => ha (hp.eq_openFailed_of_pos hc.edge.rank_lt hpos)
    rw [if_neg hn]
    exact hr

end Story

/-! ## What a move publishes -/

namespace Pump

variable {p q : Pump} {es : List Effect} {nx : Next} {first : Option CloseReason}

@[simp] theorem stationsOf_faults (r : Release) (outcome : Except TransportError Unit) :
    stationsOf (p.faults r outcome) = [] := by
  rcases outcome with e | ⟨⟩ <;> rfl

@[simp] theorem stationsOf_failureFault (a : Attempt) (f : AttemptFailure) :
    stationsOf (p.failureFault a f) = [] := by
  obtain h | ⟨e, h⟩ := p.failureFault_eq a f <;> rw [h] <;> rfl

theorem story_closedEffects : Story first .closing (stationsOf p.closedEffects) .closed :=
  .single ⟨.ends, rfl, nofun⟩

/-- A pump that closes itself tells of both of its last states. -/
theorem story_closingEffects (r : String) {r' : String}
    (hr : r' = "open_failed" ∨ r' = "on_open_failed") :
    Story first .opening (stationsOf (p.closingEffects r r')) .closing :=
  .cons ⟨.fails, rfl, nofun⟩ (.single ⟨.givesUp, rfl, fun _ => hr.imp (congrArg some) (congrArg some)⟩)

structure Narrates (first : Option CloseReason) (p q : Pump) (es : List Effect) : Prop where
  story : Story first p.status (stationsOf es) q.status
  resting : q.status = .openFailed → p.status = .openFailed
  closing : q.status = .closing → p.status = .closing

theorem Narrates.same (hs : q.status = p.status) (he : stationsOf es = []) : Narrates first p q es where
  story := by
    rw [hs, he]
    exact .nil _
  resting h := hs.symm.trans h
  closing h := hs.symm.trans h

theorem AttemptMove.narrates {r : Pump} {cut : Bool} {shown : List Effect}
    (h : AttemptMove r cut shown q es nx) (hr : r.status = p.status) (hs : stationsOf shown = []) :
    Narrates first p q es := by
  refine .same (h.status.trans hr) ?_
  cases h with
  | attempt => rw [stationsOf_append, hs]; rfl
  | report => rw [stationsOf_append, hs]; rfl
  | _ => exact hs

/-- The opening call publishes a close only where it closes the pump, and then all of it. -/
theorem OpenMove.narrates {stage : OpenStage} {a : Answer} (h : OpenMove p stage a q es nx)
    (hl : p.Linked) (hr : ∀ r, stage ≠ .release r true) : Narrates first p q es := by
  have closes {q : Pump} {es : List Effect} (ho : p.status = .opening) (hq : q.status = .closed)
      (h : Story first .opening (stationsOf es) .closed) : Narrates first p q es := by
    refine ⟨?_, by simp [hq], by simp [hq]⟩
    rw [ho, hq]
    exact h
  cases h with
  | connect _ _ h => exact h.narrates rfl rfl
  | refusedCloses e outcome ho =>
    refine closes ho rfl ?_
    rw [stationsOf_append]
    exact (story_closingEffects _ (.inr rfl)).append story_closedEffects
  | clientFailed a f _ h => exact h.narrates rfl (stationsOf_failureFault ..)
  | install a client receiver _ ho =>
    refine ⟨?_, nofun, nofun⟩
    rw [ho]
    exact .single ⟨.runs, rfl, nofun⟩
  | abandoned a f outcome h => exact h.narrates rfl (stationsOf_failureFault ..)
  | pauseOver a wake h => exact h.narrates rfl rfl
  | failedCloses e outcome ho =>
    refine closes ho rfl ?_
    rw [stationsOf_append]
    exact (story_closingEffects _ (.inl rfl)).append story_closedEffects
  | failedReleases e outcome c ho hc =>
    rw [hl.eq_none (by simp [ho]) (by simp [ho])] at hc
    cases hc
  | releaseNext r r' closing outcome => exact .same rfl (by rw [stationsOf_append, stationsOf_faults]; rfl)
  | releaseCloses r => exact absurd rfl (hr r)
  | releaseEnds r outcome => exact .same rfl (stationsOf_faults ..)
  | _ => exact .same rfl rfl

theorem StartMove.narrates (h : StartMove p q es nx) : Narrates first p q es := by
  cases h with
  | ignored => exact .same rfl rfl
  | opens _ hu =>
    refine ⟨?_, nofun, nofun⟩
    rw [hu]
    exact .single ⟨.opens, rfl, nofun⟩

theorem ReceiveMove.narrates {batch : Option Batch} (h : ReceiveMove p batch q es nx) :
    Narrates first p q es := by
  cases h <;> exact .same rfl rfl

theorem DeliveryMove.narrates {stage : DeliveryStage} {a : Answer} (h : DeliveryMove p stage a es nx) :
    Narrates first p p es := by
  cases h <;> exact .same rfl rfl

theorem FailureMove.narrates {e : TransportError} (h : FailureMove p e q es) : Narrates first p q es := by
  cases h with
  | ignored => exact .same rfl rfl
  | taken hr =>
    refine ⟨?_, nofun, nofun⟩
    rw [hr]
    exact .single ⟨.breaks, rfl, nofun⟩

section Shutdown

variable {now ticket : Nat} {reason : CloseReason}

/-- What a move of the call publishes that runs the shutdown procedure: while the pump is closing, it
goes on to release the connection or to call the closing hook. -/
structure Recounts (first : Option CloseReason) (p q : Pump) (es : List Effect) (nx : Next) : Prop where
  story : Story first p.status (stationsOf es) q.status
  resting : q.status = .openFailed → p.status = .openFailed
  closing : q.status = .closing → ∃ t ∈ nx.turn?, t.stage.isReleasing = true

theorem PassMove.recounts {r : Pump} {shown : List Effect} (h : PassMove p ticket reason shown q es nx)
    (hs : p.status = .closing) (hm : Story first r.status (stationsOf shown) .closing) :
    Recounts first r q es nx := by
  cases h with
  | hook =>
    refine ⟨?_, by simp [hs], fun _ => ⟨_, rfl, rfl⟩⟩
    rw [stationsOf_append, hs]
    exact hm.append (.nil _)
  | close =>
    refine ⟨?_, nofun, nofun⟩
    rw [stationsOf_append]
    exact hm.append story_closedEffects

/-- The close is published for the reason of the first call for shutdown, if that is the one. -/
theorem story_unlinkedEffects (hf : first = some reason) (hs : p.status.isClosingOrClosed = false)
    (hn : p.status ≠ .openFailed) :
    Story first p.status (stationsOf (p.unlinkedEffects reason)) .closing := by
  have hc : p.closingStatusEffects = [.status .closing] := by simp [closingStatusEffects, hs]
  unfold unlinkedEffects
  rw [hc]
  refine .single ⟨.closing hs, rfl, fun _ => ?_⟩
  rw [if_neg hn]
  exact ⟨reason, hf, rfl⟩

theorem DisconnectMove.recounts (h : DisconnectMove p ticket reason q es nx) (hf : first = some reason)
    (hs : p.status.isClosingOrClosed = false) (hn : p.status ≠ .openFailed) :
    Recounts first p q es nx := by
  have hm := story_unlinkedEffects hf hs hn
  have hc : p.unlinked.status = .closing := status_unlinked (by rintro h; rw [h] at hs; cases hs)
  cases h with
  | release =>
    refine ⟨?_, by simp [hc], fun _ => ⟨_, rfl, rfl⟩⟩
    rw [stationsOf_append, hc]
    exact hm.append (.nil _)
  | pass _ hp => exact hp.recounts hc hm

theorem RunMove.recounts (h : RunMove p now ticket reason q es nx) (hf : first = some reason)
    (hc : p.status ≠ .closing) (hn : p.status ≠ .openFailed) : Recounts first p q es nx := by
  cases h with
  | closed hs => exact ⟨.nil _, fun h => h, fun h => absurd h hc⟩
  | settle => exact ⟨.nil _, fun h => h, fun h => absurd h hc⟩
  | disconnect hs _ hd =>
    have hr := hd.recounts hf (Status.isClosingOrClosed_eq_false hc hs) hn
    exact ⟨hr.story, hr.resting, hr.closing⟩

theorem ShutdownMove.recounts {stage : ShutdownStage} {a : Answer} (hq : stage ≠ .queued)
    (h : ShutdownMove p now ticket reason stage a q es nx) (hf : first = some reason)
    (hc : stage.isReleasing = false → p.status ≠ .closing)
    (hs : stage.isReleasing = true → p.status = .closing) (hn : p.status ≠ .openFailed) :
    Recounts first p q es nx := by
  cases h with
  | queuedDone => exact absurd rfl hq
  | queuedRun => exact absurd rfl hq
  | foundClosed => exact ⟨.nil _, fun h => h, fun h => absurd h (hc rfl)⟩
  | disconnect wake _ hd hm => exact hm.recounts hf (Status.isClosingOrClosed_eq_false (hc rfl) hd) hn
  | releaseNext r r' =>
    refine ⟨?_, fun h => h, fun _ => ⟨_, rfl, rfl⟩⟩
    rw [stationsOf_append, stationsOf_faults]
    exact .nil _
  | releaseEnds r outcome _ hp =>
    refine hp.recounts (hs rfl) ?_
    rw [stationsOf_faults, hs rfl]
    exact .nil _
  | close =>
    refine ⟨?_, nofun, nofun⟩
    rw [hs rfl]
    exact story_closedEffects

end Shutdown
end Pump

/-! ## Every run is told -/

namespace Session

structure Lived (s : Session) : Prop where
  story : Story (firstShutdown? s.history) .uninitialized (stations s.history) s.pump.status
  resting : s.pump.status ≠ .openFailed
  closing : s.pump.status = .closing → ∃ t ∈ s.runners, t.stage.isReleasing = true

namespace Lived

variable {s b : Session} {id : Nat} {errand : Errand} {q : Pump} {es : List Effect} {nx : Next}

theorem carry {ms : List Mark} (h : s.Lived) (hb : b.history = s.history ++ ms) (hms : effects ms = [])
    (hm : Story (firstShutdown? b.history) s.pump.status (stationsOf es) q.status)
    (hr : q.status ≠ .openFailed)
    (hc : q.status = .closing → ∃ t ∈ nx.turn?.toList ++ b.runners, t.stage.isReleasing = true) :
    (b.carry id errand q es nx).Lived := by
  have hf := b.firstShutdown?_carry id errand q es nx
  refine ⟨?_, ?_, ?_⟩
  · obtain ⟨ks, hk, he⟩ := exists_effects_carry id errand q es nx hb hms
    rw [hf, hk, stations_append, pump_carry, Next.status_leave, stations, stations, he]
    refine (h.story.mono fun r hr => ?_).append hm
    rw [hb, firstShutdown?_append, hr]
    rfl
  · rw [pump_carry, Next.status_leave]
    exact hr
  · rw [pump_carry, Next.status_leave, runners_carry]
    exact hc

/-- A call goes on that does not run the shutdown procedure. -/
theorem aside {ms : List Mark} (h : s.Lived) (hb : b.history = s.history ++ ms) (hms : effects ms = [])
    (hr : b.runners = s.runners) (hm : s.pump.Narrates (firstShutdown? b.history) q es) :
    (b.carry id errand q es nx).Lived := by
  refine h.carry hb hms hm.story (fun hq => h.resting (hm.resting hq)) fun hq => ?_
  obtain ⟨t, ht, hs⟩ := h.closing (hm.closing hq)
  exact ⟨t, List.mem_append_right _ (hr ▸ ht), hs⟩

/-- A call goes on that runs the shutdown procedure. -/
theorem turning {ms : List Mark} (h : s.Lived) (hb : b.history = s.history ++ ms) (hms : effects ms = [])
    (hm : s.pump.Recounts (firstShutdown? b.history) q es nx) : (b.carry id errand q es nx).Lived := by
  refine h.carry hb hms hm.story (fun hq => h.resting (hm.resting hq)) fun hq => ?_
  obtain ⟨t, ht, hs⟩ := hm.closing hq
  exact ⟨t, List.mem_append_left _ (Option.mem_toList.2 ht), hs⟩

/-- A call for shutdown asks for its turn. If it has it at once, it is the first. -/
theorem enter {now ticket : Nat} {reason : CloseReason} {ms : List Mark} (h : s.Lived) (hf : s.Reasoned)
    (hb : b.history = s.history ++ ms) (hms : effects ms = []) (hn : firstShutdown? ms = some reason)
    (hr : b.runners = s.runners)
    (ht : s.pump.once.done = false → (s.pump.once.enter ticket).isTurnOf ticket = true →
      s.pump.once.turns = [] ∧ s.runners = [])
    (hm : s.pump.EnterMove now ticket reason q es nx) : (b.carry id errand q es nx).Lived := by
  cases hm with
  | done => exact h.aside hb hms hr (.same rfl rfl)
  | queue => exact h.aside hb hms hr (.same rfl rfl)
  | run hd hq hrun =>
    obtain ⟨hl, hl'⟩ := ht hd hq
    have hfirst : firstShutdown? b.history = some reason := by
      rw [hb, firstShutdown?_append, hf.uncalled hd hl, hn]
      rfl
    have hc : s.pump.status ≠ .closing := by
      intro hc
      obtain ⟨t, hm, -⟩ := h.closing hc
      rw [hl'] at hm
      cases hm
    have hrec := hrun.recounts hfirst hc h.resting
    exact h.turning hb hms ⟨hrec.story, hrec.resting, hrec.closing⟩

theorem step {t : Session} {c : Cause} (hd : c.isDrop = false) (hi : s.InTurn) (hh : s.Halted)
    (hf : s.Reasoned) (h : s.Lived) (hs : s.Step c t) : t.Lived := by
  cases hs with
  | start hm => exact h.aside (b := s.begin _) rfl rfl rfl hm.narrates
  | shutdown reason hm =>
    exact h.enter (b := s.begin _) hf rfl rfl rfl rfl (hi.runners_of_enter hi.next_not_mem_turns) hm
  | deliver report batch hm => exact h.aside (b := s.begin _) rfl rfl rfl hm.narrates
  | fail e hm => exact h.aside (b := s.begin _) rfl rfl rfl hm.narrates
  | report n e he => exact h.aside (b := (s.forget n).begin _) rfl rfl rfl (.same rfl rfl)
  | discard n hn => exact ⟨h.story, h.resting, h.closing⟩
  | tellStart id w a stage ht hw hm =>
    obtain ⟨-, ho, -, hr⟩ := hi.told_start ht hw
    have hrel (r : Release) : stage ≠ .release r true := by
      rintro rfl
      exact hh.release r (by rw [ho]; exact List.mem_cons_self)
    exact h.aside rfl (effects_marks w id a) hr (hm.narrates hh.linked hrel)
  | tellShutdown id w a ticket reason stage ht hw hm =>
    obtain ⟨-, rfl, -, ⟨-, rfl, rfl, rfl, hr⟩ | ⟨hq, -, hr, -⟩⟩ := hi.told_shutdown ht hw hm
    · exact h.aside rfl (effects_marks w ticket a) hr (.same rfl rfl)
    · have hmem : (⟨ticket, reason, stage⟩ : Turn) ∈ s.runners := by
        rw [hr]
        exact List.mem_cons_self
      have hfirst : firstShutdown? (s.told ticket w a).history = some reason := by
        rw [history_told, firstShutdown?_append, hf.turns _ hmem]
        rfl
      refine h.turning rfl (effects_marks w ticket a)
        (hm.recounts hq hfirst (fun hn hc => ?_) (hh.releasing _ hmem) h.resting)
      -- only a call that releases keeps the pump closing
      obtain ⟨t, htm, hst⟩ := h.closing hc
      rw [hr, List.mem_singleton] at htm
      rw [htm, hn] at hst
      cases hst
  | tellDelivery id w a stage ht hw hm =>
    obtain ⟨-, -, hr⟩ := hi.told_delivery ht hw
    exact h.aside rfl (effects_marks w id a) hr hm.narrates
  | tellReport id w outcome ticket ht hw hm =>
    obtain ⟨rfl, hn, -, hr⟩ := hi.told_report ht hw
    have hs : firstShutdown? (w.marks ticket (.hook outcome)) = some .shutdown := by
      rw [firstShutdown?_marks, hw]
    exact h.enter hf rfl (effects_marks w ticket _) hs hr (hi.runners_of_enter hn) hm
  | drop => cases hd
  | bump => exact ⟨h.story, h.resting, h.closing⟩
  | pass ticks =>
    refine ⟨?_, h.resting, h.closing⟩
    have hm : stations [.passed ticks] = [] := rfl
    have hf : firstShutdown? [.passed ticks] = none := rfl
    rw [history_note, stations_append, firstShutdown?_append, hm, hf, List.append_nil, Option.or_none]
    exact h.story

end Lived
end Session

/-! ## The events of a run -/

section Main

variable {context : Context} {lease : Lease} {options : Options} {wire : String} {draw : Nat → Nat}

theorem Session.Lived.new : (Session.new (.new context lease options wire draw)).Lived :=
  ⟨.nil _, nofun, nofun⟩

/-- What was published in a run that drops no call is the story of its status. -/
theorem Session.lived_of_run {cs : List Cause} {s : Session}
    (h : (Session.new (.new context lease options wire draw)).run cs = some s)
    (hd : ∀ c ∈ cs, c.isDrop = false) : s.Lived :=
  (Session.run_undropped (P := fun s => s.Halted ∧ s.Reasoned ∧ s.Lived) (.new _ rfl rfl rfl)
    ⟨.fresh, .new, .new⟩ hd
    (fun _ _ _ hc hi ⟨hh, hf, hl⟩ hs =>
      ⟨hh.step hi.toLed hs, hf.step hc hi hs, hl.step hc hi hh hf hs⟩) h).2.2.2

/-- The events that tell of a pump's state are each published at most once, and in order: the pump runs
or its open fails after it was opened, it has an error after it ran, and it closes after all of these. That
it is closing is put down to the failed open if there was one, and to the reason of the first call for
shutdown if not. Whenever a pump is closed, both events of its close were published. -/
theorem life_cycle_events {cs : List Cause} {s : Session}
    (h : (Session.new (.new context lease options wire draw)).run cs = some s)
    (hd : ∀ c ∈ cs, c.isDrop = false) :
    (∀ k ∈ [.pumpOpening, .pumpRunning, .openFailed, .pumpErrored, .pumpClosing, .pumpClosed],
        announced k s.history ≤ 1)
      ∧ (announced .pumpRunning s.history = 0 ∨ announced .openFailed s.history = 0)
      ∧ (∀ pre id e post, s.history = pre ++ .did id (.publish e) :: post →
        (e.kind = .pumpRunning ∨ e.kind = .openFailed → 0 < announced .pumpOpening pre)
        ∧ (e.kind = .pumpErrored → 0 < announced .pumpRunning pre)
        ∧ (e.kind = .pumpClosing →
          (∀ k ∈ [.pumpOpening, .pumpRunning, .openFailed, .pumpErrored], announced k post = 0)
          ∧ if 0 < announced .openFailed s.history then
              e.reason = some "open_failed" ∨ e.reason = some "on_open_failed"
            else ∃ r, firstShutdown? s.history = some r ∧ e.reason = some r.label)
        ∧ (e.kind = .pumpClosed → 0 < announced .pumpClosing pre))
      ∧ (s.pump.status = .closed →
        announced .pumpClosing s.history = 1 ∧ announced .pumpClosed s.history = 1) := by
  have hs := (Session.lived_of_run h hd).story
  have once {k : EventKind} {st : Status} (hk : k.status? = some st) : announced k s.history ≤ 1 :=
    announced_eq_count hk s.history ▸ hs.count_le_one hk
  refine ⟨fun k hk => ?_, ?_, fun pre id e post he => ⟨fun hk => ?_, fun hk => ?_, fun hk => ⟨?_, ?_⟩,
    fun hk => ?_⟩, fun hc => ?_⟩
  · obtain ⟨st, hst⟩ : ∃ st, k.status? = some st := Option.isSome_iff_exists.1 (by revert k; decide)
    exact once hst
  · rw [announced_eq_count rfl, announced_eq_count rfl]
    exact hs.count_excludes rfl rfl rfl (by decide)
  · -- the pump was opening before
    obtain hk | hk := hk
    all_goals
      obtain ⟨a, hp, hc, -⟩ := hs.published he (by rw [hk]; rfl)
      cases hc.edge
      exact hp.announced_pos (by decide) rfl
  · obtain ⟨a, hp, hc, -⟩ := hs.published he (by rw [hk]; rfl)
    cases hc.edge
    exact hp.announced_pos (by decide) rfl
  · obtain ⟨a, -, -, hf⟩ := hs.published he (by rw [hk]; rfl)
    intro k hm
    obtain ⟨st, hst, hr⟩ : ∃ st, k.status? = some st ∧ st.rank ≤ Status.closing.rank := by
      simp only [List.mem_cons, List.not_mem_nil, or_false] at hm
      obtain rfl | rfl | rfl | rfl := hm <;> exact ⟨_, rfl, by decide⟩
    exact (announced_eq_count hst post).trans (hf.not_mem_of_rank_le hst hr)
  · exact hs.closing_reason he hk
  · obtain ⟨a, hp, hc, -⟩ := hs.published he (by rw [hk]; rfl)
    cases hc.edge
    exact hp.announced_pos (by decide) rfl
  · rw [hc] at hs
    have hlast : 0 < announced .pumpClosed s.history := hs.announced_pos (by decide) rfl
    have hclosing : 0 < announced .pumpClosing s.history := by
      obtain ⟨fs, e, a, hfs, hp, hch⟩ := hs.last (by decide)
      obtain rfl := hch.edge.eq_closing
      have hpos := hp.count_pos (by decide) (k := .pumpClosing) rfl
      rw [announced_eq_count rfl, hfs, List.countP_append]
      omega
    exact ⟨Nat.le_antisymm (once rfl) hclosing, Nat.le_antisymm (once rfl) hlast⟩

/-- The opening hook fails, and while the error hook is told another caller shuts the pump down: the pump
closes itself, for the failure and not for the shutdown. -/
theorem life_cycle_events_of_refused_open :
    ∃ s, Session.sample.run [.start, .answer 0 (.hook (.error default)), .shutdown .leaseLost,
        .answer 0 (.hook (.ok ())), .wake 1] = some s
      ∧ hasShutDown s.history = true ∧ announced .pumpRunning s.history = 0
      ∧ announced .pumpClosing s.history = 1 ∧ announced .pumpClosed s.history = 1
      ∧ ∃ pre id e post, s.history = pre ++ .did id (.publish e) :: post ∧ e.kind = .pumpClosing
        ∧ (e.reason = some "open_failed" ∨ e.reason = some "on_open_failed") := by
  have hr : (Session.sample.run [.start, .answer 0 (.hook (.error default)), .shutdown .leaseLost,
        .answer 0 (.hook (.ok ())), .wake 1]).map (fun s => (s.pump.status, hasShutDown s.history,
          announced .pumpRunning s.history, announced .openFailed s.history))
      = some (.closed, true, 0, 1) := by rfl
  obtain ⟨s, hs, he⟩ := Option.map_eq_some_iff.1 hr
  simp only [Prod.mk.injEq] at he
  obtain ⟨hst, hsd, hrun, hfail⟩ := he
  obtain ⟨-, -, hev, hcl⟩ := life_cycle_events hs (by decide)
  obtain ⟨hone, hlast⟩ := hcl hst
  obtain ⟨pre, id, e, post, hsplit, hk⟩ :=
    exists_of_announced_pos .pumpClosing (h := s.history) (by omega)
  have hreason := ((hev pre id e post hsplit).2.2.1 hk).2
  rw [if_pos (by omega)] at hreason
  exact ⟨s, hs, hsd, hrun, hone, hlast, pre, id, e, post, hsplit, hk, hreason⟩

end Main
end PartitionConsumer
