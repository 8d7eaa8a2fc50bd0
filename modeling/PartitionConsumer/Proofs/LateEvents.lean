import PartitionConsumer.Proofs.Statuses
import PartitionConsumer.Proofs.Session.Settings
import PartitionConsumer.Proofs.LateEvents.Moves
/-!
# Late events

A pump does not publish its close last: a call that was in progress when the pump was closed publishes
what it is told of. A connection attempt that fails is one such thing, a step of the release of a
connection that came too late another, and a batch that was in hand a third. Calls may be dropped at any
time. If none is, and the transport keeps to its contract, no batch is in hand when the pump is closed, and
an opening call outlives the pump only when a shutdown has waited for it as long as it may.
-/
namespace PartitionConsumer

namespace Session

variable {s t : Session} {c : Cause}

/-! ## What a step publishes late -/

/-- In a pump that is closed what is published is late. Where the pump is closed, the step ends. -/
structure Lingers (s : Session) (ms : List Mark) : Prop where
  closed : s.pump.status = .closed → published ms = lateEvents s.pump.partition ms
  last : ∀ pre id e post, ms = pre ++ .did id (.publish e) :: post → e.kind = .pumpClosed →
    ∃ j errand nx, post = Next.marks j errand nx

theorem Lingers.of_not_did {ms : List Mark} (hd : ∀ i e, .did i e ∉ ms)
    (hl : lateEvents s.pump.partition ms = []) : s.Lingers ms where
  closed _ := by
    rw [hl]
    refine List.filterMap_eq_nil_iff.2 fun e he => ?_
    obtain ⟨m, hm, hme⟩ := List.mem_filterMap.1 he
    cases m with
    | did i f => exact absurd hm (hd i f)
    | _ => cases hme
  last pre id e post he := by
    refine absurd ?_ (hd id (.publish e))
    rw [he]
    exact List.mem_append_right _ List.mem_cons_self

theorem Lingers.carry {ms : List Mark} {id : Nat} {errand : Errand} {es : List Effect} {nx : Next}
    (hd : ∀ i e, .did i e ∉ ms) (hp : published ms = []) (hs : s.pump.Seals es)
    (hc : s.pump.status = .closed → es.filterMap Effect.event? = lateEvents s.pump.partition ms) :
    s.Lingers (ms ++ (es.map (.did id) ++ nx.marks id errand)) where
  closed hcl := by simpa [hp] using hc hcl
  last pre i e post he hk := by
    -- the event is among the effects, and it is the last of them
    obtain ⟨mid, hm, rfl⟩ := (split_append he).resolve_right fun ⟨mid, hm, _⟩ =>
      hd i (.publish e) (by rw [hm]; exact List.mem_append_right _ List.mem_cons_self)
    obtain ⟨mid', hn, rfl⟩ | ⟨post', hf, rfl⟩ := split_append hm
    · have hne : .did i (.publish e) ∈ nx.marks id errand := by
        rw [hn]
        exact List.mem_append_right _ List.mem_cons_self
      obtain ⟨-, h⟩ | ⟨-, h⟩ := Next.mem_marks hne <;> cases h
    · obtain ⟨fs, gs, hes, rfl, hg⟩ := List.map_eq_append_iff.1 hf
      obtain ⟨f, gs, rfl, hfe, rfl⟩ := List.map_eq_cons_iff.1 hg
      obtain rfl := (Mark.did.inj hfe).2
      rw [hs.eq_nil hes hk]
      exact ⟨id, errand, nx, rfl⟩

theorem Step.lingers (hi : s.Led) (h : s.Halted) (hs : s.Step c t) :
    ∃ ms, t.history = s.history ++ ms ∧ s.Lingers ms := by
  have launch {b : Session} {e errand : Errand} {q : Pump} {es : List Effect} {nx : Next}
      (hb : b.history = s.history ++ [.began s.next e]) (hm : s.pump.Seals es)
      (hc : s.pump.status = .closed → es.filterMap Effect.event? = []) :
      ∃ ms, (b.carry s.next errand q es nx).history = s.history ++ ms ∧ s.Lingers ms := by
    refine ⟨_, b.history_carry_of _ _ _ _ _ hb, ?_⟩
    exact .carry (by simp) rfl hm hc
  have tell {id : Nat} {w : Waiting} {a : Answer} {errand : Errand} {q : Pump} {es : List Effect}
      {nx : Next} (hm : s.pump.Seals es) (hc : s.pump.status = .closed →
        es.filterMap Effect.event? = ((w.call.late? a).map s.pump.signed).toList) :
      ∃ ms, ((s.told id w a).carry id errand q es nx).history = s.history ++ ms ∧ s.Lingers ms :=
    ⟨_, (s.told id w a).history_carry_of _ _ _ _ _ rfl,
      .carry (not_did_mem_marks w id a) (published_marks w id a) hm fun hcl =>
        (hc hcl).trans (lateEvents_marks _ w id a).symm⟩
  have none {es : List Effect} (he : es = []) : es.filterMap Effect.event? = [] := by rw [he]; rfl
  cases hs with
  | start hm =>
    exact launch rfl hm.seals fun hc => none (hm.refused (.inr (by rw [hc]; nofun))).2.1
  | shutdown reason hm => exact launch rfl hm.seals fun hc => none (hm.still hc).1
  | deliver report batch hm => exact launch rfl hm.seals fun hc => none (hm.still hc).1
  | fail e hm => exact launch rfl hm.seals fun hc => none (hm.of_closed hc)
  | report n e he => exact launch rfl (.inl rfl) fun _ => rfl
  | discard n hn => exact ⟨[], (List.append_nil _).symm, .of_not_did (by simp) rfl⟩
  | tellStart id w a stage ht hw hm =>
    obtain ⟨-, ho, -, -⟩ := hi.told_start ht hw
    refine tell hm.seals fun hc => ?_
    rw [hw]
    refine hm.late hc (h.closed hc (by simp [ho])) fun r hr => ?_
    exact h.release r (by rw [ho, hr]; exact List.mem_cons_self)
  | tellShutdown id w a ticket reason stage ht hw hm =>
    refine tell hm.seals fun hc => ?_
    rw [hw]
    refine none (hm.still hc (Bool.eq_false_iff.2 fun hs => ?_)).1
    rw [h.releasing_call ht.call? hw hs] at hc
    cases hc
  | tellDelivery id w a stage ht hw hm =>
    refine tell hm.seals fun _ => ?_
    rw [hw]
    exact hm.late
  | tellReport id w outcome ticket ht hw hm =>
    refine tell hm.seals fun hc => ?_
    rw [hw]
    exact none (hm.still hc).1
  | drop id w hw => exact ⟨_, rfl, .of_not_did (by simp) rfl⟩
  | bump => exact ⟨[], (List.append_nil _).symm, .of_not_did (by simp) rfl⟩
  | pass ticks => exact ⟨_, rfl, .of_not_did (by simp) rfl⟩

/-- All that is published after the close is late. -/
def Late (s : Session) : Prop :=
  ∀ pre id e post, s.history = pre ++ .did id (.publish e) :: post → e.kind = .pumpClosed →
    published post = lateEvents s.pump.partition post

theorem Late.step (hi : s.Led) (hh : s.Halted) (h : s.Late) (hs : s.Step c t) : t.Late := by
  obtain ⟨ms, hms, hl⟩ := hs.lingers hi hh
  intro pre id e post he hk
  rw [hms] at he
  rw [hs.partition]
  obtain ⟨mid, hm, -⟩ | ⟨mid, hm, rfl⟩ := split_append he
  · obtain ⟨j, errand, nx, rfl⟩ := hl.last mid id e post hm hk
    rw [published_end, lateEvents_end]
  · -- the pump was closed before this step
    rw [published_append, lateEvents_append, h pre id e mid hm hk,
      hl.closed (hh.published (announced_pos_of_split _ hm hk))]

end Session

/-! ## How an opening call outlives its pump -/

namespace Pump

variable {p q : Pump} {es : List Effect} {nx : Next}

/-- The call that opens the pump closes it only with its last move. -/
theorem OpenMove.status {stage : OpenStage} {a : Answer} (h : OpenMove p stage a q es nx) (hl : p.Linked)
    (hr : ∀ r, stage ≠ .release r true) : q.status = p.status ∨ q.phase = .settled := by
  cases h with
  | connect _ _ h => exact .inl h.status
  | refusedCloses => exact .inr rfl
  | clientFailed _ _ _ h => exact .inl h.status
  | install => exact .inr rfl
  | abandoned _ _ _ h => exact .inl h.status
  | pauseOver _ _ h => exact .inl h.status
  | failedCloses => exact .inr rfl
  | failedReleases _ _ c ho hc =>
    rw [hl.eq_none (by simp [ho]) (by simp [ho])] at hc
    cases hc
  | releaseCloses r => exact absurd rfl (hr r)
  | _ => exact .inl rfl

section Shutdown

variable {now ticket : Nat} {reason : CloseReason}

/-- A pump that is being opened is not taken down by a call that begins to shut it down. -/
theorem RunMove.status (h : RunMove p now ticket reason q es nx) (hq : q.phase = .opening) :
    q.status = p.status := by
  cases h with
  | disconnect _ hp hd => exact absurd (hd.aside.phase.symm.trans hq) hp
  | _ => rfl

theorem EnterMove.status (h : EnterMove p now ticket reason q es nx) (hq : q.phase = .opening) :
    q.status = p.status := by
  cases h with
  | run _ _ hr => exact hr.status hq
  | _ => rfl

/-- Nor by one that goes on, unless the open has settled, or had its time. -/
theorem ShutdownMove.status {stage : ShutdownStage} {a : Answer}
    (h : ShutdownMove p now ticket reason stage a q es nx) (hq : q.phase = .opening) :
    q.status = p.status ∨ stage.isReleasing = true
      ∨ ∃ wake, stage = .settling wake ∧ (a = .settled ∨ a = .elapsed) := by
  cases h with
  | queuedRun _ hr => exact .inl (hr.status hq)
  | disconnect wake ha => exact .inr (.inr ⟨wake, rfl, ha⟩)
  | releaseEnds => exact .inr (.inl rfl)
  | close => exact .inr (.inl rfl)
  | _ => exact .inl rfl

end Shutdown
end Pump

namespace Session

variable {s t : Session} {c : Cause}

/-- A call for shutdown is told that the open has settled only when it has. -/
theorem Tells.settled {id ticket wake : Nat} {w : Waiting} {reason : CloseReason}
    (h : s.Tells id w .settled c) (hw : w.call = .shutdown ticket reason (.settling wake)) :
    s.pump.phase ≠ .opening := by
  cases h with
  | answer _ ha => simp [Waiting.admits] at ha
  | wake _ _ ha =>
    intro hp
    simp [hw, hp, Call.ownAnswer?] at ha

/-- A pump that is being opened is taken down only when a shutdown has waited as long as it may. -/
def Patient (s : Session) : Prop :=
  s.pump.status.isClosingOrClosed = true → s.pump.phase = .opening → graceRanOut s.history = true

theorem Patient.carry {b : Session} {ms : List Mark} {id : Nat} {errand : Errand} {q : Pump}
    {es : List Effect} {nx : Next} (hb : b.history = s.history ++ ms)
    (h : q.status.isClosingOrClosed = true → q.phase = .opening →
      graceRanOut s.history = true ∨ graceRanOut ms = true) : (b.carry id errand q es nx).Patient := by
  intro hs hp
  rw [pump_carry, Next.status_leave] at hs
  have hq : q.phase = .opening := by
    cases nx with
    | crash => cases hp
    | _ => exact hp
  rw [b.history_carry_of _ _ _ _ _ hb, graceRanOut_append, graceRanOut_append, Bool.or_eq_true,
    Bool.or_eq_true]
  exact (h hs hq).imp_right .inl

theorem Patient.step (hi : s.Led) (hh : s.Halted) (h : s.Patient) (hs : s.Step c t) : t.Patient := by
  have keep {q : Pump} (hq : q.status = s.pump.status) (hp : q.phase = s.pump.phase)
      (hc : q.status.isClosingOrClosed = true) (ho : q.phase = .opening) : graceRanOut s.history = true :=
    h (hq ▸ hc) (hp ▸ ho)
  cases hs with
  | start hm =>
    refine carry (b := s.begin _) rfl fun hc hp => .inl ?_
    cases hm with
    | ignored => exact h hc hp
    | opens => cases hc
  | shutdown reason hm =>
    refine carry (b := s.begin _) rfl fun hc hp => .inl ?_
    exact keep (hm.status hp) hm.aside.phase hc hp
  | deliver report batch hm =>
    refine carry (b := s.begin _) rfl fun hc hp => .inl ?_
    cases hm <;> exact h hc hp
  | fail e hm =>
    refine carry (b := s.begin _) rfl fun hc hp => .inl ?_
    cases hm with
    | ignored => exact h hc hp
    | taken => cases hc
  | report n e he => exact carry (b := (s.forget n).begin _) rfl fun hc hp => .inl (h hc hp)
  | discard n hn => exact h
  | tellStart id w a stage ht hw hm =>
    refine carry (b := s.told id w a) rfl fun hc hp => .inl ?_
    obtain ⟨-, ho, -, -⟩ := hi.told_start ht hw
    have hr (r : Release) : stage ≠ .release r true := by
      rintro rfl
      exact hh.release r (by rw [ho]; exact List.mem_cons_self)
    obtain hs | hs := hm.status hh.linked hr
    · exact h (hs ▸ hc) (hi.openers_of_start ht.call? hw).2.2
    · rw [hs] at hp
      cases hp
  | tellShutdown id w a ticket reason stage ht hw hm =>
    refine carry (b := s.told id w a) rfl fun hc hp => ?_
    have ho := hm.aside.phase.symm.trans hp
    obtain hs | hs | ⟨wake, rfl, rfl | rfl⟩ := hm.status hp
    · exact .inl (h (hs ▸ hc) ho)
    · exact .inl (h (by rw [hh.releasing_call ht.call? hw hs]; rfl) ho)
    · exact absurd ho (ht.settled hw)
    · obtain ⟨errand, call, request⟩ := w
      subst hw
      exact .inr rfl
  | tellDelivery id w a stage ht hw hm =>
    exact carry (b := s.told id w a) rfl fun hc hp => .inl (h hc hp)
  | tellReport id w outcome ticket ht hw hm =>
    refine carry (b := s.told id w _) rfl fun hc hp => .inl ?_
    exact keep (hm.status hp) hm.aside.phase hc hp
  | drop id w hw =>
    intro hc hp
    rw [history_note, graceRanOut_append, Bool.or_eq_true]
    refine .inl ?_
    cases hcall : w.call with
    | start => simp [hcall, Pump.abandon, Pump.settle] at hp
    | _ => simp only [hcall, pump_note, Pump.abandon] at hc hp; exact h hc hp
  | bump => exact h
  | pass ticks =>
    intro hc hp
    rw [history_note, graceRanOut_append, h hc hp]
    rfl

/-! ## Fair runs -/

/-- After the close no delivery is told anything, and no opening call is left unless a shutdown has waited
for it as long as it may. -/
structure Silent (s : Session) : Prop where
  apart : ∀ pre id e post, s.history = pre ++ .did id (.publish e) :: post → e.kind = .pumpClosed →
    ∀ j w a, .told j w a ∈ post → ∀ stage, w.call ≠ .deliver stage
  settled : ∀ pre id e post, s.history = pre ++ .did id (.publish e) :: post → e.kind = .pumpClosed →
    graceRanOut pre = false → s.openers = [] ∧ ∀ j w a, .told j w a ∈ post → w.opening? = none

theorem not_told_mem_end {nx : Next} {id : Nat} {errand : Errand} {j : Nat} {w : Waiting} {a : Answer} :
    .told j w a ∉ nx.marks id errand := by
  intro hm
  obtain ⟨-, hm⟩ | ⟨-, hm⟩ := Next.mem_marks hm <;> cases hm

theorem Silent.step (hi : s.Led) (hl : s.Settled) (hh : s.Halted) (hd : s.Tended) (h : s.Silent)
    (hit : t.Led) (hht : t.Halted) (hpt : t.Patient) (hs : s.Step c t) : t.Silent := by
  obtain ⟨ms, hms, hlast⟩ := hs.lingers hi hh
  obtain ⟨ms', hms', had⟩ := hs.adds hi hh
  obtain rfl := List.append_cancel_left (hms.symm.trans hms')
  have closed {pre mid : List Mark} {id : Nat} {e : Event}
      (hm : s.history = pre ++ .did id (.publish e) :: mid) (hk : e.kind = .pumpClosed) :
      s.pump.status = .closed := hh.published (announced_pos_of_split _ hm hk)
  refine ⟨fun pre id e post he hk j w a hw => ?_, fun pre id e post he hk hq => ?_⟩
  · rw [hms] at he
    obtain ⟨mid, hm, -⟩ | ⟨mid, hm, rfl⟩ := split_append he
    · obtain ⟨j, errand, nx, rfl⟩ := hlast.last mid id e post hm hk
      exact absurd hw not_told_mem_end
    · obtain hw | hw := List.mem_append.1 hw
      · exact h.apart pre id e mid hm hk j w a hw
      · intro stage hc
        exact hd.not_delivers hl (closed hm hk) j ⟨w, stage, mem_of_call? (had.heard j w a hw), hc⟩
  · have hc := hht.published (announced_pos_of_split _ he hk)
    have hst := he
    rw [hms] at he
    obtain ⟨mid, hm, -⟩ | ⟨mid, hm, rfl⟩ := split_append he
    · obtain ⟨j, errand, nx, rfl⟩ := hlast.last mid id e post hm hk
      refine ⟨?_, fun _ _ _ hw => absurd hw not_told_mem_end⟩
      -- the open has settled, or somebody would have waited for it
      have hp : t.pump.phase ≠ .opening := by
        intro hp
        have hx := hpt (by rw [hc]; rfl) hp
        rw [hst, graceRanOut_append, hq] at hx
        have hy : graceRanOut (nx.marks j errand) = true := hx
        rw [graceRanOut_end] at hy
        cases hy
      have ho := hit.opener
      rw [if_neg hp] at ho
      exact List.length_eq_zero_iff.1 ho
    · obtain ⟨ho, hn⟩ := h.settled pre id e mid hm hk hq
      refine ⟨hs.openers_nil hi (.inr (by rw [closed hm hk]; nofun)) ho, fun j w a hw => ?_⟩
      obtain hw | hw := List.mem_append.1 hw
      · exact hn j w a hw
      · refine Option.eq_none_iff_forall_ne_some.2 fun st hst => ?_
        have hmem : st ∈ s.openers :=
          List.mem_filterMap.2 ⟨_, mem_of_call? (had.heard j w a hw), hst⟩
        rw [ho] at hmem
        cases hmem

end Session

/-! ## The events after the close -/

section Main

variable {context : Context} {lease : Lease} {options : Options} {wire : String} {draw : Nat → Nat}

theorem Session.not_split_new {p : Pump} {pre post : List Mark} {m : Mark} :
    (Session.new p).history ≠ pre ++ m :: post :=
  fun h => List.append_ne_nil_of_right_ne_nil pre (List.cons_ne_nil _ _) h.symm

/-- Once the pump has published that it is closed, it publishes what the calls in progress are told of,
and nothing else. In a fair run this is the opening call, and nothing is published at all unless a shutdown
has waited for that call as long as it may. -/
theorem events_after_close {cs : List Cause} {s : Session}
    (h : (Session.new (.new context lease options wire draw)).run cs = some s)
    {pre post : List Mark} {id : Nat} {e : Event}
    (hs : s.history = pre ++ .did id (.publish e) :: post) (he : e.kind = .pumpClosed) :
    published post = lateEvents context.partition post
      ∧ ((Session.new (.new context lease options wire draw)).RunsFairly cs →
        (∀ f ∈ published post, f.kind = .openAttemptFailed ∨ f.kind = .teardownFault)
          ∧ (graceRanOut pre = false → published post = [])) := by
  have hlate : (s.Led ∧ s.Halted) ∧ s.pump.partition = context.partition ∧ s.Late := by
    refine Session.run_induction
      (P := fun s => (s.Led ∧ s.Halted) ∧ s.pump.partition = context.partition ∧ s.Late)
      ⟨⟨.new _ rfl rfl rfl, .fresh⟩, rfl, fun _ _ _ _ hn => absurd hn Session.not_split_new⟩ ?_ h
    rintro s c t - ⟨⟨hi, hh⟩, hp, hl⟩ ht
    have hs := Session.step_of_step? hi.tidy.trace ht
    exact ⟨⟨hi.step hs, hh.step hi hs⟩, hs.partition.trans hp, hl.step hi hh hs⟩
  have hpub : published post = lateEvents context.partition post :=
    hlate.2.1 ▸ hlate.2.2 pre id e post hs he
  refine ⟨hpub, fun hf => ?_⟩
  have hsilent : s.Ceases ∧ s.Patient ∧ s.Silent := by
    refine hf.induction (P := fun s => s.Ceases ∧ s.Patient ∧ s.Silent)
      ⟨.new, nofun, fun _ _ _ _ hn => absurd hn Session.not_split_new,
        fun _ _ _ _ hn => absurd hn Session.not_split_new⟩ ?_ h
    rintro s c t hfair ⟨hc, hp, hq⟩ ht
    have hi := hc.inTurn.toLed
    have hs := Session.step_of_step? hi.tidy.trace ht
    have hct := hc.step hfair hs
    have hpt := hp.step hi hc.halted hs
    exact ⟨hct, hpt, hq.step hi hc.settled hc.halted hc.tended hct.inTurn.toLed hct.halted hpt hs⟩
  have hapart := hsilent.2.2.apart pre id e post hs he
  refine ⟨fun f hfm => ?_, fun hq => ?_⟩
  · rw [hpub] at hfm
    obtain ⟨j, w, a, g, hm, hg, rfl⟩ := mem_lateEvents _ hfm
    have hk := Call.kind_of_late? hg (hapart j w a hm)
    exact hk
  · rw [hpub]
    exact lateEvents_eq_nil _ (hsilent.2.2.settled pre id e post hs he hq).2 hapart

/-- A bench whose pump does not wait for an open to settle when it is shut down. -/
def Bench.hasty : Bench :=
  new (.new ⟨"h", "g", "0", some (.timestamp ⟨0⟩), none⟩ ⟨"0", "h", 1⟩ { cancelGrace := .zero } "mock"
    fun _ => 0)

/-- The receiver is refused, and before the opening call has looked at that another caller shuts the pump
down. -/
def Bench.refusedLate : List Stimulus :=
  [.own .start, .own (.answer 0 (.hook (.ok ()))), .create 0 none, .own (.wake 0),
    .create 0 (some ⟨.connection, "refused"⟩), .own (.shutdown .leaseLost), .own (.wake 1),
    .own (.answer 1 (.hook (.ok ()))), .own (.wake 0), .close 0 none]

/-- The failure of the attempt is published after the close. -/
theorem events_after_close_of_refused_receiver :
    ∃ b cs pre id e post, Bench.hasty.run Bench.refusedLate = some b
      ∧ Bench.hasty.session.run cs = some b.session ∧ Bench.hasty.session.RunsFairly cs
      ∧ b.session.history = pre ++ .did id (.publish e) :: post ∧ e.kind = .pumpClosed
      ∧ graceRanOut pre = true
      ∧ published post = [{
          kind := .openAttemptFailed, partition := "0", attempt := some 1, epoch := some 1
          reason := "connection: refused" }]
      ∧ ∀ f ∈ published post, f.kind = .openAttemptFailed ∨ f.kind = .teardownFault := by
  have hr : (Bench.hasty.run Bench.refusedLate).map (fun b =>
      (graceRanOut (b.session.history.take 17),
        announced .pumpClosed ((b.session.history.drop 17).take 1),
        lateEvents "0" (b.session.history.drop 18)))
      = some (true, 1, [{
          kind := .openAttemptFailed, partition := "0", attempt := some 1, epoch := some 1
          reason := "connection: refused" }]) := by rfl
  obtain ⟨b, hb, he⟩ := Option.map_eq_some_iff.1 hr
  simp only [Prod.mk.injEq] at he
  obtain ⟨hh, hp, hl⟩ := he
  obtain ⟨id, e, hs, hk⟩ :=
    exists_of_announced (k := .pumpClosed) (h := b.session.history) (n := 17) (by omega)
  obtain ⟨cs, hc, hf⟩ := Bench.runsFairly hb
  obtain ⟨hpub, hfair⟩ := events_after_close hc hs hk
  exact ⟨b, cs, _, id, e, _, hb, hc, hf, hs, hk, hh, hpub.trans hl, (hfair hf).1⟩

end Main
end PartitionConsumer
